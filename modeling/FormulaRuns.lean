import FormulaRuns.Ascending
import FormulaRuns.Formula.Numbering
import FormulaRuns.Formula.Parser
import FormulaRuns.Formula.Table
import FormulaRuns.Formula.Recorder
import FormulaRuns.Grid.Reference
import FormulaRuns.Pattern.Slots
import FormulaRuns.Text.Lowercase
import FormulaRuns.Value.Basic
import FormulaRuns.Evaluation.Basic
import FormulaRuns.Scan.Cluster
import FormulaRuns.Scan.Config
import FormulaRuns.Scan.Report
import FormulaRuns.Workbook.Basic
import FormulaRuns.Workbook.Comparison
import FormulaRuns.Proofs.Outcome
import FormulaRuns.Proofs.Ascending
import FormulaRuns.Proofs.Grid.Column
import FormulaRuns.Proofs.Grid.A1
import FormulaRuns.Proofs.Grid.Shift
import FormulaRuns.Proofs.Grid.Displacement
import FormulaRuns.Proofs.Decimal.Unsigned
import FormulaRuns.Proofs.Formula.Grammar
import FormulaRuns.Proofs.Formula.Tiling
import FormulaRuns.Proofs.Formula.Levels
import FormulaRuns.Proofs.Formula.Depth
import FormulaRuns.Proofs.Formula.Nesting
import FormulaRuns.Proofs.Formula.Shape
import FormulaRuns.Proofs.Formula.Steps
import FormulaRuns.Proofs.Formula.Spelling
import FormulaRuns.Proofs.Formula.Precedence
import FormulaRuns.Proofs.Formula.Completeness
import FormulaRuns.Proofs.Formula.Lookahead
import FormulaRuns.Proofs.Formula.Relexing
import FormulaRuns.Proofs.Formula.Words
import FormulaRuns.Proofs.Formula.Lexing
import FormulaRuns.Proofs.Formula.Literals
import FormulaRuns.Proofs.Pattern.Leaves
import FormulaRuns.Proofs.Formula.Recording
import FormulaRuns.Proofs.Formula.Numbering
import FormulaRuns.Proofs.Formula.Postorder
import FormulaRuns.Proofs.Pattern.Alike
import FormulaRuns.Proofs.Pattern.Compatible
import FormulaRuns.Proofs.Pattern.Drag
import FormulaRuns.Proofs.Pattern.Equivalence
import FormulaRuns.Proofs.Pattern.FirstMismatch
import FormulaRuns.Proofs.Pattern.Skeleton
import FormulaRuns.Proofs.Pattern.Slots
import FormulaRuns.Proofs.Pattern.Binder
import FormulaRuns.Proofs.Expr.Substitution
import FormulaRuns.Proofs.Expr.Translation
import FormulaRuns.Proofs.Expr.Instance
import FormulaRuns.Proofs.Expr.Cells
import FormulaRuns.Proofs.Expr.Marking
import FormulaRuns.Proofs.Expr.Canonical
import FormulaRuns.Proofs.Expr.Printing
import FormulaRuns.Proofs.Expr.Grammar
import FormulaRuns.Proofs.Expr.Plain
import FormulaRuns.Proofs.Expr.RoundTrip
import FormulaRuns.Proofs.Expr.PrintedLeaves
import FormulaRuns.Proofs.Expr.LongSums
import FormulaRuns.Proofs.Expr.Display
import FormulaRuns.Proofs.Expr.Operands
import FormulaRuns.Proofs.Formula.Heights
import FormulaRuns.Proofs.Evaluation.Depth
import FormulaRuns.Proofs.Evaluation.Application
import FormulaRuns.Proofs.Scan.Run
import FormulaRuns.Proofs.Scan.Rule
import FormulaRuns.Proofs.Scan.ConstantRule
import FormulaRuns.Proofs.Scan.Line
import FormulaRuns.Proofs.Scan.Rectangle
import FormulaRuns.Proofs.Workbook.Extent
import FormulaRuns.Proofs.Scan.Coverage
import FormulaRuns.Proofs.Scan.Classification
import FormulaRuns.Proofs.Scan.Splitting
import FormulaRuns.Proofs.Scan.MaximalRuns
import FormulaRuns.Proofs.Scan.Lookup
import FormulaRuns.Proofs.Formula.Spacing
import FormulaRuns.Proofs.Formula.Brackets
import FormulaRuns.Proofs.Formula.TextBrackets
import FormulaRuns.Proofs.Decimal.Order
import FormulaRuns.Proofs.Evaluation.Comparison
import FormulaRuns.Proofs.Evaluation.Aggregates
