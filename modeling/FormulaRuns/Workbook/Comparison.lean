import FormulaRuns.Pattern.Fault
import FormulaRuns.Workbook.Source

namespace FormulaRuns

def Source.check (source : Source) (origin candidate : Address) : Except Fault Compatibility :=
  match source.formula origin, source.formula candidate with
  | some text, some text' => checkFormulas text origin text' candidate
  | _, _ => .ok (.incompatible .noFormula)

end FormulaRuns
