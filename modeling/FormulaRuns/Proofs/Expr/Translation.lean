import FormulaRuns.Proofs.Expr.Substitution
import FormulaRuns.Proofs.Formula.Spelling
import FormulaRuns.Proofs.Pattern.Alike

namespace FormulaRuns

open List (Forall₂)

/-- The change passes through nodes and leaves constants alone. -/
structure Homomorphic (change : Expr → Expr) : Prop where
  number : ∀ x, change (.number x) = .number x
  text : ∀ s, change (.text s) = .text s
  bool : ∀ b, change (.bool b) = .bool b
  error : ∀ kind, change (.error kind) = .error kind
  name : ∀ s, change (.name s) = .name s
  cell : ∀ ref, change (.cell ref) = .cell ref
  range : ∀ first last, change (.range first last) = .range (change first) (change last)
  unary : ∀ op operand, change (.unary op operand) = .unary op (change operand)
  binary : ∀ op left right,
    change (.binary op left right) = .binary op (change left) (change right)
  call : ∀ callee args, change (.call callee args) = .call callee (args.map change)
  array : ∀ rows, change (.array rows) = .array (rows.map (·.map change))

theorem id_homomorphic : Homomorphic id := by
  constructor <;> simp

theorem substitute_homomorphic (parameters : Parameters) :
    Homomorphic (Expr.substitute parameters) := by
  constructor <;> intros <;> simp only [Expr.substitute, Expr.substituteList_eq_map,
    Expr.substituteRows_eq_map]

/-- There are both expressions, and the second is what the change makes of the first. -/
def Becomes (change : Expr → Expr) (first second : Except Fault Expr) : Prop :=
  ∃ e, first = .ok e ∧ second = .ok (change e)

structure Part.Becomes (change : Expr → Expr) (part part' : Part) : Prop where
  kind : part.1.kind? = part'.1.kind?
  text : part.1.kind? ≠ some .cellRef → part.1.text = part'.1.text
  expr : FormulaRuns.Becomes change part.2 part'.2

section

variable {change : Expr → Expr} {parts parts' : List Part} {rule : Rule} {index : Nat}

theorem partAt_becomes (rule : Rule) {child : Tree}
    (related : Forall₂ (Part.Becomes change) parts parts')
    (found : (parts.map (·.1))[index]? = some child) :
    ∃ part part', partAt rule parts index = .ok part ∧ partAt rule parts' index = .ok part' ∧
      part.1 = child ∧ part.Becomes change part' := by
  rw [List.getElem?_map, Option.map_eq_some_iff] at found
  obtain ⟨part, present, rfl⟩ := found
  have in_range : index < parts.length := (List.getElem?_eq_some_iff.1 present).1
  have in_range' : index < parts'.length := related.length_eq ▸ in_range
  refine ⟨part, parts'[index], by simp [partAt, present], ?_, rfl, ?_⟩
  · simp [partAt, List.getElem?_eq_getElem in_range']
  · rw [← (List.getElem?_eq_some_iff.1 present).2]
    exact related.get in_range in_range'

theorem exprAt_becomes {child : Tree} (related : Forall₂ (Part.Becomes change) parts parts')
    (found : (parts.map (·.1))[index]? = some child) :
    Becomes change (exprAt rule parts index) (exprAt rule parts' index) := by
  obtain ⟨part, part', taken, taken', -, becomes⟩ := partAt_becomes rule related found
  simpa [exprAt, taken, taken'] using becomes.expr

theorem opAt_becomes {α : Type} {ofSymbol? : String → Option α} {lexeme : Lexeme}
    (related : Forall₂ (Part.Becomes change) parts parts')
    (found : (parts.map (·.1))[index]? = some (.leaf lexeme)) (kind : lexeme.kind ≠ .cellRef)
    (known : (ofSymbol? lexeme.text).isSome) :
    ∃ op, opAt ofSymbol? rule parts index = .ok op ∧ opAt ofSymbol? rule parts' index = .ok op := by
  obtain ⟨part, part', taken, taken', leaf_part, becomes⟩ := partAt_becomes rule related found
  obtain ⟨op, meant⟩ := Option.isSome_iff_exists.1 known
  have symbol : ofSymbol? part.1.text = some op := by rw [leaf_part]; exact meant
  have symbol' : ofSymbol? part'.1.text = some op := by
    rw [← becomes.text (by simpa [leaf_part, Tree.kind?, Tree.lexeme?] using kind), symbol]
  refine ⟨op, ?_, ?_⟩
  · simp [opAt, taken, symbol]
  · simp [opAt, taken', symbol']

theorem argsOf_becomes (related : Forall₂ (Part.Becomes change) parts parts') :
    ∃ args, argsOf parts = .ok args ∧ argsOf parts' = .ok (args.map change) := by
  induction related with
  | nil => exact ⟨[], rfl, rfl⟩
  | @cons part part' parts parts' becomes others ih =>
    obtain ⟨args, read, read'⟩ := ih
    obtain ⟨arg, arg_read, arg_read'⟩ := becomes.expr
    have marks : isCallMark part.1 = isCallMark part'.1 := by simp only [isCallMark, becomes.kind]
    simp only [argsOf, marks]
    split
    · exact ⟨args, read, read'⟩
    · refine ⟨arg :: args, ?_, ?_⟩
      · simp [arg_read, read]
      · simp [arg_read', read']

theorem map_addToFirstRow (item : Expr) (rows : List (List Expr)) :
    (addToFirstRow item rows).map (·.map change) =
      addToFirstRow (change item) (rows.map (·.map change)) := by
  cases rows <;> rfl

theorem rowsOf_becomes (related : Forall₂ (Part.Becomes change) parts parts') :
    ∃ rows, rowsOf parts = .ok rows ∧ rowsOf parts' = .ok (rows.map (·.map change)) := by
  induction related with
  | nil => exact ⟨[[]], rfl, rfl⟩
  | @cons part part' parts parts' becomes others ih =>
    obtain ⟨rows, read, read'⟩ := ih
    obtain ⟨item, item_read, item_read'⟩ := becomes.expr
    simp only [rowsOf, ← becomes.kind]
    split
    · exact ⟨[] :: rows, by simp [read], by simp [read']⟩
    · exact ⟨rows, read, read'⟩
    · exact ⟨rows, read, read'⟩
    · exact ⟨rows, read, read'⟩
    · refine ⟨addToFirstRow item rows, ?_, ?_⟩
      · simp [item_read, read]
      · simp [item_read', read', map_addToFirstRow]

theorem call_becomes (homomorphic : Homomorphic change) {name : Lexeme}
    (related : Forall₂ (Part.Becomes change) parts parts')
    (named : (parts.map (·.1))[0]? = some (.leaf name)) (kind : name.kind = .function) :
    Becomes change (assemble .call parts) (assemble .call parts') := by
  obtain ⟨callee, callee', taken, taken', leaf_callee, becomes⟩ :=
    partAt_becomes .call related named
  have texts : callee.1.text = callee'.1.text :=
    becomes.text (by simp [leaf_callee, Tree.kind?, Tree.lexeme?, kind])
  obtain ⟨args, read, read'⟩ := argsOf_becomes (List.forall₂_drop 2 related)
  refine ⟨.call (String.ofList (callee.1.text.toList.map Char.toUpper)) args, ?_, ?_⟩
  · simp [assemble, taken, read]
  · simp [assemble, taken', read', texts, homomorphic.call]

/-- What a production puts together reads as an expression, if its operators are known. -/
theorem assemble_becomes (homomorphic : Homomorphic change) {children : List Tree}
    (production : Tree.Production rule children)
    (spelled : ∀ lexeme, Tree.leaf lexeme ∈ children → lexeme.Spelled)
    (related : Forall₂ (Part.Becomes change) parts parts')
    (same_trees : parts.map (·.1) = children) :
    Becomes change (assemble rule parts) (assemble rule parts') := by
  have expr (rule : Rule) {child : Tree} (index : Nat) (found : children[index]? = some child) :
      Becomes change (exprAt rule parts index) (exprAt rule parts' index) :=
    exprAt_becomes related (same_trees ▸ found)
  cases production
  case formula | paren => exact expr _ 1 rfl
  case sheetRef => exact expr _ 2 rfl
  case range =>
    obtain ⟨first, first_read, first_read'⟩ := expr .range 0 rfl
    obtain ⟨last, last_read, last_read'⟩ := expr .range 2 rfl
    refine ⟨.range first last, ?_, ?_⟩
    · simp [assemble, first_read, last_read]
    · simp [assemble, first_read', last_read', homomorphic.range]
  case prefixed operator body kind good =>
    obtain ⟨op, op_read, op_read'⟩ : ∃ op, opAt UnaryOp.ofSymbol? .prefixed parts 0 = .ok op ∧
        opAt UnaryOp.ofSymbol? .prefixed parts' 0 = .ok op :=
      opAt_becomes related (same_trees ▸ rfl) (by simp [kind])
        ((spelled operator List.mem_cons_self).unaryOp_isSome kind)
    obtain ⟨operand, operand_read, operand_read'⟩ := expr .prefixed 1 rfl
    refine ⟨.unary op operand, ?_, ?_⟩
    · simp [assemble, op_read, operand_read]
    · simp [assemble, op_read', operand_read', homomorphic.unary]
  case postfixed =>
    obtain ⟨operand, operand_read, operand_read'⟩ := expr .postfixed 0 rfl
    refine ⟨.unary .percent operand, ?_, ?_⟩
    · simp [assemble, operand_read]
    · simp [assemble, operand_read', homomorphic.unary]
  case binary left_tree right_tree operator left_good kind right_good =>
    obtain ⟨op, op_read, op_read'⟩ : ∃ op, opAt BinaryOp.ofSymbol? .binary parts 1 = .ok op ∧
        opAt BinaryOp.ofSymbol? .binary parts' 1 = .ok op :=
      opAt_becomes related (same_trees ▸ rfl) (by simp [kind])
        ((spelled operator (by simp)).binaryOp_isSome kind)
    obtain ⟨left, left_read, left_read'⟩ := expr .binary 0 rfl
    obtain ⟨right, right_read, right_read'⟩ := expr .binary 2 rfl
    refine ⟨.binary op left right, ?_, ?_⟩
    · simp [assemble, op_read, left_read, right_read]
    · simp [assemble, op_read', left_read', right_read', homomorphic.binary]
  case emptyCall name opener closer kind _ _ =>
    exact call_becomes homomorphic related (same_trees ▸ rfl) kind
  case call name opener items kind _ _ =>
    exact call_becomes homomorphic related (same_trees ▸ rfl) kind
  case array =>
    obtain ⟨rows, read, read'⟩ := rowsOf_becomes related
    refine ⟨.array rows, ?_, ?_⟩
    · simp [assemble, read]
    · simp [assemble, read', homomorphic.array]

end

theorem assemble_isLambda {rule : Rule} {parts : List Part} {e : Expr}
    (no_lambda : ∀ part ∈ parts, ∀ e, part.2 = .ok e → e.isLambda = false)
    (assembled : assemble rule parts = .ok e) : e.isLambda = false := by
  have expr {index : Nat} (read : exprAt rule parts index = .ok e) : e.isLambda = false := by
    obtain ⟨part, taken, read⟩ := bind_eq_ok_iff.1 read
    simp only [partAt] at taken
    split at taken
    · cases taken
      exact no_lambda part (List.mem_of_getElem? ‹_›) e read
    · cases taken
  cases rule with
  | formula | paren | sheetRef => exact expr assembled
  | postfixed | array =>
    obtain ⟨part, -, done⟩ := bind_eq_ok_iff.1 assembled
    cases done
    rfl
  | range | prefixed | call =>
    obtain ⟨first, -, remaining⟩ := bind_eq_ok_iff.1 assembled
    obtain ⟨second, -, done⟩ := bind_eq_ok_iff.1 remaining
    cases done
    rfl
  | binary =>
    obtain ⟨op, -, operands⟩ := bind_eq_ok_iff.1 assembled
    obtain ⟨left, -, remaining⟩ := bind_eq_ok_iff.1 operands
    obtain ⟨right, -, done⟩ := bind_eq_ok_iff.1 remaining
    cases done
    rfl

structure PlacedLeaf.Becomes (change : Expr → Expr) (folding folding' : Folding)
    (before after : PlacedLeaf) : Prop where
  kind : before.lexeme.kind = after.lexeme.kind
  text : before.lexeme.kind ≠ .cellRef → before.lexeme.text = after.lexeme.text
  expr : FormulaRuns.Becomes change (folding.leaf before.number before.sheet before.lexeme)
    (folding'.leaf after.number after.sheet after.lexeme)

theorem PlacedLeaf.becomes_of_text {change : Expr → Expr} (homomorphic : Homomorphic change)
    (folding folding' : Folding) {before after : PlacedLeaf}
    (kinds : before.lexeme.kind = after.lexeme.kind) (kind : before.lexeme.kind ≠ .cellRef)
    (texts : before.lexeme.text = after.lexeme.text) :
    before.Becomes change folding folding' after := by
  refine ⟨kinds, fun _ => texts, ?_⟩
  simp only [Folding.leaf, ← kinds, ← texts]
  split
  · exact absurd ‹_› kind
  · split
    · exact ⟨_, rfl, by rw [homomorphic.number]⟩
    · exact ⟨_, rfl, by rw [homomorphic.error]⟩
  · exact ⟨_, rfl, by rw [homomorphic.text]⟩
  · exact ⟨_, rfl, by rw [homomorphic.bool]⟩
  · exact ⟨_, rfl, by rw [homomorphic.error]⟩
  · exact ⟨_, rfl, by rw [homomorphic.name]⟩

namespace Tree

theorem forestParts_trees (folding : Folding) (start : Nat) (sheet : String) (trees : List Tree) :
    (forestParts folding start sheet trees).map (·.1) = trees := by
  induction trees generalizing start with
  | nil => rfl
  | cons tree trees ih => rw [forestParts, List.map_cons, ih]

theorem mem_forestLeaves {lexeme : Lexeme} {trees : List Tree} (member : leaf lexeme ∈ trees) :
    lexeme ∈ forestLeaves trees := by
  induction trees with
  | nil => simp at member
  | cons tree trees ih =>
    rcases List.mem_cons.1 member with rfl | member
    · exact List.mem_append_left _ List.mem_cons_self
    · exact List.mem_append_right _ (ih member)

variable {change : Expr → Expr} {folding folding' : Folding}

theorem leaf_isLambda {folding : Folding} {number : Nat} {sheet : String} {lexeme : Lexeme}
    {e : Expr} (read : folding.leaf number sheet lexeme = .ok e) : e.isLambda = false := by
  simp only [Folding.leaf, Folding.reference] at read
  repeat' split at read
  all_goals cases read
  all_goals rfl

mutual

theorem toExpr_isLambda (folding : Folding) (start : Nat) (sheet : String) : ∀ (tree : Tree)
    (e : Expr), tree.toExpr folding start sheet = .ok e → e.isLambda = false
  | leaf _, _, read => leaf_isLambda read
  | node _ children, _, read =>
    assemble_isLambda (forestParts_isLambda folding start _ children) read

theorem forestParts_isLambda (folding : Folding) (start : Nat) (sheet : String) :
    ∀ (trees : List Tree), ∀ part ∈ forestParts folding start sheet trees, ∀ e,
      part.2 = .ok e → e.isLambda = false
  | [], _, member, _, _ => by cases member
  | tree :: trees, part, member, e, read => by
    rcases List.mem_cons.1 member with rfl | member
    · exact toExpr_isLambda folding start sheet tree e read
    · exact forestParts_isLambda folding (start + tree.size) sheet trees part member e read

end

mutual

theorem toExpr_becomes (homomorphic : Homomorphic change) {start : Nat} {sheet sheet' : String} :
    ∀ {tree tree' : Tree}, tree.Grammatical → (∀ lexeme ∈ tree.leaves, lexeme.Spelled) →
      tree.Alike (PlacedLeaf.Becomes change folding folding') start sheet sheet' tree' →
      Becomes change (tree.toExpr folding start sheet) (tree'.toExpr folding' start sheet')
  | leaf _, leaf _, _, _, becomes => becomes.expr
  | node rule children, node rule' children', ⟨production, grammatical⟩, spelled,
      ⟨same, children_alike⟩ => by
    subst same
    exact assemble_becomes homomorphic production
      (fun lexeme member => spelled lexeme (mem_forestLeaves member))
      (forestParts_become homomorphic grammatical spelled children_alike)
      (forestParts_trees folding start _ children)
  | leaf _, node _ _, _, _, alike | node _ _, leaf _, _, _, alike => alike.elim

theorem forestParts_become (homomorphic : Homomorphic change) {start : Nat}
    {sheet sheet' : String} : ∀ {trees trees' : List Tree}, ForestGrammatical trees →
      (∀ lexeme ∈ forestLeaves trees, lexeme.Spelled) →
      ForestAlike (PlacedLeaf.Becomes change folding folding') start sheet sheet' trees trees' →
      Forall₂ (Part.Becomes change) (forestParts folding start sheet trees)
        (forestParts folding' start sheet' trees')
  | [], [], _, _, _ => .nil
  | tree :: trees, tree' :: trees', ⟨grammatical, others_grammatical⟩, spelled,
      ⟨alike, others_alike⟩ => by
    have expr := toExpr_becomes homomorphic grammatical
      (fun lexeme member => spelled lexeme (List.mem_append_left _ member)) alike
    have others := forestParts_become homomorphic others_grammatical
      (fun lexeme member => spelled lexeme (List.mem_append_right _ member)) others_alike
    rw [forestParts, forestParts, ← alike.size_eq]
    refine .cons ⟨?_, ?_, expr⟩ others
    · exact alike.kind?_eq fun becomes => becomes.kind
    · exact alike.text_eq fun becomes => becomes.text
  | [], _ :: _, _, _, alike | _ :: _, [], _, _, alike => alike.elim

end

end Tree

end FormulaRuns
