import FormulaRuns.Proofs.Formula.Relexing
import FormulaRuns.Proofs.Pattern.Compatible

namespace FormulaRuns

open List (Forall₂)

namespace Lexeme

/-- A cell reference where the drag takes it, unless that lies off the grid. -/
def dragged? (distance : Distance) (lexeme : Lexeme) : Option Lexeme :=
  if lexeme.kind = .cellRef then do
    let ref ← (Reference.ofA1 "" lexeme.text).toOption
    let moved ← ref.shifted distance
    return ⟨.cellRef, moved.a1⟩
  else some lexeme

def isMovable (lexeme : Lexeme) : Bool := ((Tree.leaf lexeme).reference? "").any (·.isVariable)

end Lexeme

/-- The text of a formula after a drag, with its blanks, if no reference leaves the grid. -/
def dragText? (distance : Distance) (tokens : List Token) : Option String :=
  (tokens.mapM fun (token : Token) => token.toLexeme.dragged? distance).map renderLexemes

theorem Reference.shifted_onGrid {before after : Reference} {distance : Distance}
    (on_grid : before.OnGrid) (shifted : before.shifted distance = some after) : after.OnGrid := by
  have axis {fixed : Bool} {value moved last : Nat} {delta : Int} (low : 1 ≤ value)
      (high : value ≤ last) (axis_moved : axisAfter fixed value delta last = some moved) :
      1 ≤ moved ∧ moved ≤ last := by
    cases fixed with
    | true =>
      cases axis_moved
      exact ⟨low, high⟩
    | false =>
      simp only [axisAfter, shiftAxis, Bool.false_eq_true, if_false, Option.ite_none_right_eq_some,
        Option.some.injEq] at axis_moved
      omega
  obtain ⟨row_pos, row_le, col_pos, col_le⟩ := on_grid
  obtain ⟨-, -, -, col_after, row_after⟩ := shifted_eq_some_iff.1 shifted
  have rows := axis row_pos row_le row_after
  have cols := axis col_pos col_le col_after
  exact ⟨rows.1, rows.2, cols⟩

theorem Reference.ofA1_a1 {ref : Reference} (on_grid : ref.OnGrid) :
    Reference.ofA1 ref.sheet ref.a1 = .ok ref := by
  obtain ⟨row_pos, row_le, col_pos, col_le⟩ := on_grid
  have read : A1.parse ref.a1 = .ok ⟨ref.row, ref.col, ref.rowFixed, ref.colFixed⟩ :=
    A1.parse_print ⟨⟨row_pos, row_le⟩, col_pos, col_le⟩
  exact ofA1_eq_ok_iff.2 ⟨_, read, rfl⟩

theorem Reference.shifted_on {sheet text : String} {ref moved : Reference} {distance : Distance}
    (decoded : Reference.ofA1 sheet text = .ok ref) (shifted : ref.shifted distance = some moved)
    (sheet' : String) : Reference.ofA1 sheet' text = .ok { ref with sheet := sheet' } ∧
      { ref with sheet := sheet' }.shifted distance = some { moved with sheet := sheet' } := by
  obtain ⟨cell, parsed, rfl⟩ := ofA1_eq_ok_iff.1 decoded
  exact ⟨ofA1_eq_ok_iff.2 ⟨cell, parsed, rfl⟩,
    shifted_eq_some_iff.2 ⟨rfl, (shifted_eq_some_iff.1 shifted).2⟩⟩

namespace Lexeme

variable {distance : Distance} {lexeme lexeme' : Lexeme}

theorem dragged?_eq_some_iff (kind : lexeme.kind = .cellRef) :
    lexeme.dragged? distance = some lexeme' ↔ ∃ ref moved,
      Reference.ofA1 "" lexeme.text = .ok ref ∧ ref.shifted distance = some moved ∧
      lexeme' = ⟨.cellRef, moved.a1⟩ := by
  have decodes (ref : Reference) : (Reference.ofA1 "" lexeme.text).toOption = some ref ↔
      Reference.ofA1 "" lexeme.text = .ok ref := by
    cases Reference.ofA1 "" lexeme.text <;> simp [Except.toOption]
  rw [dragged?, if_pos kind]
  simp only [Option.bind_eq_bind, Option.bind_eq_some_iff, Option.pure_def, Option.some.injEq,
    decodes]
  constructor
  · rintro ⟨ref, decoded, moved, shifted, rfl⟩
    exact ⟨ref, moved, decoded, shifted, rfl⟩
  · rintro ⟨ref, moved, decoded, shifted, rfl⟩
    exact ⟨ref, decoded, moved, shifted, rfl⟩

theorem dragged?_of_ne (kind : lexeme.kind ≠ .cellRef) :
    lexeme.dragged? distance = some lexeme := by
  simp [dragged?, kind]

theorem rewritten_of_dragged? (dragged : lexeme.dragged? distance = some lexeme') :
    lexeme.Rewritten lexeme' := by
  by_cases kind : lexeme.kind = .cellRef
  · obtain ⟨ref, moved, decoded, shifted, rfl⟩ := (dragged?_eq_some_iff kind).1 dragged
    obtain ⟨row_pos, row_le, col_pos, col_le⟩ :=
      Reference.shifted_onGrid (Reference.ofA1_onGrid decoded) shifted
    exact ⟨kind.symm, absurd kind, fun _ => ⟨_, ⟨⟨row_pos, row_le⟩, col_pos, col_le⟩, rfl⟩⟩
  · rw [dragged?_of_ne kind] at dragged
    cases dragged
    exact ⟨rfl, fun _ => rfl, fun other => absurd other kind⟩

theorem dragged_of_dragged? (dragged : lexeme.dragged? distance = some lexeme') :
    Dragged distance "" lexeme lexeme' := by
  by_cases kind : lexeme.kind = .cellRef
  · obtain ⟨ref, moved, decoded, shifted, rfl⟩ := (dragged?_eq_some_iff kind).1 dragged
    have on_grid := Reference.shifted_onGrid (Reference.ofA1_onGrid decoded) shifted
    have sheet : moved.sheet = "" := by
      obtain ⟨cell, -, rfl⟩ := Reference.ofA1_eq_ok_iff.1 decoded
      exact (Reference.shifted_eq_some_iff.1 shifted).1.symm
    have read := Reference.ofA1_a1 on_grid
    rw [sheet] at read
    exact ⟨kind, absurd kind, fun _ => ⟨ref, moved, decoded, read, shifted⟩⟩
  · rw [dragged?_of_ne kind] at dragged
    cases dragged
    exact ⟨rfl, fun _ => rfl, fun other => absurd other kind⟩

end Lexeme

theorem map_kind_of_dragged {distance : Distance} {sheet : String}
    {lexemes lexemes' : List Lexeme}
    (dragged : Forall₂ (Lexeme.Dragged distance sheet) lexemes lexemes') :
    lexemes'.map (·.kind) = lexemes.map (·.kind) := by
  induction dragged with
  | nil => rfl
  | cons first _ ih => rw [List.map_cons, List.map_cons, first.kind, ih]

namespace Tree

theorem any_reference?_isVariable (sheet : String) (lexeme : Lexeme) :
    ((leaf lexeme).reference? sheet).any (·.isVariable) = lexeme.isMovable := by
  rw [Lexeme.isMovable]
  by_cases kind : lexeme.kind = .cellRef
  · rw [reference?_leaf kind, reference?_leaf kind]
    simp only [Reference.ofA1]
    cases A1.parse lexeme.text <;> rfl
  · rw [reference?_leaf_eq_none kind, reference?_leaf_eq_none kind]

mutual

theorem countP_references (sheet : String) : ∀ tree : Tree,
    (tree.references sheet).countP (·.2.isVariable) = tree.leaves.countP (·.isMovable)
  | leaf lexeme => by
    have same := any_reference?_isVariable sheet lexeme
    cases decoded : (leaf lexeme).reference? sheet with
    | none => simp_all [references, leaves]
    | some ref => simp_all [references, leaves, List.countP_cons]
  | node rule children => countP_forestReferences ((node rule children).scope sheet) 0 children

theorem countP_forestReferences (sheet : String) (index : Nat) : ∀ trees : List Tree,
    (forestReferences sheet index trees).countP (·.2.isVariable) =
      (forestLeaves trees).countP (·.isMovable)
  | [] => rfl
  | tree :: trees => by
    have first := countP_references sheet tree
    have others := countP_forestReferences sheet (index + 1) trees
    rw [forestReferences, List.countP_append, List.countP_map, others, forestLeaves,
      List.countP_append, ← first]
    rfl

end

end Tree

theorem countP_solidLexemes (tokens : List Token) :
    (solidLexemes tokens).countP (·.isMovable) = tokens.countP (·.toLexeme.isMovable) := by
  have solid : ∀ token ∈ tokens, (token.toLexeme.isMovable && Formula.isSolid token.toLexeme) =
      token.toLexeme.isMovable := by
    intro token _
    by_cases kind : token.kind = .cellRef
    · simp [Formula.isSolid, kind]
    · simp [Lexeme.isMovable, Tree.reference?_leaf_eq_none kind]
  rw [solidLexemes, List.countP_filter, List.countP_map]
  exact List.countP_congr fun token member => by simp [solid token member]

theorem checkFormulas_of_parse {text text' : String} {formula formula' : Formula}
    {origin candidate : Address} (parsed : Formula.parse text = .ok formula)
    (parsed' : Formula.parse text' = .ok formula') :
    checkFormulas text origin text' candidate =
      .ok (checkTrees formula.root origin formula'.root candidate) := by
  obtain ⟨-, tokens, cut, -⟩ := Formula.parse_eq_ok_iff.1 parsed
  obtain ⟨-, tokens', cut', -⟩ := Formula.parse_eq_ok_iff.1 parsed'
  simp [checkFormulas, startsWithEquals_of_tokenize cut, startsWithEquals_of_tokenize cut', parsed,
    parsed']

theorem exists_dragged {distance : Distance} {sheet : String} {tokens : List Token}
    (on_grid : ∀ token ∈ tokens, token.kind = .cellRef → ∃ ref moved,
      Reference.ofA1 sheet token.text = .ok ref ∧ ref.shifted distance = some moved) :
    ∃ lexemes, (tokens.mapM fun (token : Token) => token.toLexeme.dragged? distance) =
      some lexemes := by
  apply exists_mapM_eq_some
  intro token member
  by_cases kind : token.kind = .cellRef
  · obtain ⟨ref, moved, decoded, shifted⟩ := on_grid token member kind
    obtain ⟨unplaced, unplaced_shifted⟩ := Reference.shifted_on decoded shifted ""
    exact ⟨_, (Lexeme.dragged?_eq_some_iff kind).2 ⟨_, _, unplaced, unplaced_shifted, rfl⟩⟩
  · exact ⟨_, Lexeme.dragged?_of_ne kind⟩

theorem parse_dragged {distance : Distance} {text : String} {formula : Formula}
    {tokens : List Token} {lexemes : List Lexeme} (parsed : Formula.parse text = .ok formula)
    (cut : tokenize text = .ok tokens)
    (dragged : (tokens.mapM fun (token : Token) => token.toLexeme.dragged? distance) =
      some lexemes) :
    ∃ tokens' formula', tokenize (renderLexemes lexemes) = .ok tokens' ∧
      Formula.parse (renderLexemes lexemes) = .ok formula' ∧
      tokens'.map (·.kind) = tokens.map (·.kind) ∧
      Forall₂ (Lexeme.Dragged distance "") (solidLexemes tokens) (solidLexemes tokens') := by
  have each := mapM_eq_some_iff.1 dragged
  have rewritten : Forall₂ Lexeme.Rewritten (tokens.map (·.toLexeme)) lexemes :=
    List.forall₂_map_left_iff.2 (each.imp fun _ _ => Lexeme.rewritten_of_dragged?)
  have moved : Forall₂ (Lexeme.Dragged distance "") (tokens.map (·.toLexeme)) lexemes :=
    List.forall₂_map_left_iff.2 (each.imp fun _ _ => Lexeme.dragged_of_dragged?)
  obtain ⟨tokens', cut', same⟩ := tokenize_rewritten cut rewritten
  have solid_moved : Forall₂ (Lexeme.Dragged distance "") (solidLexemes tokens)
      (solidLexemes tokens') := by
    rw [solidLexemes, solidLexemes, same]
    apply List.rel_filter _ moved
    intro before after drag
    simp [Formula.isSolid, drag.kind]
  obtain ⟨-, _, same_cut, read⟩ := Formula.parse_eq_ok_iff.1 parsed
  cases cut.symm.trans same_cut
  obtain ⟨root', read', -⟩ := parseLexemes_related (Lexeme.dragged_indistinct _ "") solid_moved read
  have parsed' : Formula.parse (renderLexemes lexemes) = .ok ⟨_, root'⟩ :=
    Formula.parse_eq_ok_iff.2 ⟨rfl, tokens', cut', read'⟩
  have kinds := map_kind_of_dragged moved
  rw [← same, List.map_map, List.map_map] at kinds
  exact ⟨tokens', _, cut', parsed', kinds, solid_moved⟩

/-- The formula that a drag makes of a formula is compatible with it, and the variable references
of the old formula are what the two have in common. -/
theorem checkFormulas_drag {text : String} {formula : Formula} {tokens : List Token}
    {origin candidate : Address} (parsed : Formula.parse text = .ok formula)
    (cut : tokenize text = .ok tokens) (same_sheet : origin.sheet = candidate.sheet)
    (origin_words : origin.InWords) (candidate_words : candidate.InWords)
    (on_grid : ∀ token ∈ tokens, token.kind = .cellRef → ∃ ref moved,
      Reference.ofA1 origin.sheet token.text = .ok ref ∧
        ref.shifted (.between origin candidate) = some moved) :
    ∃ text' formula' tokens' bindings,
      dragText? (.between origin candidate) tokens = some text' ∧
      Formula.parse text' = .ok formula' ∧ tokenize text' = .ok tokens' ∧
      tokens'.map (·.kind) = tokens.map (·.kind) ∧
      checkFormulas text origin text' candidate = .ok (.compatible bindings) ∧
      bindings = (formula.root.references origin.sheet).filter (·.2.isVariable) ∧
      bindings.length = tokens.countP (·.toLexeme.isMovable) := by
  obtain ⟨lexemes, dragged⟩ := exists_dragged on_grid
  obtain ⟨tokens', formula', cut', parsed', kinds, moved⟩ := parse_dragged parsed cut dragged
  obtain ⟨-, _, same_cut, read⟩ := Formula.parse_eq_ok_iff.1 parsed
  obtain ⟨-, _, same_cut', read'⟩ := Formula.parse_eq_ok_iff.1 parsed'
  cases cut.symm.trans same_cut
  cases cut'.symm.trans same_cut'
  have bounds := Distance.between_bounds origin_words candidate_words
  have alike := (alike_iff_dragged bounds.1 bounds.2 read read' origin.sheet).2 moved
  have compatible : checkTrees formula.root origin formula'.root candidate =
      .compatible (formula.root.movingReferences origin.sheet) :=
    checkTrees_eq_compatible_iff.2 ⟨same_sheet ▸ alike, rfl⟩
  refine ⟨renderLexemes lexemes, formula', tokens', _, ?_, parsed', cut', kinds, ?_, rfl, ?_⟩
  · rw [dragText?, dragged]
    rfl
  · rw [checkFormulas_of_parse parsed parsed', compatible]
    rfl
  · rw [← List.countP_eq_length_filter, Tree.countP_references, (parseLexemes_sound read).1,
      countP_solidLexemes]

def sumTokens : List Token := [⟨⟨.equals, "="⟩, 0, 1⟩, ⟨⟨.cellRef, "A1"⟩, 1, 3⟩,
  ⟨⟨.infixOp, "+"⟩, 3, 4⟩, ⟨⟨.cellRef, "$B$2"⟩, 4, 8⟩]

theorem checkFormulas_drag_down_a_column :
    ∃ text' formula' tokens' bindings,
      dragText? (.between ⟨"S", 1, 3⟩ ⟨"S", 2, 3⟩) sumTokens = some text' ∧
      Formula.parse text' = .ok formula' ∧ tokenize text' = .ok tokens' ∧
      tokens'.map (·.kind) = sumTokens.map (·.kind) ∧
      checkFormulas "=A1+$B$2" ⟨"S", 1, 3⟩ text' ⟨"S", 2, 3⟩ = .ok (.compatible bindings) ∧
      bindings = ((sumTree "A1").references "S").filter (·.2.isVariable) ∧
      bindings.length = sumTokens.countP (·.toLexeme.isMovable) := by
  have cut : tokenize "=A1+$B$2" = .ok sumTokens := by with_unfolding_all rfl
  have origin_words : Address.InWords ⟨"S", 1, 3⟩ := ⟨by decide, by decide⟩
  have candidate_words : Address.InWords ⟨"S", 2, 3⟩ := ⟨by decide, by decide⟩
  have same_sheet : (Address.mk "S" 1 3).sheet = (Address.mk "S" 2 3).sheet := rfl
  apply checkFormulas_drag parse_sum.1 cut same_sheet origin_words candidate_words
  intro token member kind
  simp only [sumTokens, List.mem_cons, List.not_mem_nil, or_false] at member
  rcases member with rfl | rfl | rfl | rfl
  · cases kind
  · exact ⟨⟨"S", 1, 1, false, false⟩, ⟨"S", 2, 1, false, false⟩, by decide, by decide⟩
  · cases kind
  · exact ⟨⟨"S", 2, 2, true, true⟩, ⟨"S", 2, 2, true, true⟩, by decide, by decide⟩

end FormulaRuns
