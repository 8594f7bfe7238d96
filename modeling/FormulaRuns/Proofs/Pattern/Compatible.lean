import FormulaRuns.Pattern.Fault
import FormulaRuns.Proofs.Formula.Spelling
import FormulaRuns.Proofs.Outcome
import FormulaRuns.Proofs.Grid.Shift
import FormulaRuns.Proofs.Pattern.Alike

namespace FormulaRuns

/-- The second leaf is what a drag makes of the first. -/
def PlacedLeaf.Moved (distance : Distance) (before after : PlacedLeaf) : Prop :=
  before.lexeme.kind = after.lexeme.kind ∧
    if before.lexeme.kind = .cellRef then
      ∃ ref ref', before.reference? = some ref ∧ after.reference? = some ref' ∧
        ref.movedBy distance ref'
    else before.lexeme.text = after.lexeme.text

namespace Tree

/-- The references of a formula that follow it when it is dragged. -/
def movingReferences (sheet : String) (tree : Tree) : Bindings :=
  (tree.references sheet).filter (·.2.isVariable)

def forestMovingReferences (sheet : String) (index : Nat) (trees : List Tree) : Bindings :=
  (forestReferences sheet index trees).filter (·.2.isVariable)

theorem compareReferences_eq_ok_iff {distance : Distance} {before after : Option Reference}
    {found : Bindings} :
    compareReferences distance before after = .ok found ↔
      (∃ ref ref', before = some ref ∧ after = some ref' ∧ ref.movedBy distance ref') ∧
        found = ((before.toList.map fun ref => ([], ref)).filter (·.2.isVariable)) := by
  cases before with
  | none => simp [compareReferences]
  | some ref =>
    cases after with
    | none => simp [compareReferences]
    | some ref' =>
      have kept : ((some ref).toList.map fun ref => (([] : Path), ref)).filter (·.2.isVariable) =
          if ref.isVariable then [([], ref)] else [] := by
        simp [List.filter_cons]
      rw [kept]
      by_cases moved : ref.movedBy distance ref'
      · simp only [compareReferences, moved, if_true, Except.ok.injEq, Option.some.injEq]
        exact ⟨fun same => ⟨⟨ref, ref', rfl, rfl, moved⟩, same.symm⟩, fun facts => facts.2.symm⟩
      · simp [compareReferences, moved]

theorem compareLeaves_eq_ok_iff {distance : Distance} {start : Nat} {sheet sheet' : String}
    {before after : Lexeme} {found : Bindings} :
    (leaf before).compareWith distance sheet sheet' (leaf after) = .ok found ↔
      PlacedLeaf.Moved distance ⟨start, sheet, before⟩ ⟨start, sheet', after⟩ ∧
        found = (leaf before).movingReferences sheet := by
  simp only [compareWith, PlacedLeaf.Moved, movingReferences, references]
  by_cases kinds : before.kind = after.kind
  · simp only [kinds, ne_eq, not_true_eq_false, if_false, true_and]
    split
    · exact compareReferences_eq_ok_iff
    · rename_i kind
      rw [reference?_leaf_eq_none (by rwa [kinds])]
      by_cases texts : before.text = after.text <;> simp [texts, eq_comm]
  · simp [kinds]

theorem forestMovingReferences_cons (sheet : String) (index : Nat) (tree : Tree)
    (trees : List Tree) :
    forestMovingReferences sheet index (tree :: trees) =
      (tree.movingReferences sheet).map (fun (path, ref) => (index :: path, ref)) ++
        forestMovingReferences sheet (index + 1) trees := by
  simp [forestMovingReferences, movingReferences, forestReferences, List.filter_map,
    Function.comp_def]

mutual

theorem compareWith_eq_ok_iff (distance : Distance) (start : Nat) (sheet sheet' : String) :
    ∀ (tree tree' : Tree) (found : Bindings),
      tree.compareWith distance sheet sheet' tree' = .ok found ↔
        tree.Alike (PlacedLeaf.Moved distance) start sheet sheet' tree' ∧
          found = tree.movingReferences sheet
  | leaf before, leaf after, found => compareLeaves_eq_ok_iff
  | node rule children, node rule' children', found => by
    simp only [compareWith, Alike]
    by_cases same : rule = rule' ∧ children.length = children'.length
    · obtain ⟨rfl, lengths⟩ := same
      simp only [lengths, ne_eq, not_true_eq_false, or_self, if_false, true_and]
      exact compareForests_eq_ok_iff distance start _ _ 0 children children' lengths found
    · have different : rule ≠ rule' ∨ children.length ≠ children'.length := by
        by_cases rules : rule = rule' <;> simp_all
      simp only [different, if_true, reduceCtorEq, false_iff]
      rintro ⟨⟨rules, alike⟩, -⟩
      exact same ⟨rules, alike.length_eq⟩
  | leaf _, node _ _, found | node _ _, leaf _, found => by simp [compareWith, Alike]

theorem compareForests_eq_ok_iff (distance : Distance) (start : Nat) (sheet sheet' : String)
    (index : Nat) : ∀ (trees trees' : List Tree), trees.length = trees'.length →
      ∀ found : Bindings,
        compareForests distance sheet sheet' index trees trees' = .ok found ↔
          ForestAlike (PlacedLeaf.Moved distance) start sheet sheet' trees trees' ∧
            found = forestMovingReferences sheet index trees
  | [], [], _, found => by
    simp [compareForests, ForestAlike, forestMovingReferences, forestReferences, eq_comm]
  | tree :: trees, tree' :: trees', lengths, found => by
    have first := compareWith_eq_ok_iff distance start sheet sheet' tree tree'
    have others := compareForests_eq_ok_iff distance (start + tree.size) sheet sheet' (index + 1)
      trees trees' (by simpa using lengths)
    rw [forestMovingReferences_cons]
    simp only [compareForests, ForestAlike]
    cases compared : tree.compareWith distance sheet sheet' tree' with
    | error mismatch =>
      have unlike : ¬ tree.Alike (PlacedLeaf.Moved distance) start sheet sheet' tree' := by
        intro alike
        simp [(first _).2 ⟨alike, rfl⟩] at compared
      simp [unlike]
    | ok front =>
      obtain ⟨alike, rfl⟩ := (first front).1 compared
      simp only [map_eq_ok_iff, others, alike, true_and]
      constructor
      · rintro ⟨back, ⟨others_alike, rfl⟩, rfl⟩
        exact ⟨others_alike, rfl⟩
      · rintro ⟨others_alike, rfl⟩
        exact ⟨_, ⟨others_alike, rfl⟩, rfl⟩
  | [], _ :: _, lengths, _ | _ :: _, [], lengths, _ => by simp at lengths

end

end Tree

theorem checkTrees_eq_compatible_iff {tree tree' : Tree} {origin candidate : Address}
    {bindings : Bindings} :
    checkTrees tree origin tree' candidate = .compatible bindings ↔
      tree.Alike (PlacedLeaf.Moved (.between origin candidate)) 0 origin.sheet candidate.sheet
        tree' ∧ bindings = tree.movingReferences origin.sheet := by
  rw [← Tree.compareWith_eq_ok_iff, checkTrees]
  cases tree.compareWith (.between origin candidate) origin.sheet candidate.sheet tree' <;> simp

theorem isCompatible_checkTrees {tree tree' : Tree} {origin candidate : Address} :
    (checkTrees tree origin tree' candidate).isCompatible ↔
      tree.Alike (PlacedLeaf.Moved (.between origin candidate)) 0 origin.sheet candidate.sheet
        tree' := by
  cases outcome : checkTrees tree origin tree' candidate with
  | compatible bindings => exact iff_of_true rfl (checkTrees_eq_compatible_iff.1 outcome).1
  | incompatible mismatch =>
    apply iff_of_false Bool.false_ne_true
    intro alike
    have compatible := checkTrees_eq_compatible_iff.2 ⟨alike, rfl⟩
    cases outcome.symm.trans compatible

theorem PlacedLeaf.Moved.symm {origin candidate : Address} {before after : PlacedLeaf}
    (moved : Moved (.between origin candidate) before after) :
    Moved (.between candidate origin) after before := by
  have kinds := moved.1
  refine ⟨kinds.symm, ?_⟩
  by_cases kind : before.lexeme.kind = .cellRef
  · have found := moved.2
    rw [if_pos kind] at found
    obtain ⟨ref, ref', decoded, decoded', there⟩ := found
    rw [if_pos (kinds ▸ kind)]
    exact ⟨ref', ref, decoded', decoded, Reference.movedBy_symm there⟩
  · have texts := moved.2
    rw [if_neg kind] at texts
    rw [if_neg (kinds ▸ kind)]
    exact texts.symm

theorem PlacedLeaf.Moved.trans {origin middle candidate : Address} {first second third : PlacedLeaf}
    (moved : Moved (.between origin middle) first second)
    (moved' : Moved (.between middle candidate) second third) :
    Moved (.between origin candidate) first third := by
  have kinds := moved.1
  refine ⟨kinds.trans moved'.1, ?_⟩
  by_cases kind : first.lexeme.kind = .cellRef
  · have found := moved.2
    have found' := moved'.2
    rw [if_pos kind] at found
    rw [if_pos (kinds ▸ kind)] at found'
    obtain ⟨ref, ref', decoded, decoded', there⟩ := found
    obtain ⟨middle_ref, ref'', middle_decoded, decoded'', further⟩ := found'
    have same : ref' = middle_ref := Option.some.inj (decoded'.symm.trans middle_decoded)
    subst same
    rw [if_pos kind]
    exact ⟨ref, ref'', decoded, decoded'', Reference.movedBy_trans there further⟩
  · have texts := moved.2
    have texts' := moved'.2
    rw [if_neg kind] at texts
    rw [if_neg (kinds ▸ kind)] at texts'
    rw [if_neg kind]
    exact texts.trans texts'

theorem checkTrees_isCompatible_trans {tree tree' tree'' : Tree} {origin middle candidate : Address}
    (first : (checkTrees tree origin tree' middle).isCompatible)
    (second : (checkTrees tree' middle tree'' candidate).isCompatible) :
    (checkTrees tree origin tree'' candidate).isCompatible := by
  rw [isCompatible_checkTrees] at first second ⊢
  refine first.trans ?_ second
  intro leaf leaf' leaf'' moved moved'
  exact moved.trans moved'

theorem checkTrees_isCompatible_symm {tree tree' : Tree} {origin candidate : Address}
    (compatible : (checkTrees tree origin tree' candidate).isCompatible) :
    (checkTrees tree' candidate tree origin).isCompatible := by
  rw [isCompatible_checkTrees] at compatible ⊢
  apply compatible.symm
  intro before after moved
  exact moved.symm

/-- The second token is the first one after a drag, read as a token of a formula on `sheet`. -/
structure Lexeme.Dragged (distance : Distance) (sheet : String) (before after : Lexeme) : Prop where
  kind : before.kind = after.kind
  text : before.kind ≠ .cellRef → before.text = after.text
  shifted : before.kind = .cellRef → ∃ ref ref', Reference.ofA1 sheet before.text = .ok ref ∧
    Reference.ofA1 sheet after.text = .ok ref' ∧ ref.shifted distance = some ref'

namespace Lexeme

variable {distance : Distance} {before after : Lexeme}

theorem Dragged.precedence {sheet : String} (dragged : Dragged distance sheet before after)
    (kind : before.kind = .infixOp) : before.precedence = after.precedence := by
  have same : before = after := by
    have kinds := dragged.kind
    have texts := dragged.text (by simp [kind])
    cases before
    cases after
    simp_all
  rw [same]

theorem dragged_indistinct (distance : Distance) (sheet : String) :
    Indistinct (Dragged distance sheet) where
  kind := Dragged.kind
  precedence := Dragged.precedence

theorem Dragged.on {sheet : String} (dragged : Dragged distance sheet before after)
    (sheet' : String) : Dragged distance sheet' before after where
  kind := dragged.kind
  text := dragged.text
  shifted kind := by
    obtain ⟨ref, ref', decoded, decoded', shifted⟩ := dragged.shifted kind
    obtain ⟨cell, parsed, rfl⟩ := Reference.ofA1_eq_ok_iff.1 decoded
    obtain ⟨cell', parsed', rfl⟩ := Reference.ofA1_eq_ok_iff.1 decoded'
    refine ⟨_, _, Reference.ofA1_eq_ok_iff.2 ⟨cell, parsed, rfl⟩,
      Reference.ofA1_eq_ok_iff.2 ⟨cell', parsed', rfl⟩, ?_⟩
    exact Reference.shifted_eq_some_iff.2 ⟨rfl, (Reference.shifted_eq_some_iff.1 shifted).2⟩

end Lexeme

namespace PlacedLeaf

variable {distance : Distance} {before after : PlacedLeaf}

theorem Moved.references (moved : Moved distance before after)
    (kind : before.lexeme.kind = .cellRef) :
    ∃ ref ref', before.reference? = some ref ∧ after.reference? = some ref' ∧
      ref.movedBy distance ref' ∧ ref.shifted distance = some ref' := by
  obtain ⟨kinds, moved⟩ := moved
  rw [if_pos kind] at moved
  obtain ⟨ref, ref', decoded, decoded', moved⟩ := moved
  have on_grid := Reference.ofA1_onGrid ((reference?_eq_some_iff (kinds ▸ kind)).1 decoded')
  exact ⟨ref, ref', decoded, decoded', moved, Reference.shifted_of_movedBy on_grid moved⟩

theorem Moved.text (moved : Moved distance before after) (kind : before.lexeme.kind ≠ .cellRef) :
    before.lexeme.text = after.lexeme.text := by
  simpa [kind] using moved.2

theorem Moved.dragged (moved : Moved distance before after) (sheet : String) :
    Lexeme.Dragged distance sheet before.lexeme after.lexeme := by
  suffices on_own : Lexeme.Dragged distance before.sheet before.lexeme after.lexeme from
    on_own.on sheet
  refine ⟨moved.1, moved.text, fun kind => ?_⟩
  obtain ⟨ref, ref', decoded, decoded', -, shifted⟩ := moved.references kind
  rw [reference?_eq_some_iff kind] at decoded
  rw [reference?_eq_some_iff (moved.1 ▸ kind)] at decoded'
  have sheets : before.sheet = after.sheet := by
    obtain ⟨cell, -, rfl⟩ := Reference.ofA1_eq_ok_iff.1 decoded
    obtain ⟨cell', -, rfl⟩ := Reference.ofA1_eq_ok_iff.1 decoded'
    exact (Reference.shifted_eq_some_iff.1 shifted).1
  exact ⟨ref, ref', decoded, sheets ▸ decoded', shifted⟩

end PlacedLeaf

theorem Lexeme.Dragged.moved {distance : Distance} {before after : Lexeme} {sheet : String}
    (rows_word : distance.rows.natAbs < 4294967296) (cols_word : distance.cols.natAbs < 4294967296)
    (dragged : Dragged distance sheet before after) (number : Nat) (home : String) :
    PlacedLeaf.Moved distance ⟨number, home, before⟩ ⟨number, home, after⟩ := by
  refine ⟨dragged.kind, ?_⟩
  split
  · rename_i kind
    obtain ⟨ref, ref', decoded, decoded', shifted⟩ := (dragged.on home).shifted kind
    exact ⟨ref, ref', (PlacedLeaf.reference?_eq_some_iff kind).2 decoded,
      (PlacedLeaf.reference?_eq_some_iff (dragged.kind ▸ kind)).2 decoded',
      Reference.movedBy_of_shifted (Reference.ofA1_onGrid decoded) rows_word cols_word shifted⟩
  · exact dragged.text ‹_›

theorem alike_iff_dragged {distance : Distance} {sheet : String} {lexemes lexemes' : List Lexeme}
    {root root' : Tree} (rows_word : distance.rows.natAbs < 4294967296)
    (cols_word : distance.cols.natAbs < 4294967296) (parsed : parseLexemes lexemes = .ok root)
    (parsed' : parseLexemes lexemes' = .ok root') (home : String) :
    root.Alike (PlacedLeaf.Moved distance) 0 home home root' ↔
      List.Forall₂ (Lexeme.Dragged distance sheet) lexemes lexemes' := by
  have sound := parseLexemes_sound parsed
  have sound' := parseLexemes_sound parsed'
  constructor
  · intro alike
    rw [← sound.1, ← sound'.1]
    apply alike.leaves_forall₂
    intro before after moved
    exact moved.dragged sheet
  · intro dragged
    obtain ⟨_, same, related⟩ :=
      parseLexemes_related (Lexeme.dragged_indistinct distance sheet) dragged parsed
    cases parsed'.symm.trans same
    refine related.alike ?_ ?_ 0 home sound.2
    · intro before after dragged
      exact dragged.text
    · intro number home before after dragged
      exact dragged.moved rows_word cols_word number home

theorem startsWithEquals_of_tokenize {text : String} {tokens : List Token}
    (cut : tokenize text = .ok tokens) : startsWithEquals text := by
  simp only [tokenize] at cut
  split at cut
  · rename_i rest chars
    simp [startsWithEquals, chars]
  · cases cut

/-- Of two formulas, the checker accepts the second exactly if its tokens are those of the first,
dragged by the distance between the cells, and then names the first one's moving references. -/
theorem checkFormulas_compatible_iff {text text' : String} {formula formula' : Formula}
    {origin candidate : Address} (parsed : Formula.parse text = .ok formula)
    (parsed' : Formula.parse text' = .ok formula') (same_sheet : origin.sheet = candidate.sheet)
    (origin_words : origin.InWords) (candidate_words : candidate.InWords) :
    ∃ tokens tokens' outcome, tokenize text = .ok tokens ∧ tokenize text' = .ok tokens' ∧
      checkFormulas text origin text' candidate = .ok outcome ∧
      (∀ sheet, outcome.isCompatible ↔
        List.Forall₂ (Lexeme.Dragged (.between origin candidate) sheet) (solidLexemes tokens)
          (solidLexemes tokens')) ∧
      ∀ bindings, outcome = .compatible bindings →
        bindings = (formula.root.references origin.sheet).filter (·.2.isVariable) := by
  obtain ⟨-, tokens, cut, read⟩ := Formula.parse_eq_ok_iff.1 parsed
  obtain ⟨-, tokens', cut', read'⟩ := Formula.parse_eq_ok_iff.1 parsed'
  have checked : checkFormulas text origin text' candidate =
      .ok (checkTrees formula.root origin formula'.root candidate) := by
    simp [checkFormulas, startsWithEquals_of_tokenize cut, startsWithEquals_of_tokenize cut',
      parsed, parsed']
  refine ⟨tokens, tokens', _, cut, cut', checked, ?_, ?_⟩
  · intro sheet
    have bounds := Distance.between_bounds origin_words candidate_words
    rw [isCompatible_checkTrees, ← same_sheet,
      alike_iff_dragged bounds.1 bounds.2 read read' origin.sheet]
  · intro bindings compatible
    exact (checkTrees_eq_compatible_iff.1 compatible).2

def sumTree (first : String) : Tree :=
  .node .formula [.leaf ⟨.equals, "="⟩,
    .node .binary [.leaf ⟨.cellRef, first⟩, .leaf ⟨.infixOp, "+"⟩, .leaf ⟨.cellRef, "$B$2"⟩]]

theorem parse_sum :
    Formula.parse "=A1+$B$2" = .ok ⟨"=A1+$B$2", sumTree "A1"⟩ ∧
      Formula.parse "=A2+$B$2" = .ok ⟨"=A2+$B$2", sumTree "A2"⟩ := by
  have cut (first text : String) (tokens : tokenize text = .ok [⟨⟨.equals, "="⟩, 0, 1⟩,
      ⟨⟨.cellRef, first⟩, 1, 3⟩, ⟨⟨.infixOp, "+"⟩, 3, 4⟩, ⟨⟨.cellRef, "$B$2"⟩, 4, 8⟩]) :
      Formula.parse text = .ok ⟨text, sumTree first⟩ :=
    Formula.parse_eq_ok_iff.2 ⟨rfl, _, tokens, rfl⟩
  exact ⟨cut "A1" "=A1+$B$2" (by with_unfolding_all rfl),
    cut "A2" "=A2+$B$2" (by with_unfolding_all rfl)⟩

theorem checkFormulas_compatible_down_a_column :
    ∃ tokens tokens' outcome, tokenize "=A1+$B$2" = .ok tokens ∧
      tokenize "=A2+$B$2" = .ok tokens' ∧
      checkFormulas "=A1+$B$2" ⟨"S", 1, 3⟩ "=A2+$B$2" ⟨"S", 2, 3⟩ = .ok outcome ∧
      (∀ sheet, outcome.isCompatible ↔
        List.Forall₂ (Lexeme.Dragged ⟨1, 0⟩ sheet) (solidLexemes tokens)
          (solidLexemes tokens')) ∧
      ∀ bindings, outcome = .compatible bindings →
        bindings = [([1, 0], ⟨"S", 1, 1, false, false⟩)] :=
  checkFormulas_compatible_iff parse_sum.1 parse_sum.2 rfl ⟨by decide, by decide⟩
    ⟨by decide, by decide⟩

end FormulaRuns
