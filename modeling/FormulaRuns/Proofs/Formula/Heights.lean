import FormulaRuns.Proofs.Formula.Depth
import FormulaRuns.Proofs.Expr.Display
import Mathlib.Order.Bounds.Defs

namespace FormulaRuns

namespace Ones

/-- The one below all the brackets. Around it, on each level, brackets with ones added to them, as
many as there are levels further in. -/
def towerText : Nat → String
  | 0 => "1"
  | levels + 1 => "(" ++ (towerText levels ++ ")") ++ text (levels + 1)

def towerLexemes : Nat → List Lexeme
  | 0 => [one]
  | levels + 1 =>
    ⟨.openParen, "("⟩ :: (towerLexemes levels ++ [⟨.closeParen, ")"⟩]) ++ lexemes (levels + 1)

def tower : Nat → Tree
  | 0 => .leaf one
  | levels + 1 => tree (tower levels).parenthesized (levels + 1)

def wayDown : Nat → Path
  | 0 => []
  | levels + 1 => List.replicate (levels + 1) 0 ++ 1 :: wayDown levels

theorem cuts_tower (levels : Nat) {openers : List Opener} {ahead : List Char}
    (follows : Follows ahead) :
    Cuts openers (towerText levels).toList ahead (towerLexemes levels) := by
  induction levels generalizing openers ahead with
  | zero => exact cuts_one follows
  | succ levels ih =>
    have brackets {ahead : List Char} (_ : Follows ahead) :
        Cuts openers ('(' :: ((towerText levels).toList ++ [')'])) ahead
          (⟨.openParen, "("⟩ :: (towerLexemes levels ++ [⟨.closeParen, ")"⟩])) :=
      (ih (follows_cons.2 (by decide))).paren
    have cut := cuts_text (levels + 1) brackets follows
    simpa [towerText, towerLexemes] using cut

theorem expression_tower (limit levels : Nat) {behind : List Lexeme} (ends : Ends behind)
    (no_operator : leadingLevel? behind = none) :
    (Level.above limit levels).expression 0 (towerLexemes levels ++ behind) =
      .ok (tower levels, behind) := by
  induction levels generalizing behind with
  | zero =>
    have stops : ∀ level ∈ leadingLevel? behind, level < 0 := by simp [no_operator]
    change expression Level.sealed 0 0 (one :: behind) = _
    rw [expression, operand_one _ ends, ok_bind]
    exact chain_stops _ 0 _ stops
  | succ levels ih =>
    have closed : Ends (⟨.closeParen, ")"⟩ :: (lexemes (levels + 1) ++ behind)) :=
      ends_of_isBoundary rfl _
    have brackets_read := operand_parenthesized (ih closed rfl)
      (ends_lexemes ends (levels + 1)).postfixOp
    have links_read := chain_lexemes limit levels ends no_operator (levels + 1)
      (tower levels).parenthesized (levels + 1)
    rw [if_pos (Nat.le_refl _)] at links_read
    change expression (Level.above limit levels) (levels + 1) 0 _ = _
    simp only [towerLexemes, List.cons_append, List.append_assoc, List.nil_append]
    rw [expression, brackets_read, ok_bind]
    exact links_read

theorem steps_tree (left : Tree) (count : Nat) (path : Path) :
    (tree left count).steps (List.replicate count 0 ++ path) =
      List.replicate count (.binary, 0) ++ left.steps path := by
  induction count generalizing left path with
  | zero => rfl
  | succ count ih =>
    have last := ih (.node .binary [left, .leaf plus, .leaf one]) (0 :: path)
    rw [Tree.steps_child rfl] at last
    rw [tree, List.replicate_succ', List.append_assoc, List.singleton_append, last,
      List.replicate_succ', List.append_assoc, List.singleton_append]

theorem subtreeAt_tree (left : Tree) (count : Nat) (path : Path) :
    (tree left count).subtreeAt (List.replicate count 0 ++ path) = left.subtreeAt path := by
  induction count generalizing left path with
  | zero => rfl
  | succ count ih =>
    have last := ih (.node .binary [left, .leaf plus, .leaf one]) (0 :: path)
    rw [tree, List.replicate_succ', List.append_assoc, List.singleton_append, last]
    rfl

theorem subtreeAt_tower (levels : Nat) :
    (tower levels).subtreeAt (wayDown levels) = some (.leaf one) := by
  induction levels with
  | zero => rfl
  | succ levels ih =>
    rw [tower, wayDown, subtreeAt_tree]
    exact ih

theorem opened_tower (levels : Nat) :
    (tower levels).counted Rule.opensLevel (wayDown levels) = Tree.deepest levels := by
  induction levels with
  | zero => rfl
  | succ levels ih =>
    rw [Tree.counted] at ih ⊢
    rw [tower, wayDown, steps_tree, Tree.parenthesized, Tree.steps_child rfl, List.countP_append,
      List.countP_cons_of_pos rfl, ih, List.countP_replicate, Tree.deepest, Nat.add_comm 1]
    rfl

theorem parse_tower {levels : Nat} (all : levels = nestingLimit) :
    ∃ formula, Formula.parse ("=" ++ towerText levels) = .ok formula ∧
      formula.root = .node .formula [.leaf ⟨.equals, "="⟩, tower levels] := by
  obtain ⟨tokens, cut, solid⟩ := (cuts_tower levels follows_nil).tokenize
  have body_read (limit : Nat) : (Level.above limit nestingLimit).expression 0
      (towerLexemes levels) = .ok (tower levels, []) := by
    rw [← all]
    simpa using expression_tower limit levels ends_nil rfl
  refine ⟨⟨_, _⟩, Formula.parse_eq_ok_iff.2 ⟨rfl, tokens, cut, ?_⟩, rfl⟩
  rw [solid]
  simp only [parseLexemes, expect, if_true, ok_bind, body_read]

def percent : Lexeme := ⟨.postfixOp, "%"⟩

def percents (body : Tree) : Nat → Tree
  | 0 => body
  | count + 1 => percents (.node .postfixed [body, .leaf percent]) count

theorem cuts_percents {front ahead : List Char} {others : List Lexeme} (count : Nat)
    (first : ∀ {ahead}, Follows ahead → Cuts [] front ahead others) (follows : Follows ahead) :
    Cuts [] (front ++ List.replicate count '%') ahead (others ++ List.replicate count percent) := by
  induction count generalizing front others with
  | zero => simpa using first follows
  | succ count ih =>
    have longer {ahead : List Char} (follows : Follows ahead) :
        Cuts [] (front ++ ['%']) ahead (others ++ [percent]) :=
      (first (follows_cons.2 (by decide))).percent follows
    simpa [List.replicate_succ] using ih longer

theorem postfixes_percents (body : Tree) (count : Nat) :
    postfixes body (List.replicate count percent) = (percents body count, []) := by
  induction count generalizing body with
  | zero => rfl
  | succ count ih => exact ih _

theorem height_percents (body : Tree) (count : Nat) :
    (percents body count).height = body.height + count := by
  induction count generalizing body with
  | zero => rfl
  | succ count ih =>
    have higher : (Tree.node .postfixed [body, .leaf percent]).height = body.height + 1 := by
      have body_high := body.height_pos
      simp [Tree.height, Tree.forestHeight]
      omega
    calc (percents body (count + 1)).height
      _ = (Tree.node .postfixed [body, .leaf percent]).height + count := ih _
      _ = body.height + (count + 1) := by rw [higher, Nat.add_right_comm, Nat.add_assoc]

theorem operand_percents (inner : Level) (count : Nat) :
    operand inner (one :: List.replicate count percent) = .ok (percents (.leaf one) count, []) := by
  have no_colon : NotAhead .colon (List.replicate count percent) := by
    cases count with
    | zero => exact notAhead_nil _
    | succ count => exact notAhead_cons.2 (by decide)
  have primary_read : primary inner (one :: List.replicate count percent) =
      .ok (.leaf one, List.replicate count percent) := rangeFrom_alone (.leaf one) no_colon
  have not_sign : one.kind ≠ .prefixOp := by decide
  simp only [operand, not_sign, if_false, primary_read, ok_bind, postfixes_percents]

theorem parse_percents (count : Nat) :
    ∃ formula, Formula.parse ("=" ++ String.ofList ('1' :: List.replicate count '%')) =
      .ok formula ∧
      formula.root = .node .formula [.leaf ⟨.equals, "="⟩, percents (.leaf one) count] := by
  have first {ahead : List Char} (follows : Follows ahead) : Cuts [] ['1'] ahead [one] :=
    cuts_one follows
  have cuts := cuts_percents count first follows_nil
  rw [List.singleton_append, ← String.toList_ofList (l := '1' :: List.replicate count '%')] at cuts
  obtain ⟨tokens, cut, solid⟩ := cuts.tokenize
  have body_read (limit : Nat) : (Level.above limit nestingLimit).expression 0
      ([one] ++ List.replicate count percent) = .ok (percents (.leaf one) count, []) := by
    rw [expression_outermost, expression, List.singleton_append, operand_percents, ok_bind]
    rfl
  refine ⟨⟨_, _⟩, Formula.parse_eq_ok_iff.2 ⟨rfl, tokens, cut, ?_⟩, rfl⟩
  rw [solid]
  simp only [parseLexemes, expect, if_true, ok_bind, body_read]

def wayInside (count : Nat) : Path := 1 :: (List.replicate count 0 ++ [1, 0])

theorem subtreeAt_bracketed (count : Nat) :
    (bracketed count).subtreeAt (wayInside count) = some (.leaf one) :=
  subtreeAt_tree _ count [1, 0]

theorem opened_bracketed (count : Nat) :
    (bracketed count).counted Rule.opensLevel (wayInside count) = count + 2 := by
  rw [Tree.counted, bracketed, wayInside, Tree.steps_child rfl, steps_tree,
    List.countP_cons_of_neg (by decide), List.countP_append, List.countP_replicate]
  rfl

end Ones

namespace Formula

theorem deepest_nestingLimit : Tree.deepest nestingLimit = 131840 := by
  have twice := Tree.two_mul_deepest nestingLimit
  have product : nestingLimit * (nestingLimit + 3) = 2 * 131840 := rfl
  omega

theorem opened_le_deepest {text : String} {formula : Formula}
    (parsed : Formula.parse text = .ok formula) (path : Path) :
    formula.root.counted Rule.opensLevel path ≤ 131840 := by
  have few := counted_le parsed Rule.opensLevel path
  have nothing_beside : formula.root.beside Rule.opensLevel = 0 := by
    simp [Tree.beside, Tree.inReference, Rule.opensLevel]
  rw [nothing_beside, deepest_nestingLimit] at few
  exact few

/-- The levels that the brackets of a tower open and those of its chains, all on one way down. -/
theorem deepest_nesting :
    IsGreatest {depth | ∃ text formula path lexeme, Formula.parse text = .ok formula ∧
      formula.root.subtreeAt path = some (.leaf lexeme) ∧
      formula.root.counted Rule.opensLevel path = depth} 131840 := by
  constructor
  · obtain ⟨levels, all⟩ : ∃ levels, levels = nestingLimit := ⟨_, rfl⟩
    obtain ⟨formula, parsed, root⟩ := Ones.parse_tower all
    refine ⟨_, formula, 1 :: Ones.wayDown levels, Ones.one, parsed, ?_, ?_⟩
    · rw [root]
      exact Ones.subtreeAt_tower levels
    · rw [root, Tree.counted, Tree.steps_child rfl, List.countP_cons_of_neg (by decide),
        ← deepest_nestingLimit, ← all]
      exact Ones.opened_tower levels
  · rintro depth ⟨text, formula, path, -, parsed, -, rfl⟩
    exact opened_le_deepest parsed path

/-- A way down opens no more levels than the limit if it takes no left operand before the last
other level, and otherwise one more for each of these. -/
theorem opened_le {text : String} {formula : Formula} (parsed : Formula.parse text = .ok formula) :
    (∀ path front back, formula.root.steps path = front ++ back → Tree.OnlyLefts back →
      formula.root.counted Rule.opensLevel path ≤ nestingLimit + front.count (.binary, 0)) ∧
    ∀ path, formula.root.counted Rule.opensLevel path ≤ 131840 :=
  ⟨fun _ _ _ split only_lefts => opened_le_add_lefts parsed split only_lefts,
    opened_le_deepest parsed⟩

theorem opened_le_of_percentage :
    ∃ formula, Formula.parse "=(A1+1)%" = .ok formula ∧
      formula.root.steps [1, 0, 1, 0] =
        [(.formula, 1), (.postfixed, 0), (.paren, 1)] ++ [(.binary, 0)] ∧
      Tree.OnlyLefts [(.binary, 0)] ∧
      formula.root.counted Rule.opensLevel [1, 0, 1, 0] ≤ nestingLimit := by
  have split : percentageTree.steps [1, 0, 1, 0] =
      [(.formula, 1), (.postfixed, 0), (.paren, 1)] ++ [(.binary, 0)] := rfl
  have only_lefts : Tree.OnlyLefts [(.binary, 0)] := by simp [Tree.OnlyLefts]
  exact ⟨_, parse_percentage, split, only_lefts,
    (opened_le parse_percentage).1 _ _ _ split only_lefts⟩

/-- Brackets in front of a chain that uses all the levels, and two levels more inside them. -/
theorem nesting_beyond_limit :
    ∃ formula path lexeme,
      Formula.parse ("=" ++ ("(1+1)" ++ String.join (List.replicate 512 "+1"))) = .ok formula ∧
      formula.root.subtreeAt path = some (.leaf lexeme) ∧
      nestingLimit < formula.root.counted Rule.opensLevel path := by
  obtain ⟨formula, parsed, root⟩ := Ones.parse_bracketed (Nat.le_refl nestingLimit)
  refine ⟨formula, Ones.wayInside nestingLimit, Ones.one, parsed, ?_, ?_⟩
  · rw [root]
    exact Ones.subtreeAt_bracketed nestingLimit
  · rw [root, Ones.opened_bracketed]
    exact Nat.lt_add_of_pos_right Nat.two_pos

/-- Besides the postfix operators there are on a way down the nodes that the levels allow, three of
a reference, the root and a leaf. -/
theorem height_le {text : String} {formula : Formula} (parsed : Formula.parse text = .ok formula) :
    formula.root.height ≤ 131845 + formula.root.postfixOps := by
  obtain ⟨path, lexeme, found, long⟩ := Tree.exists_leaf_at_height (grammatical parsed)
  calc formula.root.height
    _ = (formula.root.steps path).length + 1 := by rw [Tree.length_steps found, long]
    _ = formula.root.counted (fun _ => true) path + 1 := by rw [Tree.counted, List.countP_true]
    _ ≤ 1 + (Tree.deepest nestingLimit + formula.root.beside fun _ => true) + 1 :=
        Nat.add_le_add_right (counted_le parsed _ path) 1
    _ = 131845 + formula.root.postfixOps := by
        rw [Tree.beside, deepest_nestingLimit]
        simp [Tree.inReference]
        omega

theorem height_le_of_percentage :
    ∃ formula, Formula.parse "=(A1+1)%" = .ok formula ∧ formula.root.postfixOps = 1 ∧
      formula.root.height ≤ 131846 :=
  ⟨_, parse_percentage, rfl, height_le parse_percentage⟩

/-- Each postfix operator puts one more node on top, without any limit. -/
theorem height_unbounded :
    ¬∃ bound, ∀ text formula, Formula.parse text = .ok formula → formula.root.height ≤ bound := by
  rintro ⟨bound, bounded⟩
  obtain ⟨formula, parsed, root⟩ := Ones.parse_percents bound
  have too_low := bounded _ formula parsed
  rw [root, Tree.height, Tree.forestHeight, Tree.forestHeight, Ones.height_percents] at too_low
  simp [Tree.height, Tree.forestHeight] at too_low

end Formula

end FormulaRuns
