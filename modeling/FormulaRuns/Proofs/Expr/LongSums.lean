import FormulaRuns.Proofs.Expr.RoundTrip

namespace FormulaRuns.Ones

def one : Lexeme := ⟨.number, "1"⟩

def plus : Lexeme := ⟨.infixOp, "+"⟩

def text (count : Nat) : String := String.join (List.replicate count "+1")

def lexemes (count : Nat) : List Lexeme := (List.replicate count [plus, one]).flatten

def tree (left : Tree) : Nat → Tree
  | 0 => left
  | count + 1 => tree (.node .binary [left, .leaf plus, .leaf one]) count

def sum (left : Expr) : Nat → Expr
  | 0 => left
  | count + 1 => sum (.binary .add left (.number 1)) count

theorem text_succ (count : Nat) : text (count + 1) = "+1" ++ text count := by
  simp [text, List.replicate_succ, String.join_cons]

theorem lexemes_succ (count : Nat) : lexemes (count + 1) = plus :: one :: lexemes count := by
  simp [lexemes, List.replicate_succ]

theorem read_one : readNumber "1".toList = some 1 := by decide +kernel

theorem eq_one_of_read {x : Float} (read : readNumber one.text.toList = some x) : x = 1 :=
  Option.some.inj (read.symm.trans read_one)

theorem isFinite_one : (1 : Float).isFinite := by decide +kernel

theorem display_one : plainLayout.float 1 = "1" := by decide +kernel

theorem display_reads_one : readNumber (plainLayout.float 1).toList = some 1 := by
  rw [display_one]
  exact read_one

theorem cuts_one {openers : List Opener} {ahead : List Char} (follows : Follows ahead) :
    Cuts openers "1".toList ahead [one] := by
  have number : IsPlainNumber "1".toList := ⟨⟨'1', [], rfl, rfl⟩, by simp⟩
  exact cuts_number number (by rw [read_one]; rfl) follows

theorem cuts_plus_one {openers : List Opener} {front : List Char} {others : List Lexeme}
    (first : ∀ {ahead}, Follows ahead → Cuts openers front ahead others) {ahead : List Char}
    (follows : Follows ahead) :
    Cuts openers (front ++ "+1".toList) ahead (others ++ [plus, one]) := by
  have joint : Joins openers BinaryOp.add.symbol.toList ("1".toList ++ ahead) [plus] :=
    joins_operator ⟨'1', ahead, rfl, by decide⟩ nofun
  have cut := (first (Expr.follows_symbol .add ("1".toList ++ ahead))).join joint (cuts_one follows)
  simpa [BinaryOp.symbol] using cut

theorem cuts_text {openers : List Opener} {front ahead : List Char} {others : List Lexeme}
    (count : Nat) (first : ∀ {ahead}, Follows ahead → Cuts openers front ahead others)
    (follows : Follows ahead) :
    Cuts openers (front ++ (text count).toList) ahead (others ++ lexemes count) := by
  induction count generalizing front others with
  | zero => simpa [text, lexemes] using first follows
  | succ count ih =>
    have cut := ih (cuts_plus_one first)
    simpa [text_succ, lexemes_succ] using cut

theorem print_sum {left : Expr} (count : Nat) (tight : 3 ≤ left.precedence) :
    (sum left count).print = left.print ++ text count := by
  induction count generalizing left with
  | zero => simp [sum, text]
  | succ count ih =>
    have bare : left.enclosedBelow 3 left.print = left.print := if_neg (Nat.not_lt.2 tight)
    have longer : (Expr.binary .add left (.number 1)).print = left.print ++ "+1" := by
      rw [Expr.print, Expr.print, display_one, String.append_assoc]
      exact congrArg (· ++ "+1") bare
    have still_tight : 3 ≤ (Expr.binary .add left (.number 1)).precedence := Nat.le_refl 3
    rw [sum, ih still_tight, longer, text_succ, String.append_assoc]

theorem readsAs_one (sheet : String) : (Tree.leaf one).ReadsAs sheet (.number 1) := by
  intro start
  have number : one.kind = .number := rfl
  have read : readNumber one.text.toList = some 1 := read_one
  simp [Tree.toExpr, Folding.leaf, number, read]

theorem tree_readsAs {sheet : String} {left : Tree} {e : Expr} (count : Nat)
    (read : left.ReadsAs sheet e) : (tree left count).ReadsAs sheet (sum e count) := by
  induction count generalizing left e with
  | zero => exact read
  | succ count ih => exact ih (read.binary rfl (readsAs_one sheet))

theorem isLegible_sum {left : Expr} (count : Nat) (legible : left.isLegible true)
    (no_name : left.finalName? = none) : (sum left count).isLegible true := by
  induction count generalizing left with
  | zero => exact legible
  | succ count ih =>
    have longer : (Expr.binary .add left (.number 1)).isLegible true := by
      simp [Expr.isLegible, Expr.meetsSign, no_name, legible]
    exact ih longer (by simp [Expr.finalName?])

theorem ends_nil : Ends [] := ⟨notAhead_nil _, notAhead_nil _⟩

theorem ends_lexemes {behind : List Lexeme} (ends : Ends behind) (count : Nat) :
    Ends (lexemes count ++ behind) := by
  cases count with
  | zero => exact ends
  | succ count =>
    rw [lexemes_succ]
    exact ⟨notAhead_cons.2 (by decide), notAhead_cons.2 (by decide)⟩

theorem leadingLevel?_lexemes {behind : List Lexeme} (no_operator : leadingLevel? behind = none)
    (count : Nat) : ∀ level ∈ leadingLevel? (lexemes count ++ behind), level < 4 := by
  cases count with
  | zero => simp [lexemes, no_operator]
  | succ count =>
    have leads : leadingLevel? (plus :: one :: (lexemes count ++ behind)) = some 3 := rfl
    simp [lexemes_succ, leads]

theorem operand_one (inner : Level) {rest : List Lexeme} (ends : Ends rest) :
    operand inner (one :: rest) = .ok (.leaf one, rest) := by
  have primary_read : primary inner (one :: rest) = .ok (.leaf one, rest) :=
    rangeFrom_alone (.leaf one) ends.colon
  have not_sign : one.kind ≠ .prefixOp := by decide
  simp only [operand, not_sign, if_false, primary_read, ok_bind,
    postfixes_stop _ ends.postfixOp]

theorem chain_lexemes (limit levels : Nat) {behind : List Lexeme} (ends : Ends behind)
    (no_operator : leadingLevel? behind = none) (links : Nat) (left : Tree) (count : Nat) :
    chain (Level.above limit levels) 0 links left (lexemes count ++ behind) =
      if count ≤ links then .ok (tree left count, behind)
      else .error ⟨.tooDeep, lexemes (count - links) ++ behind⟩ := by
  induction count generalizing links left with
  | zero =>
    have stops : ∀ level ∈ leadingLevel? behind, level < 0 := by simp [no_operator]
    simp [lexemes, tree, chain_stops _ links left stops]
  | succ count ih =>
    have goes_on : plus.kind = .infixOp ∧ 0 ≤ plus.precedence.level := ⟨rfl, Nat.zero_le _⟩
    cases links with
    | zero => simp [lexemes_succ, chain, goes_on]
    | succ links =>
      have one_read : (Level.above limit levels).expression plus.precedence.right
          (one :: (lexemes count ++ behind)) = .ok (.leaf one, lexemes count ++ behind) := by
        have stops := leadingLevel?_lexemes no_operator count
        have read (inner : Level) := operand_one inner (ends_lexemes ends count)
        cases levels with
        | zero =>
          change expression Level.sealed 0 4 _ = _
          simp only [expression, read, ok_bind, chain_stops _ _ _ stops]
        | succ levels =>
          change expression (Level.above limit levels) (levels + 1) 4 _ = _
          simp only [expression, read, ok_bind, chain_stops _ _ _ stops]
      simp only [lexemes_succ, List.cons_append, chain, goes_on, and_self, if_true, one_read,
        ok_bind, ih]
      simp [tree]

theorem expression_lexemes (limit levels links : Nat) {behind : List Lexeme} (ends : Ends behind)
    (no_operator : leadingLevel? behind = none) (count : Nat) :
    expression (Level.above limit levels) links 0 (one :: (lexemes count ++ behind)) =
      if count ≤ links then .ok (tree (.leaf one) count, behind)
      else .error ⟨.tooDeep, lexemes (count - links) ++ behind⟩ := by
  rw [expression, operand_one _ (ends_lexemes ends count), ok_bind]
  exact chain_lexemes limit levels ends no_operator links (.leaf one) count

theorem expression_outermost (limit : Nat) : (Level.above limit nestingLimit).expression =
    expression (Level.above limit 511) nestingLimit := rfl

theorem leaves_tree (left : Tree) (count : Nat) :
    (tree left count).leaves = left.leaves ++ lexemes count := by
  induction count generalizing left with
  | zero => simp [tree, lexemes]
  | succ count ih => simp [tree, ih, lexemes_succ, Tree.leaves, Tree.forestLeaves]

def bracketed (count : Nat) : Tree :=
  .node .formula [.leaf ⟨.equals, "="⟩, tree (tree (.leaf one) 1).parenthesized count]

theorem plainExpr_bracketed (count : Nat) (sheet : String) :
    (bracketed count).plainExpr sheet = .ok (sum (.number 1) (count + 1)) := by
  have front := (tree_readsAs 1 (readsAs_one sheet)).paren ⟨.openParen, "("⟩ ⟨.closeParen, ")"⟩
  exact (tree_readsAs count front).formula _

theorem eq_one_of_mem_bracketed {count : Nat} {lexeme : Lexeme}
    (member : lexeme ∈ (bracketed count).leaves) (number : lexeme.kind = .number) :
    lexeme = one := by
  have tokens : (bracketed count).leaves = [⟨.equals, "="⟩, ⟨.openParen, "("⟩, one, plus, one,
      ⟨.closeParen, ")"⟩] ++ lexemes count := by
    simp [bracketed, leaves_tree, Tree.leaves, Tree.forestLeaves, Tree.parenthesized, tree]
  have only_ones : ∀ lexeme ∈ [⟨.equals, "="⟩, ⟨.openParen, "("⟩, one, plus, one,
      ⟨.closeParen, ")"⟩], lexeme.kind = .number → lexeme = one := by decide
  rw [tokens, List.mem_append] at member
  rcases member with front | link
  · exact only_ones lexeme front number
  · obtain ⟨pair, copied, inside⟩ := List.mem_flatten.1 link
    rw [List.eq_of_mem_replicate copied] at inside
    rcases List.mem_pair.1 inside with rfl | same
    · cases number
    · exact same

/-- Brackets take the parser one level in, and out again. -/
theorem operand_parenthesized {inner : Level} {body rest : List Lexeme} {tree : Tree}
    (read : inner.expression 0 (body ++ ⟨.closeParen, ")"⟩ :: rest) =
      .ok (tree, ⟨.closeParen, ")"⟩ :: rest))
    (no_percent : NotAhead .postfixOp rest) :
    operand inner (⟨.openParen, "("⟩ :: (body ++ ⟨.closeParen, ")"⟩ :: rest)) =
      .ok (tree.parenthesized, rest) := by
  simp [operand, primary, read, expect, postfixes_stop _ no_percent, Tree.parenthesized]

theorem operand_bracketed (limit levels count : Nat) :
    operand (Level.above limit (levels + 1))
        ([⟨.openParen, "("⟩, one, plus, one, ⟨.closeParen, ")"⟩] ++ lexemes count) =
      .ok ((tree (.leaf one) 1).parenthesized, lexemes count) := by
  have ends : Ends (⟨.closeParen, ")"⟩ :: lexemes count) := ends_of_isBoundary rfl _
  have no_percent : NotAhead .postfixOp (lexemes count) := by
    simpa using (ends_lexemes ends_nil count).postfixOp
  have body_read : (Level.above limit (levels + 1)).expression 0
      ([one, plus, one] ++ ⟨.closeParen, ")"⟩ :: lexemes count) =
      .ok (tree (.leaf one) 1, ⟨.closeParen, ")"⟩ :: lexemes count) := by
    change expression (Level.above limit levels) (levels + 1) 0 _ = _
    simpa [lexemes_succ, lexemes] using expression_lexemes limit levels (levels + 1) ends rfl 1
  exact operand_parenthesized body_read no_percent

theorem parse_bracketed {count : Nat} (fits : count ≤ nestingLimit) :
    ∃ formula, Formula.parse ("=" ++ ("(1+1)" ++ text count)) = .ok formula ∧
      formula.root = bracketed count := by
  have inside {ahead : List Char} (follows : Follows ahead) :
      Cuts [.paren] ("1".toList ++ "+1".toList) ahead ([one] ++ [plus, one]) :=
    cuts_plus_one cuts_one follows
  have brackets {ahead : List Char} (_ : Follows ahead) :
      Cuts [] "(1+1)".toList ahead [⟨.openParen, "("⟩, one, plus, one, ⟨.closeParen, ")"⟩] :=
    (inside (follows_cons.2 (by decide))).paren
  have cuts := cuts_text count brackets follows_nil
  rw [← String.toList_append] at cuts
  obtain ⟨tokens, cut, solid⟩ := cuts.tokenize
  have body_read (limit : Nat) : (Level.above limit nestingLimit).expression 0
      ([⟨.openParen, "("⟩, one, plus, one, ⟨.closeParen, ")"⟩] ++ lexemes count) =
      .ok (tree (tree (.leaf one) 1).parenthesized count, []) := by
    have links_read := chain_lexemes limit 511 ends_nil rfl nestingLimit
      (tree (.leaf one) 1).parenthesized count
    rw [List.append_nil, if_pos fits] at links_read
    rw [expression_outermost, expression, operand_bracketed, ok_bind]
    exact links_read
  refine ⟨⟨_, _⟩, Formula.parse_eq_ok_iff.2 ⟨rfl, tokens, cut, ?_⟩, rfl⟩
  rw [solid]
  simp only [parseLexemes, expect, if_true, ok_bind, body_read]

theorem parse_long {count : Nat} (too_long : nestingLimit < count) :
    ∃ position, Formula.parse ("=" ++ ("1" ++ text count)) = .error ⟨.tooDeep, position⟩ := by
  have first {ahead : List Char} (follows : Follows ahead) :
      Cuts [] "1".toList ahead [one] := cuts_one follows
  have cuts := cuts_text count first follows_nil
  rw [← String.toList_append] at cuts
  obtain ⟨tokens, cut, solid⟩ := cuts.tokenize
  have body_read (limit : Nat) : (Level.above limit nestingLimit).expression 0
      ([one] ++ lexemes count) = .error ⟨.tooDeep, lexemes (count - nestingLimit)⟩ := by
    have read := expression_lexemes limit 511 nestingLimit ends_nil rfl count
    rw [List.append_nil, List.append_nil, if_neg (Nat.not_le.2 too_long)] at read
    rw [expression_outermost]
    exact read
  have deep : parseLexemes (solidLexemes tokens) =
      .error ⟨.tooDeep, lexemes (count - nestingLimit)⟩ := by
    rw [solid]
    simp only [parseLexemes, expect, if_true, ok_bind, body_read, error_bind]
  exact Formula.parse_eq_tooDeep cut deep

end FormulaRuns.Ones
