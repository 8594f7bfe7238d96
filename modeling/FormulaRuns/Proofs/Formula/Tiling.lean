import FormulaRuns.Formula.Lexer
import FormulaRuns.Proofs.Outcome
import Mathlib.Data.List.Chain

namespace FormulaRuns

/-- The tokens lie side by side from one byte to the other, none of them empty, and each as long as
its text. -/
def Tiles (start : Nat) : List Token → Nat → Prop
  | [], stop => start = stop
  | token :: tokens, stop =>
    token.start = start ∧ token.text ≠ "" ∧ token.stop = start + token.text.utf8ByteSize ∧
      Tiles token.stop tokens stop

def joinedText (tokens : List Token) : String := renderLexemes (tokens.map (·.toLexeme))

@[simp] theorem joinedText_nil : joinedText [] = "" := rfl

@[simp] theorem joinedText_cons (token : Token) (tokens : List Token) :
    joinedText (token :: tokens) = token.text ++ joinedText tokens := by
  simp [joinedText, renderLexemes, String.join_cons]

@[simp] theorem joinedText_append (before after : List Token) :
    joinedText (before ++ after) = joinedText before ++ joinedText after := by
  induction before with
  | nil => simp
  | cons token before ih => simp [ih, String.append_assoc]

namespace Tiles

variable {start stop : Nat} {tokens : List Token}

theorem stop_eq (tiles : Tiles start tokens stop) :
    stop = start + (joinedText tokens).utf8ByteSize := by
  induction tokens generalizing start with
  | nil => simpa using tiles.symm
  | cons token tokens ih =>
    obtain ⟨-, -, long, others⟩ := tiles
    calc stop
      _ = token.stop + (joinedText tokens).utf8ByteSize := ih others
      _ = start + (token.text.utf8ByteSize + (joinedText tokens).utf8ByteSize) := by
        rw [long, Nat.add_assoc]
      _ = start + (joinedText (token :: tokens)).utf8ByteSize := by
        rw [joinedText_cons, String.utf8ByteSize_append]

theorem head_start (tiles : Tiles start tokens stop) {token : Token}
    (first : tokens.head? = some token) : token.start = start := by
  cases tokens with
  | nil => cases first
  | cons head others =>
    cases first
    exact tiles.1

theorem last_stop (tiles : Tiles start tokens stop) {token : Token}
    (last : tokens.getLast? = some token) : token.stop = stop := by
  induction tokens generalizing start with
  | nil => cases last
  | cons head others ih =>
    cases others with
    | nil =>
      cases last
      exact tiles.2.2.2
    | cons next others => exact ih tiles.2.2.2 (by simpa using last)

theorem isChain (tiles : Tiles start tokens stop) :
    tokens.IsChain fun token next => token.stop = next.start := by
  induction tokens generalizing start with
  | nil => exact .nil
  | cons head others ih =>
    have others_tile := tiles.2.2.2
    refine List.isChain_cons.2 ⟨fun next first => ?_, ih others_tile⟩
    exact (others_tile.head_start first).symm

theorem token_start {before after : List Token} {token : Token}
    (tiles : Tiles start (before ++ token :: after) stop) :
    token.start = start + (joinedText before).utf8ByteSize ∧ token.text ≠ "" ∧
      token.stop = token.start + token.text.utf8ByteSize := by
  induction before generalizing start with
  | nil =>
    obtain ⟨rfl, nonempty, long, -⟩ := tiles
    exact ⟨by simp, nonempty, long⟩
  | cons head before ih =>
    obtain ⟨-, -, long, others⟩ := tiles
    obtain ⟨first, nonempty, last⟩ := ih others
    refine ⟨?_, nonempty, last⟩
    rw [first, long, joinedText_cons, String.utf8ByteSize_append, Nat.add_assoc]

end Tiles

theorem isValid_boundary (before after : String) :
    String.Pos.Raw.IsValid (before ++ after) ⟨before.utf8ByteSize⟩ :=
  String.Pos.Raw.isValid_iff_exists_append.2 ⟨before, after, rfl, rfl⟩

theorem extract_middle (before middle after : String) :
    (before ++ middle ++ after).toByteArray.extract before.utf8ByteSize
      (before.utf8ByteSize + middle.utf8ByteSize) = middle.toByteArray := by
  have skipped := ByteArray.extract_append_size_add (a := before.toByteArray)
    (b := (middle ++ after).toByteArray) (i := 0) (j := middle.utf8ByteSize)
  rw [String.append_assoc, String.toByteArray_append]
  rw [String.toByteArray_append] at skipped ⊢
  exact skipped.trans (ByteArray.extract_append_eq_left rfl)

theorem lexFrom_tiles {context : Context} {start : Nat} {text : List Char} {tokens : List Token}
    (cut : lexFrom context start text = .ok tokens) :
    (∃ stop, Tiles start tokens stop) ∧ joinedText tokens = String.ofList text := by
  fun_induction lexFrom context start text generalizing tokens with
  | case1 =>
    cases cut
    exact ⟨⟨_, rfl⟩, rfl⟩
  | case2 => cases cut
  | case3 => cases cut
  | case4 context start c rest scanned taken piece stop =>
    rename_i ih
    obtain ⟨others, others_cut, rfl⟩ := map_eq_ok_iff.1 cut
    obtain ⟨⟨last, tiles⟩, same⟩ := ih others_cut
    obtain ⟨split, nonempty⟩ := Context.next_split taken
    have piece_nonempty : piece ≠ "" := by
      intro empty
      apply nonempty
      simpa [piece] using congrArg String.toList empty
    refine ⟨⟨last, rfl, piece_nonempty, rfl, tiles⟩, ?_⟩
    rw [joinedText_cons, same, ← split, String.ofList_append]

theorem tokenize_tiles {text : String} {tokens : List Token} (cut : tokenize text = .ok tokens) :
    Tiles 0 tokens text.utf8ByteSize ∧ joinedText tokens = text := by
  unfold tokenize at cut
  split at cut
  · rename_i rest chars
    split at cut
    · rename_i others others_cut
      cases cut
      obtain ⟨⟨stop, tiles⟩, same⟩ := lexFrom_tiles others_cut
      have whole : joinedText (⟨⟨.equals, "="⟩, 0, 1⟩ :: others) = text := by
        rw [joinedText_cons, same, ← String.toList_inj, chars]
        simp
      have tiled : Tiles 0 (⟨⟨.equals, "="⟩, 0, 1⟩ :: others) stop := ⟨rfl, by decide, rfl, tiles⟩
      refine ⟨?_, whole⟩
      rw [tiled.stop_eq, whole, Nat.zero_add] at tiled
      exact tiled
    · cases cut
  · cases cut

theorem tokenize_ne_nil {text : String} {tokens : List Token} (cut : tokenize text = .ok tokens) :
    tokens ≠ [] := by
  rintro rfl
  unfold tokenize at cut
  split at cut
  · split at cut <;> cases cut
  · cases cut

/-- The tokens of a text lie side by side from its first byte to its last, and between characters;
each is what stands between its ends, and all of them together are the text. -/
theorem tokenize_lossless {text : String} {tokens : List Token}
    (cut : tokenize text = .ok tokens) :
    tokens.head?.map (·.start) = some 0 ∧
    tokens.getLast?.map (·.stop) = some text.utf8ByteSize ∧
    (tokens.IsChain fun token next => token.stop = next.start) ∧
    (∀ token ∈ tokens, token.start < token.stop ∧
      String.Pos.Raw.IsValid text ⟨token.start⟩ ∧ String.Pos.Raw.IsValid text ⟨token.stop⟩ ∧
      token.text.toByteArray = text.toByteArray.extract token.start token.stop) ∧
    renderLexemes (tokens.map (·.toLexeme)) = text := by
  obtain ⟨tiles, whole⟩ := tokenize_tiles cut
  have nonempty := tokenize_ne_nil cut
  refine ⟨?_, ?_, tiles.isChain, fun token member => ?_, whole⟩
  · have first := List.head?_eq_some_head nonempty
    rw [first, Option.map_some, tiles.head_start first]
  · have last := List.getLast?_eq_some_getLast nonempty
    rw [last, Option.map_some, tiles.last_stop last]
  · obtain ⟨before, after, rfl⟩ := List.append_of_mem member
    obtain ⟨start, some_text, stop⟩ := tiles.token_start
    rw [Nat.zero_add] at start
    have split : text = joinedText before ++ token.text ++ joinedText after := by
      rw [← whole, joinedText_append, joinedText_cons, String.append_assoc]
    have ends : (joinedText before ++ token.text).utf8ByteSize = token.stop := by
      rw [String.utf8ByteSize_append, stop, start]
    have starts_valid := isValid_boundary (joinedText before) (token.text ++ joinedText after)
    have stop_valid := isValid_boundary (joinedText before ++ token.text) (joinedText after)
    rw [← String.append_assoc, ← split, ← start] at starts_valid
    rw [← split, ends] at stop_valid
    refine ⟨?_, starts_valid, stop_valid, ?_⟩
    · have positive : 0 < token.text.utf8ByteSize := by
        rw [Nat.pos_iff_ne_zero]
        exact fun zero => some_text (String.utf8ByteSize_eq_zero_iff.1 zero)
      omega
    · rw [stop, start, split, extract_middle]

theorem tokenize_lossless_of_wide_characters :
    ∃ tokens, tokenize "=1E+3 &'ü'!A1" = .ok tokens ∧
      tokens.head?.map (·.start) = some 0 ∧
      tokens.getLast?.map (·.stop) = some (String.utf8ByteSize "=1E+3 &'ü'!A1") ∧
      (tokens.IsChain fun token next => token.stop = next.start) ∧
      (∀ token ∈ tokens, token.start < token.stop ∧
        String.Pos.Raw.IsValid "=1E+3 &'ü'!A1" ⟨token.start⟩ ∧
        String.Pos.Raw.IsValid "=1E+3 &'ü'!A1" ⟨token.stop⟩ ∧
        token.text.toByteArray =
          (String.toByteArray "=1E+3 &'ü'!A1").extract token.start token.stop) ∧
      renderLexemes (tokens.map (·.toLexeme)) = "=1E+3 &'ü'!A1" := by
  have cut : tokenize "=1E+3 &'ü'!A1" = .ok [⟨⟨.equals, "="⟩, 0, 1⟩, ⟨⟨.number, "1E+3"⟩, 1, 5⟩,
      ⟨⟨.whitespace, " "⟩, 5, 6⟩, ⟨⟨.infixOp, "&"⟩, 6, 7⟩, ⟨⟨.sheetName, "'ü'"⟩, 7, 11⟩,
      ⟨⟨.bang, "!"⟩, 11, 12⟩, ⟨⟨.cellRef, "A1"⟩, 12, 14⟩] := by
    with_unfolding_all rfl
  exact ⟨_, cut, tokenize_lossless cut⟩

end FormulaRuns
