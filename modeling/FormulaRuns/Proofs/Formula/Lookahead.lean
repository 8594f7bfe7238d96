import FormulaRuns.Proofs.Formula.Steps
import FormulaRuns.Proofs.Grid.A1

/-!
What a token can see of the text behind it. It ends where it does on account of the next character
at most, and most tokens only ask of that character whether it is some mark. So the same token is
cut off in front of any other text that begins alike (`next_again`); to begin with another cell
reference is to begin alike.
-/
namespace FormulaRuns

def startsCell (c : Char) : Bool := c.isAlpha || c == '$'

/-- What a token can see of the text behind it: the first character, or that it begins a cell
reference. -/
inductive SameOutset : List Char → List Char → Prop
  | nil : SameOutset [] []
  | same {c : Char} {rest rest' : List Char} : SameOutset (c :: rest) (c :: rest')
  | cell {c d : Char} {rest rest' : List Char} : startsCell c → startsCell d →
      SameOutset (c :: rest) (d :: rest')

theorem SameOutset.head?_eq_some_iff {ahead ahead' : List Char} (outset : SameOutset ahead ahead')
    {mark : Char} (plain : startsCell mark = false) :
    ahead'.head? = some mark ↔ ahead.head? = some mark := by
  cases outset with
  | nil => exact Iff.rfl
  | same => exact Iff.rfl
  | @cell c d _ _ starts starts' =>
    have other : c ≠ mark := by rintro rfl; simp [plain] at starts
    have other' : d ≠ mark := by rintro rfl; simp [plain] at starts'
    simp [other, other']

theorem SameOutset.stops_blanks {rest ahead' : List Char}
    (outset : SameOutset (rest.dropWhile isLineBlank) ahead') :
    ∀ c ∈ ahead'.head?, isLineBlank c = false := by
  intro c head
  by_contra blank
  have is_blank : isLineBlank c := by simpa using blank
  have plain : startsCell c = false := by
    rcases Bool.or_eq_true_iff.1 is_blank with same | same <;> rw [eq_of_beq same] <;> rfl
  have refused := List.head?_dropWhile_not isLineBlank rest
  rw [(outset.head?_eq_some_iff plain).1 head] at refused
  simp [is_blank] at refused

theorem SameOutset.stops_operator {c : Char} {ahead ahead' : List Char}
    (outset : SameOutset ahead ahead') (alone : ∀ d ∈ ahead.head?, isPairedOperator c d = false) :
    ∀ d ∈ ahead'.head?, isPairedOperator c d = false := by
  cases outset with
  | nil => exact alone
  | same => exact alone
  | @cell _ d _ _ _ starts =>
    rintro _ ⟨⟩
    by_contra joined
    simp only [isPairedOperator, Bool.not_eq_false, Bool.or_eq_true, Bool.and_eq_true,
      beq_iff_eq] at joined
    rcases joined with (⟨-, rfl⟩ | ⟨-, rfl⟩) | ⟨-, rfl⟩ <;> cases starts

section Quotations

variable {mark : Char} {text taken ahead ahead' : List Char}

theorem takeQuoted_cons {c : Char} (inside : c ≠ mark) (rest : List Char) :
    takeQuoted mark (c :: rest) =
      (takeQuoted mark rest).map fun (taken, ahead) => (c :: taken, ahead) := by
  cases rest with
  | nil => simp [takeQuoted, inside]
  | cons d rest => simp [takeQuoted, inside]

theorem takeQuoted_doubled (rest : List Char) :
    takeQuoted mark (mark :: mark :: rest) =
      (takeQuoted mark rest).map fun (taken, ahead) => (mark :: mark :: taken, ahead) := by
  simp [takeQuoted]

theorem takeQuoted_end (stops : ahead.head? ≠ some mark) :
    takeQuoted mark (mark :: ahead) = some ([mark], ahead) := by
  cases ahead with
  | nil => simp [takeQuoted]
  | cons d ahead =>
    have single : d ≠ mark := by simpa using stops
    simp [takeQuoted, single]

theorem takeQuoted_stops (quoted : takeQuoted mark text = some (taken, ahead)) :
    ahead.head? ≠ some mark := by
  fun_induction takeQuoted mark text generalizing taken ahead with
  | case1 | case3 => cases quoted
  | case2 =>
    cases quoted
    simp
  | case4 c d rest _ ih =>
    obtain ⟨⟨_, _⟩, inner, same⟩ := Option.map_eq_some_iff.1 quoted
    cases same
    exact ih inner
  | case5 c rest _ ih =>
    obtain ⟨⟨_, _⟩, inner, same⟩ := Option.map_eq_some_iff.1 quoted
    cases same
    exact ih inner
  | case6 c d rest _ single =>
    cases quoted
    simpa using single

theorem takeQuoted_again (quoted : takeQuoted mark text = some (taken, ahead))
    (stops : ahead'.head? ≠ some mark) :
    takeQuoted mark (taken ++ ahead') = some (taken, ahead') := by
  fun_induction takeQuoted mark text generalizing taken ahead with
  | case1 | case3 => cases quoted
  | case2 =>
    cases quoted
    exact takeQuoted_end stops
  | case4 c d rest inside ih =>
    obtain ⟨⟨_, _⟩, inner, same⟩ := Option.map_eq_some_iff.1 quoted
    cases same
    rw [List.cons_append, takeQuoted_cons inside, ih inner]
    rfl
  | case5 c rest is_mark ih =>
    obtain ⟨⟨_, _⟩, inner, same⟩ := Option.map_eq_some_iff.1 quoted
    cases same
    obtain rfl : c = mark := by simpa using is_mark
    rw [List.cons_append, List.cons_append, takeQuoted_doubled, ih inner]
    rfl
  | case6 c d rest is_mark =>
    cases quoted
    obtain rfl : c = mark := by simpa using is_mark
    exact takeQuoted_end stops

end Quotations

def ErrorKind.folded (kind : ErrorKind) : List Char := kind.spelling.toList.map Char.toLower

theorem ErrorKind.eq_of_folded_prefix {kind kind' : ErrorKind}
    (begins : kind.folded <+: kind'.folded) :
    kind = kind' := by
  revert begins
  cases kind <;> cases kind' <;> decide

theorem errorCodeLength_eq_some_iff {text : List Char} {length : Nat} :
    errorCodeLength text = some length ↔
      ∃ kind : ErrorKind, kind.folded <+: text.map Char.toLower ∧
        length = kind.folded.length := by
  have matching (kind : ErrorKind) :
      (text.take kind.spelling.toList.length).map Char.toLower = kind.folded ↔
        kind.folded <+: text.map Char.toLower := by
    rw [List.prefix_iff_eq_take, List.map_take, ErrorKind.folded, List.length_map, eq_comm]
  have first {found : Nat} (read : errorCodeLength text = some found) :
      ∃ kind : ErrorKind, kind.folded <+: text.map Char.toLower ∧ found = kind.folded.length := by
    obtain ⟨code, member, chosen⟩ := List.exists_of_findSome?_eq_some read
    obtain ⟨kind, -, rfl⟩ := List.mem_map.1 member
    split at chosen
    · rename_i same
      cases chosen
      exact ⟨kind, (matching kind).1 same, by simp [ErrorKind.folded]⟩
    · cases chosen
  refine ⟨first, ?_⟩
  rintro ⟨kind, begins, rfl⟩
  cases read : errorCodeLength text with
  | none =>
    have refused := List.findSome?_eq_none_iff.1 read kind.spelling.toList
      (List.mem_map_of_mem (by cases kind <;> decide))
    rw [← ErrorKind.folded, if_pos ((matching kind).2 begins)] at refused
    cases refused
  | some found =>
    obtain ⟨kind', begins', rfl⟩ := first read
    have same : kind' = kind := by
      rcases List.prefix_or_prefix_of_prefix begins' begins with shorter | longer
      · exact ErrorKind.eq_of_folded_prefix shorter
      · exact (ErrorKind.eq_of_folded_prefix longer).symm
    rw [same]

theorem errorCodeLength_again {text : List Char} {length : Nat} (ahead' : List Char)
    (found : errorCodeLength text = some length) :
    errorCodeLength (text.take length ++ ahead') = some length := by
  obtain ⟨kind, begins, rfl⟩ := errorCodeLength_eq_some_iff.1 found
  refine errorCodeLength_eq_some_iff.2 ⟨kind, ?_, rfl⟩
  rw [List.map_append, List.map_take, ← List.prefix_iff_eq_take.1 begins]
  exact List.prefix_append _ _

/-- A word can end in front of this text. -/
def EndsWord (ahead : List Char) : Prop := ∀ c ∈ ahead.head?, c ∈ wordEnders

theorem startsCell_of_mem_wordEnders {c : Char} (ender : c ∈ wordEnders) :
    startsCell c = false := by
  have none_starts : wordEnders.all (!startsCell ·) := by decide
  simpa using List.all_eq_true.1 none_starts c ender

theorem EndsWord.of_outset {ahead ahead' : List Char} (ends : EndsWord ahead)
    (outset : SameOutset ahead ahead') : EndsWord ahead' := by
  cases outset with
  | nil => exact ends
  | same => exact ends
  | @cell c _ _ _ starts =>
    rw [startsCell_of_mem_wordEnders (ends c rfl)] at starts
    cases starts

theorem scanWord_again {seen : List Char} {depth : Nat} {text word ahead ahead' : List Char}
    (scanned : scanWord seen depth text = .ok (word, ahead)) (outset : SameOutset ahead ahead') :
    scanWord seen depth (word ++ ahead') = .ok (word, ahead') := by
  induction text generalizing seen depth word ahead with
  | nil =>
    simp only [scanWord] at scanned
    split at scanned
    · rename_i outside
      cases scanned
      cases outset
      simp [scanWord, outside]
    · cases scanned
  | cons c rest ih =>
    simp only [scanWord] at scanned
    split at scanned
    · cases scanned
    · rename_i unquoted
      split at scanned
      · rename_i ends
        cases scanned
        have plain := startsCell_of_mem_wordEnders ends.2.1
        have head : ahead'.head? = some c := (outset.head?_eq_some_iff plain).2 rfl
        obtain ⟨rest', rfl⟩ := List.head?_eq_some_iff.1 head
        rw [List.nil_append, scanWord, if_neg unquoted, if_pos ends]
      · rename_i goes_on
        obtain ⟨⟨word, _⟩, inner, same⟩ := map_eq_ok_iff.1 scanned
        cases same
        rw [List.cons_append, scanWord, if_neg unquoted, if_neg goes_on]
        simp only
        rw [ih inner outset]
        rfl

/-- A step takes the same from a text with something else behind what it took. -/
def Again (step : Char → List Char → Except LexStop Scanned) (c : Char) (scanned : Scanned)
    (ahead' : List Char) : Prop :=
  ∃ rest', scanned.taken ++ ahead' = c :: rest' ∧
    step c rest' = .ok ⟨scanned.kind, scanned.taken, ahead'⟩

section Steps

variable {c : Char} {rest ahead' : List Char} {scanned : Scanned}

theorem errorCode_again {length : Nat} (context : Context)
    (found : errorCodeLength ('#' :: rest) = some length) (ahead' : List Char) :
    Again context.next '#' ⟨.error, ('#' :: rest).take length, ('#' :: rest).drop length⟩
      ahead' := by
  have again := errorCodeLength_again ahead' found
  obtain ⟨kind, begins, rfl⟩ := errorCodeLength_eq_some_iff.1 found
  have exact_length : (('#' :: rest).take kind.folded.length).length = kind.folded.length := by
    have short := begins.length_le
    rw [List.length_map] at short
    rw [List.length_take, Nat.min_eq_left short]
  obtain ⟨shorter, length⟩ := Nat.exists_eq_add_of_lt (errorCodeLength_pos found)
  rw [Nat.zero_add] at length
  have whole : '#' :: (rest.take shorter ++ ahead') =
      ('#' :: rest).take kind.folded.length ++ ahead' := by
    rw [length]
    rfl
  refine ⟨rest.take shorter ++ ahead', whole.symm, ?_⟩
  have step : context.Step '#' (rest.take shorter ++ ahead') _ := .errorCode (whole ▸ again)
  rw [whole, List.take_left' exact_length, List.drop_left' exact_length] at step
  exact Context.next_of_step step

theorem wordKind_eq_operandKind {word ahead : List Char} (no_call : ahead.head? ≠ some '(')
    (no_sheet : ahead.head? ≠ some '!') : wordKind word ahead = operandKind word := by
  unfold wordKind
  split
  · exact absurd ‹_› no_call
  · exact absurd ‹_› no_sheet
  · rfl

theorem wordKind_again {word ahead : List Char} (outset : SameOutset ahead ahead') :
    wordKind word ahead' = wordKind word ahead := by
  cases outset with
  | nil | same => rfl
  | cell starts starts' =>
    have operand {c : Char} {rest : List Char} (starts : startsCell c) :
        wordKind word (c :: rest) = operandKind word := by
      apply wordKind_eq_operandKind <;> rintro ⟨⟩ <;> cases starts
    rw [operand starts, operand starts']

theorem next_again {context : Context} (taken : context.next c rest = .ok scanned)
    (outset : SameOutset scanned.ahead ahead') : Again context.next c scanned ahead' := by
  cases Context.step_of_next taken with
  | text quoted =>
    have stops := (outset.head?_eq_some_iff (by decide)).not.2 (takeQuoted_stops quoted)
    exact ⟨_, rfl, Context.next_of_step (.text (takeQuoted_again quoted stops))⟩
  | sheetName quoted bang =>
    have stops := (outset.head?_eq_some_iff (by decide)).not.2 (takeQuoted_stops quoted)
    have bang' := (outset.head?_eq_some_iff (by decide)).2 bang
    exact ⟨_, rfl, Context.next_of_step (.sheetName (takeQuoted_again quoted stops) bang')⟩
  | errorCode found => exact errorCode_again context found ahead'
  | blanks blank =>
    have ends := takeWhile_append_of_stop
      (fun d (member : d ∈ rest.takeWhile isLineBlank) => List.mem_takeWhile_imp member)
      outset.stops_blanks
    refine ⟨rest.takeWhile isLineBlank ++ ahead', rfl, ?_⟩
    rw [Context.next_of_step (.blanks blank), ends.1, ends.2]
  | pair paired => exact ⟨_, rfl, Context.next_of_step (.pair paired)⟩
  | operator operator alone =>
    exact ⟨ahead', rfl, Context.next_of_step (.operator operator (outset.stops_operator alone))⟩
  | openParen | openBrace | semicolon | comma | colon | bang => exact ⟨ahead', rfl, rfl⟩
  | closeParen openers shape =>
    exact ⟨ahead', rfl, Context.next_of_step (.closeParen openers shape)⟩
  | closeBrace openers => exact ⟨ahead', rfl, Context.next_of_step (.closeBrace openers)⟩
  | @word _ _ word ahead inside read =>
    have step : context.Step c (word ++ ahead') _ := .word inside (scanWord_again read outset)
    rw [wordKind_again outset] at step
    exact ⟨word ++ ahead', rfl, Context.next_of_step step⟩

end Steps

end FormulaRuns
