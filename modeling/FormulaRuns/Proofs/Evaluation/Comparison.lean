import FormulaRuns.Evaluation.Operators
import FormulaRuns.Proofs.Decimal.Order

namespace FormulaRuns

variable {x y z : Float}

theorem compareFloats_eq_cmp (number : x.isNaN = false) (number' : y.isNaN = false) :
    BinaryOp.compareFloats x y = cmp (floatRank x) (floatRank y) := by
  simp only [BinaryOp.compareFloats, lt_iff_rank_lt number number', lt_iff_rank_lt number' number]
  rfl

theorem compareFloats_swap (number : x.isNaN = false) (number' : y.isNaN = false) :
    BinaryOp.compareFloats y x = (BinaryOp.compareFloats x y).swap := by
  rw [compareFloats_eq_cmp number number', compareFloats_eq_cmp number' number, cmp_swap]

theorem compareFloats_isLE_iff (number : x.isNaN = false) (number' : y.isNaN = false) :
    (BinaryOp.compareFloats x y).isLE ↔ floatRank x ≤ floatRank y := by
  rw [compareFloats_eq_cmp number number', ← not_lt, ← cmp_eq_gt_iff]
  cases cmp (floatRank x) (floatRank y) <;> simp

theorem compareFloats_isLE_trans (number : x.isNaN = false) (number' : y.isNaN = false)
    (number'' : z.isNaN = false) (first : (BinaryOp.compareFloats x y).isLE)
    (second : (BinaryOp.compareFloats y z).isLE) : (BinaryOp.compareFloats x z).isLE := by
  rw [compareFloats_isLE_iff number number'] at first
  rw [compareFloats_isLE_iff number' number''] at second
  rw [compareFloats_isLE_iff number number'']
  exact first.trans second

inductive ValueSort where
  | number | text | boolean
  deriving DecidableEq, Repr

namespace ValueSort

def besideText : ValueSort → Ordering
  | number => .lt
  | text => .eq
  | boolean => .gt

variable {sort : ValueSort}

theorem isLE_besideText_iff (no_text : sort ≠ text) : sort.besideText.isLE ↔ sort = number := by
  cases sort <;> simp_all [besideText]

theorem isLE_swap_besideText_iff (no_text : sort ≠ text) :
    sort.besideText.swap.isLE ↔ sort = boolean := by
  cases sort <;> simp_all [besideText]

end ValueSort

namespace Value

def sort? : Value → Option ValueSort
  | int _ => some .number
  | number x => if x.isNaN then none else some .number
  | text _ => some .text
  | boolean _ => some .boolean
  | _ => none

theorem sort?_number {x : Float} (is_number : x.isNaN = false) :
    (number x).sort? = some .number := by
  simp only [sort?, is_number]
  rfl

theorem text_or_number {v : Value} {sort : ValueSort} (has : v.sort? = some sort) :
    (sort = .text ∧ ∃ s, v = text s) ∨
      (sort ≠ .text ∧ ∃ x, v.number? = some x ∧ x.isNaN = false) := by
  cases v with
  | int n =>
    cases has
    exact .inr ⟨by simp, Float.ofInt n, rfl, isNaN_ofInt n⟩
  | number x =>
    simp only [sort?] at has
    split at has
    · cases has
    · rename_i number
      cases has
      exact .inr ⟨by simp, x, rfl, by simpa using number⟩
  | text s =>
    cases has
    exact .inl ⟨rfl, s, rfl⟩
  | boolean b =>
    cases has
    exact .inr ⟨by simp, truthNumber b, rfl, isNaN_truthNumber b⟩
  | array | empty | error => cases has

end Value

namespace BinaryOp

variable {a b c : Value} {sort sort' sort'' : ValueSort}

theorem order_numbers (number : a.number? = some x) (number' : b.number? = some y) :
    order a b = .ok (compareFloats x y) := by
  cases a <;> cases number <;> cases b <;> cases number' <;> rfl

theorem order_texts (s t : String) :
    order (.text s) (.text t) = .ok (compare (lowercase s) (lowercase t)) := rfl

theorem order_beside_text (has : a.sort? = some sort) (no_text : sort ≠ .text) (s : String) :
    order a (.text s) = .ok sort.besideText ∧ order (.text s) a = .ok sort.besideText.swap := by
  cases a with
  | number x =>
    simp only [Value.sort?] at has
    split at has <;> cases has
    exact ⟨rfl, rfl⟩
  | text => exact absurd (Option.some.inj has).symm no_text
  | int | boolean =>
    cases has
    exact ⟨rfl, rfl⟩
  | array | empty | error => cases has

theorem exists_ordering (has : a.sort? = some sort) (has' : b.sort? = some sort') :
    ∃ ordering, order a b = .ok ordering ∧ order b a = .ok ordering.swap := by
  rcases Value.text_or_number has with ⟨-, s, rfl⟩ | ⟨no_text, x, number, is_number⟩ <;>
    rcases Value.text_or_number has' with ⟨-, t, rfl⟩ | ⟨no_text', y, number', is_number'⟩
  · exact ⟨_, order_texts s t, congrArg Except.ok Std.OrientedOrd.eq_swap⟩
  · obtain ⟨right, left⟩ := order_beside_text has' no_text' s
    exact ⟨_, left, by rw [right, Ordering.swap_swap]⟩
  · exact ⟨_, order_beside_text has no_text t⟩
  · exact ⟨_, order_numbers number number',
      by rw [order_numbers number' number, compareFloats_swap is_number is_number']⟩

/-- The order is transitive among values of two sorts. -/
theorem order_isLE_trans (has : a.sort? = some sort) (has' : b.sort? = some sort')
    (has'' : c.sort? = some sort'') {missing : ValueSort}
    (absent : sort ≠ missing ∧ sort' ≠ missing ∧ sort'' ≠ missing) {first second third : Ordering}
    (ordered : order a b = .ok first) (ordered' : order b c = .ok second)
    (ordered'' : order a c = .ok third) (below : first.isLE) (below' : second.isLE) :
    third.isLE := by
  -- Split by which operands are texts. Where just one is, the other two are of one sort, as a sort
  -- is missing; without a text the numbers decide.
  rcases Value.text_or_number has with ⟨rfl, s, rfl⟩ | ⟨no_text, x, number, is_number⟩ <;>
    rcases Value.text_or_number has' with ⟨rfl, t, rfl⟩ | ⟨no_text', y, number', is_number'⟩ <;>
    rcases Value.text_or_number has'' with ⟨rfl, u, rfl⟩ | ⟨no_text'', z, number'', is_number''⟩
  · rw [order_texts, Except.ok.injEq] at ordered ordered' ordered''
    subst ordered ordered' ordered''
    exact Std.TransOrd.isLE_trans below below'
  · rw [(order_beside_text has'' no_text'' _).2] at ordered' ordered''
    cases ordered'.symm.trans ordered''
    exact below'
  · rw [(order_beside_text has' no_text' _).2] at ordered
    rw [(order_beside_text has' no_text' _).1] at ordered'
    cases ordered
    cases ordered'
    rw [ValueSort.isLE_swap_besideText_iff no_text'] at below
    rw [ValueSort.isLE_besideText_iff no_text', below] at below'
    cases below'
  · rw [(order_beside_text has' no_text' _).2] at ordered
    rw [(order_beside_text has'' no_text'' _).2] at ordered''
    cases ordered
    cases ordered''
    rw [ValueSort.isLE_swap_besideText_iff no_text'] at below
    rw [ValueSort.isLE_swap_besideText_iff no_text'']
    cases missing <;> cases sort'' <;> simp_all
  · rw [(order_beside_text has no_text _).1] at ordered ordered''
    cases ordered.symm.trans ordered''
    exact below
  · rw [(order_beside_text has no_text _).1] at ordered
    rw [(order_beside_text has'' no_text'' _).2] at ordered'
    cases ordered
    cases ordered'
    rw [ValueSort.isLE_besideText_iff no_text] at below
    rw [ValueSort.isLE_swap_besideText_iff no_text''] at below'
    cases missing <;> simp_all
  · rw [(order_beside_text has' no_text' _).1] at ordered'
    rw [(order_beside_text has no_text _).1] at ordered''
    cases ordered'
    cases ordered''
    rw [ValueSort.isLE_besideText_iff no_text'] at below'
    rw [ValueSort.isLE_besideText_iff no_text]
    cases missing <;> cases sort <;> simp_all
  · rw [order_numbers number number'] at ordered
    rw [order_numbers number' number''] at ordered'
    rw [order_numbers number number''] at ordered''
    cases ordered
    cases ordered'
    cases ordered''
    exact compareFloats_isLE_trans is_number is_number' is_number'' below below'

theorem apply_comparison {op : BinaryOp} (comparison : op.isComparison)
    (has : a.sort? = some sort) (has' : b.sort? = some sort') {ordering : Ordering}
    (ordered : order a b = .ok ordering) : op.apply a b = .boolean (op.holds ordering) := by
  have no_concat : op ≠ concat := by
    rintro rfl
    cases comparison
  have no_error (e : CellError) : a ≠ .error e := by
    rintro rfl
    cases has
  have no_error' (e : CellError) : b ≠ .error e := by
    rintro rfl
    cases has'
  unfold apply
  rw [if_pos (.inl comparison)]
  split
  · exact absurd rfl (no_error _)
  · exact absurd rfl (no_error' _)
  · rw [if_neg no_concat, ordered]
    rfl

theorem le_apply_iff {ordering : Ordering} (has : a.sort? = some sort)
    (has' : b.sort? = some sort') (ordered : order a b = .ok ordering) :
    le.apply a b = .boolean true ↔ ordering.isLE := by
  have comparison : le.isComparison := rfl
  rw [apply_comparison comparison has has' ordered]
  simp [holds]

/-- The comparisons of numbers, texts and truth values are decided by one ordering of the operands,
which puts numbers below texts and texts below truth values, and is transitive unless one operand is
a number, one a text and one a truth value. -/
theorem comparisons_ordered (has : a.sort? = some sort) (has' : b.sort? = some sort')
    (has'' : c.sort? = some sort'') :
    (∃ ordering, (∀ op : BinaryOp, op.isComparison →
        op.apply a b = .boolean (op.holds ordering) ∧
          op.apply b a = .boolean (op.holds ordering.swap)) ∧
      (sort = .number ∧ sort' = .text ∨ sort = .text ∧ sort' = .boolean → ordering = .lt)) ∧
      ∀ missing, sort ≠ missing ∧ sort' ≠ missing ∧ sort'' ≠ missing →
        le.apply a b = .boolean true → le.apply b c = .boolean true →
        le.apply a c = .boolean true := by
  obtain ⟨ordering, ordered, swapped⟩ := exists_ordering has has'
  obtain ⟨second, ordered', -⟩ := exists_ordering has' has''
  obtain ⟨third, ordered'', -⟩ := exists_ordering has has''
  refine ⟨⟨ordering, ?_, ?_⟩, ?_⟩
  · intro op comparison
    exact ⟨apply_comparison comparison has has' ordered,
      apply_comparison comparison has' has swapped⟩
  · rintro (⟨rfl, rfl⟩ | ⟨rfl, rfl⟩)
    · rcases Value.text_or_number has' with ⟨-, s, rfl⟩ | ⟨no_text, -⟩
      · exact Except.ok.inj (ordered.symm.trans (order_beside_text has (by simp) s).1)
      · exact absurd rfl no_text
    · rcases Value.text_or_number has with ⟨-, s, rfl⟩ | ⟨no_text, -⟩
      · exact Except.ok.inj (ordered.symm.trans (order_beside_text has' (by simp) s).2)
      · exact absurd rfl no_text
  · intro missing absent below below'
    rw [le_apply_iff has has' ordered] at below
    rw [le_apply_iff has' has'' ordered'] at below'
    rw [le_apply_iff has has'' ordered'']
    exact order_isLE_trans has has' has'' absent ordered ordered' ordered'' below below'

theorem comparisons_ordered_of_two_sorts :
    le.apply (.int 5) (.text "a") = .boolean true ∧
      le.apply (.text "a") (.text "B") = .boolean true ∧
      le.apply (.int 5) (.text "B") = .boolean true := by
  have transitive := (comparisons_ordered (a := .int 5) (b := .text "a") (c := .text "B") rfl rfl
    rfl).2 .boolean (by decide)
  have first : le.apply (.int 5) (.text "a") = .boolean true := rfl
  have second : le.apply (.text "a") (.text "B") = .boolean true := by with_unfolding_all rfl
  exact ⟨first, second, transitive first second⟩

/-- A number below a text below a truth value may be above the truth value. -/
theorem comparison_goes_round :
    le.apply (.number 5.0) (.text "a") = .boolean true ∧
      le.apply (.text "a") (.boolean true) = .boolean true ∧
      le.apply (.number 5.0) (.boolean true) = .boolean false := by
  have above : order (.number 5.0) (.boolean true) = .ok .gt := by
    have comparable : compareFloats 5.0 1.0 = .gt := by decide
    exact congrArg Except.ok comparable
  have is_number : Value.sort? (.number 5.0) = some .number := Value.sort?_number (by decide)
  have comparison : le.isComparison := rfl
  exact ⟨rfl, rfl, apply_comparison comparison is_number rfl above⟩

end BinaryOp

end FormulaRuns
