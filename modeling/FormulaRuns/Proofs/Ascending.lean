import FormulaRuns.Ascending
import FormulaRuns.Grid.Reference

namespace FormulaRuns

open Std (TransOrd LawfulEqOrd)

variable {α β : Type} [Ord α]

def Ascending (xs : List α) : Prop := xs.Pairwise fun x y => compare x y = .lt

def AscendingKeys (entries : List (α × β)) : Prop :=
  entries.Pairwise fun before after => compare before.1 after.1 = .lt

section Sets

variable [LawfulEqOrd α]

theorem mem_insertDistinct {x y : α} {xs : List α} :
    y ∈ insertDistinct x xs ↔ y = x ∨ y ∈ xs := by
  induction xs with
  | nil => simp [insertDistinct]
  | cons z rest ih =>
    simp only [insertDistinct]
    cases order : compare x z with
    | lt => simp
    | eq => simp [LawfulEqOrd.eq_of_compare order]
    | gt => simp [ih, or_left_comm]

theorem mem_sortDistinct {x : α} {xs : List α} : x ∈ sortDistinct xs ↔ x ∈ xs := by
  induction xs with
  | nil => simp [sortDistinct]
  | cons y ys ih => simpa [sortDistinct, mem_insertDistinct] using or_congr_right ih

variable [TransOrd α]

theorem insertDistinct_ascending {x : α} {xs : List α} (ascending : Ascending xs) :
    Ascending (insertDistinct x xs) := by
  induction xs with
  | nil => exact List.pairwise_singleton _ _
  | cons y rest ih =>
    obtain ⟨above, rest_ascending⟩ := List.pairwise_cons.1 ascending
    simp only [insertDistinct]
    cases order : compare x y with
    | lt =>
      refine List.pairwise_cons.2 ⟨fun z member => ?_, ascending⟩
      rcases List.mem_cons.1 member with rfl | member
      · exact order
      · exact Std.TransCmp.lt_trans order (above z member)
    | eq => exact ascending
    | gt =>
      refine List.pairwise_cons.2 ⟨fun z member => ?_, ih rest_ascending⟩
      rcases mem_insertDistinct.1 member with rfl | member
      · exact Std.OrientedCmp.lt_of_gt order
      · exact above z member

theorem sortDistinct_ascending (xs : List α) : Ascending (sortDistinct xs) := by
  induction xs with
  | nil => exact .nil
  | cons x xs ih => exact insertDistinct_ascending ih

omit [LawfulEqOrd α] [TransOrd α] in
theorem sortDistinct_eq_self {xs : List α} (ascending : Ascending xs) : sortDistinct xs = xs := by
  induction xs with
  | nil => rfl
  | cons x xs ih =>
    obtain ⟨above, rest_ascending⟩ := List.pairwise_cons.1 ascending
    have sorted : sortDistinct (x :: xs) = insertDistinct x xs :=
      congrArg (insertDistinct x) (ih rest_ascending)
    cases xs with
    | nil => exact sorted
    | cons y ys => simp [sorted, insertDistinct, above y (by simp)]

omit [LawfulEqOrd α] in
theorem Ascending.nodup {xs : List α} (ascending : Ascending xs) : xs.Nodup := by
  apply ascending.imp
  rintro x y below rfl
  simp [Std.ReflCmp.compare_self] at below

omit [LawfulEqOrd α] in
theorem Ascending.eq_of_mem_iff {xs ys : List α} (ascending : Ascending xs)
    (ys_ascending : Ascending ys) (same : ∀ x, x ∈ xs ↔ x ∈ ys) : xs = ys := by
  have perm := (List.perm_ext_iff_of_nodup ascending.nodup ys_ascending.nodup).2 same
  apply perm.eq_of_pairwise _ ascending ys_ascending
  intro x y _ _ below above
  rw [Std.OrientedCmp.gt_of_lt above] at below
  cases below

/-- An element has as many in front of it as there are below it. -/
theorem Ascending.idxOf?_eq [DecidableEq α] {x : α} {xs : List α} (ascending : Ascending xs)
    (member : x ∈ xs) : xs.idxOf? x = some (xs.countP fun y => (compare y x).isLT) := by
  induction xs with
  | nil => cases member
  | cons y ys ih =>
    obtain ⟨above, ys_ascending⟩ := List.pairwise_cons.1 ascending
    rw [List.idxOf?_cons, List.countP_cons]
    by_cases same : y = x
    · subst same
      have none_below : ys.countP (fun z => (compare z y).isLT) = 0 := by
        rw [List.countP_eq_zero]
        intro z z_member
        simp [Std.OrientedCmp.gt_of_lt (above z z_member)]
      simp [none_below, Std.ReflCmp.compare_self]
    · have behind := (List.mem_cons.1 member).resolve_left (Ne.symm same)
      simp [same, ih ys_ascending behind, above x behind]

end Sets

section Tables

theorem eq_or_mem_of_mem_insertEntry {key : α} {value : β} {entries : List (α × β)}
    {entry : α × β} (member : entry ∈ insertEntry key value entries) :
    entry = (key, value) ∨ entry ∈ entries := by
  induction entries with
  | nil => simpa [insertEntry] using member
  | cons first rest ih =>
    obtain ⟨other, old⟩ := first
    simp only [insertEntry] at member
    split at member
    · simpa using member
    · rcases List.mem_cons.1 member with same | member
      · exact .inl same
      · exact .inr (List.mem_cons_of_mem _ member)
    · rcases List.mem_cons.1 member with same | member
      · exact .inr (same ▸ List.mem_cons_self)
      · exact (ih member).imp_right (List.mem_cons_of_mem _)

variable [TransOrd α]

omit [TransOrd α] in
theorem insertEntry_ne_nil (key : α) (value : β) (entries : List (α × β)) :
    insertEntry key value entries ≠ [] := by
  cases entries with
  | nil => exact List.cons_ne_nil _ _
  | cons first rest =>
    simp only [insertEntry]
    split <;> exact List.cons_ne_nil _ _

theorem insertEntry_append_of_above {key : α} {value : β} {entries others : List (α × β)}
    (above : ∀ entry ∈ entries, compare entry.1 key = .lt) :
    insertEntry key value (entries ++ others) = entries ++ insertEntry key value others := by
  induction entries with
  | nil => rfl
  | cons first rest ih =>
    obtain ⟨other, old⟩ := first
    have order : compare key other = .gt := Std.OrientedCmp.gt_of_lt (above (other, old) (by simp))
    simp only [List.cons_append, insertEntry, order]
    rw [ih fun entry member => above entry (List.mem_cons_of_mem _ member)]

omit [TransOrd α] in
theorem insertEntry_append_of_below {key : α} {value : β} {entries others : List (α × β)}
    (below : ∀ entry ∈ others, compare key entry.1 = .lt) :
    insertEntry key value (entries ++ others) = insertEntry key value entries ++ others := by
  induction entries with
  | nil =>
    cases others with
    | nil => rfl
    | cons first rest =>
      have order : compare key first.1 = .lt := below first (by simp)
      simp [insertEntry, order]
  | cons first rest ih =>
    simp only [List.cons_append, insertEntry]
    split
    · rfl
    · rfl
    · rw [ih, List.cons_append]

variable [LawfulEqOrd α]

omit [TransOrd α] in
/-- An entry for a key that is not there yet takes the place of no other. -/
theorem insertEntry_perm {key : α} {value : β} {entries : List (α × β)}
    (fresh : key ∉ entries.map (·.1)) :
    (insertEntry key value entries).Perm ((key, value) :: entries) := by
  induction entries with
  | nil => exact .refl _
  | cons first rest ih =>
    obtain ⟨other, old⟩ := first
    have different : key ≠ other := fun same => fresh (by simp [same])
    have rest_fresh : key ∉ rest.map (·.1) := fun member => fresh (List.mem_cons_of_mem _ member)
    simp only [insertEntry]
    cases order : compare key other with
    | lt => exact .refl _
    | eq => exact absurd (LawfulEqOrd.eq_of_compare order) different
    | gt => exact ((ih rest_fresh).cons _).trans (.swap _ _ _)

omit [TransOrd α] in
theorem foldl_insertEntry_perm {entries others : List (α × β)}
    (distinct : ((entries ++ others).map (·.1)).Nodup) :
    (others.foldl (fun table (key, value) => insertEntry key value table) entries).Perm
      (entries ++ others) := by
  induction others generalizing entries with
  | nil => simp
  | cons first rest ih =>
    obtain ⟨key, value⟩ := first
    have to_front : (entries ++ (key, value) :: rest).Perm ((key, value) :: (entries ++ rest)) :=
      List.perm_middle
    have front_distinct := ((to_front.map (·.1)).nodup_iff).1 distinct
    have fresh : key ∉ entries.map (·.1) := by
      intro member
      apply (List.nodup_cons.1 front_distinct).1
      simpa using Or.inl member
    have inserted :
        (insertEntry key value entries ++ rest).Perm ((key, value) :: (entries ++ rest)) :=
      (insertEntry_perm fresh).append_right rest
    have rest_distinct := ((inserted.map (·.1)).nodup_iff).2 front_distinct
    rw [List.foldl_cons]
    exact (ih rest_distinct).trans (inserted.trans to_front.symm)

omit [LawfulEqOrd α] in
theorem AscendingKeys.nodup {entries : List (α × β)} (ascending : AscendingKeys entries) :
    (entries.map (·.1)).Nodup := by
  apply List.pairwise_map.2
  apply ascending.imp
  intro before after below same
  simp [same, Std.ReflCmp.compare_self] at below

omit [LawfulEqOrd α] in
theorem AscendingKeys.eq_of_perm {entries others : List (α × β)} (ascending : AscendingKeys entries)
    (others_ascending : AscendingKeys others) (same : entries.Perm others) : entries = others := by
  apply same.eq_of_pairwise _ ascending others_ascending
  intro entry other _ _ below above
  rw [Std.OrientedCmp.gt_of_lt above] at below
  cases below

theorem insertEntry_ascendingKeys {key : α} {value : β} {entries : List (α × β)}
    (ascending : AscendingKeys entries) : AscendingKeys (insertEntry key value entries) := by
  induction entries with
  | nil => exact List.pairwise_singleton _ _
  | cons first rest ih =>
    obtain ⟨other, old⟩ := first
    obtain ⟨above, rest_ascending⟩ := List.pairwise_cons.1 ascending
    simp only [insertEntry]
    cases order : compare key other with
    | lt =>
      refine List.pairwise_cons.2 ⟨fun entry member => ?_, ascending⟩
      rcases List.mem_cons.1 member with rfl | member
      · exact order
      · exact Std.TransCmp.lt_trans order (above entry member)
    | eq =>
      obtain rfl := LawfulEqOrd.eq_of_compare order
      exact List.pairwise_cons.2 ⟨above, rest_ascending⟩
    | gt =>
      refine List.pairwise_cons.2 ⟨fun entry member => ?_, ih rest_ascending⟩
      rcases eq_or_mem_of_mem_insertEntry member with rfl | member
      · exact Std.OrientedCmp.lt_of_gt order
      · exact above entry member

theorem foldl_insertEntry_ascendingKeys {entries : List (α × β)} (ascending : AscendingKeys entries)
    (others : List (α × β)) :
    AscendingKeys
      (others.foldl (fun table (key, value) => insertEntry key value table) entries) := by
  induction others generalizing entries with
  | nil => exact ascending
  | cons first rest ih => exact ih (insertEntry_ascendingKeys ascending)

theorem entryAt_eq_some_iff {key : α} {value : β} {entries : List (α × β)}
    (ascending : AscendingKeys entries) :
    entryAt key entries = some value ↔ (key, value) ∈ entries := by
  induction entries with
  | nil => simp [entryAt]
  | cons first rest ih =>
    obtain ⟨other, old⟩ := first
    obtain ⟨above, rest_ascending⟩ := List.pairwise_cons.1 ascending
    have absent (key : α) (order : compare key other ≠ .gt) : (key, value) ∉ rest := fun member =>
      order (Std.OrientedCmp.gt_of_lt (above (key, value) member))
    simp only [entryAt]
    cases order : compare key other with
    | lt =>
      have different : key ≠ other := by
        rintro rfl
        simp at order
      simp [different, absent key (by simp [order])]
    | eq =>
      obtain rfl := LawfulEqOrd.eq_of_compare order
      simp [absent key (by simp), eq_comm]
    | gt =>
      have different : key ≠ other := by
        rintro rfl
        simp at order
      simp [different, ih rest_ascending]

end Tables

instance : TransOrd Reference :=
  inferInstanceAs <| Std.TransCmp <| compareLex (compareOn Reference.sheet) <|
    compareLex (compareOn Reference.col) <| compareLex (compareOn Reference.row) <|
    compareLex (compareOn Reference.colFixed) (compareOn Reference.rowFixed)

instance : LawfulEqOrd Reference where
  eq_of_compare {before after} same := by
    change compareLex (compareOn Reference.sheet) (compareLex (compareOn Reference.col) <|
      compareLex (compareOn Reference.row) <|
        compareLex (compareOn Reference.colFixed) (compareOn Reference.rowFixed)) before after =
          .eq at same
    simp only [compareLex, compareOn, Ordering.then_eq_eq] at same
    obtain ⟨sheets, cols, rows, colsFixed, rowsFixed⟩ := same
    cases before
    cases after
    obtain rfl := LawfulEqOrd.eq_of_compare sheets
    obtain rfl := LawfulEqOrd.eq_of_compare cols
    obtain rfl := LawfulEqOrd.eq_of_compare rows
    obtain rfl := LawfulEqOrd.eq_of_compare colsFixed
    obtain rfl := LawfulEqOrd.eq_of_compare rowsFixed
    rfl

instance : TransOrd Address :=
  inferInstanceAs <| Std.TransCmp <| compareLex (compareOn Address.sheet) <|
    compareLex (compareOn Address.col) (compareOn Address.row)

instance : LawfulEqOrd Address where
  eq_of_compare {before after} same := by
    change compareLex (compareOn Address.sheet) (compareLex (compareOn Address.col)
      (compareOn Address.row)) before after = .eq at same
    simp only [compareLex, compareOn, Ordering.then_eq_eq] at same
    obtain ⟨sheets, cols, rows⟩ := same
    cases before
    cases after
    obtain rfl := LawfulEqOrd.eq_of_compare sheets
    obtain rfl := LawfulEqOrd.eq_of_compare cols
    obtain rfl := LawfulEqOrd.eq_of_compare rows
    rfl

end FormulaRuns
