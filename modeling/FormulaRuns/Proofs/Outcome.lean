import Mathlib.Data.List.Forall2

namespace FormulaRuns

variable {ε ε' α β : Type}

@[simp] theorem ok_bind (value : α) (next : α → Except ε β) :
    ((.ok value : Except ε α) >>= next) = next value := rfl

@[simp] theorem error_bind (fault : ε) (next : α → Except ε β) :
    ((.error fault : Except ε α) >>= next) = .error fault := rfl

@[simp] theorem pure_eq_ok (value : α) : (pure value : Except ε α) = .ok value := rfl

@[simp] theorem mapError_ok (value : α) (change : ε → ε') :
    (.ok value : Except ε α).mapError change = .ok value := rfl

theorem bind_eq_ok_iff {first : Except ε α} {next : α → Except ε β} {result : β} :
    (first >>= next) = .ok result ↔ ∃ value, first = .ok value ∧ next value = .ok result := by
  cases first <;> simp

theorem map_eq_ok_iff {first : Except ε α} {change : α → β} {result : β} :
    first.map change = .ok result ↔ ∃ value, first = .ok value ∧ change value = result := by
  cases first <;> simp [Except.map]

theorem map_eq_error_iff {outcome : Except ε α} {change : α → β} {fault : ε} :
    outcome.map change = .error fault ↔ outcome = .error fault := by
  cases outcome <;> simp [Except.map]

theorem bind_eq_error_iff {first : Except ε α} {next : α → Except ε β} {fault : ε} :
    (first >>= next) = .error fault ↔
      first = .error fault ∨ ∃ value, first = .ok value ∧ next value = .error fault := by
  cases first <;> simp

theorem mapError_eq_ok_iff {outcome : Except ε α} {change : ε → ε'} {value : α} :
    outcome.mapError change = .ok value ↔ outcome = .ok value := by
  cases outcome <;> simp [Except.mapError]

theorem mapError_eq_error_iff {outcome : Except ε α} {change : ε → ε'} {fault : ε'} :
    outcome.mapError change = .error fault ↔
      ∃ cause, outcome = .error cause ∧ change cause = fault := by
  cases outcome <;> simp [Except.mapError]

theorem foldlM_congr {step step' : β → α → Except ε β} {xs : List α} {value : β}
    (same : ∀ x ∈ xs, ∀ value, step value x = step' value x) :
    xs.foldlM step value = xs.foldlM step' value := by
  induction xs generalizing value with
  | nil => rfl
  | cons x xs ih =>
    rw [List.foldlM_cons, List.foldlM_cons, same x List.mem_cons_self]
    congr 1
    funext value
    exact ih fun x member => same x (List.mem_cons_of_mem _ member)

theorem mapM_eq_some_iff {read : α → Option β} {xs : List α} {ys : List β} :
    xs.mapM read = some ys ↔ List.Forall₂ (fun x y => read x = some y) xs ys := by
  induction xs generalizing ys with
  | nil => cases ys <;> simp
  | cons x xs ih =>
    simp only [List.mapM_cons, Option.pure_def, Option.bind_eq_bind, Option.bind_eq_some_iff, ih,
      Option.some.injEq]
    constructor
    · rintro ⟨y, first, others, others_read, rfl⟩
      exact .cons first others_read
    · rintro (_ | ⟨first, others_read⟩)
      exact ⟨_, first, _, others_read, rfl⟩

theorem mapM_eq_ok_iff {read : α → Except ε β} {xs : List α} {ys : List β} :
    xs.mapM read = .ok ys ↔ List.Forall₂ (fun x y => read x = .ok y) xs ys := by
  induction xs generalizing ys with
  | nil => cases ys <;> simp
  | cons x xs ih =>
    simp only [List.mapM_cons, bind_eq_ok_iff, ih, pure_eq_ok, Except.ok.injEq]
    constructor
    · rintro ⟨y, first, others, others_read, rfl⟩
      exact .cons first others_read
    · rintro (_ | ⟨first, others_read⟩)
      exact ⟨_, first, _, others_read, rfl⟩

theorem mapM_eq_ok_map {read : α → Except ε β} {value : α → β} {xs : List α}
    (each : ∀ x ∈ xs, read x = .ok (value x)) : xs.mapM read = .ok (xs.map value) := by
  rw [mapM_eq_ok_iff, List.forall₂_map_right_iff]
  exact List.forall₂_same.2 each

theorem exists_of_mapM_eq_error {read : α → Except ε β} {xs : List α} {fault : ε}
    (failed : xs.mapM read = .error fault) : ∃ x ∈ xs, read x = .error fault := by
  induction xs with
  | nil => cases failed
  | cons x xs ih =>
    rw [List.mapM_cons] at failed
    rcases bind_eq_error_iff.1 failed with first | ⟨y, -, rest⟩
    · exact ⟨x, List.mem_cons_self, first⟩
    · rcases bind_eq_error_iff.1 rest with others | ⟨ys, -, done⟩
      · obtain ⟨x, member, failed⟩ := ih others
        exact ⟨x, List.mem_cons_of_mem _ member, failed⟩
      · cases done

theorem exists_of_mem_left {Related : α → β → Prop} {xs : List α} {ys : List β} {x : α}
    (related : List.Forall₂ Related xs ys) (member : x ∈ xs) : ∃ y ∈ ys, Related x y := by
  induction related with
  | nil => cases member
  | @cons x' y' xs ys first others ih =>
    rcases List.mem_cons.1 member with rfl | member
    · exact ⟨y', List.mem_cons_self, first⟩
    · obtain ⟨y, found, same⟩ := ih member
      exact ⟨y, List.mem_cons_of_mem _ found, same⟩

theorem exists_of_mem_right {Related : α → β → Prop} {xs : List α} {ys : List β} {y : β}
    (related : List.Forall₂ Related xs ys) (member : y ∈ ys) : ∃ x ∈ xs, Related x y :=
  exists_of_mem_left related.flip member

theorem map_eq_of_forall₂ {γ : Type} {read : α → γ} {read' : β → γ} {xs : List α} {ys : List β}
    (same : List.Forall₂ (fun x y => read x = read' y) xs ys) : xs.map read = ys.map read' :=
  List.forall₂_eq_eq_eq ▸ List.forall₂_map_left_iff.2 (List.forall₂_map_right_iff.2 same)

theorem exists_forall₂ {Related : α → β → Prop} {xs : List α}
    (each : ∀ x ∈ xs, ∃ y, Related x y) : ∃ ys, List.Forall₂ Related xs ys := by
  induction xs with
  | nil => exact ⟨[], .nil⟩
  | cons x xs ih =>
    obtain ⟨y, first⟩ := each x List.mem_cons_self
    obtain ⟨ys, others⟩ := ih fun x member => each x (List.mem_cons_of_mem _ member)
    exact ⟨y :: ys, .cons first others⟩

theorem getElem?_of_mapM {read : α → Option β} {xs : List α} {ys : List β} {index : Nat} {x : α}
    {y : β} (mapped : xs.mapM read = some ys) (found : xs[index]? = some x)
    (first : read x = some y) : ys[index]? = some y := by
  have related := mapM_eq_some_iff.1 mapped
  obtain ⟨in_range, rfl⟩ := List.getElem?_eq_some_iff.1 found
  have same := related.get in_range (related.length_eq ▸ in_range)
  simp only [List.get_eq_getElem, first, Option.some.injEq] at same
  exact List.getElem?_eq_some_iff.2 ⟨_, same.symm⟩

theorem exists_mapM_eq_some {read : α → Option β} {xs : List α}
    (readable : ∀ x ∈ xs, ∃ y, read x = some y) : ∃ ys, xs.mapM read = some ys := by
  induction xs with
  | nil => exact ⟨[], rfl⟩
  | cons x xs ih =>
    obtain ⟨y, first⟩ := readable x List.mem_cons_self
    obtain ⟨ys, others⟩ := ih fun x member => readable x (List.mem_cons_of_mem _ member)
    exact ⟨y :: ys, by simp [first, others]⟩

end FormulaRuns
