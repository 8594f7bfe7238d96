import FormulaRuns.Evaluation.Basic
import FormulaRuns.Proofs.Outcome

namespace FormulaRuns

namespace Value

def IsError (v : Value) : Prop := ∃ e, v = error e

/-- The value is an error, or an array with one among its elements. -/
def CarriesError : Value → Prop
  | error _ => True
  | array rows => ∃ v ∈ rows.flatten, v.IsError
  | _ => False

end Value

theorem arrayNumbers_error {elements : List Value} (carried : ∃ v ∈ elements, v.IsError) :
    ∃ e, arrayNumbers elements = .error e := by
  induction elements with
  | nil => simp at carried
  | cons v elements ih =>
    have later (none : ¬v.IsError) : ∃ e, arrayNumbers elements = .error e := by
      obtain ⟨w, member, is_error⟩ := carried
      rcases List.mem_cons.1 member with rfl | member
      · exact absurd is_error none
      · exact ih ⟨w, member, is_error⟩
    cases v with
    | error e => exact ⟨e, rfl⟩
    | number x =>
      obtain ⟨e, failed⟩ := later (by simp [Value.IsError])
      exact ⟨e, map_eq_error_iff.2 failed⟩
    | int n =>
      obtain ⟨e, failed⟩ := later (by simp [Value.IsError])
      exact ⟨e, map_eq_error_iff.2 failed⟩
    | text | boolean | array | empty => exact later (by simp [Value.IsError])

theorem valueNumbers_error {v : Value} (carries : v.CarriesError) :
    ∃ e, valueNumbers v = .error e := by
  cases v with
  | error e => exact ⟨e, rfl⟩
  | array rows => exact arrayNumbers_error carries
  | _ => cases carries

theorem numbersOf_error {args : List Argument} (carried : ∃ arg ∈ args, (arg ()).CarriesError) :
    ∃ e, numbersOf args = .error e := by
  induction args with
  | nil => simp at carried
  | cons first args ih =>
    cases numbers : valueNumbers (first ()) with
    | error e => exact ⟨e, by simp [numbersOf, numbers]⟩
    | ok xs =>
      obtain ⟨arg, member, carries⟩ := carried
      have later : ∃ e, numbersOf args = .error e := by
        rcases List.mem_cons.1 member with rfl | member
        · obtain ⟨e, failed⟩ := valueNumbers_error carries
          cases numbers.symm.trans failed
        · exact ih ⟨arg, member, carries⟩
      obtain ⟨e, failed⟩ := later
      exact ⟨e, by simp [numbersOf, numbers, failed]⟩

theorem aggregate_isError {args : List Argument} (carried : ∃ arg ∈ args, (arg ()).CarriesError)
    (combine : List Float → Value) : (aggregate args combine).IsError := by
  obtain ⟨e, failed⟩ := numbersOf_error carried
  exact ⟨e, by simp [aggregate, failed, Value.ofExcept]⟩

theorem truthsOf_eq_error_iff {args : List Argument} :
    (∃ e, truthsOf args = .error e) ↔ ∃ arg ∈ args, (arg ()).IsError := by
  induction args with
  | nil => simp [truthsOf]
  | cons first args ih =>
    rw [List.exists_mem_cons_iff, ← ih, truthsOf]
    split
    · rename_i e value
      simp [value, Value.IsError]
    · rename_i rows value
      simp [value, Value.IsError, map_eq_error_iff]
    · rename_i no_error no_array
      have plain : ¬(first ()).IsError := fun ⟨e, value⟩ => no_error e value
      simp [plain, map_eq_error_iff]

theorem judge_isError_iff {args : List Argument} (decision : List Value → Bool) :
    (judge args decision).IsError ↔ ∃ arg ∈ args, (arg ()).IsError := by
  rw [← truthsOf_eq_error_iff]
  cases gathered : truthsOf args with
  | error e => simp [judge, gathered, Value.ofExcept, Value.IsError]
  | ok values => simp [judge, gathered, Value.ofExcept, Value.IsError]

theorem Expr.argumentsWith_eq_map (read : Address → Value) (parameters : Parameters)
    (args : List Expr) :
    argumentsWith read parameters args = args.map fun arg _ => evalWith read parameters arg := by
  induction args with
  | nil => rfl
  | cons arg args ih => rw [argumentsWith, ih, List.map_cons]

namespace Source

variable (source : Source) (levels : Nat) (parameters : Parameters)

theorem evaluateAt_call (callee : String) (args : List Expr) :
    source.evaluateAt (levels + 1) parameters (.call callee args) =
      callFunction callee
        (args.map fun arg _ => source.evaluateAt (levels + 1) parameters arg) := by
  rw [evaluateAt, Expr.evalWith, Expr.argumentsWith_eq_map]
  rfl

/-- The aggregates of numbers do not hide an error among their arguments or inside an array. `AND`
and `OR` do not hide an argument that is an error, but that is all that makes them one. -/
theorem aggregates_of_errors (args : List Expr) :
    (∀ callee ∈ ["SUM", "PRODUCT", "MIN", "MAX", "AVERAGE", "COUNT"],
      (∃ arg ∈ args, (source.evaluateAt (levels + 1) parameters arg).CarriesError) →
        (source.evaluateAt (levels + 1) parameters (.call callee args)).IsError) ∧
      ∀ callee ∈ ["AND", "OR"],
        (source.evaluateAt (levels + 1) parameters (.call callee args)).IsError ↔
          ∃ arg ∈ args, (source.evaluateAt (levels + 1) parameters arg).IsError := by
  constructor
  · rintro callee member ⟨arg, listed, carries⟩
    have carried : ∃ argument ∈ args.map fun arg _ =>
        source.evaluateAt (levels + 1) parameters arg, (argument ()).CarriesError :=
      ⟨_, List.mem_map_of_mem listed, carries⟩
    rw [evaluateAt_call]
    simp only [List.mem_cons, List.not_mem_nil, or_false] at member
    rcases member with rfl | rfl | rfl | rfl | rfl | rfl <;> exact aggregate_isError carried _
  · intro callee member
    have same : (callFunction callee
        (args.map fun arg _ => source.evaluateAt (levels + 1) parameters arg)).IsError ↔
          ∃ argument ∈ args.map fun arg _ => source.evaluateAt (levels + 1) parameters arg,
            (argument ()).IsError := by
      simp only [List.mem_cons, List.not_mem_nil, or_false] at member
      rcases member with rfl | rfl
      · exact judge_isError_iff (·.all Value.isTruthy)
      · exact judge_isError_iff (·.any Value.isTruthy)
    rw [evaluateAt_call, same]
    simp

def faultySource : Source where
  role _ := none
  value cell := if cell.row = 1 then .bare .na else .boolean true
  extent _ := none
  formula_agrees _ := rfl

def faultyRange : Expr :=
  .range (.cell ⟨"S", 1, 1, false, false⟩) (.cell ⟨"S", 2, 1, false, false⟩)

theorem faultyRange_carriesError :
    (faultySource.evaluateAt fullLevels .none faultyRange).CarriesError :=
  ⟨.bare .na, .head _, _, rfl⟩

theorem aggregates_of_errors_in_faulty_range :
    (faultySource.evaluateAt fullLevels .none (.call "COUNT" [faultyRange])).IsError ∧
      (faultySource.evaluateAt fullLevels .none (.call "AND" [.error .na, faultyRange])).IsError :=
  ⟨(aggregates_of_errors faultySource 64 .none [faultyRange]).1 "COUNT" (by simp)
      ⟨faultyRange, .head _, faultyRange_carriesError⟩,
    ((aggregates_of_errors faultySource 64 .none [.error .na, faultyRange]).2 "AND" (by simp)).2
      ⟨.error .na, .head _, _, rfl⟩⟩

/-- An error inside an array counts as false, so that it does not even keep `OR` from being true. -/
theorem judgement_hides_error :
    (faultySource.evaluateAt fullLevels .none faultyRange).CarriesError ∧
      faultySource.evaluateAt fullLevels .none (.call "AND" [faultyRange]) = .boolean false ∧
      faultySource.evaluateAt fullLevels .none (.call "OR" [faultyRange]) = .boolean true :=
  ⟨faultyRange_carriesError, rfl, rfl⟩

end Source

end FormulaRuns
