import FormulaRuns.Evaluation.Basic
import Mathlib.Data.List.Nodup

namespace FormulaRuns

/-- The `i`-th argument stands for the `i`-th of the given parameters. -/
def Parameters.paired (params : List Nat) (args : List Reference) : Parameters :=
  fun index => (params.idxOf? index).bind (args[·]?)

def Parameters.numbered (args : List Reference) : Parameters
  | 0 => .none
  | index + 1 => args[index]?

/-- Parameters that a lambda takes are not those around it. -/
def Parameters.without (parameters : Parameters) (params : List Nat) : Parameters :=
  fun index => if index ∈ params then .none else parameters index

namespace Expr

mutual

def substitute (parameters : Parameters) : Expr → Expr
  | number x => number x
  | text s => text s
  | bool b => bool b
  | error kind => error kind
  | cell ref => cell ref
  | param index => ((parameters index).map cell).getD (param index)
  | name s => name s
  | range first last => range (first.substitute parameters) (last.substitute parameters)
  | unary op operand => unary op (operand.substitute parameters)
  | binary op left right => binary op (left.substitute parameters) (right.substitute parameters)
  | call callee args => call callee (substituteList parameters args)
  | array rows => array (substituteRows parameters rows)
  | lambda params body => lambda params (body.substitute (parameters.without params))

def substituteList (parameters : Parameters) : List Expr → List Expr
  | [] => []
  | e :: es => e.substitute parameters :: substituteList parameters es

def substituteRows (parameters : Parameters) : List (List Expr) → List (List Expr)
  | [] => []
  | row :: rows => substituteList parameters row :: substituteRows parameters rows

end

/-- A rule for given arguments; what is no lambda has no parameters. -/
def instantiate (args : List Reference) : Expr → Expr
  | lambda _ body => body.substitute (.numbered args)
  | e => e

@[simp] theorem substituteList_eq_map (parameters : Parameters) (es : List Expr) :
    substituteList parameters es = es.map (·.substitute parameters) := by
  induction es with
  | nil => rfl
  | cons e es ih => rw [substituteList, ih, List.map_cons]

@[simp] theorem substituteRows_eq_map (parameters : Parameters) (rows : List (List Expr)) :
    substituteRows parameters rows = rows.map (·.map (·.substitute parameters)) := by
  induction rows with
  | nil => rfl
  | cons row rows ih => rw [substituteRows, ih, substituteList_eq_map, List.map_cons]

theorem reference?_substitute (parameters : Parameters) (e : Expr) :
    (e.substitute parameters).reference? .none = e.reference? parameters := by
  cases e with
  | param index =>
    cases bound : parameters index <;> simp [substitute, reference?, bound, Parameters.none]
  | _ => rfl

mutual

/-- To replace the parameters is to evaluate with them. -/
theorem evalWith_substitute (read : Address → Value) (parameters : Parameters) : ∀ e : Expr,
    (e.substitute parameters).evalWith read .none = e.evalWith read parameters
  | number _ | text _ | bool _ | error _ | cell _ | name _ | lambda _ _ => rfl
  | param index => by
    cases bound : parameters index <;> simp [substitute, evalWith, bound, Parameters.none]
  | range first last => by
    simp only [substitute, evalWith, reference?_substitute]
  | unary op operand => by
    simp only [substitute, evalWith, evalWith_substitute read parameters operand]
  | binary op left right => by
    simp only [substitute, evalWith, evalWith_substitute read parameters left,
      evalWith_substitute read parameters right]
  | call callee args => by
    simp only [substitute, evalWith, argumentsWith_substitute read parameters args]
  | array rows => by
    simp only [substitute, evalWith, rowsWith_substitute read parameters rows]

theorem argumentsWith_substitute (read : Address → Value) (parameters : Parameters) :
    ∀ es : List Expr, argumentsWith read .none (substituteList parameters es) =
      argumentsWith read parameters es
  | [] => rfl
  | e :: es => by
    simp only [substituteList, argumentsWith, evalWith_substitute read parameters e,
      argumentsWith_substitute read parameters es]

theorem valuesWith_substitute (read : Address → Value) (parameters : Parameters) :
    ∀ es : List Expr, valuesWith read .none (substituteList parameters es) =
      valuesWith read parameters es
  | [] => rfl
  | e :: es => by
    simp only [substituteList, valuesWith, evalWith_substitute read parameters e,
      valuesWith_substitute read parameters es]

theorem rowsWith_substitute (read : Address → Value) (parameters : Parameters) :
    ∀ rows : List (List Expr), rowsWith read .none (substituteRows parameters rows) =
      rowsWith read parameters rows
  | [] => rfl
  | row :: rows => by
    simp only [substituteRows, rowsWith, valuesWith_substitute read parameters row,
      rowsWith_substitute read parameters rows]

end

end Expr

namespace Parameters

variable {params : List Nat} {args : List Reference}

theorem paired_cons (param : Nat) (arg : Reference) (index : Nat) :
    paired (param :: params) (arg :: args) index =
      if index = param then some arg else paired params args index := by
  simp only [paired, List.idxOf?_cons]
  by_cases same : index = param
  · simp [same]
  · have other : (param == index) = false := beq_false_of_ne (Ne.symm same)
    cases params.idxOf? index <;> simp [same, other]

theorem paired_of_notMem {index : Nat} (absent : index ∉ params) :
    paired params args index = .none := by
  rw [paired, List.idxOf?_eq_none_iff.2 absent, Option.bind_none]

theorem ofArguments_eq_paired (distinct : params.Nodup) (args : List Reference) :
    ofArguments params args = paired params args := by
  funext index
  induction params generalizing args with
  | nil => rfl
  | cons param params ih =>
    obtain ⟨fresh, distinct⟩ := List.nodup_cons.1 distinct
    cases args with
    | nil => cases (param :: params).idxOf? index <;> simp [ofArguments, paired, *]
    | cons arg args =>
      have others : ((params.zip args).reverse.lookup index) = paired params args index :=
        ih distinct args
      simp only [ofArguments, List.zip_cons_cons, List.reverse_cons, List.lookup_append, others,
        paired_cons]
      by_cases same : index = param
      · rw [same, paired_of_notMem fresh]
        simp
      · have other : (index == param) = false := beq_false_of_ne same
        simp [List.lookup_cons, same, other]

theorem paired_range' (start : Nat) (args : List Reference) (index : Nat) :
    paired (List.range' start args.length) args index =
      if start ≤ index then args[index - start]? else .none := by
  induction args generalizing start with
  | nil => simp [paired]
  | cons arg args ih =>
    rw [List.length_cons, List.range'_succ, paired_cons, ih]
    rcases Nat.lt_trichotomy index start with below | rfl | above
    · simp [Nat.ne_of_lt below, Nat.not_le.2 below, Nat.not_le.2 (Nat.lt_succ_of_lt below)]
    · simp
    · have offset : index - start = index - (start + 1) + 1 := by omega
      simp [Nat.ne_of_gt above, offset, Nat.succ_le_of_lt above, Nat.le_of_lt above]

end Parameters

theorem ofArguments_range' (args : List Reference) :
    Parameters.ofArguments (List.range' 1 args.length) args = .numbered args := by
  rw [Parameters.ofArguments_eq_paired List.nodup_range']
  funext index
  rw [Parameters.paired_range']
  cases index <;> simp [Parameters.numbered]

end FormulaRuns
