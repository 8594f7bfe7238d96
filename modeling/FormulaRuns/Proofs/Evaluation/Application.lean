import FormulaRuns.Proofs.Expr.Substitution

namespace FormulaRuns

namespace Source

/-- A lambda's value for its arguments is the value of its body with the arguments in place of the
parameters. An inner lambda keeps the parameters that it takes itself. -/
theorem applyAt_eq_substitute (source : Source) (levels : Nat) {params : List Nat}
    (distinct : params.Nodup) {args : List Reference} (each : params.length = args.length)
    (body : Expr) :
    source.applyAt levels (.lambda params body) args =
      source.evaluateAt (levels - 1) .none (body.substitute (.paired params args)) := by
  rw [applyAt, if_pos each, Parameters.ofArguments_eq_paired distinct]
  cases levels - 1 with
  | zero => rfl
  | succ levels => exact (Expr.evalWith_substitute _ _ body).symm

def namingSource : Source where
  role _ := none
  value cell := if cell.col = 1 then .int cell.row else .text "=v1"
  extent _ := none
  formula_agrees _ := rfl

theorem apply_to_naming_cell :
    [2, 1].Nodup ∧
    namingSource.apply
        (.lambda [2, 1]
          (.array [[.param 1, .param 7, .range (.param 2) (.cell ⟨"S", 3, 1, false, true⟩)]]))
        [⟨"S", 2, 1, false, false⟩, ⟨"S", 1, 2, true, false⟩] =
      namingSource.evaluateAt 64 .none
        (.array [[.cell ⟨"S", 1, 2, true, false⟩, .param 7,
          .range (.cell ⟨"S", 2, 1, false, false⟩) (.cell ⟨"S", 3, 1, false, true⟩)]]) :=
  ⟨by decide, applyAt_eq_substitute namingSource fullLevels (by decide) rfl _⟩

end Source

end FormulaRuns
