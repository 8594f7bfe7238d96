import FormulaRuns.Grid.Address

namespace FormulaRuns

structure Distance where
  rows : Int
  cols : Int
  deriving DecidableEq, Repr

def signed (n : Int) : String :=
  String.ofList ((if n < 0 then '-' else '+') :: Nat.toDigits 10 n.natAbs)

namespace Distance

def zero : Distance := ⟨0, 0⟩

/-- What has to be added to the place of `origin` to reach `candidate`; the sheets play no part. -/
def between (origin candidate : Address) : Distance :=
  ⟨(candidate.row : Int) - origin.row, (candidate.col : Int) - origin.col⟩

def isZero (distance : Distance) : Bool := distance == zero

def print (distance : Distance) : String :=
  "(Δrow " ++ signed distance.rows ++ ", Δcol " ++ signed distance.cols ++ ")"

end Distance

end FormulaRuns
