namespace FormulaRuns

variable {α β : Type} [Ord α]

def insertDistinct (x : α) : List α → List α
  | [] => [x]
  | y :: rest =>
    match compare x y with
    | .lt => x :: y :: rest
    | .eq => y :: rest
    | .gt => y :: insertDistinct x rest

def sortDistinct (xs : List α) : List α := xs.foldr insertDistinct []

def sortAscending (xs : List α) : List α := xs.mergeSort fun a b => (compare a b).isLE

/-- An entry for a key that is already there takes the old one's place. -/
def insertEntry (key : α) (value : β) : List (α × β) → List (α × β)
  | [] => [(key, value)]
  | (other, old) :: rest =>
    match compare key other with
    | .lt => (key, value) :: (other, old) :: rest
    | .eq => (key, value) :: rest
    | .gt => (other, old) :: insertEntry key value rest

def entryAt (key : α) : List (α × β) → Option β
  | [] => none
  | (other, value) :: rest =>
    match compare key other with
    | .lt => none
    | .eq => some value
    | .gt => entryAt key rest

end FormulaRuns
