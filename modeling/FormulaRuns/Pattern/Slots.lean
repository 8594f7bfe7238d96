import FormulaRuns.Formula.Table
import FormulaRuns.Pattern.Skeleton

/-!
A skeleton as an array of slots, in which a slot names its branches by their numbers. The first slot
is the whole skeleton's. It grows at its end: a path that is put in leads through the slots that are
there already, and a new one is added for each step that none stands for.
-/
namespace FormulaRuns

/-- `links` are child indices with the slots that they lead to, in ascending order of the index. -/
structure Slot where
  reference : Option Reference
  links : List (Nat × Nat)
  deriving Repr

abbrev Slots := Array Slot

namespace Slots

def start : Slots := #[⟨none, []⟩]

def grow (slots : Slots) (here step : Nat) : Slots :=
  (slots.push ⟨none, []⟩).modify here fun slot =>
    { slot with links := insertEntry step slots.size slot.links }

def mark (slots : Slots) (here : Nat) (ref : Reference) : Slots :=
  slots.modify here fun slot => { slot with reference := some ref }

def linksAt (slots : Slots) (here : Nat) : List (Nat × Nat) :=
  (slots[here]?.map (·.links)).getD []

def insertFrom (ref : Reference) : Path → Nat → Slots → Slots
  | [], here, slots => slots.mark here ref
  | step :: path, here, slots =>
    match entryAt step (slots.linksAt here) with
    | some next => insertFrom ref path next slots
    | none => insertFrom ref path slots.size (slots.grow here step)

def insert (ref : Reference) (path : Path) (slots : Slots) : Slots := insertFrom ref path 0 slots

def ofBindings (bindings : Bindings) : Slots :=
  bindings.foldl (fun slots (path, ref) => slots.insert ref path) start

def leafCount (slots : Slots) : Nat := slots.toList.countP (·.reference.isSome)

def isEmpty (slots : Slots) : Bool := slots.leafCount == 0

/-- The references below a slot with their paths; `path` leads to the slot. A slot is linked to
later ones, and a link to any other leads nowhere. -/
def leavesFrom (slots : Slots) (path : Path) (here : Nat) : Bindings :=
  match slots[here]? with
  | none => []
  | some slot =>
    slot.reference.toList.map (fun ref => (path, ref)) ++
      slot.links.flatMap fun link =>
        if _ : here < link.2 ∧ link.2 < slots.size then slots.leavesFrom (path ++ [link.1]) link.2
        else []
termination_by slots.size - here

def leaves (slots : Slots) : Bindings := slots.leavesFrom [] 0

def bindOwn (table : Table) (id : Nat) (path : Path) (found : Binding) :
    Option Reference → Except Path Binding
  | none => .ok found
  | some ref => if table.isCellRef id then .ok (insertEntry id ref found) else .error path

/-- Adds the leaves below a row of the table that stand where references are below the slot; `path`
leads to both. The failure is the path to the first place that does not fit. -/
def bindFrom (slots : Slots) (table : Table) (path : Path) (id here : Nat) (found : Binding) :
    Except Path Binding :=
  match slots[here]? with
  | none => .ok found
  | some slot => do
    let found ← bindOwn table id path found slot.reference
    slot.links.foldlM (fun found link =>
      match table.childAt? id link.1 with
      | none => .error (path ++ [link.1])
      | some child =>
        if _ : here < link.2 ∧ link.2 < slots.size then
          slots.bindFrom table (path ++ [link.1]) child link.2 found
        else .ok found) found
termination_by slots.size - here

def bind (slots : Slots) (table : Table) : Except Fault Binding :=
  (slots.bindFrom table [] table.root 0 []).mapError .binding

end Slots

def variabilitySlots (bindings : Bindings) : Slots × List Reference :=
  (.ofBindings bindings, sortDistinct (bindings.map (·.2)))

def Compatibility.bindTable (table : Table) : Compatibility → Except Fault (Option Binding)
  | incompatible _ => .ok none
  | compatible bindings => ((variabilitySlots bindings).1.bind table).map some

end FormulaRuns
