import WasmText.SymbolTable.Growth

/-!
# Runs of a symbol table

The states that operations of any outcome lead to from an empty table. Each operation may meet other
storage.
-/
namespace WasmText.SymbolTable

/-- What can be done to a table; `write` sets the position in the entry of a slot, and `copy` goes on
with a copy, which as a value is the table itself. -/
inductive Action
  | insert (name : Name)
  | bind (name : Name) (index : UInt32)
  | write (slot : Nat) (index : UInt32)
  | copy
  | resize (capacity : Nat)

/-- Does an action and gives its outcome with the table it leaves. -/
def act (storage : Storage) (t : SymbolTable) : Action → Except Failure Unit × SymbolTable
  | .insert name => ((t.insert storage name).1.map fun _ => (), (t.insert storage name).2)
  | .bind name index => t.bind storage name index
  | .write i index => (.ok (), t.setIndex i index)
  | .copy => (.ok (), t)
  | .resize capacity => t.resize storage capacity

/-- The largest power of two among the numbers of 64 bits. -/
def maxCapacity : Nat := UInt64.size / 2

/-- The tables that actions lead to, whether they succeed or fail. -/
inductive Reachable : SymbolTable → Prop
  | start {requested : Nat} (le : requested ≤ maxCapacity) : Reachable (withInitialCapacity requested)
  | step {t : SymbolTable} (storage : Storage) (action : Action) (reached : Reachable t) :
      Reachable (t.act storage action).2

/-- Does actions one after another as long as they succeed. -/
def actAll (storage : Storage) : List Action → SymbolTable → Except Failure Unit × SymbolTable
  | [], t => (.ok (), t)
  | action :: rest, t =>
    match t.act storage action with
    | (.ok (), t) => actAll storage rest t
    | (.error f, t) => (.error f, t)

/-- Does actions one after another whatever comes of them, each with the storage it meets. -/
def run (steps : List (Storage × Action)) (t : SymbolTable) : SymbolTable :=
  steps.foldl (fun t step => (t.act step.1 step.2).2) t

/-- Inserts names one after another, each with the storage it meets, as long as none fails. -/
def insertAll : List (Storage × Name) → SymbolTable → Except Failure Unit × SymbolTable
  | [], t => (.ok (), t)
  | (storage, name) :: rest, t =>
    match t.insert storage name with
    | (.ok _, t) => insertAll rest t
    | (.error f, t) => (.error f, t)

/-- The entries that actions ask for. -/
def Action.bound : Action → Option Entry
  | .insert name => some ⟨name, 0⟩
  | .bind name index => some ⟨name, index⟩
  | _ => none

theorem reachable_empty : Reachable empty :=
  .start (by decide)

end WasmText.SymbolTable
