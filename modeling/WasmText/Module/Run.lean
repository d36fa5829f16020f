import WasmText.Module.Basic

/-!
# Runs of a module

What happens to a module from outside: fields are appended, and its symbol tables, which are open to all,
are resized in between.
-/
namespace WasmText.Module
open SymbolTable (Failure)

/-- The symbol tables of a module. -/
inductive Table
  | funcs
  | imports
  | exports
  | types
  | globals

def symbols (m : Module) : Table → SymbolTable
  | .funcs => m.funcSymbols
  | .imports => m.importSymbols
  | .exports => m.exportSymbols
  | .types => m.typeSymbols
  | .globals => m.globals.symbols

def withSymbols (m : Module) (symbols : SymbolTable) : Table → Module
  | .funcs => { m with funcSymbols := symbols }
  | .imports => { m with importSymbols := symbols }
  | .exports => { m with exportSymbols := symbols }
  | .types => { m with typeSymbols := symbols }
  | .globals => { m with globals := ⟨m.globals.types, symbols⟩ }

inductive Action
  | append (field : Field)
  | resize (table : Table) (capacity : Nat)

/-- Does an action and gives its outcome with the module it leaves. -/
def act (storage : Storage) (m : Module) : Action → Except Failure Unit × Module
  | .append field => m.append storage field
  | .resize table capacity =>
    let (outcome, symbols) := (m.symbols table).resize storage capacity
    (outcome, m.withSymbols symbols table)

/-- Does actions one after another, each with the storage it meets, as long as they succeed. -/
def actAll : List (Storage × Action) → Module → Except Failure Unit × Module
  | [], m => (.ok (), m)
  | (storage, action) :: rest, m =>
    match m.act storage action with
    | (.ok (), m) => actAll rest m
    | (.error f, m) => (.error f, m)

def Action.field? : Action → Option Field
  | append field => some field
  | resize .. => none

/-- The fields that actions append, in order. -/
def declared (steps : List (Storage × Action)) : List Field :=
  steps.filterMap fun step => step.2.field?

end WasmText.Module
