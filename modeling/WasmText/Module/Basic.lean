import WasmText.Module.Field

/-!
# Modules

A module is its fields in the order of declaration. Beside them it keeps, for functions, imports,
exports and function types, where among the fields they stand, and a symbol table that finds them by
name; for the table, the memory and the start function it keeps where the last one stands. The
globals of all fields make up one space.

`append` gives its outcome together with the module it leaves. Only the symbol table of the kind at
hand, as a failed binding leaves it, could differ from what there was before.
-/
namespace WasmText
open SymbolTable (Failure)

structure Module where
  fields : Array Field
  funcAt : Array Nat
  importAt : Array Nat
  exportAt : Array Nat
  typeAt : Array Nat
  tableAt : Option Nat
  memoryAt : Option Nat
  startAt : Option Nat
  funcSymbols : SymbolTable
  importSymbols : SymbolTable
  exportSymbols : SymbolTable
  typeSymbols : SymbolTable
  globals : TypeSpace

namespace Module

def empty : Module where
  fields := #[]
  funcAt := #[]
  importAt := #[]
  exportAt := #[]
  typeAt := #[]
  tableAt := none
  memoryAt := none
  startAt := none
  funcSymbols := .empty
  importSymbols := .empty
  exportSymbols := .empty
  typeSymbols := .empty
  globals := .empty

instance : Inhabited Module := ⟨empty⟩

/-- Binds a name, if there is one, to the next position of a kind, and then takes that position. -/
def register (storage : Storage) (positions : Array Nat) (symbols : SymbolTable)
    (name : Option Name) (field : Nat) : Except Failure (Array Nat) × SymbolTable :=
  match name with
  | none => (.ok (positions.push field), symbols)
  | some n =>
    match symbols.bind storage n (UInt32.ofNat positions.size) with
    | (.ok (), symbols) => (.ok (positions.push field), symbols)
    | (.error f, symbols) => (.error f, symbols)

/-- Appends a field. A later table, memory or start function takes the place of an earlier one. -/
def append (storage : Storage) (m : Module) (field : Field) : Except Failure Unit × Module :=
  let here := m.fields.size
  let fields := m.fields.push field
  match field with
  | .func f =>
    match register storage m.funcAt m.funcSymbols f.name here with
    | (.ok at_, symbols) =>
      (.ok (), { m with fields := fields, funcAt := at_, funcSymbols := symbols })
    | (.error e, symbols) => (.error e, { m with funcSymbols := symbols })
  | .imported i =>
    match register storage m.importAt m.importSymbols i.name here with
    | (.ok at_, symbols) =>
      (.ok (), { m with fields := fields, importAt := at_, importSymbols := symbols })
    | (.error e, symbols) => (.error e, { m with importSymbols := symbols })
  | .exported e =>
    match register storage m.exportAt m.exportSymbols (some e.name) here with
    | (.ok at_, symbols) =>
      (.ok (), { m with fields := fields, exportAt := at_, exportSymbols := symbols })
    | (.error e, symbols) => (.error e, { m with exportSymbols := symbols })
  | .type t =>
    match register storage m.typeAt m.typeSymbols t.name here with
    | (.ok at_, symbols) =>
      (.ok (), { m with fields := fields, typeAt := at_, typeSymbols := symbols })
    | (.error e, symbols) => (.error e, { m with typeSymbols := symbols })
  | .globals g =>
    match m.globals.extend storage g with
    | (.ok (), globals) => (.ok (), { m with fields := fields, globals := globals })
    | (.error e, _) => (.error e, m)
  | .table _ => (.ok (), { m with fields := fields, tableAt := some here })
  | .memory _ => (.ok (), { m with fields := fields, memoryAt := some here })
  | .start _ => (.ok (), { m with fields := fields, startAt := some here })

/-- Appends fields one after another and stops at the first that fails. -/
def appendAll (storage : Storage) : List Field → Module → Except Failure Unit × Module
  | [], m => (.ok (), m)
  | field :: rest, m =>
    match m.append storage field with
    | (.ok (), m) => appendAll storage rest m
    | (.error f, m) => (.error f, m)

/-! The fields of each kind, by their position among their kind. -/

def numFuncs (m : Module) : Nat :=
  m.funcAt.size

def numImports (m : Module) : Nat :=
  m.importAt.size

def numExports (m : Module) : Nat :=
  m.exportAt.size

def numTypes (m : Module) : Nat :=
  m.typeAt.size

def func? (m : Module) (i : Nat) : Option Func :=
  ((m.funcAt[i]?).bind (m.fields[·]?)).bind Field.func?

def import? (m : Module) (i : Nat) : Option Import :=
  ((m.importAt[i]?).bind (m.fields[·]?)).bind Field.import?

def export? (m : Module) (i : Nat) : Option Export :=
  ((m.exportAt[i]?).bind (m.fields[·]?)).bind Field.export?

def type? (m : Module) (i : Nat) : Option FuncType :=
  ((m.typeAt[i]?).bind (m.fields[·]?)).bind Field.funcType?

def funcs (m : Module) : List Func :=
  (List.range m.numFuncs).filterMap m.func?

def imports (m : Module) : List Import :=
  (List.range m.numImports).filterMap m.import?

def exports (m : Module) : List Export :=
  (List.range m.numExports).filterMap m.export?

def types (m : Module) : List FuncType :=
  (List.range m.numTypes).filterMap m.type?

def table? (m : Module) : Option (List Ref) :=
  (m.tableAt.bind (m.fields[·]?)).bind Field.table?

def memory? (m : Module) : Option Memory :=
  (m.memoryAt.bind (m.fields[·]?)).bind Field.memory?

def start? (m : Module) : Option Ref :=
  (m.startAt.bind (m.fields[·]?)).bind Field.start?

def outline (m : Module) : Outline :=
  .record "Module"
    [("fields", .ofList Field.outline m.fields.toList),
      ("funcs", .ofList .nat m.funcAt.toList), ("imports", .ofList .nat m.importAt.toList),
      ("exports", .ofList .nat m.exportAt.toList), ("func_types", .ofList .nat m.typeAt.toList),
      ("table", .option .nat m.tableAt), ("memory", .option .nat m.memoryAt),
      ("start", .option .nat m.startAt), ("func_bindings", m.funcSymbols.outline),
      ("import_bindings", m.importSymbols.outline), ("export_bindings", m.exportSymbols.outline),
      ("func_type_bindings", m.typeSymbols.outline), ("globals", m.globals.outline)]

end Module
end WasmText
