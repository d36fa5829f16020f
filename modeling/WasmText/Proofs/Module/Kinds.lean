import WasmText.Module.Resolution
import WasmText.Proofs.Module.Views
import WasmText.Proofs.SymbolTable.StorageIndependence

/-!
# Kinds do not interfere

What a module keeps of one kind depends on the fields of that kind and their order alone. Each symbol table
is the one that the names of its kind make (`Determined`), the positions lead to the fields of the kind, and
all queries are answered from these. So it does not matter how the fields of different kinds are
interleaved (`sameAnswers_of_sameKinds`).
-/
namespace WasmText.Module
open SymbolTable (tableOf)

variable {α : Type} {m u : Module} {field : Field} {storage : Storage} {fs gs : List Field}
  {pick : Field → Option α} {name : α → Option Name}

/-- The fields of each kind are the same and in the same order. -/
structure SameKinds (fs gs : List Field) : Prop where
  funcs : fs.filterMap Field.func? = gs.filterMap Field.func?
  imports : fs.filterMap Field.import? = gs.filterMap Field.import?
  exports : fs.filterMap Field.export? = gs.filterMap Field.export?
  tables : fs.filterMap Field.table? = gs.filterMap Field.table?
  types : fs.filterMap Field.funcType? = gs.filterMap Field.funcType?
  memories : fs.filterMap Field.memory? = gs.filterMap Field.memory?
  globals : fs.filterMap Field.globals? = gs.filterMap Field.globals?
  starts : fs.filterMap Field.start? = gs.filterMap Field.start?

/-- All that is asked of the two modules is answered alike. -/
structure SameAnswers (m u : Module) : Prop where
  numFuncs : m.numFuncs = u.numFuncs
  numImports : m.numImports = u.numImports
  numExports : m.numExports = u.numExports
  numTypes : m.numTypes = u.numTypes
  func_eq : ∀ i, m.func? i = u.func? i
  import_eq : ∀ i, m.import? i = u.import? i
  export_eq : ∀ i, m.export? i = u.export? i
  type_eq : ∀ i, m.type? i = u.type? i
  funcs : m.funcs = u.funcs
  imports : m.imports = u.imports
  exports : m.exports = u.exports
  types : m.types = u.types
  table_eq : m.table? = u.table?
  memory_eq : m.memory? = u.memory?
  start_eq : m.start? = u.start?
  globals : m.globals = u.globals
  symbols : ∀ table, m.symbols table = u.symbols table
  funcIndex? : ∀ r, m.funcIndex? r = u.funcIndex? r
  importIndex? : ∀ r, m.importIndex? r = u.importIndex? r
  typeIndex? : ∀ r, m.typeIndex? r = u.typeIndex? r
  globalIndex? : ∀ r, m.globalIndex? r = u.globalIndex? r
  funcOf? : ∀ r, m.funcOf? r = u.funcOf? r
  importOf? : ∀ r, m.importOf? r = u.importOf? r
  typeOf? : ∀ r, m.typeOf? r = u.typeOf? r
  globalType? : ∀ r, m.globalType? r = u.globalType? r
  exportNamed? : ∀ n, m.exportNamed? n = u.exportNamed? n
  isExported : ∀ f position, m.isExported f position = u.isExported f position
  isExportedAt? : ∀ i, m.isExportedAt? i = u.isExportedAt? i
  summary : (Command.module m).summary = (Command.module u).summary

/-- Extends a space by another out of all storage there is. -/
def extendGlobals (s g : TypeSpace) : TypeSpace :=
  (s.extend .addressSpace g).2

/-- What is kept by name is what the names of each kind make, whatever stands between them. -/
structure Determined (m : Module) (fs : List Field) : Prop where
  funcs : m.funcSymbols = tableOf ((fs.filterMap Field.func?).map Func.name)
  imports : m.importSymbols = tableOf ((fs.filterMap Field.import?).map Import.name)
  exports : m.exportSymbols = tableOf ((fs.filterMap Field.export?).map fun e => some e.name)
  types : m.typeSymbols = tableOf ((fs.filterMap Field.funcType?).map FuncType.name)
  globals : m.globals = (fs.filterMap Field.globals?).foldl extendGlobals .empty

theorem determined_empty : Determined empty [] :=
  ⟨rfl, rfl, rfl, rfl, rfl⟩

theorem Registered.tableOf_eq {here : Nat} {positions positions' : Array Nat}
    {symbols symbols' : SymbolTable}
    (h : Registered storage here field pick name positions positions' symbols symbols')
    (located : Locates fs pick positions.toList)
    (table : symbols = tableOf ((fs.filterMap pick).map name)) :
    symbols' = tableOf (((fs ++ [field]).filterMap pick).map name) := by
  have size : positions.size = ((fs.filterMap pick).map name).length := by
    rw [List.length_map]
    exact located.length_eq
  rw [Registered] at h
  split at h
  · rename_i other
    simpa [other, h.2] using table
  · rename_i a picked
    obtain ⟨-, unnamed, bound⟩ := register_ok h
    have last : ((fs ++ [field]).filterMap pick).map name =
        (fs.filterMap pick).map name ++ [name a] := by simp [picked]
    rw [last, SymbolTable.tableOf_append_singleton, ← table, ← size]
    cases named : name a with
    | none => exact unnamed named
    | some n =>
      have same := SymbolTable.bind_addressSpace (bound n named)
      rw [SymbolTable.bindNamed, same]

theorem extend_addressSpace {s g v : TypeSpace} (extended : s.extend storage g = (.ok (), v)) :
    extendGlobals s g = v := by
  obtain ⟨bound, rfl⟩ := Prod.mk.inj extended
  have same := SymbolTable.bindAll_addressSpace (Prod.ext bound rfl)
  rw [extendGlobals, TypeSpace.extend, same]

theorem Determined.append (h : m.Determined fs) (views : m.Views fs)
    (appended : Appended storage m field u) : u.Determined (fs ++ [field]) := by
  refine ⟨appended.funcs.tableOf_eq views.funcs h.funcs,
    appended.imports.tableOf_eq views.imports h.imports,
    appended.exports.tableOf_eq views.exports h.exports,
    appended.types.tableOf_eq views.types h.types, ?_⟩
  have globals := appended.globals
  split at globals
  · rename_i other
    simpa [other, globals] using h.globals
  · rename_i g picked
    rw [← extend_addressSpace globals, h.globals]
    simp [picked]

/-- Appends fields, each with the storage it meets. -/
def appends (steps : List (Storage × Field)) : List (Storage × Action) :=
  steps.map fun step => (step.1, .append step.2)

theorem declared_appends (steps : List (Storage × Field)) :
    declared (appends steps) = steps.map Prod.snd := by
  simp [declared, appends, List.filterMap_map, Action.field?]

theorem Determined.appends {steps : List (Storage × Field)} (views : m.Views fs)
    (h : m.Determined fs) (run : actAll (appends steps) m = (.ok (), u)) :
    u.Determined (fs ++ steps.map Prod.snd) := by
  induction steps generalizing m fs with
  | nil =>
    obtain rfl : m = u := congrArg Prod.snd run
    simpa using h
  | cons step rest ih =>
    obtain ⟨storage, field⟩ := step
    rcases first : m.append storage field with ⟨_ | _, between⟩
    · simp [Module.appends, actAll, act, first] at run
    · have appended := appended_of_append first
      simp only [Module.appends, List.map_cons, actAll, act, first] at run
      simpa using ih (views.append appended) (h.append views appended) run

theorem sameAnswers_of_views (same : SameKinds fs gs) (views : m.Views fs) (views' : u.Views gs)
    (determined : m.Determined fs) (determined' : u.Determined gs) : SameAnswers m u := by
  obtain ⟨num_funcs, func, funcs⟩ : m.numFuncs = u.numFuncs ∧ (∀ i, m.func? i = u.func? i) ∧
      m.funcs = u.funcs :=
    (views.funcs.viewOf views.fields).congr (views'.funcs.viewOf views'.fields) same.funcs
  obtain ⟨num_imports, imported, imports⟩ : m.numImports = u.numImports ∧
      (∀ i, m.import? i = u.import? i) ∧ m.imports = u.imports :=
    (views.imports.viewOf views.fields).congr (views'.imports.viewOf views'.fields) same.imports
  obtain ⟨num_exports, exported, exports⟩ : m.numExports = u.numExports ∧
      (∀ i, m.export? i = u.export? i) ∧ m.exports = u.exports :=
    (views.exports.viewOf views.fields).congr (views'.exports.viewOf views'.fields) same.exports
  obtain ⟨num_types, type, types⟩ : m.numTypes = u.numTypes ∧ (∀ i, m.type? i = u.type? i) ∧
      m.types = u.types :=
    (views.types.viewOf views.fields).congr (views'.types.viewOf views'.fields) same.types
  have table : m.table? = u.table? :=
    (views.table.bind_eq views.fields).trans (same.tables ▸ (views'.table.bind_eq views'.fields).symm)
  have memory : m.memory? = u.memory? :=
    (views.memory.bind_eq views.fields).trans
      (same.memories ▸ (views'.memory.bind_eq views'.fields).symm)
  have start : m.start? = u.start? :=
    (views.start.bind_eq views.fields).trans (same.starts ▸ (views'.start.bind_eq views'.fields).symm)
  have func_symbols : m.funcSymbols = u.funcSymbols := by
    rw [determined.funcs, determined'.funcs, same.funcs]
  have import_symbols : m.importSymbols = u.importSymbols := by
    rw [determined.imports, determined'.imports, same.imports]
  have export_symbols : m.exportSymbols = u.exportSymbols := by
    rw [determined.exports, determined'.exports, same.exports]
  have type_symbols : m.typeSymbols = u.typeSymbols := by
    rw [determined.types, determined'.types, same.types]
  have globals : m.globals = u.globals := by
    rw [determined.globals, determined'.globals, same.globals]
  have is_exported : ∀ f position, m.isExported f position = u.isExported f position := by
    intro f position
    have means : m.exportMeans f.name position = u.exportMeans f.name position :=
      funext fun e => by simp only [exportMeans, func]
    rw [isExported, isExported, exports, means]
  refine ⟨num_funcs, num_imports, num_exports, num_types, func, imported, exported, type, funcs, imports,
    exports, types, table, memory, start, globals, fun table => ?_, fun r => ?_, fun r => ?_,
    fun r => ?_, fun r => ?_, fun r => ?_, fun r => ?_, fun r => ?_, fun r => ?_, fun n => ?_,
    is_exported, fun i => ?_, ?_⟩
  · cases table
    · exact func_symbols
    · exact import_symbols
    · exact export_symbols
    · exact type_symbols
    · exact congrArg TypeSpace.symbols globals
  · rw [funcIndex?, funcIndex?, func_symbols]
  · rw [importIndex?, importIndex?, import_symbols]
  · rw [typeIndex?, typeIndex?, type_symbols]
  · rw [globalIndex?, globalIndex?, globals]
  · simp only [funcOf?, funcIndex?, func_symbols, func]
  · simp only [importOf?, importIndex?, import_symbols, imported]
  · simp only [typeOf?, typeIndex?, type_symbols, type]
  · simp only [globalType?, globalIndex?, globals]
  · simp only [exportNamed?, export_symbols, exported]
  · simp only [isExportedAt?, func, is_exported]
  · have summary : ∀ m : Module, (Command.module m).summary =
        .object [("module", m.summary), ("type", .text "module")] := fun _ => rfl
    rw [summary, summary, Module.summary, Module.summary, num_funcs, num_imports, num_types, exports,
      globals, table, memory]

/-- Fields that are the same kind by kind make modules that answer alike, however the kinds are interleaved
and whatever storage each field meets, as long as all are appended. -/
theorem sameAnswers_of_sameKinds {steps steps' : List (Storage × Field)}
    (run : actAll (appends steps) .empty = (.ok (), m))
    (run' : actAll (appends steps') .empty = (.ok (), u))
    (same : SameKinds (steps.map Prod.snd) (steps'.map Prod.snd)) : SameAnswers m u := by
  have views := views_actAll run
  have views' := views_actAll run'
  rw [declared_appends] at views views'
  have determined := Determined.appends views_empty determined_empty run
  have determined' := Determined.appends views_empty determined_empty run'
  exact sameAnswers_of_views same views views' determined determined'

/-- Functions of which two have the same name, then fields of other kinds. -/
def grouped : List Field :=
  let func := fun name : Option Name => Field.func ⟨name, none, .empty, .void, .empty, .empty, []⟩
  [func (some ⟨[97]⟩), func none, func (some ⟨[97]⟩), .globals (oneGlobal ⟨[103]⟩),
    .globals (oneGlobal ⟨[103]⟩), .exported ⟨⟨[101]⟩, .index 1⟩, .exported ⟨⟨[101]⟩, .name ⟨[97]⟩⟩,
    .table [.index 0], .start (.index 0), .type ⟨none, ⟨.i32, []⟩⟩]

/-- The same fields with the kinds in between each other. -/
def shuffled : List Field :=
  [9, 3, 0, 5, 1, 8, 4, 7, 6, 2].filterMap (grouped[·]?)

def moduleOf (fields : List Field) : Module :=
  (actAll (appends (fields.map (.addressSpace, ·))) .empty).2

theorem sameAnswers_shuffled : SameAnswers (moduleOf grouped) (moduleOf shuffled) ∧
    (moduleOf grouped).funcAt ≠ (moduleOf shuffled).funcAt ∧
    (moduleOf grouped).funcIndex? (.name ⟨[97]⟩) = (moduleOf shuffled).funcIndex? (.name ⟨[97]⟩) ∧
    (moduleOf grouped).isExportedAt? 1 = (moduleOf shuffled).isExportedAt? 1 := by
  have run : actAll (appends (grouped.map (.addressSpace, ·))) .empty =
      (.ok (), moduleOf grouped) := Prod.ext (by decide +kernel) rfl
  have run' : actAll (appends (shuffled.map (.addressSpace, ·))) .empty =
      (.ok (), moduleOf shuffled) := Prod.ext (by decide +kernel) rfl
  have same := sameAnswers_of_sameKinds run run' ⟨rfl, rfl, rfl, rfl, rfl, rfl, rfl, rfl⟩
  exact ⟨same, by decide +kernel, same.funcIndex? _, same.isExportedAt? 1⟩

end WasmText.Module
