import WasmText.Proofs.Module.Appending
import WasmText.Proofs.Positions
import WasmText.Script.Summary

/-!
# The fields of each kind

What a module keeps beside its fields says where those of each kind stand. The positions of a kind lead to
the fields of that kind in the order of declaration, and to no others (`Locates`), so whatever is asked of
a module is answered from its fields alone.
-/
namespace WasmText.Module

variable {α : Type} {m u : Module} {field : Field} {storage : Storage}
  {fs gs : List Field} {pick : Field → Option α} {name : α → Option Name}

/-- The positions lead to the fields of a kind, one by one in their order. -/
def Locates (fs : List Field) (pick : Field → Option α) (positions : List Nat) : Prop :=
  positions.map (fun p => (fs[p]?).bind pick) = (fs.filterMap pick).map some

/-- No position is of another kind. -/
theorem Locates.of_kind {positions : List Nat} (h : Locates fs pick positions) {p : Nat}
    (hp : p ∈ positions) : ∃ f a, fs[p]? = some f ∧ pick f = some a := by
  have there : (fs[p]?).bind pick ∈ (fs.filterMap pick).map some :=
    h ▸ List.mem_map_of_mem hp
  obtain ⟨a, -, ha⟩ := List.mem_map.mp there
  obtain ⟨f, hf, hfa⟩ := Option.bind_eq_some_iff.mp ha.symm
  exact ⟨f, a, hf, hfa⟩

theorem Locates.append {positions : List Nat} (h : Locates fs pick positions) (more : List Field) :
    positions.map (fun p => ((fs ++ more)[p]?).bind pick) = (fs.filterMap pick).map some := by
  rw [← h]
  refine List.map_congr_left fun p hp => ?_
  obtain ⟨f, -, hf, -⟩ := h.of_kind hp
  rw [List.getElem?_append_left (List.getElem?_eq_some_iff.mp hf).1]

theorem Locates.append_none {positions : List Nat} (h : Locates fs pick positions)
    (other : pick field = none) : Locates (fs ++ [field]) pick positions := by
  rw [Locates, h.append]
  simp [other]

theorem Locates.append_some {positions : List Nat} {a : α} (h : Locates fs pick positions)
    (picked : pick field = some a) : Locates (fs ++ [field]) pick (positions ++ [fs.length]) := by
  rw [Locates, List.map_append, h.append]
  simp [picked]

theorem Locates.length_eq {positions : List Nat} (h : Locates fs pick positions) :
    positions.length = (fs.filterMap pick).length := by
  simpa using congrArg List.length h

/-- The position at an index leads to the field of the kind with that index. -/
theorem Locates.bind_getElem? {positions : List Nat} (h : Locates fs pick positions) (i : Nat) :
    ((positions[i]?).bind (fs[·]?)).bind pick = (fs.filterMap pick)[i]? := by
  have same := congrArg (·[i]?) h
  simp only [List.getElem?_map] at same
  cases hp : positions[i]? with
  | none => cases ha : (fs.filterMap pick)[i]? <;> simp_all
  | some p => cases ha : (fs.filterMap pick)[i]? <;> simp_all

/-- The last of the positions leads to the last field of the kind. -/
theorem Locates.bind_getLast? {positions : List Nat} (h : Locates fs pick positions) :
    (positions.getLast?.bind (fs[·]?)).bind pick = (fs.filterMap pick).getLast? := by
  rw [List.getLast?_eq_getElem?, List.getLast?_eq_getElem?, h.bind_getElem?, h.length_eq]

theorem isSome_getLast?_eq (l : List α) : l.getLast?.isSome = !l.isEmpty := by
  cases l <;> simp [List.getLast?_cons]

theorem Registered.locates {positions positions' : Array Nat} {symbols symbols' : SymbolTable}
    (h : Registered storage fs.length field pick name positions positions' symbols symbols')
    (located : Locates fs pick positions.toList) :
    Locates (fs ++ [field]) pick positions'.toList := by
  rw [Registered] at h
  split at h
  · rename_i other
    rw [h.1]
    exact located.append_none other
  · rename_i a picked
    rw [(register_ok h).1, Array.toList_push]
    exact located.append_some picked

/-- The position leads to the last field of a kind. -/
def LocatesLast (fs : List Field) (pick : Field → Option α) (position : Option Nat) : Prop :=
  ∃ positions, Locates fs pick positions ∧ positions.getLast? = position

theorem Replaced.locatesLast {position position' : Option Nat}
    (h : Replaced fs.length field pick position position') (located : LocatesLast fs pick position) :
    LocatesLast (fs ++ [field]) pick position' := by
  obtain ⟨positions, located, last⟩ := located
  rw [Replaced] at h
  cases picked : pick field with
  | none => exact ⟨positions, located.append_none picked, by simp [h, picked, last]⟩
  | some a => exact ⟨_, located.append_some picked, by simp [h, picked]⟩

theorem LocatesLast.bind_eq {position : Option Nat} {fields : Array Field}
    (h : LocatesLast fs pick position) (same : fields.toList = fs) :
    (position.bind (fields[·]?)).bind pick = (fs.filterMap pick).getLast? := by
  obtain ⟨positions, located, rfl⟩ := h
  rw [← located.bind_getLast?, ← same]
  simp

/-- What a module keeps beside these fields. -/
structure Views (m : Module) (fs : List Field) : Prop where
  fields : m.fields.toList = fs
  funcs : Locates fs Field.func? m.funcAt.toList
  imports : Locates fs Field.import? m.importAt.toList
  exports : Locates fs Field.export? m.exportAt.toList
  types : Locates fs Field.funcType? m.typeAt.toList
  table : LocatesLast fs Field.table? m.tableAt
  memory : LocatesLast fs Field.memory? m.memoryAt
  start : LocatesLast fs Field.start? m.startAt
  globals : m.globals.types.toList = (fs.filterMap Field.globals?).flatMap fun g => g.types.toList

theorem views_empty : empty.Views [] :=
  ⟨rfl, rfl, rfl, rfl, rfl, ⟨[], rfl, rfl⟩, ⟨[], rfl, rfl⟩, ⟨[], rfl, rfl⟩, rfl⟩

theorem Views.append (h : m.Views fs) (appended : Appended storage m field u) :
    u.Views (fs ++ [field]) := by
  have here : m.fields.size = fs.length := by simpa using congrArg List.length h.fields
  obtain ⟨fields, funcs, imports, exports, types, table, memory, start, globals⟩ := appended
  rw [here] at funcs imports exports types table memory start
  refine ⟨by simp [fields, h.fields], funcs.locates h.funcs, imports.locates h.imports,
    exports.locates h.exports, types.locates h.types, table.locatesLast h.table,
    memory.locatesLast h.memory, start.locatesLast h.start, ?_⟩
  split at globals
  · rename_i other
    simp [globals, other, h.globals]
  · rename_i g picked
    have types : u.globals.types = m.globals.types ++ g.types := by
      simpa [globals] using TypeSpace.types_extend storage m.globals g
    simp [types, picked, h.globals]

theorem Views.withSymbols (h : m.Views fs) (symbols : SymbolTable) (table : Table) :
    (m.withSymbols symbols table).Views fs := by
  cases table <;> exact ⟨h.1, h.2, h.3, h.4, h.5, h.6, h.7, h.8, h.9⟩

theorem Views.resize {table : Table} {capacity : Nat} (h : m.Views fs)
    (resized : m.act storage (.resize table capacity) = (.ok (), u)) : u.Views fs := by
  obtain rfl := congrArg Prod.snd resized
  exact h.withSymbols _ table

theorem views_actAll {steps : List (Storage × Action)} (run : actAll steps .empty = (.ok (), m)) :
    m.Views (declared steps) := by
  have views := actAll_induction (P := Views) Views.append Views.resize views_empty run
  simpa using views

/-- What a module answers about one kind is what its fields say, and none of the positions is of another
kind. -/
structure ViewOf (fs : List Field) (pick : Field → Option α) (positions : Array Nat) (num : Nat)
    (get? : Nat → Option α) (all : List α) : Prop where
  num_eq : num = (fs.filterMap pick).length
  get?_eq : ∀ i, get? i = (fs.filterMap pick)[i]?
  all_eq : all = fs.filterMap pick
  of_kind : ∀ p ∈ positions, ∃ f a, fs[p]? = some f ∧ pick f = some a

theorem Locates.viewOf {positions : Array Nat} {fields : Array Field}
    (h : Locates fs pick positions.toList) (same : fields.toList = fs) :
    ViewOf fs pick positions positions.size
      (fun i => ((positions[i]?).bind (fields[·]?)).bind pick)
      ((List.range positions.size).filterMap fun i =>
        ((positions[i]?).bind (fields[·]?)).bind pick) := by
  have get : ∀ i : Nat, ((positions[i]?).bind (fields[·]?)).bind pick = (fs.filterMap pick)[i]? := by
    intro i
    rw [← h.bind_getElem?, ← same]
    simp
  have size : positions.size = (fs.filterMap pick).length := h.length_eq
  refine ⟨size, get, ?_, fun p hp => h.of_kind (Array.mem_toList_iff.mpr hp)⟩
  simp only [get, size]
  exact filterMap_range_getElem? _

/-- Views of the same fields of a kind agree wherever these stand. -/
theorem ViewOf.congr {positions positions' : Array Nat} {num num' : Nat}
    {get? get?' : Nat → Option α} {all all' : List α} (h : ViewOf fs pick positions num get? all)
    (h' : ViewOf gs pick positions' num' get?' all')
    (same : fs.filterMap pick = gs.filterMap pick) :
    num = num' ∧ (∀ i, get? i = get?' i) ∧ all = all' := by
  refine ⟨?_, fun i => ?_, ?_⟩
  · rw [h.num_eq, h'.num_eq, same]
  · rw [h.get?_eq, h'.get?_eq, same]
  · rw [h.all_eq, h'.all_eq, same]

/-- After a run that succeeds a module has the fields that were appended, and what it tells of each kind,
alone or in its summary, is what those fields say. -/
theorem views_of_run {steps : List (Storage × Action)} (run : actAll steps .empty = (.ok (), m)) :
    let fs := declared steps
    m.fields.toList = fs ∧
    ViewOf fs Field.func? m.funcAt m.numFuncs m.func? m.funcs ∧
    ViewOf fs Field.import? m.importAt m.numImports m.import? m.imports ∧
    ViewOf fs Field.export? m.exportAt m.numExports m.export? m.exports ∧
    ViewOf fs Field.funcType? m.typeAt m.numTypes m.type? m.types ∧
    m.table? = (fs.filterMap Field.table?).getLast? ∧
    m.memory? = (fs.filterMap Field.memory?).getLast? ∧
    m.start? = (fs.filterMap Field.start?).getLast? ∧
    m.globals.types.toList = (fs.filterMap Field.globals?).flatMap (fun g => g.types.toList) ∧
    (Command.module m).summary = .object
      [("module", .object
        [("exports", .array ((fs.filterMap Field.export?).map fun e => .text e.name.text)),
          ("func_types", .nat (fs.filterMap Field.funcType?).length),
          ("funcs", .nat (fs.filterMap Field.func?).length),
          ("globals", .array (((fs.filterMap Field.globals?).flatMap fun g => g.types.toList).map
            fun t => .text t.keyword)),
          ("has_memory", .bool !(fs.filterMap Field.memory?).isEmpty),
          ("has_table", .bool !(fs.filterMap Field.table?).isEmpty),
          ("imports", .nat (fs.filterMap Field.import?).length)]),
        ("type", .text "module")] := by
  intro fs
  have h : m.Views fs := views_actAll run
  have funcs := h.funcs.viewOf h.fields
  have imports := h.imports.viewOf h.fields
  have exports := h.exports.viewOf h.fields
  have types := h.types.viewOf h.fields
  have table : m.table? = _ := h.table.bind_eq h.fields
  have memory : m.memory? = _ := h.memory.bind_eq h.fields
  have start : m.start? = _ := h.start.bind_eq h.fields
  have num_funcs : m.numFuncs = _ := funcs.num_eq
  have num_imports : m.numImports = _ := imports.num_eq
  have num_types : m.numTypes = _ := types.num_eq
  have all_exports : m.exports = _ := exports.all_eq
  refine ⟨h.fields, funcs, imports, exports, types, table, memory, start, h.globals, ?_⟩
  have summary : (Command.module m).summary =
      .object [("module", m.summary), ("type", .text "module")] := rfl
  rw [summary, Module.summary, num_funcs, num_imports, num_types, all_exports, h.globals, table,
    memory, isSome_getLast?_eq, isSome_getLast?_eq]

def oneGlobal (name : Name) : TypeSpace :=
  (TypeSpace.empty.push .addressSpace (some name) .i32).2

/-- Fields of all kinds in a mixed order, with a symbol table resized in between. -/
def mixedSteps : List (Storage × Action) :=
  let func := fun name : Option Name => Field.func ⟨name, none, .empty, .void, .empty, .empty, []⟩
  [.append (func (some ⟨[97]⟩)), .append (.globals (oneGlobal ⟨[103]⟩)), .append (.table [.index 0]),
    .append (.imported ⟨some ⟨[97]⟩, ⟨[109]⟩, ⟨[102]⟩, none, ⟨.void, []⟩⟩), .resize .funcs 3,
    .append (func none), .append (.exported ⟨⟨[101]⟩, .index 1⟩), .append (.table []),
    .append (func (some ⟨[98]⟩)), .append (.globals (oneGlobal ⟨[104]⟩)), .append (.start (.index 0)),
    .append (.memory ⟨1, 1, []⟩), .append (.type ⟨none, ⟨.i32, []⟩⟩),
    .append (func (some ⟨[97]⟩))].map (.addressSpace, ·)

def mixed : Module :=
  (actAll mixedSteps .empty).2

theorem views_mixed :
    mixed.numFuncs = 4 ∧ (mixed.func? 2).map Func.name = some (some ⟨[98]⟩) ∧
    (mixed.func? 4).isNone ∧ mixed.exports.map Export.name = [⟨[101]⟩] ∧ mixed.table? = some [] ∧
    mixed.globals.types.toList = [.i32, .i32] := by
  have run : actAll mixedSteps .empty = (.ok (), mixed) := Prod.ext (by decide +kernel) rfl
  obtain ⟨-, funcs, -, exports, -, table, -, -, globals, -⟩ := views_of_run run
  refine ⟨funcs.num_eq, ?_, ?_, ?_, table, ?_⟩
  · rw [funcs.get?_eq]
    rfl
  · rw [funcs.get?_eq]
    rfl
  · rw [exports.all_eq]
    rfl
  · rw [globals]
    decide +kernel

end WasmText.Module
