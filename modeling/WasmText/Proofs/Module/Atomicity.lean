import WasmText.Module.Room
import WasmText.Proofs.Module.Views
import WasmText.Proofs.SymbolTable.Numbering

/-!
# An append happens as a whole or not at all

A module to which a field cannot be appended stays as it was: what is bound first is bound to the table of
one kind, which keeps nothing of a name that it is refused, or to a copy of the globals. A field that is
appended changes nothing of the other kinds. This takes no more than sound symbol tables, so it holds with
any reachable ones in their place (`append_atomic`).
-/
namespace WasmText.Module
open SymbolTable (Failure)

variable {α : Type} {m u : Module} {field : Field} {storage : Storage} {room : ListRoom}
  {fs : List Field} {pick : Field → Option α} {name : α → Option Name}

theorem register_error {positions : Array Nat} {symbols symbols' : SymbolTable}
    {name : Option Name} {here : Nat} {f : Failure} (sound : symbols.Sound)
    (failed : register storage positions symbols name here = (.error f, symbols')) :
    symbols' = symbols ∧ ∃ slots, f = .refused slots := by
  cases name with
  | none => simp [register] at failed
  | some n =>
    rcases bound : symbols.bind storage n (UInt32.ofNat positions.size) with ⟨_ | _, after⟩
    · obtain ⟨rfl, -, -, rfl⟩ := SymbolTable.refused_of_bind sound.linked sound.initial bound
      simp only [register, bound, Prod.mk.injEq, Except.error.injEq] at failed
      exact ⟨failed.2.symm, _, failed.1.symm⟩
    · simp [register, bound] at failed

/-- Where appending goes on after registering, it has failed only if registering has. -/
theorem exists_unregistered {positions : Array Nat} {symbols : SymbolTable} {name : Option Name}
    {here : Nat} {taken : Array Nat → SymbolTable → Module} {failed : SymbolTable → Module}
    {f : Failure} (sound : symbols.Sound)
    (h : (match register storage positions symbols name here with
      | (.ok positions, symbols) => (.ok (), taken positions symbols)
      | (.error f, symbols) => (.error f, failed symbols)) =
        ((.error f, u) : Except Failure Unit × _)) :
    failed symbols = u ∧ ∃ slots, f = .refused slots := by
  rcases registered : register storage positions symbols name here with ⟨_ | positions', symbols'⟩
  · simp only [registered, Prod.mk.injEq, Except.error.injEq] at h
    obtain ⟨rfl, refused⟩ := register_error sound registered
    exact ⟨h.2, h.1 ▸ refused⟩
  · simp [registered] at h

/-- An append that fails was refused storage and leaves the module as it was; names of globals are bound in a
copy, which is given up then. -/
theorem eq_of_append_error {f : Failure} (sound : ∀ table, (m.symbols table).Sound)
    (failed : m.append storage field = (.error f, u)) : u = m ∧ ∃ slots, f = .refused slots := by
  cases field with
  | func =>
    obtain ⟨rfl, refused⟩ := exists_unregistered (sound .funcs) failed
    exact ⟨rfl, refused⟩
  | imported =>
    obtain ⟨rfl, refused⟩ := exists_unregistered (sound .imports) failed
    exact ⟨rfl, refused⟩
  | exported =>
    obtain ⟨rfl, refused⟩ := exists_unregistered (sound .exports) failed
    exact ⟨rfl, refused⟩
  | type =>
    obtain ⟨rfl, refused⟩ := exists_unregistered (sound .types) failed
    exact ⟨rfl, refused⟩
  | globals g =>
    rcases extended : m.globals.extend storage g with ⟨cause | _, globals⟩
    · simp only [append, extended, Prod.mk.injEq, Except.error.injEq] at failed
      obtain ⟨rfl, rfl⟩ := failed
      obtain ⟨bound, -⟩ := Prod.mk.inj extended
      obtain ⟨slots, refused, -⟩ :=
        SymbolTable.refused_of_bindAll (sound .globals) (Prod.ext bound rfl)
      exact ⟨rfl, slots, refused⟩
    · simp [append, extended] at failed
  | table => simp [append] at failed
  | memory => simp [append] at failed
  | start => simp [append] at failed

theorem kind_of_crowded {f : AppendFailure} (crowded : crowded? room field = some f) :
    f.diagnostic?.map Diagnostic.kind = some .allocation := by
  have cause : f = .fields field.keyword ∨ f = .positions ∨ f = .types := by
    cases field <;> grind [crowded?]
  rcases cause with rfl | rfl | rfl <;> rfl

/-- A field is not appended for want of room or slots, and then the module is as it was, or it is appended. -/
theorem appendWithin_cases (sound : ∀ table, (m.symbols table).Sound) (room : ListRoom)
    (storage : Storage) (field : Field) :
    (∃ f, m.appendWithin room storage field = (.error f, m) ∧
      f.diagnostic?.map Diagnostic.kind = some .allocation) ∨
    ∃ u, m.appendWithin room storage field = (.ok (), u) ∧ Appended storage m field u := by
  cases crowded : crowded? room field with
  | some f => exact .inl ⟨f, by simp [appendWithin, crowded], kind_of_crowded crowded⟩
  | none =>
    rcases outcome : m.append storage field with ⟨f | _, u⟩
    · obtain ⟨rfl, slots, rfl⟩ := eq_of_append_error sound outcome
      exact .inl ⟨.symbols (.refused slots),
        by simp [appendWithin, crowded, outcome, Except.mapError], rfl⟩
    · exact .inr ⟨u, by simp [appendWithin, crowded, outcome, Except.mapError],
        appended_of_append outcome⟩

theorem Registered.sound {here : Nat} {positions positions' : Array Nat}
    {symbols symbols' : SymbolTable}
    (h : Registered storage here field pick name positions positions' symbols symbols')
    (sound : symbols.Sound) : symbols'.Sound := by
  rw [Registered] at h
  split at h
  · rw [h.2]
    exact sound
  · rename_i a picked
    obtain ⟨-, unnamed, bound⟩ := register_ok h
    cases named : name a with
    | none =>
      rw [unnamed named]
      exact sound
    | some n =>
      have kept := SymbolTable.sound_bind sound storage n (UInt32.ofNat positions.size)
      rwa [bound n named] at kept

theorem Appended.sound (appended : Appended storage m field u)
    (sound : ∀ table, (m.symbols table).Sound) (table : Table) : (u.symbols table).Sound := by
  cases table with
  | funcs => exact appended.funcs.sound (sound .funcs)
  | imports => exact appended.imports.sound (sound .imports)
  | exports => exact appended.exports.sound (sound .exports)
  | types => exact appended.types.sound (sound .types)
  | globals =>
    have globals := appended.globals
    split at globals
    · rw [symbols, globals]
      exact sound .globals
    · obtain ⟨bound, after⟩ := Prod.mk.inj globals
      exact (SymbolTable.perm_bindAll (sound .globals)
        (Prod.ext bound (congrArg TypeSpace.symbols after))).1

/-- A module that holds these fields and whose symbol tables are sound. -/
structure Orderly (m : Module) (fs : List Field) : Prop where
  sound : ∀ table, (m.symbols table).Sound
  views : m.Views fs

theorem orderly_empty : empty.Orderly [] where
  sound table := by cases table <;> exact SymbolTable.sound_start SymbolTable.defaultCapacity
  views := views_empty

theorem Orderly.append (h : m.Orderly fs) (appended : Appended storage m field u) :
    u.Orderly (fs ++ [field]) :=
  ⟨appended.sound h.sound, h.views.append appended⟩

theorem symbols_withSymbols (m : Module) (symbols : SymbolTable) (exchanged table : Table) :
    (m.withSymbols symbols exchanged).symbols table = symbols ∨
      (m.withSymbols symbols exchanged).symbols table = m.symbols table := by
  cases exchanged <;> cases table <;> first | exact .inl rfl | exact .inr rfl

theorem Orderly.exchange {symbols : SymbolTable} (h : m.Orderly fs) (table : Table)
    (sound : symbols.Sound) : (m.withSymbols symbols table).Orderly fs := by
  refine ⟨fun other => ?_, h.views.withSymbols symbols table⟩
  rcases symbols_withSymbols m symbols table other with same | same
  · rw [same]
    exact sound
  · rw [same]
    exact h.sound other

/-- What an append that succeeds carries over to the field more, holds after any append of some fields. -/
theorem exists_appended {P : Module → List Field → Prop} (sound : ∀ table, (m.symbols table).Sound)
    (before : P m fs) (after : ∀ u, Appended storage m field u → P u (fs ++ [field])) :
    ∃ gs, P (m.appendWithin room storage field).2 gs := by
  rcases appendWithin_cases sound room storage field with ⟨f, failed, -⟩ | ⟨u, done, appended⟩
  · rw [failed]
    exact ⟨fs, before⟩
  · rw [done]
    exact ⟨_, after u appended⟩

/-- A table that is exchanged may lack the names of the fields, and order does not depend on them. -/
theorem Reachable.orderly (h : m.Reachable) : ∃ fs, m.Orderly fs := by
  induction h with
  | empty => exact ⟨[], orderly_empty⟩
  | append room storage field _ ih =>
    obtain ⟨fs, orderly⟩ := ih
    exact exists_appended orderly.sound orderly fun u => orderly.append
  | exchange table other _ ih =>
    obtain ⟨fs, orderly⟩ := ih
    exact ⟨fs, orderly.exchange table (SymbolTable.sound_of_reachable other)⟩

/-- What a module keeps for the kinds that a field is not of, positions and symbol tables, is as it was. -/
structure OthersKept (field : Field) (m u : Module) : Prop where
  funcs : field.func? = none → u.funcAt = m.funcAt ∧ u.funcSymbols = m.funcSymbols
  imports : field.import? = none → u.importAt = m.importAt ∧ u.importSymbols = m.importSymbols
  exports : field.export? = none → u.exportAt = m.exportAt ∧ u.exportSymbols = m.exportSymbols
  types : field.funcType? = none → u.typeAt = m.typeAt ∧ u.typeSymbols = m.typeSymbols
  table : field.table? = none → u.tableAt = m.tableAt
  memory : field.memory? = none → u.memoryAt = m.memoryAt
  start : field.start? = none → u.startAt = m.startAt
  globals : field.globals? = none → u.globals = m.globals

/-- What a module shows of the kinds that a field is not of is as it was. -/
structure OthersShown (field : Field) (m u : Module) : Prop where
  funcs : field.func? = none →
    u.numFuncs = m.numFuncs ∧ (∀ i, u.func? i = m.func? i) ∧ u.funcs = m.funcs
  imports : field.import? = none →
    u.numImports = m.numImports ∧ (∀ i, u.import? i = m.import? i) ∧ u.imports = m.imports
  exports : field.export? = none →
    u.numExports = m.numExports ∧ (∀ i, u.export? i = m.export? i) ∧ u.exports = m.exports
  types : field.funcType? = none →
    u.numTypes = m.numTypes ∧ (∀ i, u.type? i = m.type? i) ∧ u.types = m.types
  table : field.table? = none → u.table? = m.table?
  memory : field.memory? = none → u.memory? = m.memory?
  start : field.start? = none → u.start? = m.start?

theorem Registered.kept {here : Nat} {positions positions' : Array Nat}
    {symbols symbols' : SymbolTable}
    (h : Registered storage here field pick name positions positions' symbols symbols')
    (other : pick field = none) : positions' = positions ∧ symbols' = symbols := by
  simpa [Registered, other] using h

theorem Replaced.kept {here : Nat} {position position' : Option Nat}
    (h : Replaced here field pick position position') (other : pick field = none) :
    position' = position := by
  simpa [Replaced, other] using h

theorem Appended.othersKept (appended : Appended storage m field u) : OthersKept field m u where
  funcs := appended.funcs.kept
  imports := appended.imports.kept
  exports := appended.exports.kept
  types := appended.types.kept
  table := appended.table.kept
  memory := appended.memory.kept
  start := appended.start.kept
  globals other := by simpa [other] using appended.globals

theorem filterMap_snoc_of_none (other : pick field = none) :
    (fs ++ [field]).filterMap pick = fs.filterMap pick := by
  simp [other]

theorem Appended.othersShown (appended : Appended storage m field u) (views : m.Views fs) :
    OthersShown field m u := by
  have views' := views.append appended
  refine ⟨fun other => ?_, fun other => ?_, fun other => ?_, fun other => ?_, fun other => ?_,
    fun other => ?_, fun other => ?_⟩
  · exact (views'.funcs.viewOf views'.fields).congr (views.funcs.viewOf views.fields)
      (filterMap_snoc_of_none other)
  · exact (views'.imports.viewOf views'.fields).congr (views.imports.viewOf views.fields)
      (filterMap_snoc_of_none other)
  · exact (views'.exports.viewOf views'.fields).congr (views.exports.viewOf views.fields)
      (filterMap_snoc_of_none other)
  · exact (views'.types.viewOf views'.fields).congr (views.types.viewOf views.fields)
      (filterMap_snoc_of_none other)
  · have shown : u.table? = _ := views'.table.bind_eq views'.fields
    rw [shown, filterMap_snoc_of_none other]
    exact (views.table.bind_eq views.fields).symm
  · have shown : u.memory? = _ := views'.memory.bind_eq views'.fields
    rw [shown, filterMap_snoc_of_none other]
    exact (views.memory.bind_eq views.fields).symm
  · have shown : u.start? = _ := views'.start.bind_eq views'.fields
    rw [shown, filterMap_snoc_of_none other]
    exact (views.start.bind_eq views.fields).symm

/-- Whatever lists have room and whatever storage there is for slots, a reachable module is left as it was by
a field that is not appended; one that is appended is the one field more, and changes nothing that is kept or
shown of the other kinds. -/
theorem append_atomic (reached : m.Reachable) (room : ListRoom) (storage : Storage) (field : Field) :
    (∀ f u, m.appendWithin room storage field = (.error f, u) →
      u = m ∧ f.diagnostic?.map Diagnostic.kind = some .allocation) ∧
    ∀ u, m.appendWithin room storage field = (.ok (), u) →
      u.fields = m.fields.push field ∧ OthersKept field m u ∧ OthersShown field m u := by
  obtain ⟨fs, orderly⟩ := reached.orderly
  rcases appendWithin_cases orderly.sound room storage field with
    ⟨f, failed, kind⟩ | ⟨u, done, appended⟩
  · rw [failed]
    refine ⟨fun f' u same => ?_, by simp⟩
    obtain ⟨cause, rfl⟩ := Prod.mk.inj same
    exact ⟨rfl, Except.error.inj cause ▸ kind⟩
  · rw [done]
    refine ⟨by simp, fun u' same => ?_⟩
    obtain rfl := congrArg Prod.snd same
    exact ⟨appended.fields, appended.othersKept, appended.othersShown orderly.views⟩

/-- A module whose table of imports asks for more slots than there can be. -/
def hoarding : Module :=
  Module.empty.withSymbols (.withInitialCapacity SymbolTable.maxCapacity) .imports

/-- Nine globals with a name each, one more than the slots that a table has at first. -/
def nineGlobals : TypeSpace :=
  (TypeSpace.empty.pushAll .addressSpace
    ((List.range 9).map fun i => (some ⟨[UInt8.ofNat (97 + i)]⟩, .i32))).2

theorem append_atomic_hoarding :
    let imported := Field.imported ⟨some ⟨[97]⟩, ⟨[109]⟩, ⟨[102]⟩, none, ⟨.void, []⟩⟩
    let eightSlots := Storage.ofMemory (8 * Storage.slotSize)
    (∃ f, hoarding.appendWithin .ample .addressSpace imported = (.error f, hoarding)) ∧
    (hoarding.globals.extend eightSlots nineGlobals).2.symbols.len = 8 ∧
    (∃ f, hoarding.appendWithin .ample eightSlots (.globals nineGlobals) = (.error f, hoarding)) ∧
    ∃ u, hoarding.appendWithin .ample eightSlots (.func ⟨none, none, .empty, .void, .empty, .empty, []⟩) =
      (.ok (), u) ∧ u.fields.size = 1 ∧ u.importSymbols = hoarding.importSymbols := by
  intro imported eightSlots
  have reached : hoarding.Reachable := .exchange .imports (.start (Nat.le_refl _)) .empty
  have import_failed : (hoarding.appendWithin .ample .addressSpace imported).1 =
      .error (.symbols (.refused SymbolTable.maxCapacity)) := by decide +kernel
  have globals_failed : (hoarding.appendWithin .ample eightSlots (.globals nineGlobals)).1 =
      .error (.symbols (.refused 16)) := by decide +kernel
  refine ⟨⟨_, Prod.ext import_failed ?_⟩, by decide +kernel, ⟨_, Prod.ext globals_failed ?_⟩,
    _, Prod.ext (by decide +kernel) rfl, ?_⟩
  · exact ((append_atomic reached .ample .addressSpace imported).1 _ _
      (Prod.ext import_failed rfl)).1
  · exact ((append_atomic reached .ample eightSlots (.globals nineGlobals)).1 _ _
      (Prod.ext globals_failed rfl)).1
  · obtain ⟨fields, kept, -⟩ :=
      (append_atomic reached .ample eightSlots
        (.func ⟨none, none, .empty, .void, .empty, .empty, []⟩)).2 _
          (Prod.ext (by decide +kernel) rfl)
    exact ⟨by rw [fields]; rfl, (kept.imports rfl).2⟩

end WasmText.Module
