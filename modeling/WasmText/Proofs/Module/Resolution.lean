import WasmText.Module.Resolution
import WasmText.Proofs.Module.Views
import WasmText.Proofs.TypeSpace.Built

/-!
# Names in a module

Each symbol table of a module numbers the names of its kind, whatever else is appended in between and
however the tables are resized. So a reference by name resolves exactly when the kind has an entity of that
name, and then to such an entity (`resolution_of_run`).
-/
namespace WasmText.Module
open SymbolTable (Numbers Finds)

variable {α β : Type} {m u : Module} {field : Field} {storage : Storage} {fs : List Field}
  {pick : Field → Option α} {name : α → Option Name} {value : α → β}
  {decl : TypeSpace → List (Option Name × ValueType)}

/-- References resolve among the entities of a kind: a name exactly when one of them has it, and then to
one that has it; an index to the entity that stands there, if there is one. -/
structure Resolves (entities : List α) (name : α → Option Name) (value : α → β)
    (index? : Ref → Option UInt32) (of? : Ref → Option β) : Prop where
  index?_eq_none_iff : ∀ n, index? (.name n) = none ↔ ∀ a ∈ entities, name a ≠ some n
  of?_eq_none_iff : ∀ n, of? (.name n) = none ↔ ∀ a ∈ entities, name a ≠ some n
  named : ∀ n i, index? (.name n) = some i →
    ∃ a, entities[i.toNat]? = some a ∧ name a = some n ∧ of? (.name n) = some (value a)
  once : ∀ n i a, entities[i]? = some a → name a = some n →
    (entities.map name).count (some n) = 1 → (index? (.name n)).map UInt32.toNat = some i
  of?_index : ∀ i, of? (.index i) = (entities[i.toNat]?).map value

theorem resolves_of_numbers {entities : List α} {t : SymbolTable} {of? : Ref → Option β}
    (numbers : t.Numbers (entities.map name)) (fits : entities.length ≤ UInt32.size)
    (of?_eq : ∀ r, of? r = (r.resolve t).bind fun i => (entities[i.toNat]?).map value) :
    Resolves entities name value (·.resolve t) of? := by
  have finds := numbers.finds (by rwa [List.length_map])
  have absent : ∀ n, t.lookup n = none ↔ ∀ a ∈ entities, name a ≠ some n := by
    intro n
    simpa using finds.eq_none_iff n
  have named : ∀ n i, t.lookup n = some i →
      ∃ a, entities[i.toNat]? = some a ∧ name a = some n ∧ of? (.name n) = some (value a) := by
    intro n i looked
    have there := finds.getElem? n i looked
    rw [List.getElem?_map, Option.map_eq_some_iff] at there
    obtain ⟨a, ha, hn⟩ := there
    exact ⟨a, ha, hn, by simp [of?_eq, looked, ha]⟩
  refine ⟨absent, fun n => ?_, named, fun n i a ha hn once => ?_, fun i => by simp [of?_eq]⟩
  · rw [← absent]
    cases looked : t.lookup n with
    | none => simp [of?_eq, looked]
    | some i =>
      obtain ⟨a, -, -, found⟩ := named n i looked
      simp [found]
  · exact finds.once n i (by simp [ha, hn]) once

/-- Where no two entities have the same name, each is found by its own. -/
theorem Resolves.of_distinct {entities : List α} {index? : Ref → Option UInt32}
    {of? : Ref → Option β} {n : Name} {i : Nat} {a : α}
    (h : Resolves entities name value index? of?) (distinct : (entities.filterMap name).Nodup)
    (there : entities[i]? = some a) (named : name a = some n) :
    (index? (.name n)).map UInt32.toNat = some i ∧ of? (.name n) = some (value a) := by
  have once : (entities.map name).count (some n) = 1 := by
    have at_most := List.nodup_iff_count_le_one.mp distinct n
    rw [List.count_filterMap] at at_most
    have same : (entities.map name).count (some n) = entities.countP fun a => name a == some n := by
      rw [List.count_eq_countP, List.countP_map]
      rfl
    have present : 0 < (entities.map name).count (some n) :=
      List.count_pos_iff.mpr (List.mem_map.mpr ⟨a, List.mem_of_getElem? there, named⟩)
    omega
  have index := h.once n i a there named once
  obtain ⟨j, looked, rfl⟩ := Option.map_eq_some_iff.mp index
  obtain ⟨b, there', -, found⟩ := h.named n j looked
  obtain rfl : b = a := Option.some.inj (there'.symm.trans there)
  exact ⟨index, found⟩

/-- Every symbol table numbers the names of its kind. -/
structure Named (decl : TypeSpace → List (Option Name × ValueType)) (m : Module) (fs : List Field) :
    Prop where
  funcs : m.funcSymbols.Numbers ((fs.filterMap Field.func?).map Func.name)
  imports : m.importSymbols.Numbers ((fs.filterMap Field.import?).map Import.name)
  exports : m.exportSymbols.Numbers ((fs.filterMap Field.export?).map fun e => some e.name)
  types : m.typeSymbols.Numbers ((fs.filterMap Field.funcType?).map FuncType.name)
  globals : m.globals.Holds ((fs.filterMap Field.globals?).flatMap decl)

theorem named_empty : Named decl empty [] := by
  have start := SymbolTable.numbers_withInitialCapacity SymbolTable.defaultCapacity
  exact ⟨start, start, start, start, TypeSpace.holds_empty⟩

theorem Registered.numbers {here : Nat} {positions positions' : Array Nat}
    {symbols symbols' : SymbolTable}
    (h : Registered storage here field pick name positions positions' symbols symbols')
    (located : Locates fs pick positions.toList)
    (numbers : symbols.Numbers ((fs.filterMap pick).map name)) :
    symbols'.Numbers (((fs ++ [field]).filterMap pick).map name) := by
  have size : positions.size = ((fs.filterMap pick).map name).length := by
    rw [List.length_map]
    exact located.length_eq
  rw [Registered] at h
  split at h
  · rename_i other
    simpa [other, h.2] using numbers
  · rename_i a picked
    obtain ⟨-, unnamed, bound⟩ := register_ok h
    rw [List.filterMap_append, List.map_append]
    simp only [List.filterMap_cons, picked, List.filterMap_nil, List.map_cons, List.map_nil]
    cases named : name a with
    | none =>
      rw [unnamed named]
      exact numbers.append_none
    | some n =>
      have bound := bound n named
      rw [size] at bound
      exact numbers.bind bound

theorem Named.append (h : Named decl m fs) (views : m.Views fs)
    (appended : Appended storage m field u)
    (built : ∀ g, field.globals? = some g → g.Built (decl g)) : Named decl u (fs ++ [field]) := by
  refine ⟨appended.funcs.numbers views.funcs h.funcs, appended.imports.numbers views.imports h.imports,
    appended.exports.numbers views.exports h.exports, appended.types.numbers views.types h.types, ?_⟩
  have globals := appended.globals
  split at globals
  · rename_i other
    simpa [other, globals] using h.globals
  · rename_i g picked
    simpa [picked] using h.globals.extend (built g picked).holds globals

theorem Named.resize {table : Table} {capacity : Nat} (h : Named decl m fs)
    (resized : m.act storage (.resize table capacity) = (.ok (), u)) : Named decl u fs := by
  obtain ⟨outcome, rfl⟩ := Prod.mk.inj resized
  have numbers : ∀ {names}, (m.symbols table).Numbers names →
      ((m.symbols table).resize storage capacity).2.Numbers names :=
    fun h => h.resize (Prod.ext outcome rfl)
  cases table with
  | funcs => exact ⟨numbers h.funcs, h.imports, h.exports, h.types, h.globals⟩
  | imports => exact ⟨h.funcs, numbers h.imports, h.exports, h.types, h.globals⟩
  | exports => exact ⟨h.funcs, h.imports, numbers h.exports, h.types, h.globals⟩
  | types => exact ⟨h.funcs, h.imports, h.exports, numbers h.types, h.globals⟩
  | globals =>
    exact ⟨h.funcs, h.imports, h.exports, h.types, h.globals.types, numbers h.globals.symbols⟩

theorem named_actAll {steps : List (Storage × Action)} (run : actAll steps .empty = (.ok (), m))
    (built : ∀ g ∈ (declared steps).filterMap Field.globals?, g.Built (decl g)) :
    Named decl m (declared steps) := by
  let P : Module → List Field → Prop := fun m fs =>
    m.Views fs ∧ ((∀ g ∈ fs.filterMap Field.globals?, g.Built (decl g)) → Named decl m fs)
  have kept : P m ([] ++ declared steps) := by
    refine actAll_induction (P := P) (fun {_ _ _ field _} h appended => ?_) (fun h resized => ?_)
      ⟨views_empty, fun _ => named_empty⟩ run
    · refine ⟨h.1.append appended, fun built => ?_⟩
      simp only [List.filterMap_append, List.mem_append] at built
      refine (h.2 fun g hg => built g (.inl hg)).append h.1 appended fun g picked => ?_
      exact built g (.inr (by simp [picked]))
    · exact ⟨h.1.resize resized, fun built => (h.2 built).resize resized⟩
  simpa using kept.2 (by simpa using built)

/-- After a run that succeeds, and as long as positions are numbers of 32 bits, references to functions,
imports, function types and globals resolve among the declared ones, the globals of all fields being one
list; an export is found by name exactly when there is one of that name. -/
theorem resolution_of_run {steps : List (Storage × Action)}
    (run : actAll steps .empty = (.ok (), m))
    (built : ∀ g ∈ (declared steps).filterMap Field.globals?, g.Built (decl g))
    (fits : m.numFuncs ≤ UInt32.size ∧ m.numImports ≤ UInt32.size ∧ m.numExports ≤ UInt32.size ∧
      m.numTypes ≤ UInt32.size ∧ m.globals.len ≤ UInt32.size) :
    let fs := declared steps
    Resolves (fs.filterMap Field.func?) Func.name id m.funcIndex? m.funcOf? ∧
    Resolves (fs.filterMap Field.import?) Import.name id m.importIndex? m.importOf? ∧
    Resolves (fs.filterMap Field.funcType?) FuncType.name id m.typeIndex? m.typeOf? ∧
    Resolves ((fs.filterMap Field.globals?).flatMap decl) Prod.fst Prod.snd m.globalIndex?
      m.globalType? ∧
    (∀ n, m.exportNamed? n = none ↔ ∀ e ∈ fs.filterMap Field.export?, e.name ≠ n) ∧
    ∀ n e, m.exportNamed? n = some e → e ∈ fs.filterMap Field.export? ∧ e.name = n := by
  intro fs
  have views : m.Views fs := views_actAll run
  have named : Named decl m fs := named_actAll run built
  obtain ⟨fit_funcs, fit_imports, fit_exports, fit_types, fit_globals⟩ := fits
  have funcs := views.funcs.viewOf views.fields
  have imports := views.imports.viewOf views.fields
  have exports := views.exports.viewOf views.fields
  have types := views.types.viewOf views.fields
  have func : ∀ i, m.func? i = _ := funcs.get?_eq
  have import' : ∀ i, m.import? i = _ := imports.get?_eq
  have export' : ∀ i, m.export? i = _ := exports.get?_eq
  have type : ∀ i, m.type? i = _ := types.get?_eq
  have exported : Resolves (fs.filterMap Field.export?) (fun e => some e.name) id
      (·.resolve m.exportSymbols)
      (fun r => (r.resolve m.exportSymbols).bind fun i => m.export? i.toNat) :=
    resolves_of_numbers named.exports (exports.num_eq ▸ fit_exports) fun r => by simp [export']
  refine ⟨resolves_of_numbers named.funcs (funcs.num_eq ▸ fit_funcs) fun r => ?_,
    resolves_of_numbers named.imports (imports.num_eq ▸ fit_imports) fun r => ?_,
    resolves_of_numbers named.types (types.num_eq ▸ fit_types) fun r => ?_,
    resolves_of_numbers named.globals.symbols (named.globals.len_eq ▸ fit_globals) fun r => ?_,
    fun n => ?_, fun n e found => ?_⟩
  · simp [funcOf?, funcIndex?, func]
  · simp [importOf?, importIndex?, import']
  · simp [typeOf?, typeIndex?, type]
  · simp only [globalType?, globalIndex?]
    congr 1
    funext i
    exact named.globals.typeAt?_eq i
  · have absent := exported.of?_eq_none_iff n
    simpa [exportNamed?] using absent
  · obtain ⟨i, looked, -⟩ := Option.bind_eq_some_iff.mp found
    obtain ⟨e', there, name_eq, found'⟩ := exported.named n i looked
    obtain rfl : e' = e := Option.some.inj (found'.symm.trans found)
    exact ⟨List.mem_of_getElem? there, Option.some.inj name_eq⟩

theorem built_oneGlobal {n : Name}
    (pushed : (TypeSpace.empty.push .addressSpace (some n) .i32).1 = .ok ()) :
    (oneGlobal n).Built [(some n, .i32)] :=
  .push .addressSpace (some n) .i32 .empty (Prod.ext pushed rfl)

/-- The names that spaces of one type each were given. -/
def givenNames (s : TypeSpace) : List (Option Name × ValueType) :=
  s.symbols.entries.map fun e => (some e.name, .i32)

theorem resolution_mixed :
    (mixed.funcIndex? (.name ⟨[98]⟩)).map UInt32.toNat = some 2 ∧
    (∀ i, mixed.funcIndex? (.name ⟨[97]⟩) = some i →
      (mixed.funcOf? (.name ⟨[97]⟩)).map Func.name = some (some ⟨[97]⟩)) ∧
    (mixed.funcOf? (.index 4)).isNone ∧
    (mixed.globalIndex? (.name ⟨[104]⟩)).map UInt32.toNat = some 1 ∧
    mixed.exportNamed? ⟨[97]⟩ = none := by
  have run : actAll mixedSteps .empty = (.ok (), mixed) := Prod.ext (by decide +kernel) rfl
  have globals : (declared mixedSteps).filterMap Field.globals? =
      [⟨[103]⟩, ⟨[104]⟩].map oneGlobal := rfl
  have given : ∀ n ∈ [⟨[103]⟩, ⟨[104]⟩], givenNames (oneGlobal n) = [(some n, .i32)] := by
    decide +kernel
  have pushed : ∀ n ∈ [⟨[103]⟩, ⟨[104]⟩],
      (TypeSpace.empty.push .addressSpace (some n) .i32).1 = .ok () := by decide +kernel
  have built : ∀ g ∈ (declared mixedSteps).filterMap Field.globals?, g.Built (givenNames g) := by
    rw [globals]
    intro g hg
    obtain ⟨n, hn, rfl⟩ := List.mem_map.mp hg
    rw [given n hn]
    exact built_oneGlobal (pushed n hn)
  obtain ⟨funcs, -, -, spaces, absent, -⟩ := resolution_of_run run built (by decide +kernel)
  have listed : ((declared mixedSteps).filterMap Field.globals?).flatMap givenNames =
      [(some ⟨[103]⟩, .i32), (some ⟨[104]⟩, .i32)] := by decide +kernel
  rw [listed] at spaces
  refine ⟨funcs.once ⟨[98]⟩ 2 _ rfl rfl (by decide), fun i found => ?_, ?_,
    spaces.once ⟨[104]⟩ 1 _ rfl rfl (by decide), (absent _).mpr (by decide)⟩
  · obtain ⟨f, -, name, resolved⟩ := funcs.named ⟨[97]⟩ i found
    simp [resolved, name]
  · rw [funcs.of?_index]
    rfl

end WasmText.Module
