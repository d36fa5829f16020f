import WasmText.Proofs.Module.Atomicity
import WasmText.Proofs.Module.Resolution

/-!
# Exported functions

Whether a function of a module is exported is told from its name and its position, and no name is looked
up. Each function of an assembled module stands at one position, and where no two functions have the same
name the name of a function leads to no other. So the functions that are exported are those to which the
exports resolve (`isExported_iff_resolves`).
-/
namespace WasmText.Module

variable {α : Type} {m u : Module} {field : Field} {storage : Storage} {fs : List Field}
  {pick : Field → Option α} {name : α → Option Name}

/-- The positions of a kind are all those where its fields stand. -/
theorem Registered.findIdxs {positions positions' : Array Nat} {symbols symbols' : SymbolTable}
    (h : Registered storage fs.length field pick name positions positions' symbols symbols')
    (placed : positions.toList = fs.findIdxs fun f => (pick f).isSome) :
    positions'.toList = (fs ++ [field]).findIdxs fun f => (pick f).isSome := by
  rw [List.findIdxs_append, List.findIdxs_singleton, ← placed, Nat.zero_add]
  rw [Registered] at h
  split at h
  · rename_i other
    simp [other, h.1]
  · rename_i a picked
    simp [picked, (register_ok h).1]

/-- What is kept of the functions among these fields: where they stand, and under which names. -/
structure Keeps (m : Module) (fs : List Field) : Prop extends m.Orderly fs where
  named : m.funcSymbols.Numbers ((fs.filterMap Field.func?).map Func.name)
  placed : m.funcAt.toList = fs.findIdxs fun f => f.func?.isSome

theorem keeps_empty : empty.Keeps [] where
  toOrderly := orderly_empty
  named := SymbolTable.numbers_withInitialCapacity SymbolTable.defaultCapacity
  placed := rfl

theorem Keeps.append (h : m.Keeps fs) (appended : Appended storage m field u) :
    u.Keeps (fs ++ [field]) := by
  have here : m.fields.size = fs.length := by simpa using congrArg List.length h.views.fields
  have placed := appended.funcs
  rw [here] at placed
  exact ⟨h.toOrderly.append appended, appended.funcs.numbers h.views.funcs h.named,
    placed.findIdxs h.placed⟩

/-- However a module was assembled, it keeps its functions, for an append that fails changes nothing. -/
theorem Assembled.keeps (h : Assembled m) : ∃ fs, m.Keeps fs := by
  induction h with
  | empty => exact ⟨[], keeps_empty⟩
  | append room storage field _ ih =>
    obtain ⟨fs, keeps⟩ := ih
    exact exists_appended keeps.sound keeps fun u => keeps.append

/-- Each function among the fields has one position. -/
theorem Keeps.existsUnique_position {p : Nat} {f : Func} (h : m.Keeps fs)
    (there : (m.fields[p]?).bind Field.func? = some f) : ∃! i : Nat, m.funcAt[i]? = some p := by
  obtain ⟨field, stands, is_func⟩ := Option.bind_eq_some_iff.mp there
  rw [← Array.getElem?_toList, h.views.fields] at stands
  have mem : p ∈ m.funcAt.toList := by
    obtain ⟨lt, rfl⟩ := List.getElem?_eq_some_iff.mp stands
    rw [h.placed, List.mem_findIdxs_iff_exists_getElem_pos]
    exact ⟨lt, by simp [is_func]⟩
  have nodup : m.funcAt.toList.Nodup := h.placed ▸ List.nodup_findIdxs
  obtain ⟨i, hi⟩ := List.mem_iff_getElem?.mp mem
  refine ⟨i, by simpa using hi, fun j hj => ?_⟩
  have hj : m.funcAt.toList[j]? = some p := by simpa using hj
  obtain ⟨lt, -⟩ := List.getElem?_eq_some_iff.mp hj
  exact (List.getElem?_inj lt nodup).mp (hj.trans hi.symm)

theorem Keeps.funcs_eq (h : m.Keeps fs) : m.funcs = fs.filterMap Field.func? :=
  (h.views.funcs.viewOf h.views.fields).all_eq

theorem Keeps.func?_eq (h : m.Keeps fs) (i : Nat) : m.func? i = m.funcs[i]? := by
  rw [h.funcs_eq]
  exact (h.views.funcs.viewOf h.views.fields).get?_eq i

theorem Keeps.numFuncs_eq (h : m.Keeps fs) : m.numFuncs = m.funcs.length := by
  rw [h.funcs_eq]
  exact (h.views.funcs.viewOf h.views.fields).num_eq

theorem Keeps.resolves (h : m.Keeps fs) (fits : m.numFuncs ≤ UInt32.size) :
    Resolves m.funcs Func.name id m.funcIndex? m.funcOf? := by
  refine resolves_of_numbers (t := m.funcSymbols) ?_ (h.numFuncs_eq ▸ fits) fun r => ?_
  · rw [h.funcs_eq]
    exact h.named
  · simp [funcOf?, funcIndex?, h.func?_eq]

/-- An export means the function at a position exactly when it resolves to that position: names are distinct, so
none leads to another function of the name. -/
theorem exportMeans_iff_resolves {i : Nat} {f : Func} {e : Export}
    (resolves : Resolves m.funcs Func.name id m.funcIndex? m.funcOf?)
    (distinct : (m.funcs.filterMap Func.name).Nodup) (there : m.func? i = some f)
    (listed : m.funcs[i]? = some f) :
    m.exportMeans f.name (some i) e = true ↔
      (m.funcIndex? e.function).map UInt32.toNat = some i := by
  cases meant : e.function with
  | index j =>
    simp only [exportMeans, meant, funcIndex?, Ref.resolve, Bool.and_eq_true, beq_iff_eq,
      Option.map_some, Option.some.injEq]
    constructor
    · rintro ⟨-, rfl⟩
      rfl
    · rintro rfl
      simp [there]
  | name n =>
    simp only [exportMeans, meant, Name.sameName_eq_true_iff]
    constructor
    · rintro ⟨same, -⟩
      exact (resolves.of_distinct distinct listed same.symm).1
    · intro found
      obtain ⟨j, looked, rfl⟩ := Option.map_eq_some_iff.mp found
      obtain ⟨g, listed', named, -⟩ := resolves.named n j looked
      obtain rfl : g = f := Option.some.inj (listed'.symm.trans listed)
      exact ⟨named.symm, rfl⟩

/-- A function that is not taken from the module can be meant by name alone. -/
theorem isExportedDetached_iff (m : Module) (f : Func) : m.isExportedDetached f = true ↔
    ∃ n, f.name = some n ∧ ∃ e ∈ m.exports, e.function = .name n := by
  rw [isExportedDetached, isExported, List.any_eq_true]
  constructor
  · rintro ⟨e, he, means⟩
    cases meant : e.function with
    | index j => simp [exportMeans, meant] at means
    | name n =>
      rw [exportMeans, meant, Name.sameName_eq_true_iff] at means
      exact ⟨n, means.1.symm, e, he, meant⟩
  · rintro ⟨n, named, e, he, meant⟩
    exact ⟨e, he, by simp [exportMeans, meant, named, Name.sameName]⟩

/-- Where positions are numbers of 32 bits and no two functions have the same name, a function of an
assembled module is exported exactly when an export resolves to its position, and each function among the
fields has one position. A function that stands nowhere in the module is exported by its name alone. -/
theorem isExported_iff_resolves (assembled : Assembled m) (fits : m.numFuncs ≤ UInt32.size)
    (distinct : (m.funcs.filterMap Func.name).Nodup) :
    (∀ i < m.numFuncs, m.isExportedAt? i =
      some (decide (∃ e ∈ m.exports, (m.funcIndex? e.function).map UInt32.toNat = some i))) ∧
    (∀ p f, (m.fields[p]?).bind Field.func? = some f → ∃! i : Nat, m.funcAt[i]? = some p) ∧
    ∀ f, m.isExportedDetached f = true ↔
      ∃ n, f.name = some n ∧ ∃ e ∈ m.exports, e.function = .name n := by
  obtain ⟨fs, keeps⟩ := assembled.keeps
  refine ⟨fun i hi => ?_, fun p f there => keeps.existsUnique_position there,
    isExportedDetached_iff m⟩
  rw [keeps.numFuncs_eq] at hi
  have listed : m.funcs[i]? = some m.funcs[i] := List.getElem?_eq_getElem hi
  have there := (keeps.func?_eq i).trans listed
  rw [isExportedAt?, there, Option.map_some, isExported]
  congr 1
  rw [Bool.eq_iff_iff, List.any_eq_true, decide_eq_true_iff]
  exact exists_congr fun e => and_congr_right fun _ =>
    exportMeans_iff_resolves (keeps.resolves fits) distinct there listed

theorem Assembled.foldl (h : Assembled m) (fields : List Field) :
    Assembled (fields.foldl (fun m field => (m.appendWithin .ample .addressSpace field).2) m) := by
  induction fields generalizing m with
  | nil => exact h
  | cons field rest ih => exact ih (h.append .ample .addressSpace field)

/-- A function without a body. -/
def bodiless (name : Option Name) : Func :=
  ⟨name, none, .empty, .void, .empty, .empty, []⟩

/-- Exports by name and by index, of functions that come before or after them or not at all. -/
def exporting : Module :=
  [.exported ⟨⟨[120]⟩, .name ⟨[98]⟩⟩, .func (bodiless (some ⟨[97]⟩)), .exported ⟨⟨[121]⟩, .index 2⟩,
    .func (bodiless (some ⟨[98]⟩)), .func (bodiless none), .exported ⟨⟨[122]⟩, .index 40⟩,
    .exported ⟨⟨[119]⟩, .name ⟨[99]⟩⟩].foldl
      (fun m field => (m.appendWithin .ample .addressSpace field).2) .empty

theorem isExported_exporting :
    (List.range 3).map exporting.isExportedAt? = [some false, some true, some true] ∧
    (∃! i : Nat, exporting.funcAt[i]? = some 4) ∧
    exporting.isExportedDetached (bodiless (some ⟨[98]⟩)) = true ∧
    exporting.isExportedDetached (bodiless none) ≠ true := by
  obtain ⟨attached, position, detached⟩ :=
    isExported_iff_resolves (m := exporting) (Assembled.empty.foldl _) (by decide +kernel)
      (by decide +kernel)
  have three : exporting.numFuncs = 3 := by decide +kernel
  rw [three] at attached
  have is_func : ((exporting.fields[4]?).bind Field.func?).isSome := by decide +kernel
  obtain ⟨f, there⟩ := Option.isSome_iff_exists.mp is_func
  refine ⟨?_, position 4 f there, (detached _).mpr ?_, fun exported => ?_⟩
  · have all : ∀ i ∈ List.range 3, exporting.isExportedAt? i = some (decide
        (∃ e ∈ exporting.exports, (exporting.funcIndex? e.function).map UInt32.toNat = some i)) :=
      fun i hi => attached i (List.mem_range.mp hi)
    rw [List.map_congr_left all]
    decide +kernel
  · exact ⟨_, rfl, ⟨⟨[120]⟩, .name ⟨[98]⟩⟩, by decide +kernel, rfl⟩
  · obtain ⟨n, named, -⟩ := (detached _).mp exported
    cases named

end WasmText.Module
