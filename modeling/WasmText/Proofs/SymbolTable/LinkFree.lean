import Mathlib.Data.List.Perm.Basic
import WasmText.Proofs.SymbolTable.Invariant
import WasmText.Proofs.SymbolTable.Rounding
import WasmText.SymbolTable.Layout

/-!
# Where a run leaves the entries

The links of a table find its entries but have no say in where these lie: action by action the layout of
a table is what the model without links makes of the layout before. This rests on the order of the free
list, whose head is the highest free slot.
-/
namespace WasmText

namespace Layout
open SymbolTable (Action)

/-- Sets the position in the entry of a cell. -/
def setIndex (l : Layout) (i : Nat) (index : UInt32) : Layout :=
  ⟨l.cells.modify i fun cell => cell.map fun e => { e with index := index }⟩

/-- Does an action to the layout of a table with this initial capacity. -/
def act (storage : Storage) (initial : Nat) (l : Layout) : Action → Layout
  | .insert name => l.insert storage initial ⟨name, 0⟩
  | .bind name index => l.insert storage initial ⟨name, index⟩
  | .write i index => l.setIndex i index
  | .copy => l
  | .resize capacity => l.resize storage capacity

/-- Does actions one after another, each with the storage it meets. -/
def run (initial : Nat) (steps : List (Storage × Action)) (l : Layout) : Layout :=
  steps.foldl (fun l step => l.act step.1 initial step.2) l

end Layout

namespace SymbolTable

variable {t u r : SymbolTable} {storage : Storage}

theorem cells_layout (t : SymbolTable) (i : Nat) :
    t.layout.cells[i]? = if i < t.capacity then some (t.slot i).entry else none := by
  by_cases lt : i < t.capacity
  · have lt' : i < t.slots.size := lt
    simp [layout, lt, lt', slot_eq_getElem lt']
  · have ge : ¬ i < t.slots.size := lt
    simp [layout, lt, ge]

/-- A layout is that of a table when it has the same entries in as many cells. -/
theorem layout_eq_of_cells {l : Layout} (capacity : l.capacity = t.capacity)
    (cell : ∀ i < t.capacity, l.cells[i]? = some (t.slot i).entry) : l = t.layout := by
  suffices same : l.cells = t.layout.cells by
    cases l
    cases h : t.layout
    simp_all
  refine List.ext_getElem? fun i => ?_
  rw [cells_layout]
  by_cases lt : i < t.capacity
  · rw [cell i lt, if_pos lt]
  · rw [if_neg lt]
    exact List.getElem?_eq_none (by rw [← capacity] at lt; exact Nat.not_lt.mp lt)

theorem mainSlot_layout (t : SymbolTable) (name : Name) :
    t.layout.mainSlot name = t.mainSlot name := by
  rw [Layout.mainSlot, mainSlot, capacity_layout]

/-- The free list is the free slots from the highest down. -/
theorem FreeList.eq_filter {free : List Nat} (h : t.FreeList free) :
    free = (List.range t.capacity).reverse.filter fun i => t.layout.cells[i]? == some none := by
  have falling : (List.range t.capacity).reverse.Pairwise (· > ·) :=
    List.pairwise_reverse.mpr List.pairwise_lt_range
  refine List.Perm.eq_of_pairwise (fun i j _ _ hij hji => absurd hij (Nat.lt_asymm hji)) h.falling
    (falling.filter _) ?_
  refine (List.perm_ext_iff_of_nodup h.nodup ?_).mpr fun i => ?_
  · exact (List.nodup_reverse.mpr List.nodup_range).filter _
  · rw [h.mem_iff]
    by_cases lt : i < t.capacity <;> simp [cells_layout, lt]

theorem FreeList.highestFree? {free : List Nat} (h : t.FreeList free) :
    t.layout.highestFree? = free.head? := by
  rw [h.eq_filter, List.head?_filter, Layout.highestFree?, capacity_layout]

theorem highestFree?_layout (linked : t.WellLinked) : t.layout.highestFree? = t.freeHead := by
  obtain ⟨⟨free, listed⟩, -⟩ := wellLinked_iff.mp linked
  rw [listed.highestFree?, listed.head_eq]

theorem cells_write (l : Layout) (i : Nat) (e : Entry) (j : Nat) (lt : j < l.capacity) :
    (l.write i e).cells[j]? = if i = j then some (some e) else l.cells[j]? := by
  rw [Layout.write, List.getElem?_set]
  by_cases hj : i = j
  · subst j
    simp [show i < l.cells.length from lt]
  · simp [hj]

/-- An entry is placed where the model without links places it: in its main slot if that is free, anywhere in
the free list, and else by way of the highest free slot, which is the head of the list. -/
theorem Placing.place?_layout {e : Entry} {i : Nat} (h : t.Placing e i u)
    (capacity : u.capacity = t.capacity) : t.layout.place? e = some u.layout := by
  have cells : ∀ j < u.capacity, t.layout.cells[j]? = some (t.slot j).entry := fun j hj => by
    rw [cells_layout, if_pos (capacity ▸ hj)]
  have inside : ∀ j < u.capacity, j < t.layout.capacity := fun j hj => by
    rwa [capacity_layout, ← capacity]
  have written : (∀ j, (u.slot j).entry = if i = j then some e else (t.slot j).entry) →
      t.layout.write i e = u.layout := fun entry =>
    layout_eq_of_cells (by simp [capacity, capacity_layout]) fun j hj => by
      rw [cells_write _ _ _ _ (inside j hj), entry, cells j hj]
      split_ifs <;> rfl
  cases h with
  | single home listed _ _ _ entry =>
    have cell : t.layout.cells[i]? = some none := by
      rw [cells i (capacity ▸ listed.lt_capacity i (by simp)), listed.vacant (by simp)]
    simp only [Layout.place?, mainSlot_layout, home]
    rw [cell]
    exact congrArg some (written entry)
  | @second main _ _ chain home listed chained chain_main _ _ entry =>
    have own := (chained.mem_iff main main).mp (by simp [chain_main])
    have cell : t.layout.cells[main]? = some (t.slot main).entry :=
      cells main (capacity ▸ own.lt_capacity)
    obtain ⟨occupant, occupied, at_home⟩ := own
    simp only [Layout.place?, mainSlot_layout, home]
    rw [cell, occupied]
    simp [listed.highestFree?, at_home, written entry]
  | @evict home pred free _ _ _ chain main displaced listed chained chain_home _ _ entry =>
    have own := (chained.mem_iff home i).mp (by simp [chain_home])
    have cell : t.layout.cells[i]? = some (t.slot i).entry :=
      cells i (capacity ▸ own.lt_capacity)
    obtain ⟨occupant, occupied, at_home⟩ := own
    have moved : (t.layout.write free occupant).write i e = u.layout :=
      layout_eq_of_cells (by simp [capacity, capacity_layout]) fun j hj => by
        rw [cells_write _ _ _ _ (by simpa using inside j hj), cells_write _ _ _ _ (inside j hj),
          entry, cells j hj, occupied]
        split_ifs <;> rfl
    simp only [Layout.place?, mainSlot_layout, main]
    rw [cell, occupied]
    simp [listed.highestFree?, at_home, displaced, moved]

/-- An entry finds a place exactly when the model without links has one for it, and then the same; else the
table stays as it was. -/
theorem place_cases (linked : t.WellLinked) (e : Entry) :
    (∃ f, t.place e = (.error f, t) ∧ t.layout.place? e = none) ∨
    ∃ i u, t.place e = (.ok i, u) ∧ u.WellLinked ∧ t.layout.place? e = some u.layout := by
  by_cases zero : t.capacity = 0
  · refine .inl ⟨_, place_of_capacity_zero zero e, ?_⟩
    simp [Layout.place?, cells_layout, zero]
  by_cases full : t.freeHead = none
  · refine .inl ⟨_, place_of_full linked zero full e, ?_⟩
    have occupied := (freeHead_eq_none_iff linked).mp full _ (mainSlot_lt zero e.name)
    obtain ⟨occupant, ho⟩ := Option.ne_none_iff_exists'.mp occupied
    simp [Layout.place?, mainSlot_layout, cells_layout, mainSlot_lt zero, ho,
      highestFree?_layout linked, full]
  · obtain ⟨i, u, placed, placing⟩ := place_of_room linked full e
    have capacity : u.capacity = t.capacity := by simpa [placed] using capacity_place t e
    exact .inr ⟨i, u, placed, placing.wellLinked, placing.place?_layout capacity⟩

theorem layout_placeAll (linked : t.WellLinked) (es : List Entry) :
    (placeAll es t).2.layout = Layout.placeAll es t.layout := by
  induction es generalizing t with
  | nil => rfl
  | cons e rest ih =>
    rcases place_cases linked e with ⟨f, failed, nowhere⟩ | ⟨i, u, placed, linked_u, there⟩
    · simp [placeAll, Layout.placeAll, failed, nowhere]
    · simp [placeAll, Layout.placeAll, placed, there, ih linked_u]

theorem layout_cleared (t : SymbolTable) (c : Nat) : (t.cleared c).layout = Layout.blank c := by
  refine (layout_eq_of_cells (by simp) fun i hi => ?_).symm
  rw [entry_cleared]
  simpa [Layout.blank, List.getElem?_replicate] using hi

/-- A resizing of any outcome leaves the entries where the model without links leaves them. -/
theorem layout_resize (t : SymbolTable) (storage : Storage) (c : Nat) :
    (t.resize storage c).2.layout = t.layout.resize storage c := by
  rw [resize, Layout.resize, entries_layout]
  split
  · rw [layout_placeAll (wellLinked_cleared t c), layout_cleared]
  · rfl

theorem neededCapacity_of_room (linked : t.WellLinked) (room : t.freeHead ≠ none) :
    t.layout.neededCapacity t.initialCapacity = t.capacity := by
  simp [Layout.neededCapacity, capacity_layout, highestFree?_layout linked, room,
    capacity_ne_zero linked room]

theorem neededCapacity_of_full (linked : t.WellLinked) (full : t.freeHead = none) :
    t.layout.neededCapacity t.initialCapacity = t.growthSize := by
  simp [Layout.neededCapacity, capacity_layout, highestFree?_layout linked, full, growthSize]

/-- A table that is ready for an entry takes it where the model without links does, which grows first when
the table did. -/
theorem Readied.insert_layout {e : Entry} (h : t.Readied storage r) (linked : t.WellLinked)
    (initial : 0 < t.initialCapacity) (placed : r.layout.place? e = some u.layout) :
    t.layout.insert storage t.initialCapacity e = u.layout := by
  cases h with
  | same room =>
    simp [Layout.insert, neededCapacity_of_room linked room, capacity_layout, placed]
  | grown full resized =>
    have larger := capacity_lt_growthSize initial
    have granted : storage.grants t.growthSize = true := by
      cases granted : storage.grants t.growthSize with
      | false => simp [resize_refused granted] at resized
      | true => rfl
    have layout_r := layout_resize t storage t.growthSize
    rw [resized] at layout_r
    simp [Layout.insert, neededCapacity_of_full linked full, capacity_layout,
      Nat.ne_of_gt larger, granted, ← layout_r, placed]

theorem insert_layout_of_refused {e : Entry} (linked : t.WellLinked)
    (initial : 0 < t.initialCapacity) (full : t.freeHead = none)
    (refused : storage.grants t.growthSize = false) :
    t.layout.insert storage t.initialCapacity e = t.layout := by
  have larger := capacity_lt_growthSize initial
  simp [Layout.insert, neededCapacity_of_full linked full, capacity_layout, Nat.ne_of_gt larger,
    refused]

theorem layout_insert (linked : t.WellLinked) (initial : 0 < t.initialCapacity)
    (storage : Storage) (name : Name) :
    (t.insert storage name).2.layout = t.layout.insert storage t.initialCapacity ⟨name, 0⟩ := by
  rcases insert_cases linked initial storage name with
    ⟨full, refused, inserted⟩ | ⟨r, i, u, ready, placing, capacity, -, -, inserted⟩
  · rw [inserted, insert_layout_of_refused linked initial full refused]
  · rw [inserted, ready.insert_layout linked initial (placing.place?_layout capacity)]

theorem layout_bind (linked : t.WellLinked) (initial : 0 < t.initialCapacity)
    (storage : Storage) (name : Name) (index : UInt32) :
    (t.bind storage name index).2.layout =
      t.layout.insert storage t.initialCapacity ⟨name, index⟩ := by
  rcases bind_cases linked initial storage name index with
    ⟨full, refused, bound⟩ | ⟨r, i, u, ready, placing, capacity, -, -, bound⟩
  · rw [bound, insert_layout_of_refused linked initial full refused]
  · rw [bound, ready.insert_layout linked initial (placing.place?_layout capacity)]

theorem layout_setIndex (t : SymbolTable) (i : Nat) (index : UInt32) :
    (t.setIndex i index).layout = t.layout.setIndex i index := by
  refine (layout_eq_of_cells ?_ fun j hj => ?_).symm
  · simp [Layout.setIndex, Layout.capacity, layout, setIndex, modifySlot, SymbolTable.capacity]
  · rw [Layout.setIndex, List.getElem?_modify, cells_layout, slot_setIndex,
      if_pos (by simpa [setIndex] using hj)]
    split_ifs <;> rfl

/-- One action of any outcome moves the layout as the model without links does. -/
theorem layout_act (sound : t.Sound) (storage : Storage) (action : Action) :
    (t.act storage action).2.layout = t.layout.act storage t.initialCapacity action := by
  cases action with
  | insert name => exact layout_insert sound.linked sound.initial storage name
  | bind name index => exact layout_bind sound.linked sound.initial storage name index
  | write i index => exact layout_setIndex t i index
  | copy => rfl
  | resize capacity => exact layout_resize t storage capacity

theorem Sound.run_layout (sound : t.Sound) (steps : List (Storage × Action)) :
    (run steps t).layout = Layout.run t.initialCapacity steps t.layout := by
  induction steps generalizing t with
  | nil => rfl
  | cons step rest ih =>
    have next := ih (sound_act sound step.1 step.2)
    rwa [initialCapacity_act sound, layout_act sound] at next

/-- Whatever comes of the actions of a run, every slot ends with the entry that the model without links
has there, and so the entries come in the same order. -/
theorem layout_run (requested : Nat) (steps : List (Storage × Action)) :
    (run steps (withInitialCapacity requested)).layout =
      Layout.run (2 ^ Nat.clog 2 (max requested 1)) steps (Layout.blank 0) ∧
    (run steps (withInitialCapacity requested)).entries =
      (Layout.run (2 ^ Nat.clog 2 (max requested 1)) steps (Layout.blank 0)).entries := by
  have same := (sound_start requested).run_layout steps
  have start : (withInitialCapacity requested).layout = Layout.blank 0 := rfl
  rw [start, initialCapacity_withInitialCapacity] at same
  refine ⟨same, ?_⟩
  rw [← entries_layout, same]

/-- A colliding entry in the highest slot, moved from there by the entry at home in it; then the table is
made smaller than its entries. -/
example :
    let bind := fun octet : UInt8 => (Storage.addressSpace, Action.bind ⟨[octet]⟩ octet.toUInt32)
    let steps := [bind 97, bind 101, bind 100]
    (Layout.run 4 steps (Layout.blank 0)).entries.map Entry.index = [97, 101, 100] ∧
    (Layout.run 4 (steps ++ [(.addressSpace, .resize 2)]) (Layout.blank 0)).entries.map
      Entry.index = [97, 101] := by
  decide +kernel

end SymbolTable
end WasmText
