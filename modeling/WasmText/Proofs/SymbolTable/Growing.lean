import WasmText.Proofs.SymbolTable.Content
import WasmText.SymbolTable.Growth

/-!
# Growing a table

Blank slots are well linked whatever the table was like before, and placing the old entries again keeps
them so. With enough slots all entries find room, and none is lost or doubled.
-/
namespace WasmText.SymbolTable

variable {t u : SymbolTable} {storage : Storage}

theorem slot_cleared (t : SymbolTable) {c j : Nat} (lt : j < c) : (t.cleared c).slot j =
    ⟨none, if j = 0 then none else some (j - 1), if j + 1 < c then some (j + 1) else none⟩ := by
  rw [slot_eq_getElem (by simpa [cleared] using lt)]
  simp [cleared, blankSlots]

theorem entry_cleared (t : SymbolTable) (c j : Nat) : ((t.cleared c).slot j).entry = none := by
  by_cases lt : j < c
  · rw [slot_cleared t lt]
  · rw [slot_eq_blank (by simpa using lt)]
    rfl

/-- The first so many blank slots, from the highest down, form a walk to the end of the free list. -/
theorem leads_cleared (t : SymbolTable) {c n : Nat} (le : n ≤ c) :
    (t.cleared c).Leads (if n = 0 then none else some (n - 1)) (List.range n).reverse none := by
  induction n with
  | zero => rfl
  | succ n ih =>
    rw [List.range_succ, List.reverse_append]
    refine ⟨by simp, ?_⟩
    rw [slot_cleared t (by omega)]
    exact ih (by omega)

theorem backLinked_cleared (t : SymbolTable) {c n : Nat} (le : n ≤ c) :
    (t.cleared c).BackLinked (if n < c then some n else none) (List.range n).reverse := by
  induction n with
  | zero => trivial
  | succ n ih =>
    rw [List.range_succ, List.reverse_append]
    refine ⟨by rw [slot_cleared t (by omega)], ?_⟩
    have lt : n < c := by omega
    simpa [lt] using ih (by omega)

theorem freeList_cleared (t : SymbolTable) (c : Nat) :
    (t.cleared c).FreeList (List.range c).reverse := by
  constructor
  · exact leads_cleared t (Nat.le_refl c)
  · simpa using backLinked_cleared t (Nat.le_refl c)
  · exact List.pairwise_reverse.mpr List.pairwise_lt_range
  · simp [entry_cleared]

theorem chained_cleared (t : SymbolTable) (c : Nat) : (t.cleared c).Chained fun _ => [] := by
  constructor
  · simp
  · simp
  · simp [BelongsTo, entry_cleared]

theorem wellLinked_cleared (t : SymbolTable) (c : Nat) : (t.cleared c).WellLinked :=
  wellLinked_iff.mpr ⟨⟨_, freeList_cleared t c⟩, _, chained_cleared t c⟩

theorem cleared_withInitialCapacity (requested : Nat) :
    (withInitialCapacity requested).cleared 0 = withInitialCapacity requested := by
  simp [cleared, blankSlots, withInitialCapacity]

theorem wellLinked_withInitialCapacity (requested : Nat) :
    (withInitialCapacity requested).WellLinked := by
  rw [← cleared_withInitialCapacity]
  exact wellLinked_cleared _ 0

@[simp] theorem entries_cleared (t : SymbolTable) (c : Nat) : (t.cleared c).entries = [] := by
  rw [entries_eq_filterMap]
  simp [entry_cleared]

/-- However far placing the entries comes, the table stays well linked. -/
theorem wellLinked_placeAll (linked : t.WellLinked) (es : List Entry) :
    (placeAll es t).2.WellLinked := by
  induction es generalizing t with
  | nil => exact linked
  | cons e rest ih =>
    have placed := wellLinked_place linked e
    rcases h : t.place e with ⟨_ | i, u⟩
    · rw [h] at placed
      simpa [placeAll, h] using placed
    · rw [h] at placed
      simpa [placeAll, h] using ih placed

theorem len_placeAll (es : List Entry) (t : SymbolTable) : (placeAll es t).2.len = t.len := by
  induction es generalizing t with
  | nil => rfl
  | cons e rest ih =>
    have placed := len_place t e
    rcases h : t.place e with ⟨_ | i, u⟩
    · rw [h] at placed
      simpa [placeAll, h] using placed
    · rw [h] at placed
      simpa [placeAll, h, ih] using placed

theorem initialCapacity_placeAll (es : List Entry) (t : SymbolTable) :
    (placeAll es t).2.initialCapacity = t.initialCapacity := by
  induction es generalizing t with
  | nil => rfl
  | cons e rest ih =>
    have placed := initialCapacity_place t e
    rcases h : t.place e with ⟨_ | i, u⟩
    · rw [h] at placed
      simpa [placeAll, h] using placed
    · rw [h] at placed
      simpa [placeAll, h, ih] using placed

/-- Entries that were all placed are in the table with the ones it had. -/
theorem perm_placeAll {es : List Entry} (linked : t.WellLinked)
    (h : placeAll es t = (.ok (), u)) : u.entries.Perm (es ++ t.entries) := by
  induction es generalizing t with
  | nil =>
    obtain rfl : t = u := by simpa [placeAll] using h
    rfl
  | cons e rest ih =>
    rcases hp : t.place e with ⟨_ | i, v⟩
    · simp [placeAll, hp] at h
    · have placing := (placing_of_place linked hp).2
      have capacity : v.capacity = t.capacity := by simpa [hp] using capacity_place t e
      simp only [placeAll, hp] at h
      have below := ih placing.wellLinked h
      exact below.trans ((placing.perm capacity).append_left rest |>.trans List.perm_middle)

/-- Entries that there are enough slots for are all placed. -/
theorem placeAll_of_room {es : List Entry} (linked : t.WellLinked)
    (enough : t.entries.length + es.length ≤ t.capacity) : ∃ u, placeAll es t = (.ok (), u) := by
  induction es generalizing t with
  | nil => exact ⟨t, rfl⟩
  | cons e rest ih =>
    rw [List.length_cons] at enough
    have room : t.freeHead ≠ none := by
      rw [ne_eq, freeHead_eq_none_iff_length linked]
      omega
    obtain ⟨i, v, placed, placing⟩ := place_of_room linked room e
    have capacity : v.capacity = t.capacity := by simpa [placed] using capacity_place t e
    have length := (placing.perm capacity).length_eq
    rw [List.length_cons] at length
    obtain ⟨u, hu⟩ := ih placing.wellLinked (by omega)
    exact ⟨u, by simpa [placeAll, placed] using hu⟩

theorem wellLinked_resize (linked : t.WellLinked) (storage : Storage) (c : Nat) :
    (t.resize storage c).2.WellLinked := by
  rw [resize]
  split
  · exact wellLinked_placeAll (wellLinked_cleared t c) t.entries
  · exact linked

@[simp] theorem initialCapacity_resize (storage : Storage) (t : SymbolTable) (c : Nat) :
    (t.resize storage c).2.initialCapacity = t.initialCapacity := by
  rw [resize]
  split
  · rw [initialCapacity_placeAll]
    rfl
  · rfl

@[simp] theorem len_resize (storage : Storage) (t : SymbolTable) (c : Nat) :
    (t.resize storage c).2.len = t.len := by
  rw [resize]
  split
  · rw [len_placeAll]
    rfl
  · rfl

/-- A resizing that succeeds keeps the entries. -/
theorem perm_resize {c : Nat} (h : t.resize storage c = (.ok (), u)) :
    u.entries.Perm t.entries := by
  rw [resize] at h
  split at h
  · simpa using perm_placeAll (wellLinked_cleared t c) h
  · simp at h

/-- A resizing succeeds when storage is granted for as many slots as there are entries. -/
theorem resize_of_room {c : Nat} (granted : storage.grants c = true)
    (enough : t.entries.length ≤ c) : ∃ u, t.resize storage c = (.ok (), u) := by
  rw [resize, if_pos granted]
  exact placeAll_of_room (wellLinked_cleared t c) (by simpa using enough)

end WasmText.SymbolTable
