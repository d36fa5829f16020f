import WasmText.Proofs.SymbolTable.Store

/-!
# Tables that number names

A list of which some members have names is found by name through a table that binds every name to its
position. Such a table is `Numbers` of the list of names, and this holds on when a member is appended and
its name bound, when another numbered list is bound behind, and when the table is resized. A name is then
found exactly when some member has it, at the position of such a member.
-/
namespace WasmText.SymbolTable

variable {t u : SymbolTable} {storage : Storage} {names more : List (Option Name)}

/-- The entries for the named positions of a list. -/
def numbered (names : List (Option Name)) : List Entry :=
  names.zipIdx.filterMap fun (name, i) => name.map fun n => ⟨n, UInt32.ofNat i⟩

/-- The table binds every name of a list to its position and nothing else. -/
structure Numbers (t : SymbolTable) (names : List (Option Name)) : Prop where
  sound : t.Sound
  perm : t.entries.Perm (numbered names)

theorem mem_numbered {e : Entry} :
    e ∈ numbered names ↔ ∃ i, names[i]? = some (some e.name) ∧ e.index = UInt32.ofNat i := by
  simp only [numbered, List.mem_filterMap, Prod.exists, List.mem_zipIdx_iff_getElem?,
    Option.map_eq_some_iff]
  constructor
  · rintro ⟨name, i, there, n, rfl, rfl⟩
    exact ⟨i, there, rfl⟩
  · rintro ⟨i, there, index⟩
    exact ⟨_, i, there, e.name, rfl, by rw [← index]⟩

theorem numbered_append (names more : List (Option Name)) : numbered (names ++ more) =
    numbered names ++ (numbered more).map fun e =>
      { e with index := e.index + UInt32.ofNat names.length } := by
  rw [numbered, List.zipIdx_append, List.filterMap_append, Nat.zero_add]
  congr 1
  rw [List.zipIdx_eq_map_add, List.filterMap_map, numbered, List.map_filterMap]
  refine List.filterMap_congr fun (name, i) _ => ?_
  cases name <;> simp [UInt32.add_comm]

theorem numbers_withInitialCapacity (requested : Nat) :
    (withInitialCapacity requested).Numbers [] :=
  ⟨sound_start requested, .nil⟩

theorem Numbers.append_none (h : t.Numbers names) : t.Numbers (names ++ [none]) := by
  refine ⟨h.sound, ?_⟩
  rw [numbered_append]
  simpa [numbered] using h.perm

theorem Numbers.bind {name : Name} (h : t.Numbers names)
    (bound : t.bind storage name (UInt32.ofNat names.length) = (.ok (), u)) :
    u.Numbers (names ++ [some name]) := by
  have sound := sound_bind h.sound storage name (UInt32.ofNat names.length)
  have stored : ∀ slots, (t.bind storage name (UInt32.ofNat names.length)).1 ≠
      .error (.refused slots) := by simp [bound]
  obtain ⟨-, perm, -⟩ := bind_of_stored h.sound stored
  rw [bound] at sound perm
  refine ⟨sound, perm.trans ?_⟩
  rw [numbered_append]
  have last : numbered [some name] = [⟨name, 0⟩] := rfl
  simpa [last] using (h.perm.cons _).trans (List.perm_append_singleton _ _).symm

/-- Entries that were all bound are in the table with the ones it had. -/
theorem perm_bindAll {es : List Entry} (sound : t.Sound)
    (bound : t.bindAll storage es = (.ok (), u)) :
    u.Sound ∧ u.entries.Perm (es ++ t.entries) := by
  induction es generalizing t with
  | nil =>
    obtain rfl : t = u := by simpa [bindAll] using bound
    exact ⟨sound, .rfl⟩
  | cons e rest ih =>
    have kept := sound_bind sound storage e.name e.index
    rcases first : t.bind storage e.name e.index with ⟨_ | _, v⟩
    · simp [bindAll, first] at bound
    · have stored : ∀ slots, (t.bind storage e.name e.index).1 ≠ .error (.refused slots) := by
        simp [first]
      obtain ⟨-, perm, -⟩ := bind_of_stored sound stored
      rw [first] at kept perm
      simp only [bindAll, first] at bound
      obtain ⟨sound_u, perm_u⟩ := ih kept bound
      exact ⟨sound_u, perm_u.trans ((perm.append_left rest).trans List.perm_middle)⟩

/-- Entries are all bound unless more slots are refused, never more than twice as many as the entries need. -/
theorem refused_of_bindAll {es : List Entry} {f : Failure} (sound : t.Sound)
    (failed : t.bindAll storage es = (.error f, u)) : ∃ slots, f = .refused slots ∧
      storage.grants slots = false ∧
      slots ≤ max t.initialCapacity (2 * (t.entries.length + es.length)) := by
  induction es generalizing t with
  | nil => simp [bindAll] at failed
  | cons e rest ih =>
    rcases first : t.bind storage e.name e.index with ⟨cause | _, v⟩
    · obtain ⟨-, full, refused, rfl⟩ := refused_of_bind sound.linked sound.initial first
      simp only [bindAll, first, Prod.mk.injEq, Except.error.injEq] at failed
      refine ⟨_, failed.1.symm, refused, ?_⟩
      have length := (freeHead_eq_none_iff_length sound.linked).mp full
      rw [growthSize, List.length_cons]
      split <;> omega
    · have kept := sound_bind sound storage e.name e.index
      have initial : v.initialCapacity = t.initialCapacity := by
        simpa [act, first] using initialCapacity_act sound storage (.bind e.name e.index)
      have stored : ∀ slots, (t.bind storage e.name e.index).1 ≠ .error (.refused slots) := by
        simp [first]
      have length := (bind_of_stored sound stored).2.1.length_eq
      rw [first] at kept length
      simp only [bindAll, first] at failed
      obtain ⟨slots, cause, refused, le⟩ := ih kept failed
      rw [initial, length, List.length_cons] at le
      rw [List.length_cons]
      exact ⟨slots, cause, refused, by omega⟩

/-- Behind a list whose table binds the entries of another at shifted positions stands the other. -/
theorem Numbers.bindAll {v : SymbolTable} (h : t.Numbers names) (other : v.Numbers more)
    (bound : t.bindAll storage (v.entries.map fun e =>
      { e with index := e.index + UInt32.ofNat names.length }) = (.ok (), u)) :
    u.Numbers (names ++ more) := by
  obtain ⟨sound, perm⟩ := perm_bindAll h.sound bound
  refine ⟨sound, perm.trans ?_⟩
  rw [numbered_append]
  exact ((other.perm.map _).append h.perm).trans List.perm_append_comm

theorem Numbers.resize {c : Nat} (h : t.Numbers names)
    (resized : t.resize storage c = (.ok (), u)) : u.Numbers names := by
  have sound := sound_resize h.sound storage c
  rw [resized] at sound
  exact ⟨sound, (perm_resize resized).trans h.perm⟩

theorem toNat_ofNat_of_lt {i n : Nat} (lt : i < n) (fits : n ≤ UInt32.size) :
    (UInt32.ofNat i).toNat = i :=
  UInt32.toNat_ofNat_of_lt (Nat.lt_of_lt_of_le lt fits)

/-- As long as positions are numbers of 32 bits, an entry tells where its name stands. -/
theorem Numbers.getElem?_of_mem {e : Entry} (h : t.Numbers names)
    (fits : names.length ≤ UInt32.size) (he : e ∈ t.entries) :
    names[e.index.toNat]? = some (some e.name) := by
  obtain ⟨i, there, index⟩ := mem_numbered.mp (h.perm.mem_iff.mp he)
  obtain ⟨lt, -⟩ := List.getElem?_eq_some_iff.mp there
  rwa [index, toNat_ofNat_of_lt lt fits]

theorem Numbers.index_lt {e : Entry} (h : t.Numbers names) (fits : names.length ≤ UInt32.size)
    (he : e ∈ t.entries) : e.index.toNat < names.length :=
  (List.getElem?_eq_some_iff.mp (h.getElem?_of_mem fits he)).1

/-- What a list has once stands at one index. -/
theorem index_unique {α : Type} [BEq α] [LawfulBEq α] {l : List α} {a : α} {i j : Nat}
    (once : l.count a = 1) (hi : l[i]? = some a) (hj : l[j]? = some a) : i = j := by
  induction l generalizing i j with
  | nil => simp at hi
  | cons b rest ih =>
    by_cases hb : b = a
    · have gone : a ∉ rest := by
        rw [hb, List.count_cons_self] at once
        exact List.count_eq_zero.mp (by omega)
      have first : ∀ k : Nat, (b :: rest)[k]? = some a → k = 0 := by
        intro k hk
        cases k with
        | zero => rfl
        | succ k => exact absurd (List.mem_of_getElem? (by simpa using hk)) gone
      rw [first i hi, first j hj]
    · rw [List.count_cons_of_ne hb] at once
      cases i with
      | zero => exact absurd (Option.some.inj hi) hb
      | succ i =>
        cases j with
        | zero => exact absurd (Option.some.inj hj) hb
        | succ j => rw [ih once hi hj]

/-- Finding names in a list by their positions: a name is found exactly when the list has it, at a place
where it stands, and at its only place when it stands once. -/
structure Finds (names : List (Option Name)) (find : Name → Option UInt32) : Prop where
  eq_none_iff : ∀ n, find n = none ↔ some n ∉ names
  getElem? : ∀ n i, find n = some i → names[i.toNat]? = some (some n)
  once : ∀ n i, names[i]? = some (some n) → names.count (some n) = 1 →
    (find n).map UInt32.toNat = some i

theorem Numbers.finds (h : t.Numbers names) (fits : names.length ≤ UInt32.size) :
    Finds names t.lookup := by
  have absent : ∀ n, t.lookup n = none ↔ some n ∉ names := by
    intro n
    rw [lookup_eq_none_iff h.sound.linked]
    constructor
    · intro none_named there
      obtain ⟨i, hi⟩ := List.mem_iff_getElem?.mp there
      exact none_named ⟨n, UInt32.ofNat i⟩
        (h.perm.mem_iff.mpr (mem_numbered.mpr ⟨i, hi, rfl⟩)) rfl
    · rintro absent e he rfl
      exact absent (List.mem_of_getElem? (h.getElem?_of_mem fits he))
  have found : ∀ n i, t.lookup n = some i → names[i.toNat]? = some (some n) := fun n i hi =>
    h.getElem?_of_mem fits (mem_entries_of_lookup hi)
  refine ⟨absent, found, fun n i there once => ?_⟩
  cases looked : t.lookup n with
  | none => exact absurd (List.mem_of_getElem? there) ((absent n).mp looked)
  | some j => simp [index_unique once (found n j looked) there]

end WasmText.SymbolTable
