import WasmText.SymbolTable.Placement

/-!
# Growth and insertion

A table gets new slots by placing all its entries again, in slot order, into blank slots. An
insertion first makes sure of a free slot: a table without slots gets its initial capacity, a full
one twice the slots it had.

Each operation gives its outcome together with the table it leaves, because a failed resizing leaves
only the entries placed before it failed. The count of entries is raised by insertions alone.
-/
namespace WasmText.SymbolTable

/-- Blank slots on one free list that begins with the last of them. -/
def blankSlots (capacity : Nat) : Array Slot :=
  Array.ofFn fun i : Fin capacity =>
    ⟨none, if i.val = 0 then none else some (i.val - 1),
      if i.val + 1 < capacity then some (i.val + 1) else none⟩

/-- The table with all its slots blank and as many of them as asked for. -/
def cleared (t : SymbolTable) (capacity : Nat) : SymbolTable :=
  { t with
    slots := blankSlots capacity
    freeHead := if capacity = 0 then none else some (capacity - 1) }

/-- Places entries one after another and stops at the first that fails. -/
def placeAll : List Entry → SymbolTable → Except Failure Unit × SymbolTable
  | [], t => (.ok (), t)
  | e :: rest, t =>
    match t.place e with
    | (.ok _, t) => placeAll rest t
    | (.error f, t) => (.error f, t)

/-- Gives the table a number of slots of any size, if storage for them is granted. -/
def resize (storage : Storage) (t : SymbolTable) (capacity : Nat) :
    Except Failure Unit × SymbolTable :=
  if storage.grants capacity then placeAll t.entries (t.cleared capacity)
  else (.error (.refused capacity), t)

/-- Gives a table without slots its initial capacity. -/
def ensureSlots (storage : Storage) (t : SymbolTable) : Except Failure Unit × SymbolTable :=
  if t.capacity = 0 then t.resize storage t.initialCapacity else (.ok (), t)

/-- Doubles a table without free slots. -/
def ensureFree (storage : Storage) (t : SymbolTable) : Except Failure Unit × SymbolTable :=
  if t.freeHead.isNone then t.resize storage (2 * t.capacity) else (.ok (), t)

/-- Adds an entry with position zero for a name and gives its slot. -/
def insert (storage : Storage) (t : SymbolTable) (name : Name) : Except Failure Nat × SymbolTable :=
  match t.ensureSlots storage with
  | (.error f, t) => (.error f, t)
  | (.ok (), t) =>
    match t.ensureFree storage with
    | (.error f, t) => (.error f, t)
    | (.ok (), t) =>
      match t.place ⟨name, 0⟩ with
      | (.error f, t) => (.error f, t)
      | (.ok i, t) =>
        if (t.slot i).entry.isSome then (.ok i, t.counted) else (.error .entryLost, t.counted)

/-- Sets the position in the entry of a slot. -/
def setIndex (t : SymbolTable) (i : Nat) (index : UInt32) : SymbolTable :=
  t.modifySlot i fun s => { s with entry := s.entry.map fun e => { e with index := index } }

/-- Adds an entry for a name. -/
def bind (storage : Storage) (t : SymbolTable) (name : Name) (index : UInt32) :
    Except Failure Unit × SymbolTable :=
  match t.insert storage name with
  | (.ok i, t) => (.ok (), t.setIndex i index)
  | (.error f, t) => (.error f, t)

/-- Adds entries one after another and stops at the first that fails. -/
def bindAll (storage : Storage) : List Entry → SymbolTable → Except Failure Unit × SymbolTable
  | [], t => (.ok (), t)
  | e :: rest, t =>
    match t.bind storage e.name e.index with
    | (.ok (), t) => bindAll storage rest t
    | (.error f, t) => (.error f, t)

@[simp] theorem size_blankSlots (capacity : Nat) : (blankSlots capacity).size = capacity := by
  simp [blankSlots]

@[simp] theorem capacity_cleared (t : SymbolTable) (c : Nat) : (t.cleared c).capacity = c :=
  size_blankSlots c

theorem resize_refused {storage : Storage} {c : Nat} (h : storage.grants c = false)
    (t : SymbolTable) : t.resize storage c = (.error (.refused c), t) := by
  simp [resize, h]

theorem capacity_placeAll (es : List Entry) (t : SymbolTable) :
    (placeAll es t).2.capacity = t.capacity := by
  induction es generalizing t with
  | nil => rfl
  | cons e rest ih =>
    have h := capacity_place t e
    unfold placeAll
    split
    · rename_i heq
      rw [heq] at h
      rw [ih, h]
    · rename_i heq
      rw [heq] at h
      exact h

/-- Where storage is granted, the table has the slots asked for, whether all entries found room or not. -/
theorem capacity_resize {storage : Storage} {c : Nat} (h : storage.grants c = true)
    (t : SymbolTable) : (t.resize storage c).2.capacity = c := by
  simp [resize, h, capacity_placeAll]

end WasmText.SymbolTable
