import WasmText.SymbolTable.Growth

/-!
# What storage has a say in

Storage decides whether an operation is refused, and nothing else: what succeeds with some storage does
the same with all of the address space. So a table that was filled without a refusal depends only on what
was bound to it, which `tableOf` says for a list of names bound to their positions.
-/
namespace WasmText.SymbolTable

variable {storage : Storage} {t u : SymbolTable} {c : Nat}

theorem grants_addressSpace (granted : storage.grants c = true) :
    Storage.addressSpace.grants c = true := by
  have addressable := storage.addressable c granted
  simp [Storage.addressSpace, Storage.ofMemory, addressable, Nat.le_of_lt addressable]

theorem resize_addressSpace (resized : t.resize storage c = (.ok (), u)) :
    t.resize .addressSpace c = (.ok (), u) := by
  cases granted : storage.grants c with
  | false => simp [resize_refused granted] at resized
  | true =>
    rw [resize, if_pos granted] at resized
    rw [resize, if_pos (grants_addressSpace granted), resized]

theorem ensureSlots_addressSpace (ensured : t.ensureSlots storage = (.ok (), u)) :
    t.ensureSlots .addressSpace = (.ok (), u) := by
  rw [ensureSlots] at ensured ⊢
  split at ensured
  · rename_i zero
    rw [if_pos zero, resize_addressSpace ensured]
  · rename_i zero
    rw [if_neg zero, ensured]

theorem ensureFree_addressSpace (ensured : t.ensureFree storage = (.ok (), u)) :
    t.ensureFree .addressSpace = (.ok (), u) := by
  rw [ensureFree] at ensured ⊢
  split at ensured
  · rename_i full
    rw [if_pos full, resize_addressSpace ensured]
  · rename_i room
    rw [if_neg room, ensured]

theorem insert_addressSpace {name : Name} {i : Nat} (inserted : t.insert storage name = (.ok i, u)) :
    t.insert .addressSpace name = (.ok i, u) := by
  rcases slots : t.ensureSlots storage with ⟨_ | _, v⟩
  · simp [insert, slots] at inserted
  · rcases free : v.ensureFree storage with ⟨_ | _, w⟩
    · simp [insert, slots, free] at inserted
    · simp only [insert, slots, free] at inserted
      simp only [insert, ensureSlots_addressSpace slots, ensureFree_addressSpace free]
      exact inserted

theorem bind_addressSpace {name : Name} {index : UInt32}
    (bound : t.bind storage name index = (.ok (), u)) :
    t.bind .addressSpace name index = (.ok (), u) := by
  rcases inserted : t.insert storage name with ⟨_ | i, v⟩
  · simp [bind, inserted] at bound
  · simp only [bind, inserted] at bound
    simp only [bind, insert_addressSpace inserted]
    exact bound

theorem bindAll_addressSpace {es : List Entry} (bound : t.bindAll storage es = (.ok (), u)) :
    t.bindAll .addressSpace es = (.ok (), u) := by
  induction es generalizing t with
  | nil => exact bound
  | cons e rest ih =>
    rcases first : t.bind storage e.name e.index with ⟨_ | _, v⟩
    · simp [bindAll, first] at bound
    · simp only [bindAll, first] at bound
      simp only [bindAll, bind_addressSpace first]
      exact ih bound

/-- Binds a name, if there is one, to a position. -/
def bindNamed (t : SymbolTable) (named : Option Name × Nat) : SymbolTable :=
  match named with
  | (some name, i) => (t.bind .addressSpace name (UInt32.ofNat i)).2
  | (none, _) => t

/-- The table of a list of names, each bound to its position in turn. -/
def tableOf (names : List (Option Name)) : SymbolTable :=
  names.zipIdx.foldl bindNamed .empty

theorem tableOf_append_singleton (names : List (Option Name)) (name : Option Name) :
    tableOf (names ++ [name]) = (tableOf names).bindNamed (name, names.length) := by
  simp [tableOf, List.zipIdx_append]

end WasmText.SymbolTable
