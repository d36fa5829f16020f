import WasmText.Name

/-!
# Symbol tables

A hash table from names to positions. Every name has a main slot, its hash modulo the number of
slots. The entries that share a main slot form one chain of `next` links which starts there; an entry
whose main slot is taken lives in a slot from the free list. Free slots use the same `next` link,
together with `prev`, for a doubly linked list of their own.

This module holds the data, reading and writing one slot, and the empty table.
-/
namespace WasmText

/-- A name and the position it stands for. -/
structure Entry where
  name : Name
  index : UInt32
  deriving DecidableEq

structure Slot where
  entry : Option Entry
  next : Option Nat
  prev : Option Nat
  deriving DecidableEq

/-- A slot without an entry and without links. -/
def Slot.blank : Slot := ⟨none, none, none⟩

/-- `len` counts the insertions that succeeded and `initialCapacity` is the number of slots that the first of
them asks for. The count is a natural number: it is taken below 2^64 insertions, where 64 bits hold it. -/
structure SymbolTable where
  slots : Array Slot
  freeHead : Option Nat
  len : Nat
  initialCapacity : Nat
  deriving DecidableEq

namespace SymbolTable

/-- The least power of two that is not below a number, which but for zero is the largest one below its double. -/
def roundUp (n : Nat) : Nat :=
  1 <<< (2 * n - 1).log2

/-- A table without slots; the first insertion gives it the rounded initial capacity. -/
def withInitialCapacity (requested : Nat) : SymbolTable :=
  ⟨#[], none, 0, roundUp (max requested 1)⟩

def defaultCapacity : Nat := 8

def empty : SymbolTable :=
  withInitialCapacity defaultCapacity

instance : Inhabited SymbolTable := ⟨empty⟩

/-- The number of slots. -/
def capacity (t : SymbolTable) : Nat :=
  t.slots.size

def isEmpty (t : SymbolTable) : Bool :=
  t.len == 0

/-- The slot at a position, blank past the end. -/
def slot (t : SymbolTable) (i : Nat) : Slot :=
  t.slots.getD i .blank

/-- Changes the slot at a position, if there is one. -/
def modifySlot (t : SymbolTable) (i : Nat) (f : Slot → Slot) : SymbolTable :=
  { t with slots := t.slots.modify i f }

/-- Changes the slot that a link leads to, if it leads to one. -/
def modifyLinked (t : SymbolTable) (link : Option Nat) (f : Slot → Slot) : SymbolTable :=
  match link with
  | some i => t.modifySlot i f
  | none => t

def withFreeHead (t : SymbolTable) (head : Option Nat) : SymbolTable :=
  { t with freeHead := head }

/-- Counts one insertion more, of fewer than 2^64. -/
def counted (t : SymbolTable) : SymbolTable :=
  { t with len := t.len + 1 }

/-- The entries in slot order. -/
def entries (t : SymbolTable) : List Entry :=
  t.slots.toList.filterMap Slot.entry

/-- The slot where the chain of a name starts. -/
def mainSlot (t : SymbolTable) (name : Name) : Nat :=
  name.hash.toNat % t.capacity

theorem slot_eq_blank {t : SymbolTable} {i : Nat} (h : t.capacity ≤ i) : t.slot i = .blank := by
  simp [slot, Nat.not_lt.mpr (show t.slots.size ≤ i from h)]

theorem lt_capacity_of_occupied {t : SymbolTable} {i : Nat} (h : (t.slot i).entry ≠ none) :
    i < t.capacity :=
  Nat.lt_of_not_le fun outside => h (by rw [slot_eq_blank outside, Slot.blank])

theorem slot_eq_getElem {t : SymbolTable} {i : Nat} (h : i < t.slots.size) :
    t.slot i = t.slots[i] :=
  dif_pos h

theorem slot_modifySlot (t : SymbolTable) (i j : Nat) (f : Slot → Slot) :
    (t.modifySlot i f).slot j = if i = j ∧ j < t.capacity then f (t.slot j) else t.slot j := by
  by_cases hj : j < t.capacity
  · rw [slot_eq_getElem (t := t) hj,
      slot_eq_getElem (t := t.modifySlot i f) (by simpa [modifySlot, capacity] using hj)]
    simp only [modifySlot, Array.getElem_modify, hj, and_true]
    rfl
  · rw [slot_eq_blank (t := t.modifySlot i f) (by simpa [modifySlot, capacity] using hj),
      slot_eq_blank (Nat.not_lt.mp hj)]
    simp [hj]

theorem slot_modifySlot_of_lt {t : SymbolTable} {i : Nat} (lt : i < t.capacity) (f : Slot → Slot)
    (j : Nat) : (t.modifySlot i f).slot j = if i = j then f (t.slot j) else t.slot j := by
  rw [slot_modifySlot]
  by_cases hj : i = j
  · subst j
    simp [lt]
  · simp [hj]

@[simp] theorem capacity_modifySlot (t : SymbolTable) (i : Nat) (f : Slot → Slot) :
    (t.modifySlot i f).capacity = t.capacity := by
  simp [modifySlot, capacity]

@[simp] theorem freeHead_modifySlot (t : SymbolTable) (i : Nat) (f : Slot → Slot) :
    (t.modifySlot i f).freeHead = t.freeHead := rfl

@[simp] theorem len_modifySlot (t : SymbolTable) (i : Nat) (f : Slot → Slot) :
    (t.modifySlot i f).len = t.len := rfl

@[simp] theorem initialCapacity_modifySlot (t : SymbolTable) (i : Nat) (f : Slot → Slot) :
    (t.modifySlot i f).initialCapacity = t.initialCapacity := rfl

theorem slot_modifyLinked (t : SymbolTable) (link : Option Nat) (f : Slot → Slot) (j : Nat) :
    (t.modifyLinked link f).slot j =
      if link = some j ∧ j < t.capacity then f (t.slot j) else t.slot j := by
  cases link with
  | none => simp [modifyLinked]
  | some i => simp [modifyLinked, slot_modifySlot]

theorem slot_modifyLinked_of_lt {t : SymbolTable} {link : Option Nat}
    (lt : ∀ i ∈ link, i < t.capacity) (f : Slot → Slot) (j : Nat) :
    (t.modifyLinked link f).slot j = if link = some j then f (t.slot j) else t.slot j := by
  rw [slot_modifyLinked]
  by_cases hj : link = some j
  · simp [hj, lt j hj]
  · simp [hj]

@[simp] theorem capacity_modifyLinked (t : SymbolTable) (link : Option Nat) (f : Slot → Slot) :
    (t.modifyLinked link f).capacity = t.capacity := by
  cases link <;> simp [modifyLinked]

@[simp] theorem freeHead_modifyLinked (t : SymbolTable) (link : Option Nat) (f : Slot → Slot) :
    (t.modifyLinked link f).freeHead = t.freeHead := by
  cases link <;> rfl

@[simp] theorem len_modifyLinked (t : SymbolTable) (link : Option Nat) (f : Slot → Slot) :
    (t.modifyLinked link f).len = t.len := by
  cases link <;> rfl

@[simp] theorem initialCapacity_modifyLinked (t : SymbolTable) (link : Option Nat)
    (f : Slot → Slot) : (t.modifyLinked link f).initialCapacity = t.initialCapacity := by
  cases link <;> rfl

@[simp] theorem slot_withFreeHead (t : SymbolTable) (head : Option Nat) (i : Nat) :
    (t.withFreeHead head).slot i = t.slot i := rfl

@[simp] theorem capacity_withFreeHead (t : SymbolTable) (head : Option Nat) :
    (t.withFreeHead head).capacity = t.capacity := rfl

@[simp] theorem freeHead_withFreeHead (t : SymbolTable) (head : Option Nat) :
    (t.withFreeHead head).freeHead = head := rfl

@[simp] theorem len_withFreeHead (t : SymbolTable) (head : Option Nat) :
    (t.withFreeHead head).len = t.len := rfl

@[simp] theorem initialCapacity_withFreeHead (t : SymbolTable) (head : Option Nat) :
    (t.withFreeHead head).initialCapacity = t.initialCapacity := rfl

theorem mainSlot_lt {t : SymbolTable} (h : t.capacity ≠ 0) (name : Name) :
    t.mainSlot name < t.capacity :=
  Nat.mod_lt _ (Nat.pos_of_ne_zero h)

@[simp] theorem capacity_withInitialCapacity (k : Nat) :
    (withInitialCapacity k).capacity = 0 := rfl

@[simp] theorem entries_withInitialCapacity (k : Nat) : (withInitialCapacity k).entries = [] := rfl

end SymbolTable
end WasmText
