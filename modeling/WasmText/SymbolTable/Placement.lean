import WasmText.SymbolTable.Basic
import WasmText.SymbolTable.Failure

/-!
# Placing an entry

An entry takes its main slot when that is free. When the slot's entry is at home there, the new one
goes to a free slot and becomes the second of the chain. When the slot's entry belongs to another
chain, that entry moves to a free slot, its predecessor is linked to the new place, and the main slot
starts a chain of its own. So a chain only ever holds entries of one main slot.
-/
namespace WasmText.SymbolTable

/-- The positions before the given one along `next` links, up to the one that leads to it. -/
def predecessor? (t : SymbolTable) (target : Nat) : Nat → Nat → Option Nat
  | 0, _ => none
  | steps + 1, i =>
    match (t.slot i).next with
    | none => none
    | some n => if n = target then some i else predecessor? t target steps n

/-- Takes the first slot off the free list. -/
def popFree (t : SymbolTable) (free : Nat) : SymbolTable :=
  let next := (t.slot free).next
  (t.withFreeHead next).modifyLinked next fun s => { s with prev := none }

/-- Takes a slot out of the free list wherever it stands. -/
def unlinkFree (t : SymbolTable) (i : Nat) : SymbolTable :=
  let next := (t.slot i).next
  let prev := (t.slot i).prev
  let t := t.modifyLinked next fun s => { s with prev := prev }
  let t := t.modifyLinked prev fun s => { s with next := next }
  let t := t.withFreeHead (if prev.isSome then t.freeHead else next)
  t.modifySlot i fun s => { s with next := none }

/-- Links a slot into a chain behind the chain's main slot. -/
def linkSecond (t : SymbolTable) (main free : Nat) : SymbolTable :=
  let second := (t.slot main).next
  (t.modifySlot free fun s => { s with next := second }).modifySlot main fun s =>
    { s with next := some free }

/-- Moves a displaced entry to a free slot, with the link behind it and the link to it. -/
def evict (t : SymbolTable) (pred main free : Nat) : SymbolTable :=
  let t := t.modifySlot pred fun s => { s with next := some free }
  let displaced := t.slot main
  (t.modifySlot main fun _ => .blank).modifySlot free fun _ => displaced

/-- Writes an entry into a slot that is off the free list. -/
def settle (t : SymbolTable) (i : Nat) (e : Entry) : SymbolTable :=
  t.modifySlot i fun s => { s with entry := some e, prev := none }

/-- Where a link leads when it leads past the slots. -/
def stray? (t : SymbolTable) (link : Option Nat) : Option Nat :=
  link.filter (t.capacity ≤ ·)

/-- Places an entry and gives its slot. A failure leaves the table as far as it was changed. -/
def place (t : SymbolTable) (e : Entry) : Except Failure Nat × SymbolTable :=
  if t.capacity = 0 then (.error .noSlots, t)
  else
    let main := t.mainSlot e.name
    match (t.slot main).entry with
    | none =>
      match t.stray? (t.slot main).next <|> t.stray? (t.slot main).prev with
      | some i => (.error (.outOfRange i t.capacity), t)
      | none => (.ok main, (t.unlinkFree main).settle main e)
    | some occupant =>
      match t.freeHead with
      | none => (.error .noFreeSlot, t)
      | some free =>
        match t.stray? (some free) <|> t.stray? (t.slot free).next with
        | some i => (.error (.outOfRange i t.capacity), t)
        | none =>
          let home := t.mainSlot occupant.name
          let t := t.popFree free
          if home = main then (.ok free, (t.linkSecond main free).settle free e)
          else
            match t.predecessor? main t.capacity home with
            | none => (.error .unreachable, t)
            | some pred => (.ok main, (t.evict pred main free).settle main e)

@[simp] theorem capacity_popFree (t : SymbolTable) (free : Nat) :
    (t.popFree free).capacity = t.capacity := by
  simp [popFree]

@[simp] theorem capacity_unlinkFree (t : SymbolTable) (i : Nat) :
    (t.unlinkFree i).capacity = t.capacity := by
  simp [unlinkFree]

@[simp] theorem capacity_linkSecond (t : SymbolTable) (main free : Nat) :
    (t.linkSecond main free).capacity = t.capacity := by
  simp [linkSecond]

@[simp] theorem capacity_evict (t : SymbolTable) (pred main free : Nat) :
    (t.evict pred main free).capacity = t.capacity := by
  simp [evict]

@[simp] theorem capacity_settle (t : SymbolTable) (i : Nat) (e : Entry) :
    (t.settle i e).capacity = t.capacity := by
  simp [settle]

@[simp] theorem freeHead_popFree (t : SymbolTable) (free : Nat) :
    (t.popFree free).freeHead = (t.slot free).next := by
  simp [popFree]

theorem slot_popFree {t : SymbolTable} {free : Nat}
    (next_lt : ∀ i ∈ (t.slot free).next, i < t.capacity) (j : Nat) :
    (t.popFree free).slot j =
      if (t.slot free).next = some j then { t.slot j with prev := none } else t.slot j := by
  rw [popFree, slot_modifyLinked_of_lt (by simpa using next_lt), slot_withFreeHead]

@[simp] theorem freeHead_unlinkFree (t : SymbolTable) (i : Nat) : (t.unlinkFree i).freeHead =
    if (t.slot i).prev.isSome then t.freeHead else (t.slot i).next := by
  simp [unlinkFree]

theorem slot_unlinkFree {t : SymbolTable} {i : Nat} (lt : i < t.capacity)
    (next_lt : ∀ j ∈ (t.slot i).next, j < t.capacity)
    (prev_lt : ∀ j ∈ (t.slot i).prev, j < t.capacity) (j : Nat) :
    (t.unlinkFree i).slot j =
      ⟨(t.slot j).entry,
        if i = j then none
        else if (t.slot i).prev = some j then (t.slot i).next else (t.slot j).next,
        if (t.slot i).next = some j then (t.slot i).prev else (t.slot j).prev⟩ := by
  simp only [unlinkFree]
  rw [slot_modifySlot_of_lt (by simpa), slot_withFreeHead, slot_modifyLinked_of_lt (by simpa),
    slot_modifyLinked_of_lt next_lt]
  (repeat' split) <;> rfl

@[simp] theorem freeHead_linkSecond (t : SymbolTable) (main free : Nat) :
    (t.linkSecond main free).freeHead = t.freeHead := by
  simp [linkSecond]

theorem slot_linkSecond {t : SymbolTable} {main free : Nat} (main_lt : main < t.capacity)
    (free_lt : free < t.capacity) (j : Nat) : (t.linkSecond main free).slot j =
      { t.slot j with
        next := if main = j then some free
          else if free = j then (t.slot main).next else (t.slot j).next } := by
  simp only [linkSecond]
  rw [slot_modifySlot_of_lt (by simpa), slot_modifySlot_of_lt free_lt]
  (repeat' split) <;> rfl

@[simp] theorem freeHead_evict (t : SymbolTable) (pred main free : Nat) :
    (t.evict pred main free).freeHead = t.freeHead := by
  simp [evict]

theorem slot_evict {t : SymbolTable} {pred main free : Nat} (pred_lt : pred < t.capacity)
    (main_lt : main < t.capacity) (free_lt : free < t.capacity) (ne : pred ≠ main) (j : Nat) :
    (t.evict pred main free).slot j =
      if free = j then t.slot main else if main = j then .blank
      else if pred = j then { t.slot j with next := some free } else t.slot j := by
  simp only [evict]
  rw [slot_modifySlot_of_lt (by simpa), slot_modifySlot_of_lt (by simpa),
    slot_modifySlot_of_lt (by simpa), slot_modifySlot_of_lt pred_lt, if_neg ne]

@[simp] theorem freeHead_settle (t : SymbolTable) (i : Nat) (e : Entry) :
    (t.settle i e).freeHead = t.freeHead := by
  simp [settle]

theorem slot_settle {t : SymbolTable} {i : Nat} (lt : i < t.capacity) (e : Entry) (j : Nat) :
    (t.settle i e).slot j =
      if i = j then { t.slot j with entry := some e, prev := none } else t.slot j :=
  slot_modifySlot_of_lt lt _ j

/-- Placing an entry never changes the number of slots, whether it succeeds or not. -/
theorem capacity_place (t : SymbolTable) (e : Entry) : (t.place e).2.capacity = t.capacity := by
  simp only [place]
  repeat' split
  all_goals simp

theorem len_place (t : SymbolTable) (e : Entry) : (t.place e).2.len = t.len := by
  simp only [place]
  repeat' split
  all_goals simp [popFree, unlinkFree, linkSecond, evict, settle]

theorem initialCapacity_place (t : SymbolTable) (e : Entry) :
    (t.place e).2.initialCapacity = t.initialCapacity := by
  simp only [place]
  repeat' split
  all_goals simp [popFree, unlinkFree, linkSecond, evict, settle]

end WasmText.SymbolTable
