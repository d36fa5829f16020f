import Mathlib.Data.List.Perm.Basic
import WasmText.Proofs.SymbolTable.Bucket
import WasmText.Proofs.SymbolTable.Invariant

/-!
# The table as a store

What a table holds after a run in which storage was never refused is what was bound, and lookups answer
from that alone (`storing_faithful`). Without a change of capacity an insertion does to the chains what
it would do to the lists of a bucketed table (`chain_insert`).
-/
namespace WasmText.SymbolTable

variable {t u : SymbolTable}

/-- The tables that bindings and successful resizings lead to, with the entries bound so far. Each step may
meet other storage, but no binding is refused it. -/
inductive Storing : SymbolTable → List Entry → Prop
  | start {requested : Nat} (le : requested ≤ maxCapacity) :
      Storing (withInitialCapacity requested) []
  | bind {t : SymbolTable} {es : List Entry} (storage : Storage) (name : Name) (index : UInt32)
      (run : Storing t es)
      (stored : ∀ slots, (t.bind storage name index).1 ≠ .error (.refused slots)) :
      Storing (t.bind storage name index).2 (⟨name, index⟩ :: es)
  | resize {t u : SymbolTable} {es : List Entry} (storage : Storage) (capacity : Nat)
      (run : Storing t es) (resized : t.resize storage capacity = (.ok (), u)) : Storing u es

theorem Storing.sound {es : List Entry} (run : Storing t es) : t.Sound := by
  induction run with
  | start => exact sound_start _
  | bind storage name index _ _ ih => exact sound_bind ih storage name index
  | resize storage capacity _ resized ih => simpa [resized] using sound_resize ih storage capacity

/-- A binding that is not refused storage succeeds. -/
theorem bind_of_stored (sound : t.Sound) {storage : Storage} {name : Name} {index : UInt32}
    (stored : ∀ slots, (t.bind storage name index).1 ≠ .error (.refused slots)) :
    (t.bind storage name index).1 = .ok () ∧
      (t.bind storage name index).2.entries.Perm (⟨name, index⟩ :: t.entries) ∧
      (t.bind storage name index).2.len = t.len + 1 := by
  rcases bind_cases sound.linked sound.initial storage name index with
    ⟨-, -, bound⟩ | ⟨r, i, u, ready, placing, capacity, len, -, bound⟩
  · exact absurd (by rw [bound]) (stored t.growthSize)
  · rw [bound]
    exact ⟨rfl, (placing.perm capacity).trans (ready.perm.cons _), len⟩

theorem Storing.perm {es : List Entry} (run : Storing t es) :
    t.entries.Perm es ∧ t.len = es.length := by
  induction run with
  | start => exact ⟨.nil, rfl⟩
  | bind storage name index run stored ih =>
    obtain ⟨-, perm, len⟩ := bind_of_stored run.sound stored
    exact ⟨perm.trans (ih.1.cons _), by simp [len, ih.2]⟩
  | @resize t _ _ storage capacity _ resized ih =>
    have len := len_resize storage t capacity
    rw [resized] at len
    exact ⟨(perm_resize resized).trans ih.1, len.trans ih.2⟩

/-- A table holds exactly what was bound, a name is found exactly when it was bound, and what is found was
bound to it. -/
theorem storing_faithful {es : List Entry} (run : Storing t es) :
    t.entries.Perm es ∧ t.len = es.length ∧
    (∀ name, t.lookup name = none ↔ ∀ e ∈ es, e.name ≠ name) ∧
    (∀ name index, t.lookup name = some index → ⟨name, index⟩ ∈ es) ∧
    ((es.map Entry.name).Nodup → ∀ e ∈ es, t.lookup e.name = some e.index) ∧
    ∀ storage name index, (∀ slots, (t.bind storage name index).1 ≠ .error (.refused slots)) →
      (t.bind storage name index).1 = .ok () := by
  obtain ⟨perm, len⟩ := run.perm
  have absent : ∀ name, t.lookup name = none ↔ ∀ e ∈ es, e.name ≠ name := by
    intro name
    rw [lookup_eq_none_iff run.sound.linked]
    simp only [perm.mem_iff]
  have found : ∀ name index, t.lookup name = some index → ⟨name, index⟩ ∈ es := by
    intro name index h
    exact perm.mem_iff.mp (mem_entries_of_lookup h)
  refine ⟨perm, len, absent, found, fun distinct e he => ?_, fun _ _ _ stored =>
    (bind_of_stored run.sound stored).1⟩
  cases h : t.lookup e.name with
  | none => exact absurd rfl ((absent e.name).mp h e he)
  | some index =>
    have same := List.inj_on_of_nodup_map distinct (found _ _ h) he rfl
    rw [← same]

theorem Storing.bind_of_ok {es : List Entry} (run : Storing t es) (storage : Storage) (name : Name)
    (index : UInt32) (bound : (t.bind storage name index).1 = .ok ()) :
    Storing (t.bind storage name index).2 (⟨name, index⟩ :: es) :=
  .bind storage name index run (by simp [bound])

/-- Three names bound to a table of two slots at first, which is then made to fit them exactly. -/
def three : SymbolTable :=
  let first := ((withInitialCapacity 2).bind .addressSpace ⟨[97]⟩ 1).2
  let second := (first.bind .addressSpace ⟨[98]⟩ 2).2
  ((second.bind .addressSpace ⟨[99]⟩ 3).2.resize .addressSpace 3).2

theorem storing_three : Storing three [⟨⟨[99]⟩, 3⟩, ⟨⟨[98]⟩, 2⟩, ⟨⟨[97]⟩, 1⟩] := by
  have start : Storing (withInitialCapacity 2) [] := .start (by decide)
  have first := start.bind_of_ok .addressSpace ⟨[97]⟩ 1 (by decide +kernel)
  have second := first.bind_of_ok .addressSpace ⟨[98]⟩ 2 (by decide +kernel)
  have third := second.bind_of_ok .addressSpace ⟨[99]⟩ 3 (by decide +kernel)
  exact third.resize .addressSpace 3 (by decide +kernel)

theorem lookup_three : three.lookup ⟨[98]⟩ = some 2 ∧ three.lookup ⟨[100]⟩ = none ∧ three.len = 3 := by
  obtain ⟨-, len, absent, -, exact, -⟩ := storing_faithful storing_three
  exact ⟨exact (by decide) ⟨⟨[98]⟩, 2⟩ (by decide), (absent ⟨[100]⟩).mpr (by decide), len⟩

theorem find?_behindFirst {p : Entry → Bool} {e : Entry} (skipped : p e = false)
    (bucket : List Entry) : (behindFirst e bucket).find? p = bucket.find? p := by
  cases bucket with
  | nil => simp [behindFirst, skipped]
  | cons first rest => simp [behindFirst, List.find?_cons, skipped]

/-- An insertion without growth puts its entry behind the first of its own chain. It leaves all other
chains as they were, and the answers for all other names. -/
theorem chain_insert (reached : Reachable t) (storage : Storage) (name : Name)
    (same : (t.insert storage name).2.capacity = t.capacity) :
    (∀ i, (t.insert storage name).1 = .ok i → ∀ m, (t.insert storage name).2.chain m =
      if t.mainSlot name = m then behindFirst ⟨name, 0⟩ (t.chain m) else t.chain m) ∧
    (∀ f, (t.insert storage name).1 = .error f → (t.insert storage name).2 = t) ∧
    ∀ other, other ≠ name → (t.insert storage name).2.lookup other = t.lookup other := by
  have sound := sound_of_reachable reached
  rcases insert_cases sound.linked sound.initial storage name with
    ⟨-, -, inserted⟩ | ⟨r, i, u, ready, placing, capacity, -, -, inserted⟩
  · rw [inserted]
    simp
  · rw [inserted] at same ⊢
    obtain rfl := ready.eq_of_capacity sound.initial (capacity.symm.trans same)
    have chains := placing.chain_eq
    refine ⟨fun _ _ => chains, by simp, fun other ne => ?_⟩
    have skipped : decide (name = other) = false := decide_eq_false (Ne.symm ne)
    rw [lookup_eq_find? placing.wellLinked, lookup_eq_find? sound.linked,
      mainSlot_congr same, chains]
    split
    · rw [find?_behindFirst skipped]
    · rfl

/-- Two names with one main slot, of which the second was displaced to the highest slot. -/
def crowded : SymbolTable :=
  let first := ((withInitialCapacity 4).act .addressSpace (.bind ⟨[97]⟩ 1)).2
  (first.act .addressSpace (.bind ⟨[101]⟩ 2)).2

theorem chain_insert_crowded :
    (crowded.slot 3).entry = some ⟨⟨[101]⟩, 2⟩ ∧ crowded.mainSlot ⟨[100]⟩ = 3 ∧
    (crowded.insert .addressSpace ⟨[100]⟩).2.chain 3 = [⟨⟨[100]⟩, 0⟩] ∧
    (crowded.insert .addressSpace ⟨[100]⟩).2.chain 0 = [⟨⟨[97]⟩, 1⟩, ⟨⟨[101]⟩, 2⟩] ∧
    (crowded.insert .addressSpace ⟨[100]⟩).2.lookup ⟨[101]⟩ = some 2 := by
  have reached : Reachable crowded := .step _ _ (.step _ _ (.start (by decide)))
  have inserted : (crowded.insert .addressSpace ⟨[100]⟩).1 = .ok 3 := by decide +kernel
  have home : crowded.mainSlot ⟨[100]⟩ = 3 := by decide +kernel
  obtain ⟨chains, -, others⟩ :=
    chain_insert reached .addressSpace ⟨[100]⟩ (by decide +kernel)
  refine ⟨by decide +kernel, home, ?_, ?_, ?_⟩
  · rw [chains 3 inserted, if_pos home]
    decide +kernel
  · rw [chains 3 inserted, if_neg (by rw [home]; decide)]
    decide +kernel
  · rw [others ⟨[101]⟩ (by decide)]
    decide +kernel

end WasmText.SymbolTable
