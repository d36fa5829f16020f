import Mathlib.Logic.Function.Basic
import WasmText.Proofs.TypeSpace.Built

/-!
# Runs over several spaces

Spaces that are kept under numbers are pushed to, copied and extended by one another. Such a run does to
each space what it would do to the list of its names and types (`spaces_of_run`), whatever the order in
which the tables keep their entries.
-/
namespace WasmText.TypeSpace
open SymbolTable (Failure Numbers Finds numbered)

/-- What can be done with spaces that are kept under numbers. -/
inductive Action
  | create (k : Nat)
  | push (k : Nat) (name : Option Name) (type : ValueType)
  | copy (k source : Nat)
  | extend (k source : Nat)

/-- Does an action and gives its outcome with the spaces it leaves. -/
def act (storage : Storage) (spaces : Nat → TypeSpace) :
    Action → Except Failure Unit × (Nat → TypeSpace)
  | .create k => (.ok (), Function.update spaces k .empty)
  | .push k name type =>
    let (outcome, s) := (spaces k).push storage name type
    (outcome, Function.update spaces k s)
  | .copy k source => (.ok (), Function.update spaces k (spaces source))
  | .extend k source =>
    let (outcome, s) := (spaces k).extend storage (spaces source)
    (outcome, Function.update spaces k s)

/-- Does actions one after another, each with the storage it meets, as long as they succeed. -/
def actAll : List (Storage × Action) → (Nat → TypeSpace) →
    Except Failure Unit × (Nat → TypeSpace)
  | [], spaces => (.ok (), spaces)
  | (storage, action) :: rest, spaces =>
    match act storage spaces action with
    | (.ok (), spaces) => actAll rest spaces
    | (.error f, spaces) => (.error f, spaces)

/-- What an action does to the lists of names and types. -/
def Action.declare (lists : Nat → List (Option Name × ValueType)) :
    Action → Nat → List (Option Name × ValueType)
  | create k => Function.update lists k []
  | push k name type => Function.update lists k (lists k ++ [(name, type)])
  | copy k source => Function.update lists k (lists source)
  | extend k source => Function.update lists k (lists k ++ lists source)

/-- What actions make of lists that are empty at first. -/
def declared (actions : List Action) : Nat → List (Option Name × ValueType) :=
  actions.foldl (fun lists action => action.declare lists) fun _ => []

variable {storage : Storage} {spaces after : Nat → TypeSpace}
  {lists : Nat → List (Option Name × ValueType)}

theorem built_update {k : Nat} {s : TypeSpace} {l : List (Option Name × ValueType)}
    (built : ∀ j, (spaces j).Built (lists j)) (new : s.Built l) (j : Nat) :
    (Function.update spaces k s j).Built (Function.update lists k l j) := by
  by_cases hj : j = k
  · subst j
    simpa using new
  · simpa [hj] using built j

theorem built_act {action : Action} (built : ∀ j, (spaces j).Built (lists j))
    (done : act storage spaces action = (.ok (), after)) (j : Nat) :
    (after j).Built (action.declare lists j) := by
  cases action with
  | create k =>
    obtain rfl := congrArg Prod.snd done
    exact built_update built .empty j
  | push k name type =>
    obtain ⟨pushed, rfl⟩ := Prod.mk.inj done
    exact built_update built (.push storage name type (built k) (Prod.ext pushed rfl)) j
  | copy k source =>
    obtain rfl := congrArg Prod.snd done
    exact built_update built (built source) j
  | extend k source =>
    obtain ⟨extended, rfl⟩ := Prod.mk.inj done
    exact built_update built (.extend storage (built k) (built source) (Prod.ext extended rfl)) j

theorem built_actAll {steps : List (Storage × Action)} (built : ∀ j, (spaces j).Built (lists j))
    (done : actAll steps spaces = (.ok (), after)) (j : Nat) :
    (after j).Built (((steps.map Prod.snd).foldl (fun l action => action.declare l) lists) j) := by
  induction steps generalizing spaces lists with
  | nil =>
    obtain rfl : spaces = after := congrArg Prod.snd done
    exact built j
  | cons step rest ih =>
    obtain ⟨storage, action⟩ := step
    rcases first : act storage spaces action with ⟨_ | _, between⟩
    · simp [actAll, first] at done
    · simp only [actAll, first] at done
      exact ih (built_act built first) done

/-- The largest position of an extension's names is a number of 32 bits when the lengths add up to no more
than there are such numbers. -/
theorem Holds.index_add_lt {s v : TypeSpace} {l m : List (Option Name × ValueType)} {e : Entry}
    (h : s.Holds l) (other : v.Holds m) (fits : l.length + m.length ≤ UInt32.size)
    (he : e ∈ v.symbols.entries) : e.index.toNat + s.nextIndex.toNat < UInt32.size := by
  have index_lt := other.symbols.index_lt (by rw [List.length_map]; omega) he
  rw [List.length_map] at index_lt
  have next : s.nextIndex.toNat = l.length := by
    rw [h.nextIndex_eq, List.length_map]
    exact SymbolTable.toNat_ofNat_of_lt (n := l.length + m.length) (by omega) fits
  omega

/-- After a run that succeeds each space is the list of the names and types given to it, as long as its
positions are numbers of 32 bits. To extend one space by another then overflows no position and leaves
the other alone. -/
theorem spaces_of_run {steps : List (Storage × Action)} {spaces : Nat → TypeSpace}
    (run : actAll steps (fun _ => .empty) = (.ok (), spaces)) :
    let lists := declared (steps.map Prod.snd)
    (∀ k, (lists k).length ≤ UInt32.size →
      (spaces k).types.toList = (lists k).map Prod.snd ∧
      (spaces k).symbols.entries.Perm (numbered ((lists k).map Prod.fst)) ∧
      (∀ e ∈ (spaces k).symbols.entries, e.index.toNat < (spaces k).len) ∧
      Finds ((lists k).map Prod.fst) (spaces k).indexOf?) ∧
    ∀ k source, (lists k).length + (lists source).length ≤ UInt32.size →
      (∀ e ∈ (spaces source).symbols.entries,
        e.index.toNat + (spaces k).nextIndex.toNat < UInt32.size) ∧
      (k ≠ source → ∀ storage, (act storage spaces (.extend k source)).2 source = spaces source) := by
  intro lists
  have holds : ∀ k, (spaces k).Holds (lists k) := fun k =>
    (built_actAll (fun _ => .empty) run k).holds
  refine ⟨fun k fits => ?_, fun k source fits => ?_⟩
  · have symbols := (holds k).symbols
    have fits_names : ((lists k).map Prod.fst).length ≤ UInt32.size := by rwa [List.length_map]
    refine ⟨(holds k).types, symbols.perm, fun e he => ?_, symbols.finds fits_names⟩
    have index_lt := symbols.index_lt fits_names he
    rwa [List.length_map, ← (holds k).len_eq] at index_lt
  · refine ⟨fun e he => (holds k).index_add_lt (holds source) fits he, fun ne storage => ?_⟩
    exact Function.update_of_ne ne.symm _ _

/-- A space with two names and a position without one, extended by a copy of itself and by another. -/
def extensions : List (Storage × Action) :=
  [.push 0 (some ⟨[97]⟩) .i32, .push 0 none .i64, .push 0 (some ⟨[98]⟩) .f32, .copy 1 0,
    .push 2 (some ⟨[99]⟩) .f64, .extend 1 0, .extend 1 2, .extend 2 1].map (.addressSpace, ·)

def extended : Nat → TypeSpace :=
  (actAll extensions fun _ => .empty).2

theorem spaces_extended :
    (extended 2).types.toList = [.f64, .i32, .i64, .f32, .i32, .i64, .f32, .f64] ∧
    (extended 2).indexOf? ⟨[100]⟩ = none ∧
    ((extended 0).indexOf? ⟨[98]⟩).map UInt32.toNat = some 2 ∧
    (act .addressSpace extended (.extend 1 2)).2 2 = extended 2 := by
  have run : actAll extensions (fun _ => .empty) = (.ok (), extended) :=
    Prod.ext (by decide +kernel) rfl
  obtain ⟨facts, pairs⟩ := spaces_of_run run
  obtain ⟨types, -, -, finds⟩ := facts 2 (by decide)
  obtain ⟨-, -, -, finds₀⟩ := facts 0 (by decide)
  exact ⟨types, (finds.eq_none_iff ⟨[100]⟩).mpr (by decide),
    finds₀.once ⟨[98]⟩ 2 (by decide) (by decide), (pairs 1 2 (by decide)).2 (by decide) .addressSpace⟩

end WasmText.TypeSpace
