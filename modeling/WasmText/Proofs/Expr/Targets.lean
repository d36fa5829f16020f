import WasmText.Expr.Switch
import WasmText.Proofs.Module.Resolution

/-!
# Targets of a table switch

The symbol table of a switch numbers the labels of its cases, those without a label counted, and goes on to
do so however it is resized. So a target resolves among the cases like any other reference
(`targets_of_make`).
-/
namespace WasmText.Switch
open SymbolTable (Failure Numbers numbered)

variable {storage : Storage} {label : Option Name} {key : Expr} {targets : List Target}
  {default : Target} {cases : List Case} {s u : Switch}

theorem labelled_eq_zipIdx (start : Nat) (cases : List Case) : labelled start cases =
    ((cases.map Case.label).zipIdx start).filterMap fun (label, i) =>
      label.map fun n => ⟨n, UInt32.ofNat i⟩ := by
  induction cases generalizing start with
  | nil => rfl
  | cons c rest ih => cases named : c.label <;> simp [labelled, named, ih]

theorem labelled_eq_numbered (cases : List Case) :
    labelled 0 cases = numbered (cases.map Case.label) :=
  labelled_eq_zipIdx 0 cases

theorem length_labelled_le (start : Nat) (cases : List Case) :
    (labelled start cases).length ≤ cases.length := by
  rw [labelled_eq_zipIdx]
  simpa using List.length_filterMap_le _ ((cases.map Case.label).zipIdx start)

theorem numbers_of_make (made : make storage label key targets default cases = .ok s) :
    s.cases = cases ∧ s.symbols.Numbers (cases.map Case.label) := by
  rcases bound : SymbolTable.bindAll storage (labelled 0 cases) .empty with ⟨_ | _, symbols⟩
  · simp [make, bound] at made
  · simp only [make, bound, Except.ok.injEq] at made
    obtain rfl := made
    obtain ⟨sound, perm⟩ := SymbolTable.perm_bindAll (SymbolTable.sound_start _) bound
    refine ⟨rfl, sound, ?_⟩
    simpa [labelled_eq_numbered] using perm

theorem numbers_of_resizeAll {resizes : List (Storage × Nat)} {names : List (Option Name)}
    (numbers : s.symbols.Numbers names) (resized : s.resizeAll resizes = (.ok (), u)) :
    u.cases = s.cases ∧ u.symbols.Numbers names := by
  induction resizes generalizing s with
  | nil =>
    obtain rfl : s = u := congrArg Prod.snd resized
    exact ⟨rfl, numbers⟩
  | cons first rest ih =>
    obtain ⟨storage, capacity⟩ := first
    rcases outcome : s.symbols.resize storage capacity with ⟨_ | _, symbols⟩
    · simp [resizeAll, outcome] at resized
    · simp only [resizeAll, outcome] at resized
      exact ih (s := { s with symbols := symbols }) (numbers.resize outcome) resized

/-- A switch is made unless slots are refused to its symbol table, at most twice as many as it has cases or
else the first ones. -/
theorem make_cases (storage : Storage) (label : Option Name) (key : Expr) (targets : List Target)
    (default : Target) (cases : List Case) :
    (∃ s, make storage label key targets default cases = .ok s) ∨
    ∃ slots ≤ max SymbolTable.defaultCapacity (2 * cases.length), storage.grants slots = false ∧
      make storage label key targets default cases = .error (.refused slots) := by
  rcases bound : SymbolTable.bindAll storage (labelled 0 cases) .empty with ⟨f | _, symbols⟩
  · obtain ⟨slots, rfl, refused, le⟩ :=
      SymbolTable.refused_of_bindAll (t := .empty) (SymbolTable.sound_start _) bound
    refine .inr ⟨slots, ?_, refused, by simp [make, bound]⟩
    have initial : SymbolTable.empty.initialCapacity = SymbolTable.defaultCapacity := by
      decide +kernel
    have fewer := length_labelled_le 0 cases
    have none_yet : SymbolTable.empty.entries.length = 0 := rfl
    rw [initial, none_yet] at le
    omega
  · exact .inl ⟨_, by simp [make, bound]; rfl⟩

/-- A switch is made unless slots are refused. From then on, and however often its table is resized, a case is
found by name exactly when its label is the name, the only one there is when labels are distinct; an index
leads to the case that stands there, and a branch to none. -/
theorem targets_of_make (storage : Storage) (label : Option Name) (key : Expr) (targets : List Target)
    (default : Target) (cases : List Case) :
    ((∃ s, make storage label key targets default cases = .ok s) ∨
      ∃ slots ≤ max SymbolTable.defaultCapacity (2 * cases.length), storage.grants slots = false ∧
        make storage label key targets default cases = .error (.refused slots)) ∧
    (cases.length ≤ UInt32.size → ∀ s resizes u,
      make storage label key targets default cases = .ok s → s.resizeAll resizes = (.ok (), u) →
      (∀ n, u.caseFor? (.case (.name n)) = none ↔ ∀ c ∈ cases, c.label ≠ some n) ∧
      (∀ n c, u.caseFor? (.case (.name n)) = some c →
        ∃ i, u.caseIndex? (.name n) = some i ∧ cases[i.toNat]? = some c ∧ c.label = some n) ∧
      ((cases.filterMap Case.label).Nodup → ∀ n i c, cases[i]? = some c → c.label = some n →
        (u.caseIndex? (.name n)).map UInt32.toNat = some i ∧
        u.caseFor? (.case (.name n)) = some c) ∧
      (∀ i, u.caseFor? (.case (.index i)) = cases[i.toNat]?) ∧
      ∀ r, u.caseFor? (.branch r) = none) := by
  refine ⟨make_cases storage label key targets default cases, fun fits s resizes u made resized => ?_⟩
  obtain ⟨same, numbers⟩ := numbers_of_make made
  obtain ⟨kept, numbers⟩ := numbers_of_resizeAll numbers resized
  have cases_eq : u.cases = cases := kept.trans same
  have resolves : Module.Resolves cases Case.label id u.caseIndex? fun r => u.caseFor? (.case r) :=
    Module.resolves_of_numbers numbers fits fun r => by simp [caseFor?, caseIndex?, cases_eq]
  refine ⟨resolves.of?_eq_none_iff, fun n c found => ?_,
    fun distinct n i c there named => resolves.of_distinct distinct there named, fun i => ?_,
    u.caseFor?_branch⟩
  · cases looked : u.caseIndex? (.name n) with
    | none => simp [caseFor?, looked] at found
    | some i =>
      obtain ⟨c', there, named, found'⟩ := resolves.named n i looked
      obtain rfl : c' = c := Option.some.inj (found'.symm.trans found)
      exact ⟨i, rfl, there, named⟩
  · simpa using resolves.of?_index i

/-- Two labelled cases with one in between that has no label. -/
def labelledCases : List Case :=
  [⟨some ⟨[97]⟩, []⟩, ⟨none, [.nop]⟩, ⟨some ⟨[98]⟩, [.nop]⟩]

theorem targets_resized :
    ∃ s u, make .addressSpace none .nop [] (.branch (.index 0)) labelledCases = .ok s ∧
      s.resizeAll [(.addressSpace, 2), (.addressSpace, 5)] = (.ok (), u) ∧
      u.caseFor? (.case (.name ⟨[98]⟩)) = some ⟨some ⟨[98]⟩, [.nop]⟩ ∧
      u.caseFor? (.case (.name ⟨[99]⟩)) = none ∧
      u.caseFor? (.case (.index 1)) = some ⟨none, [.nop]⟩ ∧
      u.caseFor? (.case (.index 3)) = none := by
  have ok : (make .addressSpace none .nop [] (.branch (.index 0)) labelledCases).toOption.any
      (fun s => (s.resizeAll [(.addressSpace, 2), (.addressSpace, 5)]).1 = .ok ()) = true := by
    decide +kernel
  obtain ⟨-, resolved⟩ :=
    targets_of_make .addressSpace none .nop [] (.branch (.index 0)) labelledCases
  rcases made : make .addressSpace none .nop [] (.branch (.index 0)) labelledCases with _ | s
  · simp [made, Except.toOption] at ok
  · rcases resized : s.resizeAll [(.addressSpace, 2), (.addressSpace, 5)] with ⟨outcome, u⟩
    obtain rfl : outcome = .ok () := by simpa [made, Except.toOption, resized] using ok
    obtain ⟨absent, -, once, index, -⟩ := resolved (by decide) s _ u made resized
    exact ⟨s, u, rfl, resized, (once (by decide) ⟨[98]⟩ 2 _ rfl rfl).2,
      (absent ⟨[99]⟩).mpr (by simp [labelledCases]), index 1, index 3⟩

end WasmText.Switch
