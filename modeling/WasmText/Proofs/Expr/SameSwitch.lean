import WasmText.Proofs.Expr.Equality
import WasmText.Proofs.Expr.Targets
import WasmText.Proofs.SymbolTable.Resizing

/-!
# Switches that are the same

The comparison of switches leaves their symbol tables out, although these decide where targets lead. Where
no two cases of a switch have one label this makes no difference: its table numbers the labels whatever it
went through, and tables that number the same distinct names find the same (`Numbers.lookup_eq`). So
switches that are the same resolve every reference alike (`resolution_of_same`).
-/
namespace WasmText

theorem Case.sameAll_iff_forall₂ (cs ds : List Case) :
    Case.sameAll cs ds = true ↔ List.Forall₂ (fun c d => c.same d = true) cs ds := by
  induction cs generalizing ds with
  | nil => rcases ds with _ | ⟨⟨_, _⟩, _⟩ <;> simp [Case.sameAll]
  | cons c rest ih =>
    obtain ⟨label, body⟩ := c
    rcases ds with _ | ⟨⟨label', body'⟩, rest'⟩
    · simp [Case.sameAll]
    · simp only [Case.sameAll, Case.same, Bool.and_eq_true, List.forall₂_cons, ih]

theorem Case.label_eq_of_same {c d : Case} (same : c.same d = true) : c.label = d.label := by
  simp only [Case.same, Bool.and_eq_true, beq_iff_eq] at same
  exact same.1

namespace SymbolTable

theorem map_name_numbered (names : List (Option Name)) :
    (numbered names).map Entry.name = names.filterMap id := by
  conv_rhs => rw [← List.zipIdx_map_fst 0 names]
  rw [numbered, List.map_filterMap, List.filterMap_map]
  refine List.filterMap_congr fun a _ => ?_
  obtain ⟨_ | name, i⟩ := a <;> rfl

/-- Tables that number one list of distinct names find the same, however their slots are laid out. -/
theorem Numbers.lookup_eq {t u : SymbolTable} {names : List (Option Name)} (h : t.Numbers names)
    (h' : u.Numbers names) (distinct : (names.filterMap id).Nodup) (name : Name) :
    t.lookup name = u.lookup name := by
  refine lookup_eq_of_perm h'.sound.linked h.sound.linked (h.perm.trans h'.perm.symm) ?_
  rw [(h'.perm.map Entry.name).count_eq, map_name_numbered]
  exact List.nodup_iff_count_le_one.mp distinct name

end SymbolTable

namespace Switch

variable {storage storage' : Storage} {label label' : Option Name} {key key' : Expr}
  {targets targets' : List Target} {default default' : Target} {cases cases' : List Case}
  {s s' u u' : Switch} {resizes resizes' : List (Storage × Nat)}

theorem cases_of_same (same : s.same u = true) :
    List.Forall₂ (fun c d => c.same d = true) s.cases u.cases := by
  obtain ⟨label, key, targets, default, symbols, cases⟩ := s
  obtain ⟨label', key', targets', default', symbols', cases'⟩ := u
  simp only [Switch.same, Bool.and_eq_true] at same
  exact (Case.sameAll_iff_forall₂ cases cases').mp same.2

theorem labels_of_same (same : s.same u = true) :
    s.cases.map Case.label = u.cases.map Case.label := by
  rw [← List.forall₂_eq_eq_eq, List.forall₂_map_left_iff, List.forall₂_map_right_iff]
  exact (cases_of_same same).imp fun _ _ => Case.label_eq_of_same

/-- Two switches whose cases have distinct labels, each resized in its own way, and that are the same: every
reference stands for one index in both, and every target leads to no case of either or to cases that are the
same and stand at that index. -/
theorem resolution_of_same (made : make storage label key targets default cases = .ok s)
    (made' : make storage' label' key' targets' default' cases' = .ok s')
    (distinct : (cases.filterMap Case.label).Nodup)
    (resized : s.resizeAll resizes = (.ok (), u)) (resized' : s'.resizeAll resizes' = (.ok (), u'))
    (same : u.same u' = true) :
    (∀ r, u.caseIndex? r = u'.caseIndex? r) ∧
    ∀ t, (u.caseFor? t = none ∧ u'.caseFor? t = none) ∨
      ∃ r i c c', t = .case r ∧ u.caseIndex? r = some i ∧
        u.cases[i.toNat]? = some c ∧ u'.cases[i.toNat]? = some c' ∧
        u.caseFor? t = some c ∧ u'.caseFor? t = some c' ∧ c.same c' = true := by
  obtain ⟨made_cases, numbers⟩ := numbers_of_make made
  obtain ⟨kept, numbers⟩ := numbers_of_resizeAll numbers resized
  obtain ⟨made_cases', numbers'⟩ := numbers_of_make made'
  obtain ⟨kept', numbers'⟩ := numbers_of_resizeAll numbers' resized'
  have labels := labels_of_same same
  rw [kept, made_cases, kept', made_cases'] at labels
  rw [← labels] at numbers'
  have index : ∀ r, u.caseIndex? r = u'.caseIndex? r := by
    intro r
    cases r with
    | index i => rfl
    | name n => exact numbers.lookup_eq numbers' (by simpa [List.filterMap_map] using distinct) n
  refine ⟨index, fun t => ?_⟩
  cases t with
  | branch r => exact .inl ⟨rfl, rfl⟩
  | case r =>
    cases found : u.caseIndex? r with
    | none => exact .inl ⟨by simp [caseFor?, found], by simp [caseFor?, ← index, found]⟩
    | some i =>
      have leads : u.caseFor? (.case r) = u.cases[i.toNat]? := by simp [caseFor?, found]
      have leads' : u'.caseFor? (.case r) = u'.cases[i.toNat]? := by
        simp [caseFor?, ← index, found]
      obtain ⟨length, alike⟩ := List.forall₂_iff_get.mp (cases_of_same same)
      by_cases lt : i.toNat < u.cases.length
      · have lt' : i.toNat < u'.cases.length := length ▸ lt
        have there := List.getElem?_eq_getElem lt
        have there' := List.getElem?_eq_getElem lt'
        exact .inr ⟨r, i, _, _, rfl, found, there, there', leads.trans there, leads'.trans there',
          alike i.toNat lt lt'⟩
      · left
        rw [leads, leads', List.getElem?_eq_none (by omega), List.getElem?_eq_none (by omega)]
        exact ⟨rfl, rfl⟩

-- where two cases have one label, a resizing can exchange their entries, and the first found changes
example : (make .addressSpace none .nop [] (.branch (.index 0))
      [⟨some ⟨[104]⟩, []⟩, ⟨some ⟨[104]⟩, [.nop]⟩]).toOption.any
    (fun s => s.same (s.resizeAll [(.addressSpace, 16)]).2 = true ∧
      s.caseIndex? (.name ⟨[104]⟩) = some 0 ∧
      (s.resizeAll [(.addressSpace, 16)]).2.caseIndex? (.name ⟨[104]⟩) = some 1) = true := by
  decide +kernel

theorem resolution_resized :
    ∃ s u u', make .addressSpace none .nop [] (.branch (.index 0)) labelledCases = .ok s ∧
      s.resizeAll [(.addressSpace, 2)] = (.ok (), u) ∧
      s.resizeAll [(.addressSpace, 5), (.addressSpace, 16)] = (.ok (), u') ∧
      u.symbols.capacity ≠ u'.symbols.capacity ∧ u.same u' = true ∧
      ∀ r, u.caseIndex? r = u'.caseIndex? r := by
  have ok : (make .addressSpace none .nop [] (.branch (.index 0)) labelledCases).toOption.any
      (fun s => (s.resizeAll [(.addressSpace, 2)]).1 = .ok () ∧
        (s.resizeAll [(.addressSpace, 5), (.addressSpace, 16)]).1 = .ok () ∧
        (s.resizeAll [(.addressSpace, 2)]).2.symbols.capacity ≠
          (s.resizeAll [(.addressSpace, 5), (.addressSpace, 16)]).2.symbols.capacity ∧
        (s.resizeAll [(.addressSpace, 2)]).2.same
          (s.resizeAll [(.addressSpace, 5), (.addressSpace, 16)]).2 = true) = true := by
    decide +kernel
  rcases made : make .addressSpace none .nop [] (.branch (.index 0)) labelledCases with _ | s
  · simp [made, Except.toOption] at ok
  · rcases resized : s.resizeAll [(.addressSpace, 2)] with ⟨outcome, u⟩
    rcases resized' : s.resizeAll [(.addressSpace, 5), (.addressSpace, 16)] with ⟨outcome', u'⟩
    obtain ⟨rfl, rfl, capacity, same⟩ : outcome = .ok () ∧ outcome' = .ok () ∧
        u.symbols.capacity ≠ u'.symbols.capacity ∧ u.same u' = true := by
      simpa [made, Except.toOption, resized, resized'] using ok
    exact ⟨s, u, u', rfl, resized, resized', capacity, same,
      (resolution_of_same made made (by decide) resized resized' same).1⟩

end Switch
end WasmText
