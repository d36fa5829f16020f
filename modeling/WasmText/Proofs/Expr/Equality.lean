import Mathlib.Data.List.Forall2
import WasmText.Expr.Equality
import WasmText.Expr.Traversal

/-!
# Equality of expressions up to symbol tables

Two expressions are the same exactly when they are equal once every symbol table in them is made empty
(`same_iff_eraseTables`). So to be the same is an equivalence, and whatever can be read off an expression
without its tables, its keyword, its operands, its size, its preorder, is shared by expressions that are the
same.
-/
namespace WasmText

variable {a b : Expr}

namespace Expr

/-- Expressions of different instructions are never the same. -/
theorem ctorIdx_eq_of_same (same : a.same b = true) : a.ctorIdx = b.ctorIdx := by
  unfold Expr.same at same
  split at same <;> first | rfl | simp at same

theorem ctorIdx_eraseTables (e : Expr) : e.eraseTables.ctorIdx = e.ctorIdx := by
  cases e <;> rfl

theorem sameAll_iff {es : List Expr}
    (ih : ∀ e ∈ es, ∀ f, e.same f = true ↔ e.eraseTables = f.eraseTables) (fs : List Expr) :
    sameAll es fs = true ↔ eraseAll es = eraseAll fs := by
  induction es generalizing fs with
  | nil => cases fs <;> simp [sameAll, eraseAll]
  | cons e rest rest_iff =>
    rw [List.forall_mem_cons] at ih
    cases fs <;> simp [sameAll, eraseAll, ih.1, rest_iff ih.2]

theorem sameOption_iff {o : Option Expr}
    (ih : ∀ e ∈ o.toList, ∀ f, e.same f = true ↔ e.eraseTables = f.eraseTables) (p : Option Expr) :
    sameOption o p = true ↔ eraseOption o = eraseOption p := by
  cases o with
  | none => cases p <;> simp [sameOption, eraseOption]
  | some e => cases p <;> simp [sameOption, eraseOption, ih e (by simp)]

end Expr

theorem Case.sameAll_iff {cs : List Case}
    (ih : ∀ e ∈ cs.flatMap Case.body, ∀ f, e.same f = true ↔ e.eraseTables = f.eraseTables)
    (ds : List Case) : Case.sameAll cs ds = true ↔ Case.eraseAll cs = Case.eraseAll ds := by
  induction cs generalizing ds with
  | nil => rcases ds with _ | ⟨⟨_, _⟩, _⟩ <;> simp [Case.sameAll, Case.eraseAll]
  | cons c rest rest_iff =>
    obtain ⟨label, body⟩ := c
    rw [List.flatMap_cons, List.forall_mem_append] at ih
    rcases ds with _ | ⟨⟨_, _⟩, _⟩ <;>
    simp [Case.sameAll, Case.eraseAll, Expr.sameAll_iff ih.1, rest_iff ih.2, and_assoc]

theorem Switch.same_iff {s : Switch}
    (ih : ∀ e ∈ s.key :: s.cases.flatMap Case.body, ∀ f,
      e.same f = true ↔ e.eraseTables = f.eraseTables) (u : Switch) :
    s.same u = true ↔ s.eraseTables = u.eraseTables := by
  rw [List.forall_mem_cons] at ih
  obtain ⟨label, key, targets, default, symbols, cases⟩ := s
  obtain ⟨label', key', targets', default', symbols', cases'⟩ := u
  simp [Switch.same, Switch.eraseTables, ih.1, Case.sameAll_iff ih.2, and_assoc]

theorem Case.flatMap_body_eraseAll (cs : List Case) :
    (Case.eraseAll cs).flatMap Case.body = (cs.flatMap Case.body).map Expr.eraseTables := by
  induction cs with
  | nil => rfl
  | cons c rest ih =>
    obtain ⟨label, body⟩ := c
    simp [Case.eraseAll, Expr.eraseAll_eq_map, ih]

namespace Expr

/-- The comparison of two expressions of one instruction is right if that of the operands is. -/
theorem same_iff_of_children (kind : a.ctorIdx = b.ctorIdx)
    (ih : ∀ c ∈ a.children, ∀ d, c.same d = true ↔ c.eraseTables = d.eraseTables) :
    a.same b = true ↔ a.eraseTables = b.eraseTables := by
  cases a with
  | block _ es | loop _ _ es | call _ es | callImport _ es =>
    rw [children] at ih
    cases b <;> cases kind
    simp [same, eraseTables, sameAll_iff ih, and_assoc]
  | br _ o | ret o =>
    rw [children] at ih
    cases b <;> cases kind
    simp [same, eraseTables, sameOption_iff ih]
  | brIf _ condition o =>
    rw [children, List.forall_mem_cons] at ih
    cases b <;> cases kind
    simp [same, eraseTables, ih.1, sameOption_iff ih.2, and_assoc]
  | callIndirect _ position es =>
    rw [children, List.forall_mem_cons] at ih
    cases b <;> cases kind
    simp [same, eraseTables, ih.1, sameAll_iff ih.2, and_assoc]
  | tableswitch s =>
    rw [children] at ih
    cases b <;> cases kind
    simp [same, eraseTables, Switch.same_iff ih]
  | _ =>
    simp only [children, List.forall_mem_cons, List.not_mem_nil, false_imp_iff] at ih
    cases b <;> cases kind
    simp [same, eraseTables, ih, and_assoc]

theorem same_iff (a b : Expr) : a.same b = true ↔ a.eraseTables = b.eraseTables := by
  induction a using childrenInduction generalizing b with
  | step a ih =>
    by_cases kind : a.ctorIdx = b.ctorIdx
    · exact same_iff_of_children kind ih
    · refine ⟨fun same => absurd (ctorIdx_eq_of_same same) kind, fun erased => absurd ?_ kind⟩
      rw [← a.ctorIdx_eraseTables, erased, b.ctorIdx_eraseTables]

theorem keyword_eraseTables (e : Expr) : e.eraseTables.keyword = e.keyword := by
  cases e <;> rfl

theorem children_eraseTables (e : Expr) :
    e.eraseTables.children = e.children.map eraseTables := by
  cases e with
  | tableswitch s =>
    obtain ⟨label, key, targets, default, symbols, cases⟩ := s
    simp [eraseTables, Switch.eraseTables, children, Case.flatMap_body_eraseAll]
  | br _ o | ret o | brIf _ _ o => cases o <;> simp [eraseTables, eraseOption, children]
  | _ => simp [eraseTables, children, eraseAll_eq_map]

theorem nodeCount_eraseTables (e : Expr) : e.eraseTables.nodeCount = e.nodeCount := by
  induction e using childrenInduction with
  | step e ih =>
    rw [nodeCount_eq, nodeCount_eq, children_eraseTables, List.map_map]
    exact congrArg _ (List.map_congr_left ih)

theorem preorder_eraseTables (e : Expr) : e.eraseTables.preorder = e.preorder := by
  induction e using childrenInduction with
  | step e ih =>
    have signature : e.eraseTables.signature = e.signature := by
      simp [Expr.signature, keyword_eraseTables, children_eraseTables]
    rw [preorder_eq, e.preorder_eq, signature, children_eraseTables, List.flatMap_map]
    exact congrArg _ (List.flatMap_congr ih)

theorem children_of_same (same : a.same b = true) :
    List.Forall₂ (fun c d => c.same d = true) a.children b.children := by
  have erased : a.children.map eraseTables = b.children.map eraseTables := by
    rw [← children_eraseTables, ← children_eraseTables, (same_iff a b).mp same]
  simp only [same_iff]
  rwa [← List.forall₂_eq_eq_eq, List.forall₂_map_left_iff, List.forall₂_map_right_iff] at erased

/-- To be the same is to be equal without symbol tables. So it is an equivalence, and expressions that are the
same have one keyword, operands that are the same one by one, one size and one preorder. -/
theorem same_iff_eraseTables :
    (∀ a b : Expr, a.same b = true ↔ a.eraseTables = b.eraseTables) ∧
    Equivalence (fun a b : Expr => a.same b = true) ∧
    ∀ a b : Expr, a.same b = true →
      a.keyword = b.keyword ∧ List.Forall₂ (fun c d => c.same d = true) a.children b.children ∧
      a.nodeCount = b.nodeCount ∧ a.preorder = b.preorder := by
  refine ⟨same_iff, ⟨fun a => ?_, fun {a b} h => ?_, fun {a b c} h k => ?_⟩, fun a b h => ?_⟩
  · rw [same_iff]
  · rw [same_iff] at h ⊢
    exact h.symm
  · rw [same_iff] at h k ⊢
    exact h.trans k
  · have erased := (same_iff a b).mp h
    refine ⟨?_, children_of_same h, ?_, ?_⟩
    · rw [← a.keyword_eraseTables, erased, b.keyword_eraseTables]
    · rw [← a.nodeCount_eraseTables, erased, b.nodeCount_eraseTables]
    · rw [← a.preorder_eraseTables, erased, b.preorder_eraseTables]

/-- A switch with the given table inside the body of a case of another, behind a key that is no number. -/
def nested (symbols : SymbolTable) : Expr :=
  .tableswitch ⟨none, .const (.f32 0x7FC00001), [], .branch (.index 0), symbols,
    [⟨some ⟨[97]⟩, [.tableswitch ⟨none, .nop, [], .case (.index 0), symbols, [⟨none, []⟩]⟩]⟩]⟩

theorem same_nested :
    (nested .empty).same (nested (.withInitialCapacity 3)) = true ∧
    (nested .empty).nodeCount = (nested (.withInitialCapacity 3)).nodeCount ∧
    (nested .empty).preorder = (nested (.withInitialCapacity 3)).preorder := by
  have same : (nested .empty).same (nested (.withInitialCapacity 3)) = true := by decide +kernel
  obtain ⟨-, -, count, order⟩ := same_iff_eraseTables.2.2 _ _ same
  exact ⟨same, count, order⟩

end Expr
end WasmText
