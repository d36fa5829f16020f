import WasmText.Func
import WasmText.Proofs.TypeSpace.Built

/-!
# The frame of a function

The frame that a function gets when it is made is the list of its parameters followed by the list of its
locals, and its table numbers the names of both. So a name resolves in the half that declares it, a local
behind all parameters (`frame_of_make`).
-/
namespace WasmText.Func
open SymbolTable (Failure)

variable {storage : Storage} {name : Option Name} {typeRef : Option Ref} {params locals : TypeSpace}
  {result : ValueType} {body : List Expr} {f : Func} {l m : List (Option Name × ValueType)}

/-- What a function is made from is kept beside the frame, which the two lists are bound to in turn. -/
theorem extend_of_make (made : make storage name typeRef params result locals body = .ok f) :
    f.params = params ∧ f.result = result ∧ ∃ between,
      TypeSpace.empty.extend storage params = (.ok (), between) ∧
      between.extend storage locals = (.ok (), f.frame) := by
  rcases first : TypeSpace.empty.extend storage params with ⟨_ | _, between⟩
  · simp [make, first] at made
  · rcases second : between.extend storage locals with ⟨_ | _, frame⟩
    · simp [make, first, second] at made
    · simp only [make, first, second] at made
      obtain rfl := Except.ok.inj made
      exact ⟨rfl, rfl, between, rfl, second⟩

theorem holds_frame (made : make storage name typeRef params result locals body = .ok f)
    (params_built : params.Built l) (locals_built : locals.Built m) : f.frame.Holds (l ++ m) := by
  obtain ⟨-, -, between, first, second⟩ := extend_of_make made
  have holds_between : between.Holds l := by
    simpa using TypeSpace.holds_empty.extend params_built.holds first
  exact holds_between.extend locals_built.holds second

/-- The list has the name at a position. -/
def NamesAt (l : List (Option Name × ValueType)) (i : Nat) (n : Name) : Prop :=
  (l.map Prod.fst)[i]? = some (some n)

theorem namesAt_append {i : Nat} {n : Name} : NamesAt (l ++ m) i n ↔
    i < l.length ∧ NamesAt l i n ∨ l.length ≤ i ∧ NamesAt m (i - l.length) n := by
  rw [NamesAt, List.map_append]
  rcases Nat.lt_or_ge i l.length with lt | ge
  · rw [List.getElem?_append_left (by simpa using lt)]
    simp [NamesAt, lt, Nat.not_le.mpr lt]
  · rw [List.getElem?_append_right (by simpa using ge), List.length_map]
    simp [NamesAt, ge, Nat.not_lt.mpr ge]

theorem forall_not_namesAt_append {n : Name} : (∀ i, ¬ NamesAt (l ++ m) i n) ↔
    (∀ i, ¬ NamesAt l i n) ∧ ∀ i, ¬ NamesAt m i n := by
  simp only [namesAt_append]
  constructor
  · intro absent
    refine ⟨fun i there => absent i (.inl ⟨?_, there⟩),
      fun i there => absent (l.length + i) (.inr ?_)⟩
    · simpa using (List.getElem?_eq_some_iff.mp there).1
    · simpa using there
  · rintro ⟨absent_l, absent_m⟩ i (⟨-, there⟩ | ⟨-, there⟩)
    · exact absent_l i there
    · exact absent_m _ there

theorem localIndex?_eq_none_iff {n : Name} (holds : f.frame.Holds l)
    (fits : l.length ≤ UInt32.size) :
    f.localIndex? (.name n) = none ↔ ∀ i, ¬ NamesAt l i n := by
  have finds := holds.symbols.finds (by rwa [List.length_map])
  rw [localIndex?, Ref.resolve_name, finds.eq_none_iff, List.mem_iff_getElem?, not_exists]
  rfl

theorem namesAt_of_localIndex? {n : Name} {i : UInt32} (holds : f.frame.Holds l)
    (fits : l.length ≤ UInt32.size) (found : f.localIndex? (.name n) = some i) :
    NamesAt l i.toNat n :=
  (holds.symbols.finds (by rwa [List.length_map])).getElem? n i found

/-- A name that has one position in a list is found there, and its type is the one that stands there. -/
theorem local_of_once {n : Name} {i : Nat} {type : ValueType} (holds : f.frame.Holds l)
    (fits : l.length ≤ UInt32.size) (there : l[i]? = some (some n, type))
    (once : (l.map Prod.fst).count (some n) = 1) :
    (f.localIndex? (.name n)).map UInt32.toNat = some i ∧ f.localType? (.name n) = some type := by
  have finds := holds.symbols.finds (by rwa [List.length_map])
  have found := finds.once n i (by simp [there]) once
  refine ⟨found, ?_⟩
  obtain ⟨j, looked, rfl⟩ := Option.map_eq_some_iff.mp found
  have index : f.localIndex? (.name n) = some j := looked
  rw [localType?, index, Option.bind_some, holds.typeAt?_eq, there]
  rfl

/-- The frame of a function that was made has the types of the parameters and then those of the locals. A
name resolves exactly when one of the lists has it, to a position of it in the half of that list, and an
index to the type that its half has there. -/
theorem frame_of_make (made : make storage name typeRef params result locals body = .ok f)
    (params_built : params.Built l) (locals_built : locals.Built m)
    (fits : l.length + m.length ≤ UInt32.size) :
    f.frame.types = params.types ++ locals.types ∧
    (∀ n, f.localIndex? (.name n) = none ↔ (∀ i, ¬ NamesAt l i n) ∧ ∀ i, ¬ NamesAt m i n) ∧
    (∀ n i, f.localIndex? (.name n) = some i →
      i.toNat < params.len ∧ NamesAt l i.toNat n ∨
      params.len ≤ i.toNat ∧ NamesAt m (i.toNat - params.len) n) ∧
    (∀ n i type, ((l ++ m).map Prod.fst).count (some n) = 1 →
      (l[i]? = some (some n, type) → (f.localIndex? (.name n)).map UInt32.toNat = some i ∧
        f.localType? (.name n) = some type) ∧
      (m[i]? = some (some n, type) →
        (f.localIndex? (.name n)).map UInt32.toNat = some (params.len + i) ∧
        f.localType? (.name n) = some type)) ∧
    (∀ i : UInt32,
      (i.toNat < params.len → f.localType? (.index i) = params.types[i.toNat]?) ∧
      (params.len ≤ i.toNat → f.localType? (.index i) = locals.types[i.toNat - params.len]?) ∧
      (params.len + locals.len ≤ i.toNat → f.localType? (.index i) = none)) ∧
    f.signature = ⟨result, params.types.toList⟩ := by
  obtain ⟨same_params, same_result, -⟩ := extend_of_make made
  have types := types_frame_of_make made
  have holds := holds_frame made params_built locals_built
  have fits_both : (l ++ m).length ≤ UInt32.size := by rwa [List.length_append]
  have len : params.len = l.length := params_built.holds.len_eq
  have at_index : ∀ i : UInt32, f.localType? (.index i) =
      (params.types ++ locals.types)[i.toNat]? := by
    intro i
    rw [← types]
    rfl
  refine ⟨types, fun n => ?_, fun n i found => ?_, fun n i type once => ⟨fun there => ?_, fun there => ?_⟩,
    fun i => ⟨fun lt => ?_, fun ge => ?_, fun ge => ?_⟩, ?_⟩
  · rw [localIndex?_eq_none_iff holds fits_both, forall_not_namesAt_append]
  · rw [len]
    exact namesAt_append.mp (namesAt_of_localIndex? holds fits_both found)
  · have lt := (List.getElem?_eq_some_iff.mp there).1
    exact local_of_once holds fits_both (by rwa [List.getElem?_append_left lt]) once
  · rw [len]
    exact local_of_once holds fits_both
      (by rwa [List.getElem?_append_right (by omega), Nat.add_sub_cancel_left]) once
  · rw [at_index, Array.getElem?_append_left lt]
  · rw [at_index, Array.getElem?_append_right ge]
    rfl
  · rw [at_index, Array.getElem?_eq_none]
    simpa [TypeSpace.len] using ge
  · rw [signature, same_params, same_result]

/-- Three parameters, of which one has no name. -/
def givenParams : List (Option Name × ValueType) :=
  [(some ⟨[97]⟩, .i32), (none, .i64), (some ⟨[98]⟩, .f32)]

/-- Two locals, of which one has the name of a parameter. -/
def givenLocals : List (Option Name × ValueType) :=
  [(some ⟨[99]⟩, .f64), (some ⟨[97]⟩, .i64)]

theorem frame_given :
    let params := (TypeSpace.empty.pushAll .addressSpace givenParams).2
    let locals := (TypeSpace.empty.pushAll .addressSpace givenLocals).2
    ∃ f, make .addressSpace none none params .void locals [] = .ok f ∧
      (f.localIndex? (.name ⟨[99]⟩)).map UInt32.toNat = some 3 ∧
      f.localType? (.name ⟨[98]⟩) = some .f32 ∧
      (∀ i, f.localIndex? (.name ⟨[97]⟩) = some i →
        i.toNat < 3 ∧ NamesAt givenParams i.toNat ⟨[97]⟩ ∨
        3 ≤ i.toNat ∧ NamesAt givenLocals (i.toNat - 3) ⟨[97]⟩) ∧
      f.localIndex? (.name ⟨[100]⟩) = none ∧
      f.localType? (.index 4) = some .i64 ∧ f.localType? (.index 5) = none := by
  intro params locals
  have built : ∀ given, (TypeSpace.empty.pushAll .addressSpace given).1 = .ok () →
      (TypeSpace.empty.pushAll .addressSpace given).2.Built given := fun given pushed => by
    simpa using TypeSpace.Built.empty.pushAll (Prod.ext pushed rfl)
  have ok : (make .addressSpace none none params .void locals []).isOk = true := by decide +kernel
  rcases made : make .addressSpace none none params .void locals [] with e | f
  · simp [made, Except.isOk, Except.toBool] at ok
  · obtain ⟨-, absent, found, once, index, -⟩ :=
      frame_of_make made (built givenParams (by decide +kernel))
        (built givenLocals (by decide +kernel)) (by decide)
    have len : params.len = 3 := by decide +kernel
    rw [len] at found once
    refine ⟨f, rfl, ((once ⟨[99]⟩ 0 .f64 (by decide)).2 rfl).1,
      ((once ⟨[98]⟩ 2 .f32 (by decide)).1 rfl).2, found ⟨[97]⟩, (absent ⟨[100]⟩).mpr ?_, ?_, ?_⟩
    · exact ⟨fun _ there => absurd (List.mem_of_getElem? there) (by decide),
        fun _ there => absurd (List.mem_of_getElem? there) (by decide)⟩
    · rw [(index 4).2.1 (by decide +kernel)]
      decide +kernel
    · exact (index 5).2.2 (by decide +kernel)

end WasmText.Func
