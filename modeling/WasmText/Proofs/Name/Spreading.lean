import Mathlib.Data.Nat.Bitwise
import Mathlib.Data.Nat.ModEq
import WasmText.SymbolTable.Growth

/-!
# How one octet spreads names

A step of the hash takes the exclusive or with an octet and then the product with an odd number. Modulo any
power of two both can be undone, so octets that are hashed alike behind two hashes neither join nor part them
(`hash_append_modEq_iff`), and two octets behind one hash part it as far as their own low bits do
(`hash_octet_modEq_iff`). In a table with a power of two of slots, names that differ in one octet therefore
share a main slot exactly when those octets have the same low bits (`octet_spreads`).
-/
namespace WasmText.Name

variable {k i : Nat} {h g : UInt32} {m n : Name} {x y : UInt8}

/-- Words that agree in 32 bits or more are equal. -/
theorem toNat_modEq_iff_eq (wide : 32 ≤ k) : h.toNat ≡ g.toNat [MOD 2 ^ k] ↔ h = g := by
  have lt (w : UInt32) : w.toNat < 2 ^ k :=
    Nat.lt_of_lt_of_le w.toNat_lt (Nat.pow_le_pow_right (by decide) wide)
  rw [Nat.ModEq, Nat.mod_eq_of_lt (lt h), Nat.mod_eq_of_lt (lt g), UInt32.toNat_inj]

theorem toNat_mul_modEq (narrow : k ≤ 32) (h g : UInt32) :
    (h * g).toNat ≡ h.toNat * g.toNat [MOD 2 ^ k] := by
  rw [UInt32.toNat_mul]
  exact (Nat.mod_modEq _ _).of_dvd (Nat.pow_dvd_pow 2 narrow)

theorem coprime_hashPrime (k : Nat) : Nat.Coprime (2 ^ k) hashPrime.toNat :=
  Nat.Coprime.pow_left k (by decide)

theorem mul_hashPrime_modEq_iff_of_le (narrow : k ≤ 32) :
    (h * hashPrime).toNat ≡ (g * hashPrime).toNat [MOD 2 ^ k] ↔ h.toNat ≡ g.toNat [MOD 2 ^ k] := by
  have left := toNat_mul_modEq narrow h hashPrime
  have right := toNat_mul_modEq narrow g hashPrime
  constructor
  · intro same
    have products : h.toNat * hashPrime.toNat ≡ g.toNat * hashPrime.toNat [MOD 2 ^ k] :=
      left.symm.trans (same.trans right)
    exact products.cancel_right_of_coprime (coprime_hashPrime k)
  · intro same
    exact left.trans ((same.mul_right _).trans right.symm)

/-- From 32 bits on both sides are equalities of words, which agree when their 32 bits do. -/
theorem mul_hashPrime_modEq_iff (k : Nat) (h g : UInt32) :
    (h * hashPrime).toNat ≡ (g * hashPrime).toNat [MOD 2 ^ k] ↔ h.toNat ≡ g.toNat [MOD 2 ^ k] := by
  rcases Nat.le_total k 32 with narrow | wide
  · exact mul_hashPrime_modEq_iff_of_le narrow
  · rw [toNat_modEq_iff_eq wide, toNat_modEq_iff_eq wide, ← toNat_modEq_iff_eq le_rfl,
      mul_hashPrime_modEq_iff_of_le le_rfl, toNat_modEq_iff_eq le_rfl]

/-- What a step gives modulo a power of two depends on the hash and the octet modulo it alone. -/
theorem hashStep_modEq_hashStep_iff (k : Nat) (h g : UInt32) (x y : UInt8) :
    (hashStep h x).toNat ≡ (hashStep g y).toNat [MOD 2 ^ k] ↔
      h.toNat % 2 ^ k ^^^ x.toNat % 2 ^ k = g.toNat % 2 ^ k ^^^ y.toNat % 2 ^ k := by
  rw [hashStep, hashStep, mul_hashPrime_modEq_iff, Nat.ModEq, UInt32.toNat_xor, UInt32.toNat_xor,
    Nat.xor_mod_two_pow, Nat.xor_mod_two_pow, UInt8.toNat_toUInt32, UInt8.toNat_toUInt32]

theorem hashStep_modEq_iff (k : Nat) (h g : UInt32) (b : UInt8) :
    (hashStep h b).toNat ≡ (hashStep g b).toNat [MOD 2 ^ k] ↔ h.toNat ≡ g.toNat [MOD 2 ^ k] := by
  rw [hashStep_modEq_hashStep_iff, Nat.xor_left_injective.eq_iff, Nat.ModEq]

theorem hashStep_octet_modEq_iff (k : Nat) (h : UInt32) (x y : UInt8) :
    (hashStep h x).toNat ≡ (hashStep h y).toNat [MOD 2 ^ k] ↔ x.toNat ≡ y.toNat [MOD 2 ^ k] := by
  rw [hashStep_modEq_hashStep_iff, Nat.xor_right_injective.eq_iff, Nat.ModEq]

theorem foldl_hashStep_modEq_iff (k : Nat) (s : List UInt8) (h g : UInt32) :
    (s.foldl hashStep h).toNat ≡ (s.foldl hashStep g).toNat [MOD 2 ^ k] ↔
      h.toNat ≡ g.toNat [MOD 2 ^ k] := by
  induction s generalizing h g with
  | nil => rfl
  | cons b rest ih => rw [List.foldl_cons, List.foldl_cons, ih, hashStep_modEq_iff]

theorem hash_append_modEq_iff (k : Nat) (a b s : List UInt8) :
    (hash ⟨a ++ s⟩).toNat ≡ (hash ⟨b ++ s⟩).toNat [MOD 2 ^ k] ↔
      (hash ⟨a⟩).toNat ≡ (hash ⟨b⟩).toNat [MOD 2 ^ k] := by
  rw [hash_append, hash_append, foldl_hashStep_modEq_iff]

theorem hash_octet_modEq_iff (k : Nat) (p s : List UInt8) (x y : UInt8) :
    (hash ⟨p ++ [x] ++ s⟩).toNat ≡ (hash ⟨p ++ [y] ++ s⟩).toNat [MOD 2 ^ k] ↔
      x.toNat ≡ y.toNat [MOD 2 ^ k] := by
  rw [hash_append_modEq_iff, hash_append, hash_append, List.foldl_cons, List.foldl_cons, List.foldl_nil,
    List.foldl_nil, hashStep_octet_modEq_iff]

/-- Two names that differ in the octet at one position alone, which is `x` in the first and `y` in the second. -/
structure DifferAt (m n : Name) (i : Nat) (x y : UInt8) : Prop where
  left : m.octets[i]? = some x
  right : n.octets[i]? = some y
  ne : x ≠ y
  others : ∀ j, j ≠ i → m.octets[j]? = n.octets[j]?

theorem DifferAt.octets_eq_set (h : DifferAt m n i x y) : n.octets = m.octets.set i y := by
  obtain ⟨lt, -⟩ := List.getElem?_eq_some_iff.mp h.left
  refine List.ext_getElem? fun j => ?_
  by_cases there : i = j
  · subst j
    rw [h.right, List.getElem?_set_self lt]
  · rw [List.getElem?_set_ne there, h.others j (Ne.symm there)]

theorem differAt_append (p s : List UInt8) (ne : x ≠ y) :
    DifferAt ⟨p ++ [x] ++ s⟩ ⟨p ++ [y] ++ s⟩ p.length x y where
  left := by simp
  right := by simp
  ne := ne
  others j apart := by
    rcases Nat.lt_or_gt_of_ne apart with before | behind
    · simp [List.getElem?_append_left before]
    · obtain ⟨d, rfl⟩ := Nat.exists_eq_add_of_lt behind
      simp [List.getElem?_append_right, Nat.add_assoc]

/-- The octets before the place and those behind it are the same in both names. -/
theorem DifferAt.exists_append (h : DifferAt m n i x y) :
    ∃ p s, m = ⟨p ++ [x] ++ s⟩ ∧ n = ⟨p ++ [y] ++ s⟩ := by
  obtain ⟨lt, octet⟩ := List.getElem?_eq_some_iff.mp h.left
  have first : m.octets = m.octets.take i ++ [x] ++ m.octets.drop (i + 1) := by
    rw [← octet, List.take_append_getElem, List.take_append_drop]
  have second : n.octets = m.octets.take i ++ [y] ++ m.octets.drop (i + 1) := by
    rw [h.octets_eq_set, List.set_eq_take_append_cons_drop, if_pos lt, List.append_assoc,
      List.singleton_append]
  exact ⟨m.octets.take i, m.octets.drop (i + 1), congrArg Name.mk first, congrArg Name.mk second⟩

theorem DifferAt.hash_modEq_iff (h : DifferAt m n i x y) (k : Nat) :
    m.hash.toNat ≡ n.hash.toNat [MOD 2 ^ k] ↔ x.toNat ≡ y.toNat [MOD 2 ^ k] := by
  obtain ⟨p, s, rfl, rfl⟩ := h.exists_append
  exact hash_octet_modEq_iff k p s x y

/-- The hashes differ in their low eight bits already, since those are a whole octet. -/
theorem DifferAt.hash_ne (h : DifferAt m n i x y) : m.hash ≠ n.hash := by
  intro same
  apply h.ne
  have congruent : x.toNat ≡ y.toNat [MOD 2 ^ 8] := (h.hash_modEq_iff 8).mp (by rw [same])
  have equal : x.toNat = y.toNat := congruent.eq_of_lt_of_lt x.toNat_lt y.toNat_lt
  exact UInt8.toNat_inj.mp equal

/-- To be congruent modulo `2 ^ k` is to agree in the low `k` bits. -/
theorem modEq_two_pow_iff_testBit (k a b : Nat) :
    a ≡ b [MOD 2 ^ k] ↔ ∀ j < k, a.testBit j = b.testBit j := by
  constructor
  · intro same j lt
    have bits := congrArg (·.testBit j) same
    simpa [Nat.testBit_mod_two_pow, lt] using bits
  · intro agree
    refine Nat.eq_of_testBit_eq fun j => ?_
    by_cases lt : j < k
    · simp [Nat.testBit_mod_two_pow, lt, agree j lt]
    · simp [Nat.testBit_mod_two_pow, lt]

theorem DifferAt.mainSlot_eq_iff (h : DifferAt m n i x y) {t : SymbolTable} (slots : t.capacity = 2 ^ k) :
    t.mainSlot m = t.mainSlot n ↔ ∀ j < k, x.toNat.testBit j = y.toNat.testBit j := by
  rw [SymbolTable.mainSlot, SymbolTable.mainSlot, slots, ← modEq_two_pow_iff_testBit]
  exact h.hash_modEq_iff k

/-- Two names that differ in one octet have congruent hashes modulo a power of two exactly when those octets
are congruent, and two names with a common end exactly when the hashes of what stands before it are. So names
that differ in one octet share a main slot of `2 ^ k` exactly when those octets agree in their low `k` bits,
and their hashes are never the same. -/
theorem octet_spreads (k : Nat) :
    (∀ (p s : List UInt8) (x y : UInt8),
      (hash ⟨p ++ [x] ++ s⟩).toNat ≡ (hash ⟨p ++ [y] ++ s⟩).toNat [MOD 2 ^ k] ↔
        x.toNat ≡ y.toNat [MOD 2 ^ k]) ∧
    (∀ a b s : List UInt8,
      (hash ⟨a ++ s⟩).toNat ≡ (hash ⟨b ++ s⟩).toNat [MOD 2 ^ k] ↔
        (hash ⟨a⟩).toNat ≡ (hash ⟨b⟩).toNat [MOD 2 ^ k]) ∧
    ∀ (m n : Name) (i : Nat) (x y : UInt8), DifferAt m n i x y →
      (∀ t : SymbolTable, t.capacity = 2 ^ k →
        (t.mainSlot m = t.mainSlot n ↔ ∀ j < k, x.toNat.testBit j = y.toNat.testBit j)) ∧
      m.hash ≠ n.hash := by
  refine ⟨hash_octet_modEq_iff k, hash_append_modEq_iff k, ?_⟩
  intro m n i x y differ
  constructor
  · intro t slots
    exact differ.mainSlot_eq_iff slots
  · exact differ.hash_ne

/-- The octets 97 and 105 agree in three bits, but not in the fourth. -/
theorem octet_spreads_midway :
    let eight := ((SymbolTable.withInitialCapacity 8).insert .addressSpace ⟨[97]⟩).2
    let sixteen := ((SymbolTable.withInitialCapacity 16).insert .addressSpace ⟨[97]⟩).2
    DifferAt ⟨[120, 97, 46]⟩ ⟨[120, 105, 46]⟩ 1 97 105 ∧
    eight.capacity = 2 ^ 3 ∧ sixteen.capacity = 2 ^ 4 ∧
    eight.mainSlot ⟨[120, 97, 46]⟩ = eight.mainSlot ⟨[120, 105, 46]⟩ ∧
    sixteen.mainSlot ⟨[120, 97, 46]⟩ ≠ sixteen.mainSlot ⟨[120, 105, 46]⟩ ∧
    hash ⟨[120, 97, 46]⟩ ≠ hash ⟨[120, 105, 46]⟩ := by
  intro eight sixteen
  have differ : DifferAt ⟨[120, 97, 46]⟩ ⟨[120, 105, 46]⟩ 1 97 105 :=
    differAt_append [120] [46] (by decide)
  have three : eight.capacity = 2 ^ 3 := by decide +kernel
  have four : sixteen.capacity = 2 ^ 4 := by decide +kernel
  obtain ⟨shared, distinct⟩ := (octet_spreads 3).2.2 _ _ _ _ _ differ
  obtain ⟨parted, -⟩ := (octet_spreads 4).2.2 _ _ _ _ _ differ
  refine ⟨differ, three, four, (shared eight three).mpr (by decide), fun same => ?_, distinct⟩
  exact absurd ((parted sixteen four).mp same 3 (by decide)) (by decide)

end WasmText.Name
