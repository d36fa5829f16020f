/-!
# Hexadecimal digits

Lowercase digits of numbers and octets, and the value a run of digits stands for. Reading back what
was written gives the number again (`ofDigits_digits`, `ofDigits_padded`).
-/
namespace WasmText.Hex

/-- The digit of a number below sixteen. -/
def digit (n : Nat) : Char :=
  if n < 10 then Char.ofNat (48 + n) else Char.ofNat (87 + n)

/-- Every digit of a number, most significant first, without leading zeros. -/
def digits (n : Nat) : List Char :=
  if n < 16 then [digit n] else digits (n / 16) ++ [digit (n % 16)]

/-- The digits of a number, filled up with zeros to at least the given width. -/
def padded (width n : Nat) : List Char :=
  List.replicate (width - (digits n).length) '0' ++ digits n

/-- The two digits of an octet. -/
def octet (b : UInt8) : List Char :=
  [digit (b.toNat / 16), digit (b.toNat % 16)]

/-- Reads one lowercase or uppercase digit. -/
def value? (c : Char) : Option Nat :=
  if '0' ≤ c ∧ c ≤ '9' then some (c.toNat - 48)
  else if 'a' ≤ c ∧ c ≤ 'f' then some (c.toNat - 87)
  else if 'A' ≤ c ∧ c ≤ 'F' then some (c.toNat - 55)
  else none

/-- The number a run of digits stands for, with other characters counted as zero. -/
def ofDigits (cs : List Char) : Nat :=
  cs.foldl (fun n c => 16 * n + (value? c).getD 0) 0

theorem value?_digit {n : Nat} (h : n < 16) : value? (digit n) = some n :=
  (by decide : ∀ k : Fin 16, value? (digit k) = some k.val) ⟨n, h⟩

theorem ofDigits_append_digit (cs : List Char) {n : Nat} (h : n < 16) :
    ofDigits (cs ++ [digit n]) = 16 * ofDigits cs + n := by
  simp [ofDigits, List.foldl_append, value?_digit h]

theorem ofDigits_digits (n : Nat) : ofDigits (digits n) = n := by
  induction n using Nat.strongRecOn with
  | _ n ih =>
    unfold digits
    split
    · rename_i h
      simpa [ofDigits] using ofDigits_append_digit [] h
    · rw [ofDigits_append_digit _ (Nat.mod_lt n (by decide)), ih (n / 16) (by omega)]
      omega

theorem ofDigits_replicate_zero (k : Nat) (cs : List Char) :
    ofDigits (List.replicate k '0' ++ cs) = ofDigits cs := by
  induction k with
  | zero => rfl
  | succ k ih => simpa [ofDigits, List.replicate_succ, value?] using ih

theorem ofDigits_padded (width n : Nat) : ofDigits (padded width n) = n := by
  rw [padded, ofDigits_replicate_zero, ofDigits_digits]

theorem digit_eq_digitChar {n : Nat} (h : n < 16) : digit n = n.digitChar :=
  (by decide : ∀ k : Fin 16, digit k = Nat.digitChar k) ⟨n, h⟩

theorem digits_eq_toDigits (n : Nat) : digits n = Nat.toDigits 16 n := by
  induction n using Nat.strongRecOn with
  | _ n ih =>
    unfold digits
    split
    · rename_i lt
      rw [Nat.toDigits_of_lt_base lt, digit_eq_digitChar lt]
    · rename_i ge
      rw [Nat.toDigits_of_base_le (by decide) (Nat.le_of_not_lt ge), ih (n / 16) (by omega),
        digit_eq_digitChar (Nat.mod_lt n (by decide))]

theorem padded_eq_leftpad (width n : Nat) :
    padded width n = (Nat.toDigits 16 n).leftpad width '0' := by
  rw [padded, digits_eq_toDigits, List.leftpad]

theorem exists_of_mem_digits {c : Char} {n : Nat} (h : c ∈ digits n) : ∃ d < 16, c = digit d := by
  induction n using Nat.strongRecOn with
  | _ n ih =>
    unfold digits at h
    split at h
    · rename_i lt
      exact ⟨n, lt, List.mem_singleton.mp h⟩
    · rcases List.mem_append.mp h with h | h
      · exact ih (n / 16) (by omega) h
      · exact ⟨n % 16, Nat.mod_lt n (by decide), List.mem_singleton.mp h⟩

theorem exists_of_mem_padded {c : Char} {width n : Nat} (h : c ∈ padded width n) :
    ∃ d < 16, c = digit d := by
  rcases List.mem_append.mp h with h | h
  · exact ⟨0, by decide, List.eq_of_mem_replicate h⟩
  · exact exists_of_mem_digits h

theorem octet_eq_padded (b : UInt8) : octet b = padded 2 b.toNat := by
  have lt := b.toNat_lt
  rw [padded, digits]
  split
  · rename_i low
    rw [octet, Nat.div_eq_of_lt low, Nat.mod_eq_of_lt low]
    rfl
  · rw [digits, if_pos (by omega)]
    rfl

end WasmText.Hex
