import Mathlib.Tactic.MkIffOfInductiveProp
import WasmText.HexDump.Basic
import WasmText.Proofs.Positions

/-!
# The layout of a hex dump

Line `k` of a dump shows the octets from position `16 * k` on (`lines_eq`). Each of them has columns of its
own, whatever the others are and however many there are (`columns_hexArea`), and one character, its own or a
full stop (`showsOctet_shown`). No octet makes a line end early (`printable_line`).
-/
namespace WasmText.HexDump

variable (octets : List UInt8)

/-- The octets of line `k`. -/
def chunk (k : Nat) : List UInt8 :=
  (octets.drop (16 * k)).take 16

def lineCount : Nat :=
  (octets.length + 15) / 16

theorem length_chunk_le (k : Nat) : (chunk octets k).length ≤ 16 :=
  List.length_take_le 16 _

theorem flatMap_range_chunk (n : Nat) :
    (List.range n).flatMap (chunk octets) = octets.take (16 * n) := by
  induction n with
  | zero => simp
  | succ n ih =>
    rw [List.range_succ, List.flatMap_append, ih, List.flatMap_singleton, chunk, Nat.mul_succ,
      List.take_add]

/-- The lines together have all octets. -/
theorem flatMap_chunk : (List.range (lineCount octets)).flatMap (chunk octets) = octets := by
  rw [flatMap_range_chunk, List.take_of_length_le]
  rw [lineCount]
  omega

theorem lineCount_drop (h : 16 < octets.length) :
    lineCount octets = lineCount (octets.drop 16) + 1 := by
  simp only [lineCount, List.length_drop]
  omega

/-- The lines one by one, with their addresses and octets; the last has the note. -/
theorem lines_eq (chars : Bool) (description : Option (List Char)) (address : UInt64) :
    lines chars description address octets = (List.range (lineCount octets)).map fun k =>
      line chars (address + UInt64.ofNat (16 * k)) (chunk octets k) ++
        if k + 1 = lineCount octets then note description else [] := by
  fun_induction lines with
  | case1 address octets empty => simp [lineCount, empty]
  | case2 address octets nonempty short =>
    have count : lineCount octets = 1 := by
      simp only [lineCount, octetsPerLine] at *
      omega
    have whole : octets.take 16 = octets := List.take_of_length_le short
    simp [count, chunk, whole]
  | case3 address octets nonempty long ih =>
    simp only [octetsPerLine] at *
    have count := lineCount_drop octets (Nat.lt_of_not_le long)
    have more : lineCount (octets.drop 16) ≠ 0 := by
      simp only [lineCount, List.length_drop]
      omega
    rw [ih, count, List.range_succ_eq_map, List.map_cons, List.map_map]
    refine congrArg₂ List.cons ?_ (List.map_congr_left fun k _ => ?_)
    · simp [chunk, more]
    · have address_eq : address + UInt64.ofNat 16 + UInt64.ofNat (16 * k) =
          address + UInt64.ofNat (16 * (k + 1)) := by
        rw [UInt64.add_assoc, Nat.mul_succ, Nat.add_comm (16 * k), UInt64.ofNat_add]
      have chunk_eq : chunk (octets.drop 16) k = chunk octets (k + 1) := by
        rw [chunk, chunk, List.drop_drop, Nat.mul_succ, Nat.add_comm]
      rw [address_eq, chunk_eq]
      exact congrArg _ (if_congr Nat.add_right_cancel_iff.symm rfl rfl)

theorem hexArea_eq :
    hexArea octets = (List.range 8).flatMap (group octets) ++ [' '] := rfl

theorem group_eq (g : Nat) :
    group octets g = ((List.range 2).flatMap fun i => cell octets (2 * g + i)) ++ [' '] := rfl

theorem length_cells (g : Nat) :
    ((List.range 2).flatMap fun i => cell octets (2 * g + i)).length = 4 :=
  length_flatMap_of_length (fun _ => length_cell octets _) _

theorem length_groups : ((List.range 8).flatMap (group octets)).length = 40 :=
  length_flatMap_of_length (length_group octets) _

theorem getElem?_group {g j r : Nat} (hj : j < 2) (hr : r < 2) :
    (group octets g)[2 * j + r]? = (cell octets (2 * g + j))[r]? := by
  rw [group_eq, List.getElem?_append_left (by rw [length_cells]; omega),
    getElem?_flatMap_of_length (fun _ => length_cell octets _) _ _ hr, List.getElem?_range hj,
    Option.bind_some]

theorem getElem?_hexArea {g r : Nat} (hg : g < 8) (hr : r < 5) :
    (hexArea octets)[5 * g + r]? = (group octets g)[r]? := by
  rw [hexArea_eq, List.getElem?_append_left (by rw [length_groups]; omega),
    getElem?_flatMap_of_length (length_group octets) _ _ hr, List.getElem?_range hg,
    Option.bind_some]

theorem cell_eq (i : Nat) :
    cell octets i =
      (octets[i]?).elim [' ', ' '] fun b => (Nat.toDigits 16 b.toNat).leftpad 2 '0' := by
  rw [cell]
  split
  · rename_i b there
    rw [there, Hex.octet_eq_padded, Hex.padded_eq_leftpad, Option.elim_some]
  · rename_i nothing
    rw [nothing, Option.elim_none]

/-- The digits of the octets of a line, two to a group, with blanks past the last of them. -/
@[mk_iff]
structure Columns (area : List Char) : Prop where
  length_eq : area.length = 41
  digits_eq : ∀ g < 8, ∀ j < 2, (area.drop (5 * g + 2 * j)).take 2 =
    (octets[2 * g + j]?).elim [' ', ' '] fun b => (Nat.toDigits 16 b.toNat).leftpad 2 '0'
  behind_group : ∀ g < 8, area[5 * g + 4]? = some ' '
  ending : area[40]? = some ' '

instance (area : List Char) : Decidable (Columns octets area) :=
  decidable_of_iff' _ (columns_iff octets area)

theorem columns_hexArea : Columns octets (hexArea octets) where
  length_eq := length_hexArea octets
  digits_eq g hg j hj := by
    refine List.ext_getElem? fun r => ?_
    rw [← cell_eq]
    by_cases hr : r < 2
    · rw [List.getElem?_take_of_lt hr, List.getElem?_drop, Nat.add_assoc,
        getElem?_hexArea octets hg (by omega), getElem?_group octets hj hr]
    · rw [List.getElem?_take_eq_none (by omega), List.getElem?_eq_none (by rw [length_cell]; omega)]
  behind_group g hg := by
    rw [getElem?_hexArea octets hg (by decide), group_eq, ← length_cells octets g,
      List.getElem?_concat_length]
  ending := by
    rw [hexArea_eq, ← length_groups octets, List.getElem?_concat_length]

/-- The octets of a line leave no choice in its columns. -/
theorem Columns.unique {octets : List UInt8} {area area' : List Char} (h : Columns octets area)
    (h' : Columns octets area') : area = area' := by
  refine List.ext_getElem? fun r => ?_
  by_cases inside : r < 40
  · obtain ⟨g, s, hs, rfl⟩ : ∃ g s, s < 5 ∧ r = 5 * g + s :=
      ⟨r / 5, r % 5, Nat.mod_lt r (by decide), (Nat.div_add_mod r 5).symm⟩
    have hg : g < 8 := by omega
    by_cases digit : s < 4
    · obtain ⟨j, d, hd, rfl⟩ : ∃ j d, d < 2 ∧ s = 2 * j + d :=
        ⟨s / 2, s % 2, Nat.mod_lt s (by decide), (Nat.div_add_mod s 2).symm⟩
      have same := (h.digits_eq g hg j (by omega)).trans (h'.digits_eq g hg j (by omega)).symm
      have same_at := congrArg (·[d]?) same
      simpa only [List.getElem?_take_of_lt hd, List.getElem?_drop, Nat.add_assoc] using same_at
    · obtain rfl : s = 4 := by omega
      rw [h.behind_group g hg, h'.behind_group g hg]
  · rcases Nat.eq_or_lt_of_le (Nat.not_lt.mp inside) with rfl | past
    · rw [h.ending, h'.ending]
    · rw [List.getElem?_eq_none (by rw [h.length_eq]; omega),
        List.getElem?_eq_none (by rw [h'.length_eq]; omega)]

/-- The characters of ASCII that can be shown. -/
def Printable (c : Char) : Prop :=
  0x20 ≤ c.toNat ∧ c.toNat ≤ 0x7E

instance (c : Char) : Decidable (Printable c) :=
  inferInstanceAs (Decidable (_ ∧ _))

theorem printable_digit {d : Nat} (h : d < 16) : Printable (Hex.digit d) :=
  (by decide : ∀ d : Fin 16, Printable (Hex.digit d)) ⟨d, h⟩

/-- What stands for an octet: the character with its number if ASCII can show one there, and else a full stop. -/
def ShowsOctet (b : UInt8) (c : Char) : Prop :=
  if 0x20 ≤ b.toNat ∧ b.toNat ≤ 0x7E then c.toNat = b.toNat else c = '.'

instance (b : UInt8) (c : Char) : Decidable (ShowsOctet b c) :=
  inferInstanceAs (Decidable (if 0x20 ≤ b.toNat ∧ b.toNat ≤ 0x7E then c.toNat = b.toNat else c = '.'))

theorem ShowsOctet.unique {b : UInt8} {c d : Char} (h : ShowsOctet b c) (h' : ShowsOctet b d) : c = d := by
  rw [ShowsOctet] at h h'
  split at h
  · rename_i range
    rw [if_pos range] at h'
    exact Char.toNat_inj.mp (h.trans h'.symm)
  · rename_i outside
    rw [if_neg outside] at h'
    exact h.trans h'.symm

theorem showsOctet_shown (b : UInt8) : ShowsOctet b (shown b) := by
  have range_iff : 0x20 ≤ b ∧ b ≤ 0x7E ↔ 0x20 ≤ b.toNat ∧ b.toNat ≤ 0x7E := Iff.rfl
  rw [ShowsOctet, shown]
  by_cases range : 0x20 ≤ b.toNat ∧ b.toNat ≤ 0x7E
  · have valid : b.toNat.isValidChar := .inl (Nat.lt_trans b.toNat_lt (by decide))
    rw [if_pos range, if_pos (range_iff.mpr range), Char.ofNat, dif_pos valid]
    rfl
  · rw [if_neg range, if_neg (mt range_iff.mp range)]

theorem ShowsOctet.printable {b : UInt8} {c : Char} (h : ShowsOctet b c) : Printable c := by
  rw [ShowsOctet] at h
  split at h
  · rename_i range
    rwa [Printable, h]
  · rw [h]
    decide

theorem mem_cell {c : Char} {i : Nat} (h : c ∈ cell octets i) : c = ' ' ∨ ∃ d < 16, c = Hex.digit d := by
  rw [cell] at h
  split at h
  · rw [Hex.octet_eq_padded] at h
    exact .inr (Hex.exists_of_mem_padded h)
  · exact .inl (by simpa using h)

theorem mem_hexArea {c : Char} (h : c ∈ hexArea octets) : c = ' ' ∨ ∃ d < 16, c = Hex.digit d := by
  simp only [hexArea_eq, group_eq, List.mem_append, List.mem_flatMap, List.mem_singleton] at h
  obtain ⟨g, -, ⟨i, -, digit⟩ | blank⟩ | blank := h
  · exact mem_cell octets digit
  · exact .inl blank
  · exact .inl blank

/-- Whatever the octets, a line shows nothing that could end it. -/
theorem printable_line {chars : Bool} {address : UInt64} {c : Char}
    (h : c ∈ line chars address octets) : Printable c := by
  simp only [line, List.mem_append, List.mem_cons, List.not_mem_nil, or_false] at h
  obtain ((digit | rfl | rfl) | digit) | shown := h
  · obtain ⟨d, lt, rfl⟩ := Hex.exists_of_mem_padded digit
    exact printable_digit lt
  · decide
  · decide
  · obtain rfl | ⟨d, lt, rfl⟩ := mem_hexArea octets digit
    · decide
    · exact printable_digit lt
  · split at shown
    · obtain ⟨b, -, rfl⟩ := List.mem_map.mp shown
      exact (showsOctet_shown b).printable
    · simp at shown

end WasmText.HexDump
