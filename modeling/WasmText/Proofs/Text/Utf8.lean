import Mathlib.Tactic.Common
import WasmText.Name

/-!
# Text from its octets

The octets that encode a text are read as that text again (`decode_encode`). The first octet of a character
tells how many follow, and no range that rules out a second octet rules out one that an encoder writes. So
names whose octets are UTF-8 are the names of their texts (`Name.ofString_text`).
-/
namespace WasmText.Utf8

variable {n bits after : Nat} {low high : UInt8} {out : List (Option Char)}

theorem lead_one (lt : n < 128) : Lead.ofOctet (UInt8.ofNat n) = .scalar (Char.ofNat n) := by
  have there : (UInt8.ofNat n).toNat = n := by
    rw [UInt8.toNat_ofNat']
    omega
  have ascii : UInt8.ofNat n < 0x80 := by
    rw [UInt8.lt_iff_toNat_lt, there]
    exact lt
  rw [Lead.ofOctet, if_pos ascii, there]

theorem lead_two (ge : 2 ≤ n) (lt : n < 32) :
    Lead.ofOctet (UInt8.ofNat (n + 0xC0)) = .sequence ⟨n, 0, 0x80, 0xBF⟩ :=
  (by decide : ∀ k : Fin 32, 2 ≤ k.val →
    Lead.ofOctet (UInt8.ofNat (k + 0xC0)) = .sequence ⟨k, 0, 0x80, 0xBF⟩) ⟨n, lt⟩ ge

theorem lead_three (lt : n < 16) :
    Lead.ofOctet (UInt8.ofNat (n + 0xE0)) =
      .sequence ⟨n, 1, if n = 0 then 0xA0 else 0x80, if n = 13 then 0x9F else 0xBF⟩ :=
  (by decide : ∀ k : Fin 16, Lead.ofOctet (UInt8.ofNat (k + 0xE0)) =
    .sequence ⟨k, 1, if k.val = 0 then 0xA0 else 0x80, if k.val = 13 then 0x9F else 0xBF⟩) ⟨n, lt⟩

theorem lead_four (lt : n < 5) :
    Lead.ofOctet (UInt8.ofNat (n + 0xF0)) =
      .sequence ⟨n, 2, if n = 0 then 0x90 else 0x80, if n = 4 then 0x8F else 0xBF⟩ :=
  (by decide : ∀ k : Fin 5, Lead.ofOctet (UInt8.ofNat (k + 0xF0)) =
    .sequence ⟨k, 2, if k.val = 0 then 0x90 else 0x80, if k.val = 4 then 0x8F else 0xBF⟩) ⟨n, lt⟩

/-- An octet behind the first, with six bits of its own. -/
def continuation (n : Nat) : UInt8 :=
  UInt8.ofNat (n % 64 + 0x80)

theorem continuation_eq (n : Nat) : UInt8.ofNat (n % 64 + 0x80) = continuation n := rfl

theorem toNat_continuation (n : Nat) : (continuation n).toNat = n % 64 + 0x80 := by
  rw [continuation, UInt8.toNat_ofNat']
  omega

theorem step_scalar {b : UInt8} {c : Char} (lead : Lead.ofOctet b = .scalar c) :
    Scan.step ⟨out, none⟩ b = ⟨some c :: out, none⟩ := by
  simp only [Scan.step, Scan.start, lead]

theorem step_sequence {b : UInt8} {p : Pending} (lead : Lead.ofOctet b = .sequence p) :
    Scan.step ⟨out, none⟩ b = ⟨out, some p⟩ := by
  simp only [Scan.step, Scan.start, lead]

theorem continuation_range (above : low.toNat ≤ n % 64 + 0x80) (below : n % 64 + 0x80 ≤ high.toNat) :
    low ≤ continuation n ∧ continuation n ≤ high := by
  rw [UInt8.le_iff_toNat_le, UInt8.le_iff_toNat_le, toNat_continuation]
  exact ⟨above, below⟩

/-- Where a second octet is not held down, any will do. -/
theorem any_ge : (0x80 : UInt8).toNat ≤ n % 64 + 0x80 :=
  Nat.le_add_left _ _

theorem any_le : n % 64 + 0x80 ≤ (0xBF : UInt8).toNat := by
  show n % 64 + 0x80 ≤ 0xBF
  omega

theorem step_last (above : low.toNat ≤ n % 64 + 0x80) (below : n % 64 + 0x80 ≤ high.toNat) :
    Scan.step ⟨out, some ⟨bits, 0, low, high⟩⟩ (continuation n) =
      ⟨some (Char.ofNat (64 * bits + n % 64)) :: out, none⟩ := by
  simp only [Scan.step, if_pos (continuation_range above below), toNat_continuation, Nat.add_sub_cancel]

theorem step_more (above : low.toNat ≤ n % 64 + 0x80) (below : n % 64 + 0x80 ≤ high.toNat) :
    Scan.step ⟨out, some ⟨bits, after + 1, low, high⟩⟩ (continuation n) =
      ⟨out, some ⟨64 * bits + n % 64, after, 0x80, 0xBF⟩⟩ := by
  simp only [Scan.step, if_pos (continuation_range above below), toNat_continuation, Nat.add_sub_cancel]

/-- Reading the octets of a character after any others adds that character to them. -/
theorem foldl_step_encodeChar (c : Char) (out : List (Option Char)) :
    (String.utf8EncodeChar c).foldl Scan.step ⟨out, none⟩ = ⟨some c :: out, none⟩ := by
  have scalar : c.val.toNat < 0xD800 ∨ 0xDFFF < c.val.toNat ∧ c.val.toNat < 0x110000 := c.valid
  have back (bits : Nat) (same : bits = c.val.toNat) : Char.ofNat bits = c := by
    rw [same]
    exact Char.ofNat_toNat c
  fun_cases String.utf8EncodeChar c with
  | case1 v one =>
    rw [List.foldl_cons, step_scalar (lead_one (by omega)), back v rfl, List.foldl_nil]
  | case2 v one two =>
    simp only [List.foldl_cons, List.foldl_nil, continuation_eq]
    rw [step_sequence (lead_two (by omega) (by omega)), step_last any_ge any_le, back _ (by omega)]
  | case3 v one two three =>
    have above : (if v / 4096 % 0x10 = 0 then 0xA0 else 0x80 : UInt8).toNat ≤ v / 64 % 64 + 0x80 := by
      split
      · show 0xA0 ≤ _
        omega
      · exact any_ge
    have below : v / 64 % 64 + 0x80 ≤ (if v / 4096 % 0x10 = 13 then 0x9F else 0xBF : UInt8).toNat := by
      split
      · show _ ≤ 0x9F
        omega
      · exact any_le
    simp only [List.foldl_cons, List.foldl_nil, continuation_eq]
    rw [step_sequence (lead_three (by omega)), step_more above below, step_last any_ge any_le,
      back _ (by omega)]
  | case4 v one two three =>
    have above : (if v / 262144 % 0x08 = 0 then 0x90 else 0x80 : UInt8).toNat ≤ v / 4096 % 64 + 0x80 := by
      split
      · show 0x90 ≤ _
        omega
      · exact any_ge
    have below : v / 4096 % 64 + 0x80 ≤ (if v / 262144 % 0x08 = 4 then 0x8F else 0xBF : UInt8).toNat := by
      split
      · show _ ≤ 0x8F
        omega
      · exact any_le
    simp only [List.foldl_cons, List.foldl_nil, continuation_eq]
    rw [step_sequence (lead_four (by omega)), step_more above below, step_more any_ge any_le,
      step_last any_ge any_le, back _ (by omega)]

/-- The octets of a text are scanned as its characters, none of them ill-formed. -/
theorem foldl_step_encode (text : List Char) (out : List (Option Char)) :
    (encode text).foldl Scan.step ⟨out, none⟩ = ⟨(text.map some).reverse ++ out, none⟩ := by
  induction text generalizing out with
  | nil => rfl
  | cons c rest ih =>
    rw [encode, List.flatMap_cons, List.foldl_append, foldl_step_encodeChar]
    refine (ih (some c :: out)).trans ?_
    simp

theorem decode_encode (text : List Char) : decode (encode text) = text := by
  have scanned : scan (encode text) = text.map some := by
    rw [scan, foldl_step_encode]
    simp [Scan.finish]
  rw [decode, scanned, List.map_map]
  exact List.map_id text

end WasmText.Utf8

namespace WasmText.Name

theorem loop_toList (octets : ByteArray) (i : Nat) (read : List UInt8) :
    ByteArray.toList.loop octets i read = read.reverse ++ octets.data.toList.drop i := by
  fun_induction ByteArray.toList.loop octets i read with
  | case1 i read lt ih =>
    have there : i < octets.data.toList.length := by simpa using lt
    rw [ih, List.drop_eq_getElem_cons there]
    simp [ByteArray.get!, lt]
  | case2 i read ge =>
    rw [List.drop_eq_nil_of_le (by simpa using Nat.le_of_not_lt ge), List.append_nil]

theorem octets_ofString (s : String) : (ofString s).octets = Utf8.encode s.toList := by
  have encoded : s.toUTF8 = (Utf8.encode s.toList).toByteArray := String.utf8Encode_toList.symm
  rw [ofString, encoded, ByteArray.toList, loop_toList, List.toList_data_toByteArray]
  rfl

theorem isText_ofString (s : String) : (ofString s).IsText := by
  refine ⟨s.toList, ?_⟩
  rw [octets_ofString]
  rfl

theorem exists_encode_of_isText {n : Name} (h : n.IsText) : ∃ text, n.octets = Utf8.encode text := by
  obtain ⟨text, encoded⟩ := h
  refine ⟨text, ?_⟩
  have octets := congrArg (fun b : ByteArray => b.data.toList) encoded
  simpa only [List.utf8Encode, List.toList_data_toByteArray, Utf8.encode] using octets

/-- A name whose octets are UTF-8 is the name of its text. -/
theorem ofString_text {n : Name} (h : n.IsText) : ofString n.text = n := by
  obtain ⟨text, encoded⟩ := exists_encode_of_isText h
  have same : (ofString n.text).octets = n.octets := by
    rw [octets_ofString, Name.text, String.toList_ofList, encoded, Utf8.decode_encode]
  exact congrArg Name.mk same

end WasmText.Name
