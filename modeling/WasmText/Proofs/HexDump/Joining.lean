import WasmText.Proofs.HexDump.Reading

/-!
# Dumps put together

Octets that fill their lines are followed by a new line. So a dump of them and of more behind them is the two
dumps one after the other, the second at the address where the first ends (`text_append`); a description goes
with the second, which has the last line.
-/
namespace WasmText.HexDump

variable {front back : List UInt8} {showChars : Bool} {address : UInt64}

theorem mul_lineCount (whole : front.length % 16 = 0) : 16 * lineCount front = front.length := by
  rw [lineCount]
  omega

theorem lineCount_append (whole : front.length % 16 = 0) :
    lineCount (front ++ back) = lineCount front + lineCount back := by
  simp only [lineCount, List.length_append]
  omega

theorem lineCount_pos (more : back ≠ []) : 0 < lineCount back := by
  have nonempty : 0 < back.length := List.length_pos_iff.mpr more
  rw [lineCount]
  omega

theorem chunk_append_left (whole : front.length % 16 = 0) {k : Nat} (lt : k < lineCount front) :
    chunk (front ++ back) k = chunk front k := by
  have count := mul_lineCount whole
  have within_front : 16 ≤ (front.drop (16 * k)).length := by
    rw [List.length_drop]
    omega
  rw [chunk, chunk, List.drop_append_of_le_length (by omega), List.take_append_of_le_length within_front]

theorem chunk_append_right (whole : front.length % 16 = 0) (k : Nat) :
    chunk (front ++ back) (lineCount front + k) = chunk back k := by
  rw [chunk, chunk, Nat.mul_add, mul_lineCount whole, List.drop_length_add_append]

theorem address_append (whole : front.length % 16 = 0) (k : Nat) :
    address + UInt64.ofNat (16 * (lineCount front + k)) =
      address + UInt64.ofNat front.length + UInt64.ofNat (16 * k) := by
  rw [Nat.mul_add, mul_lineCount whole, UInt64.ofNat_add, UInt64.add_assoc]

theorem lines_append (whole : front.length % 16 = 0) (more : back ≠ []) (description : Option (List Char)) :
    lines showChars description address (front ++ back) =
      lines showChars none address front ++
        lines showChars description (address + UInt64.ofNat front.length) back := by
  have pos := lineCount_pos more
  rw [lines_eq, lines_eq, lines_eq, lineCount_append whole, List.range_add, List.map_append, List.map_map]
  refine congrArg₂ (· ++ ·) (List.map_congr_left fun k hk => ?_) (List.map_congr_left fun k _ => ?_)
  · have lt := List.mem_range.mp hk
    have not_last : ¬ k + 1 = lineCount front + lineCount back := by omega
    rw [chunk_append_left whole lt, if_neg not_last]
    simp [note]
  · have last_iff : lineCount front + k + 1 = lineCount front + lineCount back ↔ k + 1 = lineCount back := by
      omega
    rw [Function.comp_apply, chunk_append_right whole, address_append whole]
    exact congrArg _ (if_congr last_iff rfl rfl)

/-- The dump of octets that fill their lines, and of at least one more behind them, is the dump of the first
without a description and the dump of the others from where the first ends; addresses go round at the top. -/
theorem text_append (showChars : Bool) (description : Option String) (address : UInt64)
    (front back : List UInt8) (whole : front.length % 16 = 0) (more : back ≠ []) :
    text showChars description address (front ++ back) =
      text showChars none address front ++
        text showChars description (address + UInt64.ofNat front.length) back := by
  rw [text, text, text, chars, chars, chars, lines_append whole more, List.flatMap_append, String.ofList_append]
  rfl

theorem text_append_wrapped :
    (List.replicate 32 (0x3B : UInt8)).length % 16 = 0 ∧ [0x0A, 0x7E] ≠ ([] : List UInt8) ∧
    text true (some "two\nlines") 0xFFFFFFFFFFFFFFF0 (List.replicate 32 0x3B ++ [0x0A, 0x7E]) =
      text true none 0xFFFFFFFFFFFFFFF0 (List.replicate 32 0x3B) ++
        text true (some "two\nlines") 0x10 [0x0A, 0x7E] := by
  have whole : (List.replicate 32 (0x3B : UInt8)).length % 16 = 0 := by decide
  have more : [0x0A, 0x7E] ≠ ([] : List UInt8) := by decide
  exact ⟨whole, more,
    text_append true (some "two\nlines") 0xFFFFFFFFFFFFFFF0 (List.replicate 32 0x3B) [0x0A, 0x7E] whole more⟩

end WasmText.HexDump
