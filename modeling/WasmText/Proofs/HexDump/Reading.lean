import Mathlib.Data.List.Forall2
import WasmText.HexDump.Reader
import WasmText.Proofs.HexDump.Layout

/-!
# Reading a dump back

The address of a line ends at its first colon, and the columns behind it are as wide for few octets as for
many; so what else stands in the line, characters or a description, is never taken for a digit
(`readLine_line`). A description without line feeds leaves the lines apart, and reading them one by one gives
all octets (`read_chars`). What a line shows of its octets leaves nothing in it open (`ShowsLine.unique`), so
the lines of a dump are known to the last character (`text_readable`).
-/
namespace WasmText.HexDump

variable {octets : List UInt8} {showChars : Bool} {address : UInt64}

theorem takeWhile_line (rest : List Char) :
    (line showChars address octets ++ rest).takeWhile (· != ':') =
      Hex.padded addressWidth address.toNat := by
  have digits : ∀ c ∈ Hex.padded addressWidth address.toNat, (c != ':') = true := by
    intro c h
    obtain ⟨d, lt, rfl⟩ := Hex.exists_of_mem_padded h
    exact (by decide : ∀ d : Fin 16, (Hex.digit d != ':') = true) ⟨d, lt⟩
  simp only [line, List.append_assoc, List.takeWhile_append_of_pos digits]
  simp

/-- Octet `i` of a line is number `i % 2` of group `i / 2` and is read from its cell there. -/
theorem octetAt?_hexArea {i : Nat} (h : i < 16) : octetAt? (hexArea octets) i = octets[i]? := by
  have at_column : ∀ r < 2, (hexArea octets)[column i + r]? = (cell octets i)[r]? := by
    intro r hr
    have column_eq : column i + r = 5 * (i / 2) + (2 * (i % 2) + r) := by
      simp only [column, octetsPerGroup]
      omega
    rw [column_eq, getElem?_hexArea octets (by omega) (by omega),
      getElem?_group octets (Nat.mod_lt i (by decide)) hr, Nat.div_add_mod]
  rw [octetAt?, at_column 1 (by decide), ← Nat.add_zero (column i), at_column 0 (by decide), cell]
  cases octets[i]? with
  | none => rfl
  | some b =>
    have lt := b.toNat_lt
    have high := Hex.value?_digit (by omega : b.toNat / 16 < 16)
    have low := Hex.value?_digit (Nat.mod_lt b.toNat (by decide : 0 < 16))
    simp only [Hex.octet, List.getElem?_cons_zero, List.getElem?_cons_succ, Option.bind_some, high,
      low, Option.map_some, Nat.div_add_mod, UInt8.ofNat_toNat]

/-- A line reads as its address and its octets, whatever stands behind the columns. -/
theorem readLine_line (h : octets.length ≤ 16) (rest : List Char) :
    readLine (line showChars address octets ++ rest) = (address.toNat, octets) := by
  have width : areaWidth = (hexArea octets).length := (length_hexArea octets).symm
  have area : (((line showChars address octets ++ rest).drop
      (Hex.padded addressWidth address.toNat).length).drop 2).take areaWidth = hexArea octets := by
    simp only [line, List.append_assoc, List.drop_left]
    simp [width]
  have octets_eq : (List.range octetsPerLine).filterMap (octetAt? (hexArea octets)) = octets := by
    refine Eq.trans (List.filterMap_congr fun i hi => ?_) (filterMap_range_of_le h)
    exact octetAt?_hexArea (List.mem_range.mp hi)
  rw [readLine, takeWhile_line, Hex.ofDigits_padded, area, octets_eq]

theorem not_mem_of_mem_lines {description : Option (List Char)} (h : ∀ d ∈ description, '\n' ∉ d) :
    ∀ l ∈ lines showChars description address octets, '\n' ∉ l := by
  intro l there newline
  rw [lines_eq] at there
  obtain ⟨k, -, rfl⟩ := List.mem_map.mp there
  rcases List.mem_append.mp newline with shown | noted
  · exact absurd (printable_line _ shown) (by decide)
  · split at noted
    · cases description with
      | none => simp [note] at noted
      | some d => simp [note, h d rfl] at noted
    · simp at noted

theorem readLine_dropReturn (k : Nat) (rest : List Char) :
    readLine (Lines.dropReturn (line showChars address (chunk octets k) ++ rest)) =
      (address.toNat, chunk octets k) := by
  have noReturn : '\r' ∉ line showChars address (chunk octets k) :=
    fun h => absurd (printable_line _ h) (by decide)
  rw [Lines.dropReturn_append rest noReturn, readLine_line (length_chunk_le octets k)]

theorem read_chars {description : Option (List Char)} (h : ∀ d ∈ description, '\n' ∉ d) :
    read (chars showChars description address octets) =
      (if octets = [] then none else some address.toNat, octets) := by
  have lines_read : (Lines.ofText (chars showChars description address octets)).map readLine =
      (List.range (lineCount octets)).map fun k =>
        ((address + UInt64.ofNat (16 * k)).toNat, chunk octets k) := by
    rw [chars, Lines.ofText_flatMap (not_mem_of_mem_lines h), lines_eq, List.map_map, List.map_map]
    exact List.map_congr_left fun k _ => readLine_dropReturn k _
  rw [read, lines_read, List.flatMap_map, flatMap_chunk, List.head?_map, List.head?_range]
  cases octets with
  | nil => rfl
  | cons b rest =>
    have nonempty : lineCount (b :: rest) ≠ 0 := by
      rw [lineCount, List.length_cons]
      omega
    simp [nonempty]

/-- What stands in line `k`: where its octets are, their digits, perhaps a character for each, and in the last
line the description. -/
def ShowsLine (showChars : Bool) (description : Option String) (address : UInt64)
    (octets : List UInt8) (k : Nat) (l : List Char) : Prop :=
  ∃ area characters, Columns (chunk octets k) area ∧
    List.Forall₂ ShowsOctet (if showChars then chunk octets k else []) characters ∧
    l = (Nat.toDigits 16 ((address.toNat + 16 * k) % UInt64.size)).leftpad 7 '0' ++ [':', ' '] ++ area ++
      characters ++
      if k + 1 = lineCount octets then
        description.elim [] fun d => [' ', ' ', ';', ' '] ++ d.toList
      else []

/-- Nothing in a line is left open. -/
theorem ShowsLine.unique {description : Option String} {k : Nat} {l l' : List Char}
    (h : ShowsLine showChars description address octets k l)
    (h' : ShowsLine showChars description address octets k l') : l = l' := by
  obtain ⟨area, characters, columns, shown, rfl⟩ := h
  obtain ⟨area', characters', columns', shown', rfl⟩ := h'
  obtain rfl := columns.unique columns'
  have octet_unique : Relator.RightUnique ShowsOctet := fun _ _ _ => ShowsOctet.unique
  obtain rfl := octet_unique.forall₂ shown shown'
  rfl

theorem forall₂_shown (showChars : Bool) (octets : List UInt8) :
    List.Forall₂ ShowsOctet (if showChars then octets else [])
      (if showChars then octets.map shown else []) := by
  cases showChars with
  | false => exact .nil
  | true => exact List.forall₂_map_right_iff.mpr (List.forall₂_same.mpr fun b _ => showsOctet_shown b)

theorem showsLine_line (description : Option String) (k : Nat) :
    ShowsLine showChars description address octets k
      (line showChars (address + UInt64.ofNat (16 * k)) (chunk octets k) ++
        if k + 1 = lineCount octets then note (description.map String.toList) else []) := by
  refine ⟨_, _, columns_hexArea _, forall₂_shown showChars _, ?_⟩
  have address_eq : (address + UInt64.ofNat (16 * k)).toNat = (address.toNat + 16 * k) % UInt64.size := by
    rw [UInt64.toNat_add, UInt64.toNat_ofNat', Nat.add_mod_mod]
  have note_eq : note (description.map String.toList) =
      description.elim [] fun d => [' ', ' ', ';', ' '] ++ d.toList := by
    cases description <;> rfl
  rw [line, Hex.padded_eq_leftpad, address_eq, note_eq]
  rfl

theorem toList_text (description : Option String) :
    (text showChars description address octets).toList =
      chars showChars (description.map String.toList) address octets :=
  String.toList_ofList

theorem read_text {description : Option String} (h : ∀ d ∈ description, '\n' ∉ d.toList) :
    read (text showChars description address octets).toList =
      (if octets = [] then none else some address.toNat, octets) := by
  rw [toList_text, read_chars (by simpa using h)]

/-- A dump has a line for each sixteen octets begun, with everything in its place, and reads back as its
octets and, if there are any, their address. So dumps of different octets differ, whatever else they show. -/
theorem text_readable (showChars : Bool) (description : Option String) (address : UInt64)
    (octets : List UInt8) (h : ∀ d ∈ description, '\n' ∉ d.toList) :
    (∃ ls : List (List Char),
      (text showChars description address octets).toList = ls.flatMap (· ++ ['\n']) ∧
      (∀ l ∈ ls, '\n' ∉ l) ∧ ls.length = (octets.length + 15) / 16 ∧
      ∀ k l, ls[k]? = some l → ShowsLine showChars description address octets k l) ∧
    read (text showChars description address octets).toList =
      (if octets = [] then none else some address.toNat, octets) ∧
    ∀ (showChars' : Bool) (description' : Option String) (address' : UInt64) (octets' : List UInt8),
      (∀ d ∈ description', '\n' ∉ d.toList) →
      text showChars description address octets = text showChars' description' address' octets' →
      octets = octets' := by
  refine ⟨⟨lines showChars (description.map String.toList) address octets, toList_text description,
    not_mem_of_mem_lines (by simpa using h), ?_, fun k l there => ?_⟩, read_text h, ?_⟩
  · rw [lines_eq, List.length_map, List.length_range, lineCount]
  · rw [lines_eq, List.getElem?_map, Option.map_eq_some_iff] at there
    obtain ⟨i, there, rfl⟩ := there
    obtain ⟨lt, rfl⟩ := List.getElem?_eq_some_iff.mp there
    rw [List.getElem_range]
    exact showsLine_line description k
  · intro showChars' description' address' octets' h' same
    have back := congrArg (fun t : String => (read t.toList).2) same
    simpa only [read_text h, read_text h'] using back

/-- Octets of which the first eight look like the start of a dump and some are no printable characters. -/
def disguised : List UInt8 :=
  [0x30, 0x30, 0x34, 0x31, 0x3A, 0x20, 0x34, 0x32, 0x0A, 0x1F, 0x20, 0x7E, 0x7F, 0x80, 0xFF, 0x2E, 0x09, 0x3B]

theorem text_readable_wrapped :
    (∀ d ∈ some "0041: 42", '\n' ∉ d.toList) ∧
    text true (some "0041: 42") 0xFFFFFFFFFFFFFFFB disguised =
      "fffffffffffffffb: 3030 3431 3a20 3432 0a1f 207e 7f80 ff2e  0041: 42.. ~...." ++ "\n" ++
      "000000b: 093b                                     .;  ; 0041: 42" ++ "\n" ∧
    read (text true (some "0041: 42") 0xFFFFFFFFFFFFFFFB disguised).toList =
      (some 0xFFFFFFFFFFFFFFFB, disguised) := by
  have apart : ∀ d ∈ some "0041: 42", '\n' ∉ d.toList := by simp
  obtain ⟨⟨ls, shows_lines, -, count, lines_shown⟩, reads, -⟩ :=
    text_readable true (some "0041: 42") 0xFFFFFFFFFFFFFFFB disguised apart
  have first : ShowsLine true (some "0041: 42") 0xFFFFFFFFFFFFFFFB disguised 0
      "fffffffffffffffb: 3030 3431 3a20 3432 0a1f 207e 7f80 ff2e  0041: 42.. ~....".toList :=
    ⟨"3030 3431 3a20 3432 0a1f 207e 7f80 ff2e  ".toList, "0041: 42.. ~....".toList, by decide +kernel⟩
  have second : ShowsLine true (some "0041: 42") 0xFFFFFFFFFFFFFFFB disguised 1
      "000000b: 093b                                     .;  ; 0041: 42".toList :=
    ⟨"093b                                     ".toList, ".;".toList, by decide +kernel⟩
  match ls, count with
  | [l, l'], _ =>
    obtain rfl := (lines_shown 0 l rfl).unique first
    obtain rfl := (lines_shown 1 l' rfl).unique second
    refine ⟨apart, String.toList_inj.mp ?_, reads⟩
    simp only [shows_lines, String.toList_append, List.flatMap_cons, List.flatMap_nil, List.append_nil,
      List.append_assoc]
    rfl

end WasmText.HexDump
