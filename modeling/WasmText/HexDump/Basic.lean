import WasmText.Text.Hex
import WasmText.Text.Lines
import WasmText.Text.Terminal

/-!
# Hex dumps

Octets in lines of sixteen: the address of the first, the hexadecimal digits in groups of two octets,
and, if asked for, the printable characters. A short last line is filled up with blanks, so that the
characters stay in their column, and a description stands at the end of the last line alone.
Addresses go round at 2^64.
-/
namespace WasmText.HexDump

def octetsPerLine : Nat := 16

def octetsPerGroup : Nat := 2

/-- The least number of digits in an address. -/
def addressWidth : Nat := 7

/-- The digits of the octet at a position of a line, or the blanks in its place. -/
def cell (octets : List UInt8) (i : Nat) : List Char :=
  match octets[i]? with
  | some b => Hex.octet b
  | none => [' ', ' ']

/-- The cells of a group, and a space. -/
def group (octets : List UInt8) (g : Nat) : List Char :=
  ((List.range octetsPerGroup).flatMap fun i => cell octets (octetsPerGroup * g + i)) ++ [' ']

/-- All groups of a line, and a space. -/
def hexArea (octets : List UInt8) : List Char :=
  (List.range (octetsPerLine / octetsPerGroup)).flatMap (group octets) ++ [' ']

/-- Shows an octet as the ASCII character it stands for, if that is printable. -/
def shown (b : UInt8) : Char :=
  if 0x20 ≤ b ∧ b ≤ 0x7E then Char.ofNat b.toNat else '.'

def line (chars : Bool) (address : UInt64) (octets : List UInt8) : List Char :=
  Hex.padded addressWidth address.toNat ++ [':', ' '] ++ hexArea octets ++
    if chars then octets.map shown else []

/-- What a description adds to the last line. -/
def note : Option (List Char) → List Char
  | some description => [' ', ' ', ';', ' '] ++ description
  | none => []

def lines (chars : Bool) (description : Option (List Char)) (address : UInt64)
    (octets : List UInt8) : List (List Char) :=
  if octets.length = 0 then []
  else if octets.length ≤ octetsPerLine then [line chars address octets ++ note description]
  else
    line chars address (octets.take octetsPerLine) ::
      lines chars description (address + UInt64.ofNat octetsPerLine) (octets.drop octetsPerLine)
termination_by octets.length
decreasing_by
  simp only [List.length_drop, octetsPerLine]
  omega

/-- The characters of a dump; every line ends with a line feed. -/
def chars (showChars : Bool) (description : Option (List Char)) (address : UInt64)
    (octets : List UInt8) : List Char :=
  (lines showChars description address octets).flatMap (· ++ ['\n'])

def text (showChars : Bool) (description : Option String) (address : UInt64)
    (octets : List UInt8) : String :=
  String.ofList (chars showChars (description.map String.toList) address octets)

/-- A dump as lines for a terminal. -/
def printed (showChars : Bool) (description : Option String) (address : UInt64)
    (octets : List UInt8) : String :=
  String.join
    ((Lines.ofText (chars showChars (description.map String.toList) address octets)).map fun l =>
      Terminal.plainLine (String.ofList l))

theorem length_cell (octets : List UInt8) (i : Nat) : (cell octets i).length = 2 := by
  simp only [cell]
  split <;> rfl

theorem length_group (octets : List UInt8) (g : Nat) : (group octets g).length = 5 := by
  simp [group, octetsPerGroup, List.range_succ, length_cell]

/-- The digits of a line take up the same room whatever its octets. -/
theorem length_hexArea (octets : List UInt8) : (hexArea octets).length = 41 := by
  simp [hexArea, octetsPerLine, octetsPerGroup, List.range_succ, length_group]

end WasmText.HexDump
