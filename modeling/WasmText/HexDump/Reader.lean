import WasmText.HexDump.Basic

/-!
# Reading a hex dump

Recovers the address of a dump and its octets from the addresses and the hexadecimal columns alone.
What stands behind the columns is never looked at.
-/
namespace WasmText.HexDump

/-- Where the digits of an octet begin among the columns of a line. -/
def column (i : Nat) : Nat :=
  2 * i + i / octetsPerGroup

/-- Reads the octet at a position of the columns, unless there are blanks. -/
def octetAt? (area : List Char) (i : Nat) : Option UInt8 :=
  ((area[column i]?).bind Hex.value?).bind fun high =>
    ((area[column i + 1]?).bind Hex.value?).map fun low => UInt8.ofNat (16 * high + low)

/-- The width of the columns of a line. -/
def areaWidth : Nat := 41

/-- Reads the address and the octets of a line. -/
def readLine (line : List Char) : Nat × List UInt8 :=
  let address := line.takeWhile (· != ':')
  let area := ((line.drop address.length).drop 2).take areaWidth
  (Hex.ofDigits address, (List.range octetsPerLine).filterMap (octetAt? area))

/-- Reads the address of the first line, if there is one, and all octets. -/
def read (text : List Char) : Option Nat × List UInt8 :=
  let lines := (Lines.ofText text).map readLine
  (lines.head?.map Prod.fst, lines.flatMap Prod.snd)

end WasmText.HexDump
