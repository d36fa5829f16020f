import WasmText.Config.Basic
import WasmText.Text.Lines

/-!
# Reading settings

The part of TOML that settings of the top level need: one `key = value` on a line, blanks around either,
comments from a number sign to the end of the line, and a byte order mark in front. A key stands bare or
is a basic or a literal string on one line; a value is a boolean or an integer, decimal with an optional
sign or hexadecimal, octal or binary with its mark, with single underscores between digits. Tables, dotted
keys, and values that are strings, floats, dates or arrays are not read, since no setting has such a name
or value: with them, as with a key that is unknown or set twice, the whole text is unreadable.
-/
namespace WasmText.Config

/-- One line's worth of settings. -/
inductive Setting
  | initialCapacity (n : Nat)
  | showChars (b : Bool)
  deriving DecidableEq

namespace Reader

def isBlank (c : Char) : Bool :=
  c == ' ' || c == '\t'

/-- The control characters, of which only the tab may stand in a line. -/
def isControl (c : Char) : Bool :=
  (c.toNat < 0x20 && c != '\t') || c.toNat == 0x7F

def skipBlanks (cs : List Char) : List Char :=
  cs.dropWhile isBlank

/-- Tells whether nothing but blanks and a comment is left of a line. -/
def isRest (cs : List Char) : Bool :=
  match skipBlanks cs with
  | [] => true
  | '#' :: comment => comment.all (!isControl ·)
  | _ => false

def isBareKeyChar (c : Char) : Bool :=
  c.isAlphanum || c == '_' || c == '-'

/-- Reads a number of so many hexadecimal digits as a character. -/
def codePoint? (count : Nat) (cs : List Char) : Option (Char × List Char) :=
  let digits := cs.take count
  let n := Hex.ofDigits digits
  if digits.length = count ∧ digits.all (fun c => (Hex.value? c).isSome) ∧ n.isValidChar then
    some (Char.ofNat n, cs.drop count)
  else none

/-- Reads what follows a backslash. -/
def escaped? : List Char → Option (Char × List Char)
  | 'b' :: rest => some ('\x08', rest)
  | 't' :: rest => some ('\t', rest)
  | 'n' :: rest => some ('\n', rest)
  | 'f' :: rest => some ('\x0c', rest)
  | 'r' :: rest => some ('\r', rest)
  | 'e' :: rest => some ('\x1b', rest)
  | '"' :: rest => some ('"', rest)
  | '\\' :: rest => some ('\\', rest)
  | 'x' :: rest => codePoint? 2 rest
  | 'u' :: rest => codePoint? 4 rest
  | 'U' :: rest => codePoint? 8 rest
  | _ => none

/-- Reads up to the closing double quote; the steps bound the characters read. -/
def doubleQuoted? : Nat → List Char → Option (List Char × List Char)
  | 0, _ => none
  | _ + 1, [] => none
  | _ + 1, '"' :: rest => some ([], rest)
  | steps + 1, '\\' :: rest =>
    (escaped? rest).bind fun (c, rest) =>
      (doubleQuoted? steps rest).map fun (cs, rest) => (c :: cs, rest)
  | steps + 1, c :: rest =>
    if isControl c then none
    else (doubleQuoted? steps rest).map fun (cs, rest) => (c :: cs, rest)

/-- Reads up to the closing single quote, where every character stands for itself. -/
def singleQuoted? : List Char → Option (List Char × List Char)
  | [] => none
  | '\x27' :: rest => some ([], rest)
  | c :: rest =>
    if isControl c then none
    else (singleQuoted? rest).map fun (cs, rest) => (c :: cs, rest)

/-- Reads a key and gives what follows it. -/
def key? : List Char → Option (List Char × List Char)
  | '"' :: rest => doubleQuoted? (rest.length + 1) rest
  | '\x27' :: rest => singleQuoted? rest
  | cs => some (cs.takeWhile isBareKeyChar, cs.dropWhile isBareKeyChar)

/-- Reads digits below a base, with single underscores between them. -/
def digits? (base : Nat) (cs : List Char) : Option Nat :=
  let runs := Split.pieces '_' cs
  let isDigit c := (Hex.value? c).any (· < base)
  if runs.all fun run => !run.isEmpty && run.all isDigit then
    some (runs.flatten.foldl (fun n c => base * n + (Hex.value? c).getD 0) 0)
  else none

/-- Reads decimal digits; a leading zero stands alone. -/
def decimal? : List Char → Option Nat
  | ['0'] => some 0
  | '0' :: _ => none
  | cs => digits? 10 cs

/-- Reads an integer that is not negative; minus zero is zero. -/
def integer? : List Char → Option Nat
  | '0' :: 'x' :: cs => digits? 16 cs
  | '0' :: 'o' :: cs => digits? 8 cs
  | '0' :: 'b' :: cs => digits? 2 cs
  | '+' :: cs => decimal? cs
  | '-' :: cs => (decimal? cs).filter (· == 0)
  | cs => decimal? cs

/-- Reads a number of slots, which fills at most 64 bits. -/
def capacity? (cs : List Char) : Option Nat :=
  (integer? cs).filter (· < UInt64.size)

def boolean? (cs : List Char) : Option Bool :=
  if cs = "true".toList then some true
  else if cs = "false".toList then some false
  else none

/-- Reads the value for a key. -/
def setting? (key value : List Char) : Option Setting :=
  if key = "initial_binding_capacity".toList then (capacity? value).map .initialCapacity
  else if key = "dump_chars".toList then (boolean? value).map .showChars
  else none

/-- Reads `= value` for a key, up to the end of the line. -/
def assignment? (key cs : List Char) : Option Setting :=
  match skipBlanks cs with
  | '=' :: rest =>
    let rest := skipBlanks rest
    let isValueChar c := !isBlank c && c != '#'
    if isRest (rest.dropWhile isValueChar) then setting? key (rest.takeWhile isValueChar) else none
  | _ => none

/-- Reads a line, which may hold no setting. -/
def line? (cs : List Char) : Option (List Setting) :=
  if isRest cs then some []
  else
    (key? (skipBlanks cs)).bind fun (key, rest) => (assignment? key rest).map fun s => [s]

/-- Puts a setting in force, unless that setting has been made already. -/
def combine? : List Setting → Config → Option Config
  | [], c => some c
  | .initialCapacity n :: rest, c =>
    if rest.any fun | .initialCapacity _ => true | .showChars _ => false then none
    else combine? rest { c with initialCapacity := n }
  | .showChars b :: rest, c =>
    if rest.any fun | .showChars _ => true | .initialCapacity _ => false then none
    else combine? rest { c with showChars := b }

/-- The text behind a byte order mark. -/
def dropOrderMark : List Char → List Char
  | '\uFEFF' :: cs => cs
  | cs => cs

/-- Reads a whole text, starting from the default settings. -/
def config? (text : List Char) : Option Config :=
  ((Lines.ofText (dropOrderMark text)).mapM line?).bind fun settings =>
    combine? settings.flatten .default

end Reader

/-- The complaint about a text that is no list of settings. -/
def malformed : Diagnostic :=
  .ofKind .config "Could not parse config"

/-- Reads settings and checks them once the whole text has been read. -/
def read (text : String) : Except Diagnostic Config :=
  match Reader.config? text.toList with
  | none => .error malformed
  | some c => c.validate.map fun _ => c

end WasmText.Config
