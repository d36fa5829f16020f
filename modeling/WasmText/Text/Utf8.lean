/-!
# Octets as text

A scanner that reads UTF-8 octet by octet. An octet that cannot continue the sequence under way ends
it as one ill-formed part and is read again as the start of the next sequence, so every maximal
ill-formed part is reported once. `decode` shows such a part as the replacement character; `decode?`
refuses it.
-/
namespace WasmText.Utf8

/-- A sequence under way: the bits read, how many octets follow the next one, and the next one's range. -/
structure Pending where
  bits : Nat
  after : Nat
  low : UInt8
  high : UInt8
  deriving DecidableEq

/-- What the first octet of a sequence announces. -/
inductive Lead
  | scalar (c : Char)
  | sequence (p : Pending)
  | stray
  deriving DecidableEq

/-- Classifies a first octet; the range of the second rules out overlong forms, surrogates and large values. -/
def Lead.ofOctet (b : UInt8) : Lead :=
  if b < 0x80 then .scalar (Char.ofNat b.toNat)
  else if b < 0xC2 then .stray
  else if b < 0xE0 then .sequence ⟨b.toNat - 0xC0, 0, 0x80, 0xBF⟩
  else if b = 0xE0 then .sequence ⟨0, 1, 0xA0, 0xBF⟩
  else if b = 0xED then .sequence ⟨0xD, 1, 0x80, 0x9F⟩
  else if b < 0xF0 then .sequence ⟨b.toNat - 0xE0, 1, 0x80, 0xBF⟩
  else if b = 0xF0 then .sequence ⟨0, 2, 0x90, 0xBF⟩
  else if b < 0xF4 then .sequence ⟨b.toNat - 0xF0, 2, 0x80, 0xBF⟩
  else if b = 0xF4 then .sequence ⟨4, 2, 0x80, 0x8F⟩
  else .stray

/-- The characters read so far, newest first, with `none` for an ill-formed part, and the sequence under way. -/
structure Scan where
  out : List (Option Char)
  pending : Option Pending

/-- Reads an octet between two sequences. -/
def Scan.start (out : List (Option Char)) (b : UInt8) : Scan :=
  match Lead.ofOctet b with
  | .scalar c => ⟨some c :: out, none⟩
  | .sequence p => ⟨out, some p⟩
  | .stray => ⟨none :: out, none⟩

def Scan.step (s : Scan) (b : UInt8) : Scan :=
  match s.pending with
  | none => .start s.out b
  | some p =>
    if p.low ≤ b ∧ b ≤ p.high then
      let bits := 64 * p.bits + (b.toNat - 0x80)
      match p.after with
      | 0 => ⟨some (Char.ofNat bits) :: s.out, none⟩
      | n + 1 => ⟨s.out, some ⟨bits, n, 0x80, 0xBF⟩⟩
    else .start (none :: s.out) b

/-- The characters in order; a sequence cut off by the end is ill-formed. -/
def Scan.finish (s : Scan) : List (Option Char) :=
  match s.pending with
  | none => s.out.reverse
  | some _ => (none :: s.out).reverse

def scan (octets : List UInt8) : List (Option Char) :=
  (octets.foldl Scan.step ⟨[], none⟩).finish

/-- The text of any octets, with one U+FFFD for each maximal ill-formed part. -/
def decode (octets : List UInt8) : List Char :=
  (scan octets).map (·.getD '\uFFFD')

/-- The text of well-formed octets only. -/
def decode? (octets : List UInt8) : Option (List Char) :=
  let cs := scan octets
  if cs.all Option.isSome then some (cs.filterMap id) else none

def encode (text : List Char) : List UInt8 :=
  text.flatMap String.utf8EncodeChar

/-- Where strict reading succeeds, lenient reading gives the same text. -/
theorem decode_of_decode? {octets : List UInt8} {text : List Char} (h : decode? octets = some text) :
    decode octets = text := by
  simp only [decode?] at h
  split at h
  · rename_i hs
    obtain rfl := Option.some.inj h
    rw [decode]
    generalize scan octets = cs at hs
    induction cs with
    | nil => rfl
    | cons c cs ih =>
      cases c with
      | none => simp at hs
      | some c => simp_all
  · simp at h

end WasmText.Utf8
