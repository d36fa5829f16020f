import WasmText.Text.Outline
import WasmText.Text.Quoted
import WasmText.Text.Utf8

/-!
# Names

A name is the run of octets that stood in the source. Names are compared octet by octet and hashed
by 32-bit FNV-1a; only messages and summaries show them as text, where octets that are no UTF-8
appear as replacement characters.
-/
namespace WasmText

structure Name where
  octets : List UInt8
  deriving DecidableEq

namespace Name

def ofString (s : String) : Name :=
  ⟨s.toUTF8.toList⟩

def size (n : Name) : Nat :=
  n.octets.length

def isEmpty (n : Name) : Bool :=
  n.octets.isEmpty

def hashBasis : UInt32 := 0x811c9dc5

def hashPrime : UInt32 := 0x01000193

def hashStep (h : UInt32) (b : UInt8) : UInt32 :=
  (h ^^^ b.toUInt32) * hashPrime

/-- FNV-1a: each octet is mixed into the low bits before the product spreads it upwards. -/
def hash (n : Name) : UInt32 :=
  n.octets.foldl hashStep hashBasis

/-- The name as text, with a replacement character for each ill-formed part. -/
def text (n : Name) : String :=
  String.ofList (Utf8.decode n.octets)

/-- The octets are UTF-8, so the text shows them as they are. -/
def IsText (n : Name) : Prop :=
  n.octets.toByteArray.IsValidUTF8

instance (n : Name) : Decidable n.IsText :=
  inferInstanceAs (Decidable (ByteArray.IsValidUTF8 _))

def outline (n : Name) : Outline :=
  .atom (Quoted.quote (Utf8.decode n.octets))

/-- An absent name matches nothing, not even another absent name. -/
def sameName : Option Name → Option Name → Bool
  | some a, some b => a == b
  | _, _ => false

theorem hash_append (a b : List UInt8) : hash ⟨a ++ b⟩ = b.foldl hashStep (hash ⟨a⟩) :=
  List.foldl_append

theorem sameName_eq_true_iff {a b : Option Name} :
    sameName a b = true ↔ a = b ∧ a.isSome = true := by
  cases a <;> cases b <;> simp [sameName]

end Name
end WasmText
