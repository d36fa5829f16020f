import WasmText.Json
import WasmText.ValueType

/-!
# Constants

Floating-point constants are kept as raw bits, so every NaN keeps its payload and equals itself.
-/
namespace WasmText

inductive Const
  | i32 (bits : UInt32)
  | i64 (bits : UInt64)
  | f32 (bits : UInt32)
  | f64 (bits : UInt64)
  deriving DecidableEq

namespace Const

def type : Const → ValueType
  | i32 _ => .i32
  | i64 _ => .i64
  | f32 _ => .f32
  | f64 _ => .f64

def bits : Const → Nat
  | i32 b => b.toNat
  | i64 b => b.toNat
  | f32 b => b.toNat
  | f64 b => b.toNat

/-- The constant of a type with the given bits; `void` has no constants. -/
def ofBits? : ValueType → Nat → Option Const
  | .void, _ => none
  | .i32, n => some (.i32 (UInt32.ofNat n))
  | .i64, n => some (.i64 (UInt64.ofNat n))
  | .f32, n => some (.f32 (UInt32.ofNat n))
  | .f64, n => some (.f64 (UInt64.ofNat n))

def summary (c : Const) : Json :=
  .object [("type", .text c.type.keyword), ("value", .nat c.bits)]

def outline (c : Const) : Outline :=
  .variant (Outline.title c.type.keyword) [.nat c.bits]

/-- Type and bits together determine a constant. -/
theorem ofBits?_type_bits (c : Const) : ofBits? c.type c.bits = some c := by
  cases c <;> simp [ofBits?, type, bits]

end Const
end WasmText
