import WasmText.ValueType

/-!
# Operators

The operators of the instruction set by kind, each with the mnemonic that source text uses, and what
they are combined with: the type they work on, the type a conversion starts from, the way a memory
access reads or writes.
-/
namespace WasmText

inductive BinaryOp
  | add | sub | mul | divS | divU | remS | remU | and | or | xor | shl | shrS | shrU
  | div | min | max | copysign
  deriving DecidableEq

def BinaryOp.mnemonic : BinaryOp → String
  | add => "add" | sub => "sub" | mul => "mul"
  | divS => "div_s" | divU => "div_u" | remS => "rem_s" | remU => "rem_u"
  | and => "and" | or => "or" | xor => "xor"
  | shl => "shl" | shrS => "shr_s" | shrU => "shr_u"
  | div => "div" | min => "min" | max => "max" | copysign => "copysign"

def BinaryOp.all : List BinaryOp :=
  [add, sub, mul, divS, divU, remS, remU, and, or, xor, shl, shrS, shrU, div, min, max, copysign]

inductive UnaryOp
  | clz | ctz | popcnt | eqz
  | neg | abs | ceil | floor | trunc | nearest | sqrt
  deriving DecidableEq

def UnaryOp.mnemonic : UnaryOp → String
  | clz => "clz" | ctz => "ctz" | popcnt => "popcnt" | eqz => "eqz"
  | neg => "neg" | abs => "abs" | ceil => "ceil" | floor => "floor" | trunc => "trunc"
  | nearest => "nearest" | sqrt => "sqrt"

def UnaryOp.all : List UnaryOp :=
  [clz, ctz, popcnt, eqz, neg, abs, ceil, floor, trunc, nearest, sqrt]

inductive CompareOp
  | eq | ne | ltS | ltU | leS | leU | gtS | gtU | geS | geU
  | lt | le | gt | ge
  deriving DecidableEq

def CompareOp.mnemonic : CompareOp → String
  | eq => "eq" | ne => "ne"
  | ltS => "lt_s" | ltU => "lt_u" | leS => "le_s" | leU => "le_u"
  | gtS => "gt_s" | gtU => "gt_u" | geS => "ge_s" | geU => "ge_u"
  | lt => "lt" | le => "le" | gt => "gt" | ge => "ge"

def CompareOp.all : List CompareOp :=
  [eq, ne, ltS, ltU, leS, leU, gtS, gtU, geS, geU, lt, le, gt, ge]

inductive ConvertOp
  | extendS | extendU | wrap | truncS | truncU | convertS | convertU
  | promote | demote | reinterpret
  deriving DecidableEq

def ConvertOp.mnemonic : ConvertOp → String
  | extendS => "extend_s" | extendU => "extend_u" | wrap => "wrap"
  | truncS => "trunc_s" | truncU => "trunc_u" | convertS => "convert_s" | convertU => "convert_u"
  | promote => "promote" | demote => "demote" | reinterpret => "reinterpret"

def ConvertOp.all : List ConvertOp :=
  [extendS, extendU, wrap, truncS, truncU, convertS, convertU, promote, demote, reinterpret]

/-- An operator with the type it works on. -/
structure Typed (α : Type) where
  op : α
  type : ValueType
  deriving DecidableEq

/-- A conversion to one type from another. -/
structure Conversion where
  op : ConvertOp
  type : ValueType
  source : ValueType
  deriving DecidableEq

/-- How many bits a load or store moves; `full` is the width of its type. -/
inductive AccessWidth
  | full
  | bits8
  | bits16
  | bits32
  deriving DecidableEq

structure MemoryAccess where
  type : ValueType
  width : AccessWidth
  signed : Bool
  align : UInt32
  offset : UInt64
  deriving DecidableEq

/-- The alignment of a full access: eight octets for the wide types, four for all others. -/
def ValueType.naturalAlign : ValueType → UInt32
  | .i64 | .f64 => 8
  | _ => 4

/-- The access of a type's full width at its natural alignment, without an offset. -/
def MemoryAccess.ofType (type : ValueType) : MemoryAccess :=
  ⟨type, .full, false, type.naturalAlign, 0⟩

def AccessWidth.outline : AccessWidth → Outline
  | full => .atom "Full"
  | bits8 => .atom "Bits8"
  | bits16 => .atom "Bits16"
  | bits32 => .atom "Bits32"

def MemoryAccess.outline (a : MemoryAccess) : Outline :=
  .record "MemAccess"
    [("value_type", a.type.outline), ("size", a.width.outline), ("signed", .bool a.signed),
      ("align", .nat a.align.toNat), ("offset", .nat a.offset.toNat)]

/-- The outline of a typed operator, given the mnemonics of its kind. -/
def Typed.outline {α : Type} (mnemonic : α → String) (o : Typed α) : Outline :=
  .record "TypedOp" [("op", .keyword (mnemonic o.op)), ("value_type", o.type.outline)]

def Conversion.outline (c : Conversion) : Outline :=
  .record "ConvertOp"
    [("op", .keyword c.op.mnemonic), ("value_type", c.type.outline),
      ("from_type", c.source.outline)]

theorem BinaryOp.mem_all (o : BinaryOp) : o ∈ all := by
  cases o <;> decide

theorem UnaryOp.mem_all (o : UnaryOp) : o ∈ all := by
  cases o <;> decide

theorem CompareOp.mem_all (o : CompareOp) : o ∈ all := by
  cases o <;> decide

theorem ConvertOp.mem_all (o : ConvertOp) : o ∈ all := by
  cases o <;> decide

end WasmText
