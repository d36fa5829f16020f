import WasmText.SymbolTable.Growth
import WasmText.SymbolTable.Lookup
import WasmText.SymbolTable.Outline
import WasmText.ValueType

/-!
# Spaces of types

A list of value types where some positions have names: the parameters of a function, its locals, the
globals of a module. Appending one space to another moves the named positions of the second behind
all positions of the first.

An operation that fails to bind a name has appended the types already.
-/
namespace WasmText

structure TypeSpace where
  types : Array ValueType
  symbols : SymbolTable
  deriving DecidableEq

namespace TypeSpace
open SymbolTable (Failure)

def empty : TypeSpace :=
  ⟨#[], .empty⟩

instance : Inhabited TypeSpace := ⟨empty⟩

def len (s : TypeSpace) : Nat :=
  s.types.size

def isEmpty (s : TypeSpace) : Bool :=
  s.types.isEmpty

/-- The position that the next type will have. -/
def nextIndex (s : TypeSpace) : UInt32 :=
  UInt32.ofNat s.types.size

/-- Appends a type and binds its name, if it has one, to its position. -/
def push (storage : Storage) (s : TypeSpace) (name : Option Name) (type : ValueType) :
    Except Failure Unit × TypeSpace :=
  let types := s.types.push type
  match name with
  | none => (.ok (), ⟨types, s.symbols⟩)
  | some n =>
    let (outcome, symbols) := s.symbols.bind storage n s.nextIndex
    (outcome, ⟨types, symbols⟩)

/-- Appends all types of another space and binds its names behind the positions there were. -/
def extend (storage : Storage) (s other : TypeSpace) : Except Failure Unit × TypeSpace :=
  let shifted := other.symbols.entries.map fun e => { e with index := e.index + s.nextIndex }
  let (outcome, symbols) := SymbolTable.bindAll storage shifted s.symbols
  (outcome, ⟨s.types ++ other.types, symbols⟩)

/-- Appends types one after another and stops at the first name that fails. -/
def pushAll (storage : Storage) :
    List (Option Name × ValueType) → TypeSpace → Except Failure Unit × TypeSpace
  | [], s => (.ok (), s)
  | (name, type) :: rest, s =>
    match s.push storage name type with
    | (.ok (), s) => pushAll storage rest s
    | (.error f, s) => (.error f, s)

def indexOf? (s : TypeSpace) (name : Name) : Option UInt32 :=
  s.symbols.lookup name

def typeAt? (s : TypeSpace) (index : UInt32) : Option ValueType :=
  s.types[index.toNat]?

def outline (s : TypeSpace) : Outline :=
  .record "NamedTypeList"
    [("types", .ofList ValueType.outline s.types.toList), ("bindings", s.symbols.outline)]

theorem types_push (storage : Storage) (s : TypeSpace) (name : Option Name) (type : ValueType) :
    (s.push storage name type).2.types = s.types.push type := by
  cases name <;> rfl

theorem types_extend (storage : Storage) (s other : TypeSpace) :
    (s.extend storage other).2.types = s.types ++ other.types := rfl

end TypeSpace
end WasmText
