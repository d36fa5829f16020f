import WasmText.Module.Basic

/-!
# Resolving references in a module

A reference is resolved in the symbol table of its kind, and what it resolves to is then looked up
among the entities of that kind; an index past the end finds nothing.

A function is exported under its name, compared octet by octet, or under its position. The position
counts only for a function taken from the module itself.
-/
namespace WasmText.Module

def funcIndex? (m : Module) (r : Ref) : Option UInt32 :=
  r.resolve m.funcSymbols

def typeIndex? (m : Module) (r : Ref) : Option UInt32 :=
  r.resolve m.typeSymbols

def globalIndex? (m : Module) (r : Ref) : Option UInt32 :=
  r.resolve m.globals.symbols

def importIndex? (m : Module) (r : Ref) : Option UInt32 :=
  r.resolve m.importSymbols

def funcOf? (m : Module) (r : Ref) : Option Func :=
  (m.funcIndex? r).bind fun i => m.func? i.toNat

def typeOf? (m : Module) (r : Ref) : Option FuncType :=
  (m.typeIndex? r).bind fun i => m.type? i.toNat

def importOf? (m : Module) (r : Ref) : Option Import :=
  (m.importIndex? r).bind fun i => m.import? i.toNat

def globalType? (m : Module) (r : Ref) : Option ValueType :=
  (m.globalIndex? r).bind m.globals.typeAt?

def exportNamed? (m : Module) (name : Name) : Option Export :=
  (m.exportSymbols.lookup name).bind fun i => m.export? i.toNat

/-- Tells whether an export means a function of this name, or the function at this position. -/
def exportMeans (m : Module) (name : Option Name) (position : Option Nat) (e : Export) : Bool :=
  match e.function with
  | .name n => Name.sameName (some n) name
  | .index i => (m.func? i.toNat).isSome && position == some i.toNat

/-- Tells whether the module exports a function that stands at a position of it, or nowhere in it. -/
def isExported (m : Module) (f : Func) (position : Option Nat) : Bool :=
  m.exports.any (m.exportMeans f.name position)

/-- Tells whether the module exports its own function at a position; there may be no such function. -/
def isExportedAt? (m : Module) (i : Nat) : Option Bool :=
  (m.func? i).map fun f => m.isExported f (some i)

/-- Tells whether the module exports a function that is not taken from it. -/
def isExportedDetached (m : Module) (f : Func) : Bool :=
  m.isExported f none

end WasmText.Module
