import WasmText.Expr.Outline
import WasmText.TypeSpace

/-!
# Functions

A function numbers its parameters and then its locals in one space, its frame, which is made from the
two lists when the function is.
-/
namespace WasmText
open SymbolTable (Failure)

/-- What a function takes and gives. -/
structure Signature where
  result : ValueType
  params : List ValueType
  deriving DecidableEq

def Signature.outline (s : Signature) : Outline :=
  .record "FuncSignature"
    [("result_type", s.result.outline), ("param_types", .ofList ValueType.outline s.params)]

structure Func where
  name : Option Name
  typeRef : Option Ref
  params : TypeSpace
  result : ValueType
  locals : TypeSpace
  frame : TypeSpace
  body : List Expr

namespace Func

/-- A function whose frame is its parameters followed by its locals. -/
def make (storage : Storage) (name : Option Name) (typeRef : Option Ref) (params : TypeSpace)
    (result : ValueType) (locals : TypeSpace) (body : List Expr) : Except Failure Func :=
  match TypeSpace.empty.extend storage params with
  | (.error f, _) => .error f
  | (.ok (), frame) =>
    match frame.extend storage locals with
    | (.error f, _) => .error f
    | (.ok (), frame) => .ok ⟨name, typeRef, params, result, locals, frame, body⟩

def localIndex? (f : Func) (r : Ref) : Option UInt32 :=
  r.resolve f.frame.symbols

def localType? (f : Func) (r : Ref) : Option ValueType :=
  (f.localIndex? r).bind f.frame.typeAt?

def signature (f : Func) : Signature :=
  ⟨f.result, f.params.types.toList⟩

def outline (f : Func) : Outline :=
  .record "Func"
    [("name", .option Name.outline f.name), ("type_var", .option Ref.outline f.typeRef),
      ("params", f.params.outline), ("result_type", f.result.outline),
      ("locals", f.locals.outline), ("params_and_locals", f.frame.outline),
      ("exprs", .ofList Expr.outline f.body)]

/-- The frame has the types of the parameters and then those of the locals. -/
theorem types_frame_of_make {storage : Storage} {name : Option Name} {typeRef : Option Ref}
    {params : TypeSpace} {result : ValueType} {locals : TypeSpace} {body : List Expr} {f : Func}
    (h : make storage name typeRef params result locals body = .ok f) :
    f.frame.types = params.types ++ locals.types := by
  simp only [make] at h
  split at h
  · simp at h
  · rename_i v₁ h₁
    split at h
    · simp at h
    · rename_i v₂ h₂
      obtain rfl := Except.ok.inj h
      have e₁ := TypeSpace.types_extend storage .empty params
      have e₂ := TypeSpace.types_extend storage v₁ locals
      rw [h₁] at e₁
      rw [h₂] at e₂
      change v₂.types = _
      rw [show v₂.types = _ from e₂, show v₁.types = _ from e₁]
      simp [TypeSpace.empty]

end Func
end WasmText
