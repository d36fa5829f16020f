import WasmText.Module.Run
import WasmText.SymbolTable.Run

/-!
# Room for a field

The lists of a module have to take what a field adds to them: the fields one more, the positions of its kind
one more, the types of the globals those of the field. Room for this is reserved before any name is bound,
and where a list has none the module is left as it is.
-/
namespace WasmText
open SymbolTable (Failure)

/-- Which lists of a module can take what a field adds to them. -/
structure ListRoom where
  fields : Bool
  positions : Bool
  types : Bool

/-- Room in every list. -/
def ListRoom.ample : ListRoom :=
  ⟨true, true, true⟩

/-- Why a field was not appended: a list without room for it, or its names. -/
inductive AppendFailure
  | fields (keyword : String)
  | positions
  | types
  | symbols (f : Failure)
  deriving DecidableEq

/-- The diagnostic for a field that was not appended, if its names are not at fault in a way that has none. -/
def AppendFailure.diagnostic? : AppendFailure → Option Diagnostic
  | fields keyword =>
    some ((Diagnostic.ofKind .allocation "Could not grow module field list").withDetail .entityKind
      keyword)
  | positions =>
    some ((Diagnostic.ofKind .allocation "Could not grow module entity list").withDetail
      .compilationStage "Module Assembly")
  | types =>
    some ((Diagnostic.ofKind .allocation "Could not extend type list").withDetail
      .compilationStage "Named Type List")
  | symbols f => f.diagnostic?

namespace Module

/-- The first list without room for a field. -/
def crowded? (room : ListRoom) (field : Field) : Option AppendFailure :=
  if room.fields then
    match field with
    | .func _ | .imported _ | .exported _ | .type _ =>
      if room.positions then none else some .positions
    | .globals _ => if room.types then none else some .types
    | .table _ | .memory _ | .start _ => none
  else some (.fields field.keyword)

/-- Appends a field if the lists have room for it. -/
def appendWithin (room : ListRoom) (storage : Storage) (m : Module) (field : Field) :
    Except AppendFailure Unit × Module :=
  match crowded? room field with
  | some f => (.error f, m)
  | none => ((m.append storage field).1.mapError .symbols, (m.append storage field).2)

theorem appendWithin_ample (storage : Storage) (m : Module) (field : Field) :
    m.appendWithin .ample storage field =
      ((m.append storage field).1.mapError .symbols, (m.append storage field).2) := by
  cases field <;> rfl

/-- The modules that appending fields leads to from an empty one, whether each append succeeds or fails. -/
inductive Assembled : Module → Prop
  | empty : Assembled .empty
  | append {m : Module} (room : ListRoom) (storage : Storage) (field : Field)
      (assembled : Assembled m) : Assembled (m.appendWithin room storage field).2

/-- The modules that appending fields leads to when symbol tables are exchanged for any others in between. -/
inductive Reachable : Module → Prop
  | empty : Reachable .empty
  | append {m : Module} (room : ListRoom) (storage : Storage) (field : Field)
      (reached : Reachable m) : Reachable (m.appendWithin room storage field).2
  | exchange {m : Module} {symbols : SymbolTable} (table : Table)
      (other : SymbolTable.Reachable symbols) (reached : Reachable m) :
      Reachable (m.withSymbols symbols table)

end Module
end WasmText
