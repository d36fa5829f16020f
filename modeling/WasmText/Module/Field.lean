import WasmText.Func

/-!
# Module fields

What a module declares, in eight kinds: functions, imports, exports, the function table, function
types, the memory, globals and the start function.
-/
namespace WasmText

/-- An imported function, with a reference to its type or the signature itself. -/
structure Import where
  name : Option Name
  moduleName : Name
  functionName : Name
  typeRef : Option Ref
  signature : Signature
  deriving DecidableEq

structure Export where
  name : Name
  function : Ref
  deriving DecidableEq

structure FuncType where
  name : Option Name
  signature : Signature
  deriving DecidableEq

/-- Octets placed in memory from an address on. -/
structure Segment where
  address : UInt32
  data : List UInt8
  deriving DecidableEq

structure Memory where
  initialPages : UInt32
  maxPages : UInt32
  segments : List Segment
  deriving DecidableEq

inductive Field
  | func (f : Func)
  | imported (i : Import)
  | exported (e : Export)
  | table (elements : List Ref)
  | type (t : FuncType)
  | memory (m : Memory)
  | globals (g : TypeSpace)
  | start (r : Ref)

namespace Field

def keyword : Field → String
  | func _ => "func"
  | imported _ => "import"
  | exported _ => "export"
  | table _ => "table"
  | type _ => "type"
  | memory _ => "memory"
  | globals _ => "global"
  | start _ => "start"

def func? : Field → Option Func
  | func f => some f
  | _ => none

def import? : Field → Option Import
  | imported i => some i
  | _ => none

def export? : Field → Option Export
  | exported e => some e
  | _ => none

def funcType? : Field → Option FuncType
  | type t => some t
  | _ => none

def table? : Field → Option (List Ref)
  | table elements => some elements
  | _ => none

def memory? : Field → Option Memory
  | memory m => some m
  | _ => none

def globals? : Field → Option TypeSpace
  | globals g => some g
  | _ => none

def start? : Field → Option Ref
  | start r => some r
  | _ => none

end Field

def Import.outline (i : Import) : Outline :=
  .record "Import"
    [("name", .option Name.outline i.name), ("module_name", i.moduleName.outline),
      ("func_name", i.functionName.outline), ("type_var", .option Ref.outline i.typeRef),
      ("func_sig", i.signature.outline)]

def Export.outline (e : Export) : Outline :=
  .record "Export" [("name", e.name.outline), ("var", e.function.outline)]

def FuncType.outline (t : FuncType) : Outline :=
  .record "FuncType" [("name", .option Name.outline t.name), ("sig", t.signature.outline)]

def Segment.outline (s : Segment) : Outline :=
  .record "Segment"
    [("addr", .nat s.address.toNat), ("data", .ofList (fun b => .nat b.toNat) s.data)]

def Memory.outline (m : Memory) : Outline :=
  .record "Memory"
    [("initial_pages", .nat m.initialPages.toNat), ("max_pages", .nat m.maxPages.toNat),
      ("segments", .ofList Segment.outline m.segments)]

def Field.outline : Field → Outline
  | func f => .variant "Func" [f.outline]
  | imported i => .variant "Import" [i.outline]
  | exported e => .variant "Export" [e.outline]
  | table elements => .variant "Table" [.ofList Ref.outline elements]
  | type t => .variant "FuncType" [t.outline]
  | memory m => .variant "Memory" [m.outline]
  | globals g => .variant "Global" [g.outline]
  | start r => .variant "Start" [r.outline]

end WasmText
