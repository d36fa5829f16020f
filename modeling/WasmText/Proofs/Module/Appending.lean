import WasmText.Module.Run

/-!
# What appending a field does

A field that was appended is the last one. Its position joins those of its kind and its name, if it has one,
is bound to the next position there; what is kept for the other kinds stays (`appended_of_append`). All
that is proved of runs of a module is proved from this.
-/
namespace WasmText.Module
open SymbolTable (Failure)

variable {α : Type} {m u : Module} {field : Field} {storage : Storage}

/-- Registering takes the position and binds the name, if there is one. -/
theorem register_ok {positions positions' : Array Nat} {symbols symbols' : SymbolTable}
    {name : Option Name} {here : Nat}
    (h : register storage positions symbols name here = (.ok positions', symbols')) :
    positions' = positions.push here ∧ (name = none → symbols' = symbols) ∧
    ∀ n, name = some n →
      symbols.bind storage n (UInt32.ofNat positions.size) = (.ok (), symbols') := by
  cases name with
  | none =>
    obtain ⟨pushed, rfl⟩ := Prod.mk.inj h
    exact ⟨(Except.ok.inj pushed).symm, fun _ => rfl, nofun⟩
  | some n =>
    rcases bound : symbols.bind storage n (UInt32.ofNat positions.size) with ⟨_ | _, after⟩
    · simp [register, bound] at h
    · simp only [register, bound, Prod.mk.injEq, Except.ok.injEq] at h
      obtain ⟨pushed, rfl⟩ := h
      refine ⟨pushed.symm, nofun, fun n' same => ?_⟩
      rw [← Option.some.inj same, bound]

/-- Appending a field `here` takes it among the positions of a kind, and binds its name, if it is of that
kind; else it changes neither positions nor table. -/
def Registered (storage : Storage) (here : Nat) (field : Field) (pick : Field → Option α)
    (name : α → Option Name) (positions positions' : Array Nat) (symbols symbols' : SymbolTable) :
    Prop :=
  match pick field with
  | none => positions' = positions ∧ symbols' = symbols
  | some a => register storage positions symbols (name a) here = (.ok positions', symbols')

/-- Appending a field `here` makes it the last of a kind if it is of that kind. -/
def Replaced (here : Nat) (field : Field) (pick : Field → Option α)
    (position position' : Option Nat) : Prop :=
  position' = if (pick field).isSome then some here else position

structure Appended (storage : Storage) (m : Module) (field : Field) (u : Module) : Prop where
  fields : u.fields = m.fields.push field
  funcs : Registered storage m.fields.size field Field.func? Func.name m.funcAt u.funcAt
    m.funcSymbols u.funcSymbols
  imports : Registered storage m.fields.size field Field.import? Import.name m.importAt u.importAt
    m.importSymbols u.importSymbols
  exports : Registered storage m.fields.size field Field.export? (fun e => some e.name) m.exportAt
    u.exportAt m.exportSymbols u.exportSymbols
  types : Registered storage m.fields.size field Field.funcType? FuncType.name m.typeAt u.typeAt
    m.typeSymbols u.typeSymbols
  table : Replaced m.fields.size field Field.table? m.tableAt u.tableAt
  memory : Replaced m.fields.size field Field.memory? m.memoryAt u.memoryAt
  start : Replaced m.fields.size field Field.start? m.startAt u.startAt
  globals : match field.globals? with
    | none => u.globals = m.globals
    | some g => m.globals.extend storage g = (.ok (), u.globals)

/-- Where appending goes on after registering, it has succeeded only if registering has. -/
theorem exists_registered {positions : Array Nat} {symbols : SymbolTable} {name : Option Name}
    {here : Nat} {taken : Array Nat → SymbolTable → Module} {failed : SymbolTable → Module}
    (h : (match register storage positions symbols name here with
      | (.ok positions, symbols) => (.ok (), taken positions symbols)
      | (.error f, symbols) => (.error f, failed symbols)) = ((.ok (), u) : Except Failure Unit × _)) :
    ∃ positions' symbols', register storage positions symbols name here =
      (.ok positions', symbols') ∧ taken positions' symbols' = u := by
  rcases registered : register storage positions symbols name here with ⟨_ | positions', symbols'⟩
  · simp [registered] at h
  · simp only [registered] at h
    exact ⟨positions', symbols', rfl, congrArg Prod.snd h⟩

theorem appended_of_append (h : m.append storage field = (.ok (), u)) :
    Appended storage m field u := by
  cases field with
  | func f =>
    obtain ⟨_, _, registered, rfl⟩ := exists_registered h
    exact ⟨rfl, registered, ⟨rfl, rfl⟩, ⟨rfl, rfl⟩, ⟨rfl, rfl⟩, rfl, rfl, rfl, rfl⟩
  | imported i =>
    obtain ⟨_, _, registered, rfl⟩ := exists_registered h
    exact ⟨rfl, ⟨rfl, rfl⟩, registered, ⟨rfl, rfl⟩, ⟨rfl, rfl⟩, rfl, rfl, rfl, rfl⟩
  | exported e =>
    obtain ⟨_, _, registered, rfl⟩ := exists_registered h
    exact ⟨rfl, ⟨rfl, rfl⟩, ⟨rfl, rfl⟩, registered, ⟨rfl, rfl⟩, rfl, rfl, rfl, rfl⟩
  | table elements =>
    obtain rfl := congrArg Prod.snd h
    exact ⟨rfl, ⟨rfl, rfl⟩, ⟨rfl, rfl⟩, ⟨rfl, rfl⟩, ⟨rfl, rfl⟩, rfl, rfl, rfl, rfl⟩
  | type t =>
    obtain ⟨_, _, registered, rfl⟩ := exists_registered h
    exact ⟨rfl, ⟨rfl, rfl⟩, ⟨rfl, rfl⟩, ⟨rfl, rfl⟩, registered, rfl, rfl, rfl, rfl⟩
  | memory memory =>
    obtain rfl := congrArg Prod.snd h
    exact ⟨rfl, ⟨rfl, rfl⟩, ⟨rfl, rfl⟩, ⟨rfl, rfl⟩, ⟨rfl, rfl⟩, rfl, rfl, rfl, rfl⟩
  | globals g =>
    rcases extended : m.globals.extend storage g with ⟨_ | _, globals⟩
    · simp [append, extended] at h
    · obtain rfl : { m with fields := m.fields.push (.globals g), globals := globals } = u := by
        simpa [append, extended] using h
      exact ⟨rfl, ⟨rfl, rfl⟩, ⟨rfl, rfl⟩, ⟨rfl, rfl⟩, ⟨rfl, rfl⟩, rfl, rfl, rfl, extended⟩
  | start r =>
    obtain rfl := congrArg Prod.snd h
    exact ⟨rfl, ⟨rfl, rfl⟩, ⟨rfl, rfl⟩, ⟨rfl, rfl⟩, ⟨rfl, rfl⟩, rfl, rfl, rfl, rfl⟩

/-- What holds of a module and its fields, and is kept by every append and every resizing that succeeds,
is kept by every run that succeeds. -/
theorem actAll_induction {P : Module → List Field → Prop}
    (append : ∀ {storage m u field fs}, P m fs → Appended storage m field u → P u (fs ++ [field]))
    (resize : ∀ {storage m u table capacity fs}, P m fs →
      m.act storage (.resize table capacity) = (.ok (), u) → P u fs)
    {steps : List (Storage × Action)} {fs : List Field} (h : P m fs)
    (run : actAll steps m = (.ok (), u)) : P u (fs ++ declared steps) := by
  induction steps generalizing m fs with
  | nil =>
    obtain rfl : m = u := congrArg Prod.snd run
    simpa [declared] using h
  | cons step rest ih =>
    obtain ⟨storage, action⟩ := step
    rcases first : m.act storage action with ⟨_ | _, between⟩
    · simp [actAll, first] at run
    · simp only [actAll, first] at run
      cases action with
      | append field =>
        have next := ih (append h (appended_of_append first)) run
        simpa [declared, Action.field?] using next
      | resize table capacity =>
        have next := ih (resize h first) run
        simpa [declared, Action.field?] using next

end WasmText.Module
