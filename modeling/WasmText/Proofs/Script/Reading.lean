import WasmText.Proofs.Text.Utf8
import WasmText.Script.Reader

/-!
# Reading a summary back

Of a command that declares no module the summary has everything: its kind, the invocation with all constants,
and what the kind has besides. So reading the summary of a script of such commands gives the script again
(`summary_lossless`), as long as its names are texts.
-/
namespace WasmText

/-- Reading back one by one what was written one by one. -/
theorem mapM_map_of_read {α β : Type} {write : α → β} {read : β → Option α} {l : List α}
    (back : ∀ a ∈ l, read (write a) = some a) : (l.map write).mapM read = some l := by
  induction l with
  | nil => rfl
  | cons a rest ih =>
    rw [List.forall_mem_cons] at back
    simp [List.mapM_cons, back.1, ih back.2]

namespace Json

theorem member?_cons (key key' : String) (value : Json) (rest : List (String × Json)) :
    (object ((key', value) :: rest)).member? key =
      if key = key' then some value else (object rest).member? key := by
  by_cases same : key = key'
  · simp [member?, same]
  · simp [member?, List.lookup_cons, beq_false_of_ne same, same]

theorem member?_nil (key : String) : (object []).member? key = none := rfl

/-- An optional member hides none of the others. -/
theorem member?_optional {α : Type} (key key' : String) (f : α → Json) (value : Option α)
    (rest : List (String × Json)) :
    (object (optional key' f value ++ rest)).member? key =
      if key = key' then (value.map f).or ((object rest).member? key)
      else (object rest).member? key := by
  cases value with
  | none => simp [optional]
  | some a =>
    simp only [optional, Option.map_some, Option.toList_some, List.singleton_append, member?_cons,
      Option.some_or]

end Json

theorem Name.ofSummary?_text {n : Name} (h : n.IsText) : Name.ofSummary? (.text n.text) = some n :=
  congrArg some (Name.ofString_text h)

theorem Const.ofSummary?_summary (c : Const) : Const.ofSummary? c.summary = some c := by
  simp [Const.ofSummary?, Const.summary, Json.member?_cons, Json.text?, Json.nat?,
    ValueType.ofKeyword?_keyword, Const.ofBits?_type_bits]

theorem Invoke.ofSummary?_summary {i : Invoke} (h : i.name.IsText) :
    Invoke.ofSummary? i.summary = some i := by
  have arguments : (i.arguments.map Const.summary).mapM Const.ofSummary? = some i.arguments :=
    mapM_map_of_read fun c _ => c.ofSummary?_summary
  simp [Invoke.ofSummary?, Invoke.summary, Json.member?_cons, Json.array?, Name.ofSummary?_text h,
    arguments]

namespace Command

/-- The command declares no module, and its names are texts. -/
structure Plain (c : Command) : Prop where
  no_module : c.module? = none
  invoke : ∀ i ∈ c.invoke?, i.name.IsText
  text : ∀ n ∈ c.text?, n.IsText

theorem member?_type (c : Command) : c.summary.member? "type" = some (.text c.keyword) := by
  simp [summary, List.append_assoc, Json.member?_optional, Json.member?_cons]

theorem member?_invoke (c : Command) : c.summary.member? "invoke" = c.invoke?.map Invoke.summary := by
  simp [summary, List.append_assoc, Json.member?_optional, Json.member?_cons, Json.member?_nil]

theorem member?_expected (c : Command) :
    c.summary.member? "expected" = c.expected?.map Const.summary := by
  simp [summary, List.append_assoc, Json.member?_optional, Json.member?_cons, Json.member?_nil]

theorem member?_text (c : Command) :
    c.summary.member? "text" = c.text?.map fun n => .text n.text := by
  simp [summary, List.append_assoc, Json.member?_optional, Json.member?_cons, Json.member?_nil]

/-- The invocation is read back, and with it what there is besides. -/
theorem ofSummary?_eq {c : Command} {i : Invoke} (h : c.Plain) (invokes : c.invoke? = some i) :
    ofSummary? c.summary = ofParts? c.keyword i c.summary := by
  have read : Invoke.ofSummary? i.summary = some i := Invoke.ofSummary?_summary (h.invoke i invokes)
  simp [ofSummary?, member?_type, member?_invoke, invokes, Json.text?, read]

theorem ofSummary?_summary {c : Command} (h : c.Plain) : ofSummary? c.summary = some c := by
  cases c with
  | module m => exact absurd h.no_module (by simp [module?])
  | invoke i => rw [ofSummary?_eq h rfl]; rfl
  | assertInvalid m text => exact absurd h.no_module (by simp [module?])
  | assertReturn i expected =>
    have there := member?_expected (.assertReturn i expected)
    rw [ofSummary?_eq h rfl]
    cases expected with
    | none => simp [ofParts?, keyword, there, expected?]
    | some c => simp [ofParts?, keyword, there, expected?, Const.ofSummary?_summary]
  | assertReturnNan i => rw [ofSummary?_eq h rfl]; rfl
  | assertTrap i text =>
    have there := member?_text (.assertTrap i text)
    have read := Name.ofSummary?_text (h.text text rfl)
    rw [ofSummary?_eq h rfl]
    simp [ofParts?, keyword, there, text?, read]

end Command

namespace Script

/-- The summary of a script that declares no module has all of it. -/
theorem summary_lossless (s : Script) (plain : ∀ c ∈ s.commands, c.Plain) :
    ofSummary? s.summary = some s ∧
    ∀ s' : Script, (∀ c ∈ s'.commands, c.Plain) → s.summary = s'.summary → s = s' := by
  have read (s : Script) (plain : ∀ c ∈ s.commands, c.Plain) : ofSummary? s.summary = some s := by
    have commands : (s.commands.map Command.summary).mapM Command.ofSummary? = some s.commands :=
      mapM_map_of_read fun c hc => Command.ofSummary?_summary (plain c hc)
    simp [ofSummary?, summary, Json.member?_cons, Json.array?, commands]
  refine ⟨read s plain, fun s' plain' same => ?_⟩
  have back := congrArg ofSummary? same
  rw [read s plain, read s' plain'] at back
  exact Option.some.inj back

/-- Commands of all kinds that declare no module, with a value expected or none, and with constants that differ
in their types alone. -/
def unlike : Script :=
  let add (arguments : List Const) : Invoke := ⟨.ofString "add", arguments⟩
  ⟨[.invoke (add [.i32 0x7FC00001, .f32 0x7FC00001]), .assertReturn (add []) none,
    .assertReturn (add [.i64 0xFFFFFFFFFFFFFFFF]) (some (.f64 0)), .assertReturnNan (add []),
    .assertTrap (add []) (.ofString "naïve")]⟩

theorem plain_unlike : ∀ c ∈ unlike.commands, c.Plain := by
  simp only [unlike, List.forall_mem_cons]
  refine ⟨?_, ?_, ?_, ?_, ?_, by simp⟩ <;>
    exact ⟨rfl, by simp [Command.invoke?, Name.isText_ofString], by simp [Command.text?, Name.isText_ofString]⟩

theorem summary_lossless_unlike :
    (∀ c ∈ unlike.commands, c.Plain) ∧ ofSummary? unlike.summary = some unlike ∧
    unlike.summary ≠ (⟨unlike.commands.reverse⟩ : Script).summary := by
  obtain ⟨read, distinct⟩ := summary_lossless unlike plain_unlike
  refine ⟨plain_unlike, read, fun same => ?_⟩
  have turned : ∀ c ∈ unlike.commands.reverse, c.Plain := fun c hc => plain_unlike c (List.mem_reverse.mp hc)
  have equal := distinct ⟨unlike.commands.reverse⟩ turned same
  simp [unlike] at equal

end Script
end WasmText
