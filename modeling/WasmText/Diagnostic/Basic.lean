/-!
# Diagnostics

What went wrong, of which kind it is, the file it came from if any, and further details by key. A key
holds one value, and a later value replaces an earlier one (`detail?_withDetail`).
-/
namespace WasmText

inductive DiagnosticKind
  | allocation
  | config
  | file
  | compiler
  deriving DecidableEq

namespace DiagnosticKind

def all : List DiagnosticKind :=
  [allocation, config, file, compiler]

def title : DiagnosticKind → String
  | allocation => "Allocation"
  | config => "Config"
  | file => "File"
  | compiler => "Compiler"

/-- The heading under which a reader sees the kind. -/
def label : DiagnosticKind → String
  | allocation => "Out Of Memory"
  | config => "Malformed Config"
  | file => "File Error"
  | compiler => "Compiler Bug"

end DiagnosticKind

inductive DetailKey
  | compilationStage
  | bindingTable
  | entityKind
  | requestedCapacity
  | configKey
  | expectedValue
  | primarySuggestion
  deriving DecidableEq

namespace DetailKey

def all : List DetailKey :=
  [compilationStage, bindingTable, entityKind, requestedCapacity, configKey, expectedValue,
    primarySuggestion]

def title : DetailKey → String
  | compilationStage => "CompilationStage"
  | bindingTable => "BindingTable"
  | entityKind => "EntityKind"
  | requestedCapacity => "RequestedCapacity"
  | configKey => "ConfigKey"
  | expectedValue => "ExpectedValue"
  | primarySuggestion => "PrimarySuggestion"

end DetailKey

structure Diagnostic where
  kind : DiagnosticKind
  message : String
  path : Option String
  details : List (DetailKey × String)
  deriving DecidableEq

namespace Diagnostic

/-- A diagnostic without a file and without details. -/
def ofKind (kind : DiagnosticKind) (message : String) : Diagnostic :=
  ⟨kind, message, none, []⟩

def inFile (path message : String) : Diagnostic :=
  ⟨.file, message, some path, []⟩

def withPath (d : Diagnostic) (path : String) : Diagnostic :=
  { d with path := some path }

def withKind (d : Diagnostic) (kind : DiagnosticKind) : Diagnostic :=
  { d with kind := kind }

/-- Sets the value of a key. -/
def withDetail (d : Diagnostic) (key : DetailKey) (value : String) : Diagnostic :=
  { d with details := (key, value) :: d.details.filter (fun kv => kv.1 ≠ key) }

/-- Sets the values of several keys in order. -/
def withDetails (d : Diagnostic) (pairs : List (DetailKey × String)) : Diagnostic :=
  pairs.foldl (fun d kv => d.withDetail kv.1 kv.2) d

def detail? (d : Diagnostic) (key : DetailKey) : Option String :=
  d.details.lookup key

/-- The diagnostic in one line: its heading and its message. -/
def headline (d : Diagnostic) : String :=
  d.kind.label ++ ": " ++ d.message

theorem lookup_filter_ne {key other : DetailKey} (h : other ≠ key) (kvs : List (DetailKey × String)) :
    (kvs.filter (fun kv => kv.1 ≠ key)).lookup other = kvs.lookup other := by
  induction kvs with
  | nil => rfl
  | cons kv rest ih =>
    obtain ⟨k, v⟩ := kv
    by_cases hk : k = key
    · rw [List.filter_cons_of_neg (by simpa using hk), ih, List.lookup_cons,
        beq_false_of_ne (hk ▸ h)]
    · rw [List.filter_cons_of_pos (by simpa using hk), List.lookup_cons, List.lookup_cons, ih]

theorem detail?_withDetail (d : Diagnostic) (key other : DetailKey) (value : String) :
    (d.withDetail key value).detail? other = if other = key then some value else d.detail? other := by
  by_cases h : other = key
  · simp [detail?, withDetail, h]
  · simpa [detail?, withDetail, List.lookup_cons, beq_false_of_ne h, h] using
      lookup_filter_ne h d.details

end Diagnostic
end WasmText
