import WasmText.Diagnostic.Basic
import WasmText.Diagnostic.DisplayPath
import WasmText.Text.Terminal

/-!
# Reports

The lines in which a terminal shows a diagnostic. Each kind has an opening of its own; the message
follows in red, and then a suggestion if there is one. A diagnostic about a file shows only the path
and the message.
-/
namespace WasmText.Diagnostic
open Terminal

/-- The path in the form a reader sees, empty when there is none. -/
def shownPath (workingDirectory : String) (d : Diagnostic) : String :=
  match d.path with
  | some path => DisplayPath.relative workingDirectory path
  | none => ""

/-- A line for a detail, if the diagnostic has it. -/
def detailLine (d : Diagnostic) (key : DetailKey) (pieces : String → List Piece) : String :=
  match d.detail? key with
  | some value => line (pieces value)
  | none => ""

/-- The lines in front of the message. -/
def opening (workingDirectory : String) (d : Diagnostic) : String :=
  let path := d.shownPath workingDirectory
  match d.kind with
  | .allocation =>
    line [.style .red, .text "\n(╯°□°)╯  ", .text d.kind.label] ++
      d.detailLine .bindingTable fun table =>
        [.style .dark, .style .magenta, .text "While growing ", .style .bright, .text table]
  | .config =>
    (if path = "" then ""
      else
        line [.text "\n (-_-)  🔥🔥🔥🔥 ", .style .dark, .style .magenta, .text path,
          .text " 🔥🔥🔥🔥  <(^~^)/ "]) ++
      line [.style .yellow, .text "CONFIG FILE ISSUE- "] ++
      d.detailLine .configKey fun key =>
        [.style .dark, .style .yellow, .text "Key: ", .style .bright, .text key]
  | .file => line [.style .yellow, .text "🏚 Can't find/read file or directory: ", .text path]
  | .compiler =>
    line [.style .yellow, .text "COMPILER BUG - "] ++
      line [.style .dark, .style .yellow,
        .text "wasm front-end developer skill issue (not your fault)"]

/-- The message and, except for a file, the suggestion. -/
def closing (d : Diagnostic) : String :=
  match d.kind with
  | .file => plainLine d.message
  | _ =>
    line [.style .red, .text d.message] ++
      d.detailLine .primarySuggestion fun suggestion =>
        [.style .green, .text "Suggestion: ", .text suggestion]

def report (workingDirectory : String) (d : Diagnostic) : String :=
  d.opening workingDirectory ++ d.closing

def reports (workingDirectory : String) (ds : List Diagnostic) : String :=
  String.join (ds.map (report workingDirectory))

end WasmText.Diagnostic
