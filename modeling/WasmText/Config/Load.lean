import WasmText.Config.Reader
import WasmText.Text.Utf8

/-!
# Settings from a file

Every diagnostic that comes of loading settings names the file they were to be loaded from.
-/
namespace WasmText

/-- Why a file gives no text. -/
inductive ReadFailure
  | notFound
  | isDirectory
  | notText
  deriving DecidableEq

def ReadFailure.message : ReadFailure → String
  | notFound => "No such file or directory (os error 2)"
  | isDirectory => "Is a directory (os error 21)"
  | notText => "stream did not contain valid UTF-8"

namespace Config

/-- The complaint about a file of settings that cannot be read. -/
def unreadable (path : String) (f : ReadFailure) : Diagnostic :=
  (Diagnostic.inFile path ("Could not read config: " ++ f.message)).withDetail .compilationStage
    "Config Loading"

/-- Loads settings from what reading the file at a path gave. -/
def load (path : String) (file : Except ReadFailure (List UInt8)) : Except Diagnostic Config :=
  match file with
  | .error f => .error (unreadable path f)
  | .ok octets =>
    match Utf8.decode? octets with
    | none => .error (unreadable path .notText)
    | some text =>
      match read (String.ofList text) with
      | .ok c => .ok c
      | .error d => .error (d.withPath path)

/-- Every diagnostic of loading names the file. -/
theorem path_of_load_error {path : String} {file : Except ReadFailure (List UInt8)} {d : Diagnostic}
    (h : load path file = .error d) : d.path = some path := by
  simp only [load] at h
  split at h
  · obtain rfl := Except.error.inj h
    rfl
  · split at h
    · obtain rfl := Except.error.inj h
      rfl
    · split at h
      · simp at h
      · obtain rfl := Except.error.inj h
        rfl

end Config
end WasmText
