/-!
# Styled lines

Lines for a terminal, as a sequence of styles and texts. A style holds from where it stands to the
end of the line, where all styles are reset.
-/
namespace WasmText.Terminal

inductive Style
  | bright
  | dark
  | red
  | green
  | yellow
  | magenta
  deriving DecidableEq

def Style.code : Style → Nat
  | bright => 1
  | dark => 2
  | red => 31
  | green => 32
  | yellow => 33
  | magenta => 35

inductive Piece
  | style (s : Style)
  | text (t : String)

/-- The control sequence that selects a graphic rendition; zero resets all. -/
def select (code : Nat) : String :=
  "\x1b[" ++ Nat.repr code ++ "m"

def Piece.render : Piece → String
  | style s => select s.code
  | text t => t

def line (pieces : List Piece) : String :=
  String.join (pieces.map Piece.render) ++ select 0 ++ "\n"

def plainLine (t : String) : String :=
  line [.text t]

end WasmText.Terminal
