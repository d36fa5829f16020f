import WasmText.Text.CharClass.Extending
import WasmText.Text.CharClass.Invisible
import WasmText.Text.Hex

/-!
# Quoted text

Text between double quotes. The quote, the backslash and the common controls have short escapes;
other characters that would leave no mark of their own are written by code point. All other
characters stand for themselves.
-/
namespace WasmText.Quoted

def escape (c : Char) : List Char :=
  match c with
  | '\x00' => ['\\', '0']
  | '\t' => ['\\', 't']
  | '\n' => ['\\', 'n']
  | '\r' => ['\\', 'r']
  | '"' => ['\\', '"']
  | '\\' => ['\\', '\\']
  | _ =>
    if CharClass.isInvisible c || CharClass.isExtending c then
      ['\\', 'u', '\x7b'] ++ Hex.digits c.toNat ++ ['\x7d']
    else [c]

def quote (text : List Char) : String :=
  String.ofList ('"' :: text.flatMap escape ++ ['"'])

example : escape 'a' = ['a'] := by decide +kernel

example : escape '\x01' = ['\\', 'u', '\x7b', '1', '\x7d'] := by
  decide +kernel

end WasmText.Quoted
