import WasmText.Text.Split

/-!
# Paths as a reader sees them

A path below the working directory is shown relative to it. Directories are compared name by name:
repeated slashes and single dots count for nothing, so they also vanish at both ends of what
remains, but they stay as written in the middle of it.
-/
namespace WasmText.DisplayPath

/-- What precedes a path that is to be taken literally. -/
def literalMark : List Char :=
  ['\\', '\\', '?', '\\']

/-- Removes the mark of a literal path once. -/
def dropMark (path : List Char) : List Char :=
  if literalMark.isPrefixOf path then path.drop literalMark.length else path

/-- Tells whether a part between slashes names nothing. -/
def isBlank (part : List Char) : Bool :=
  part == [] || part == ['.']

def isAbsolute (path : List Char) : Bool :=
  path.head? == some '/'

/-- The names along a path. -/
def names (path : List Char) : List (List Char) :=
  (Split.pieces '/' path).filter (!isBlank ·)

/-- The parts left behind the given names, if the parts begin with them. -/
def behind? : List (List Char) → List (List Char) → Option (List (List Char))
  | [], parts => some parts
  | _ :: _, [] => none
  | name :: names, part :: parts =>
    if isBlank part then behind? (name :: names) parts
    else if part = name then behind? names parts
    else none

def trim (parts : List (List Char)) : List (List Char) :=
  ((parts.dropWhile isBlank).reverse.dropWhile isBlank).reverse

/-- The path without the directory it lies in, or the whole path when it lies elsewhere. -/
def below (directory path : List Char) : List Char :=
  if isAbsolute directory && isAbsolute path then
    match behind? (names directory) (Split.pieces '/' path) with
    | some parts => List.intercalate ['/'] (trim parts)
    | none => path
  else path

def relative (workingDirectory path : String) : String :=
  String.ofList (below (dropMark workingDirectory.toList) (dropMark path.toList))

end WasmText.DisplayPath
