import WasmText.Diagnostic.Basic
import WasmText.HexDump.Basic
import WasmText.SymbolTable.Basic

/-!
# Settings

How many slots a symbol table gets at first, and whether hex dumps show characters. The number of
slots has to be a power of two, so that a table takes it as it is.
-/
namespace WasmText

structure Config where
  initialCapacity : Nat
  showChars : Bool
  deriving DecidableEq

namespace Config

/-- The file in which settings are looked for. -/
def fileName : String := "wasm_front.toml"

def default : Config :=
  ⟨SymbolTable.defaultCapacity, true⟩

/-- Tells whether a number has one binary digit set. -/
def isPowerOfTwo (n : Nat) : Bool :=
  1 <<< n.log2 == n

/-- The complaint about a number of slots that no table would take as it is. -/
def badCapacity (n : Nat) : Diagnostic :=
  (Diagnostic.ofKind .config
      ("initial_binding_capacity must be a non-zero power of two, found " ++ Nat.repr n)).withDetails
    [(.configKey, "initial_binding_capacity"), (.expectedValue, "8, 16, 32, ...")]

def validate (c : Config) : Except Diagnostic Unit :=
  if isPowerOfTwo c.initialCapacity then .ok () else .error (badCapacity c.initialCapacity)

/-- An empty table that will have the set number of slots. -/
def newTable (c : Config) : SymbolTable :=
  .withInitialCapacity c.initialCapacity

/-- A hex dump, with characters or without as set. -/
def dump (c : Config) (description : Option String) (address : UInt64) (octets : List UInt8) :
    String :=
  HexDump.text c.showChars description address octets

theorem isPowerOfTwo_iff {n : Nat} : isPowerOfTwo n = true ↔ n.isPowerOfTwo := by
  simp only [isPowerOfTwo, beq_iff_eq, Nat.one_shiftLeft]
  constructor
  · intro h
    exact ⟨n.log2, h.symm⟩
  · rintro ⟨k, rfl⟩
    rw [Nat.log2_two_pow]

end Config
end WasmText
