import WasmText.Proofs.SymbolTable.Numbering
import WasmText.TypeSpace

/-!
# Spaces of types as lists

A space that was built by pushing and extending is the list of the names and types that it was given: its
types are those of the list, and its table numbers the names of the list.
-/
namespace WasmText.TypeSpace
open SymbolTable (Numbers)

variable {s u v : TypeSpace} {storage : Storage} {l m : List (Option Name × ValueType)}

/-- The spaces that pushing and extending lead to, with the names and types that they were given in order. -/
inductive Built : TypeSpace → List (Option Name × ValueType) → Prop
  | empty : Built .empty []
  | push {s u : TypeSpace} {l : List (Option Name × ValueType)} (storage : Storage)
      (name : Option Name) (type : ValueType) (built : Built s l)
      (pushed : s.push storage name type = (.ok (), u)) : Built u (l ++ [(name, type)])
  | extend {s u v : TypeSpace} {l m : List (Option Name × ValueType)} (storage : Storage)
      (built : Built s l) (other : Built v m) (extended : s.extend storage v = (.ok (), u)) :
      Built u (l ++ m)

/-- The space has the types of a list, and its table numbers the names. -/
structure Holds (s : TypeSpace) (l : List (Option Name × ValueType)) : Prop where
  types : s.types.toList = l.map Prod.snd
  symbols : s.symbols.Numbers (l.map Prod.fst)

theorem Holds.len_eq (h : s.Holds l) : s.len = l.length := by
  simpa [len] using congrArg List.length h.types

theorem holds_empty : empty.Holds [] :=
  ⟨rfl, SymbolTable.numbers_withInitialCapacity _⟩

theorem Holds.nextIndex_eq (h : s.Holds l) :
    s.nextIndex = UInt32.ofNat (l.map Prod.fst).length := by
  rw [nextIndex, List.length_map, ← h.len_eq]
  rfl

theorem Holds.push {name : Option Name} {type : ValueType} (h : s.Holds l)
    (pushed : s.push storage name type = (.ok (), u)) : u.Holds (l ++ [(name, type)]) := by
  have types : u.types = s.types.push type := by
    simpa [pushed] using types_push storage s name type
  refine ⟨by simp [types, h.types], ?_⟩
  rw [List.map_append]
  cases name with
  | none =>
    obtain rfl : ⟨s.types.push type, s.symbols⟩ = u := congrArg Prod.snd pushed
    exact h.symbols.append_none
  | some n =>
    rcases bound : s.symbols.bind storage n s.nextIndex with ⟨outcome, symbols⟩
    simp only [TypeSpace.push, bound, Prod.mk.injEq] at pushed
    obtain ⟨rfl, rfl⟩ := pushed
    rw [h.nextIndex_eq] at bound
    exact h.symbols.bind bound

theorem Holds.extend (h : s.Holds l) (other : v.Holds m)
    (extended : s.extend storage v = (.ok (), u)) : u.Holds (l ++ m) := by
  have types : u.types = s.types ++ v.types := by
    simpa [extended] using types_extend storage s v
  refine ⟨by simp [types, h.types, other.types], ?_⟩
  rw [List.map_append]
  simp only [TypeSpace.extend, Prod.mk.injEq] at extended
  obtain ⟨outcome, rfl⟩ := extended
  rw [h.nextIndex_eq] at outcome ⊢
  exact h.symbols.bindAll other.symbols (Prod.ext outcome rfl)

theorem Built.holds (built : Built s l) : s.Holds l := by
  induction built with
  | empty => exact holds_empty
  | push storage name type _ pushed ih => exact ih.push pushed
  | extend storage _ _ extended ih other => exact ih.extend other extended

theorem Built.pushAll {items : List (Option Name × ValueType)} (built : Built s l)
    (pushed : s.pushAll storage items = (.ok (), u)) : Built u (l ++ items) := by
  induction items generalizing s l with
  | nil =>
    obtain rfl : s = u := congrArg Prod.snd pushed
    simpa using built
  | cons item rest ih =>
    obtain ⟨name, type⟩ := item
    rcases first : s.push storage name type with ⟨_ | _, between⟩
    · simp [TypeSpace.pushAll, first] at pushed
    · simp only [TypeSpace.pushAll, first] at pushed
      simpa using ih (built.push storage name type first) pushed

/-- The type at a position of a space is the one that was given there. -/
theorem Holds.typeAt?_eq (h : s.Holds l) (i : UInt32) :
    s.typeAt? i = (l[i.toNat]?).map Prod.snd := by
  rw [typeAt?, ← Array.getElem?_toList, h.types, List.getElem?_map]

end WasmText.TypeSpace
