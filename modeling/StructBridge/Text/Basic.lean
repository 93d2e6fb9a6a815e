/-!
Texts as lists of code points. Escapes in a document can name half of a surrogate pair, so a text
may hold surrogates that stand alone; it has an encoding exactly when it holds none.
-/
namespace StructBridge

inductive CodePoint where
  | char (c : Char)
  /-- A surrogate that stands alone, counted from the first one. -/
  | surrogate (i : Fin 0x800)
  deriving DecidableEq, Repr

namespace CodePoint

def firstSurrogate : Nat := 0xd800

def value : CodePoint → Nat
  | char c => c.toNat
  | surrogate i => firstSurrogate + i

/-- The code point of a number, the zero code point for a number beyond the range. -/
def ofNat (n : Nat) : CodePoint :=
  if h : firstSurrogate ≤ n ∧ n - firstSurrogate < 0x800 then surrogate ⟨n - firstSurrogate, h.2⟩
  else char (Char.ofNat n)

def char? : CodePoint → Option Char
  | char c => some c
  | surrogate _ => none

end CodePoint

abbrev Text := List CodePoint

namespace Text

def ofString (s : String) : Text := s.toList.map .char

instance : Coe String Text := ⟨ofString⟩

/-- The characters of a text that has no surrogates. -/
def string? (t : Text) : Option String := (t.mapM CodePoint.char?).map String.ofList

theorem string_ofString (s : String) : string? (ofString s) = some s := by
  have plain (cs : List Char) : (cs.map CodePoint.char).mapM CodePoint.char? = some cs := by
    induction cs with
    | nil => rfl
    | cons c rest ih => simp [CodePoint.char?, ih]
  simp [string?, ofString, plain]

/-- The code points of a literal, which stands for the list of its characters. -/
theorem ofString_literal (cs : List Char) : ofString (String.ofList cs) = cs.map .char := by
  rw [ofString, String.toList_ofList]

theorem ofString_inj {s t : String} : ofString s = ofString t ↔ s = t := by
  constructor
  · intro same
    simpa [string_ofString] using congrArg string? same
  · intro same
    rw [same]

/-- Surrogates of this stretch stand, in the name of a file, for bytes that encode no character. -/
def standsForByte (i : Fin 0x800) : Bool := 0x480 ≤ i.val && i.val < 0x500

/-- The bytes that a name takes, unless a surrogate in it stands for none. -/
def nameSize? : Text → Option Nat
  | [] => some 0
  | .char c :: rest => (nameSize? rest).map (c.utf8Size + ·)
  | .surrogate i :: rest => if standsForByte i then (nameSize? rest).map (1 + ·) else none

end Text
end StructBridge
