import ByteLayout.Bytes.Order

/-! # Text

A text is a row of code points. Decoded and typed texts may hold lone surrogates,
which no encoding can write, so code points are plain numbers and `isScalar` tells
those that can be written.
-/
namespace ByteLayout

abbrev Text := List Nat

namespace Text

def of (s : String) : Text := s.toList.map Char.toNat

def toString? (t : Text) : Option String :=
  if t.all Nat.isValidChar then some (String.ofList (t.map Char.ofNat)) else none

def isSurrogate (c : Nat) : Bool := 0xD800 ≤ c && c ≤ 0xDFFF

def isScalar (c : Nat) : Bool := c < 0x110000 && !isSurrogate c

theorem isScalar_iff {c : Nat} :
    isScalar c = true ↔ c < 0x110000 ∧ (c < 0xD800 ∨ 0xDFFF < c) := by
  simp only [isScalar, isSurrogate, Bool.and_eq_true, decide_eq_true_eq, Bool.not_eq_true',
    Bool.and_eq_false_iff, decide_eq_false_iff_not]
  omega

def replacement : Nat := 0xFFFD

def beforeZero (t : Text) : Text := t.takeWhile (· != 0)

def ofNat (n : Nat) : Text := of (toString n)

def ofInt (n : Int) : Text := of (toString n)

/-- The parts between the separators; there is one more of them than of these. -/
def split (separator : Nat) : Text → List Text
  | [] => [[]]
  | c :: rest =>
    match split separator rest with
    | [] => [[c]]
    | part :: parts => if c = separator then [] :: part :: parts else (c :: part) :: parts

def joined (separator : Text) (parts : List Text) : Text := (parts.intersperse separator).flatten

end Text

end ByteLayout
