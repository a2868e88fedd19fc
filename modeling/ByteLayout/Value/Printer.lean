import ByteLayout.Ieee.Decimal
import ByteLayout.Text.Quoted
import ByteLayout.Value.Basic

/-! # Texts of values

`shown` writes a value so that its kind can be told, `plain` as a message quotes it;
they differ for texts, for rows of bits and for members of enumerations.
-/
namespace ByteLayout

/-- Whole groups of four as hexadecimal digits, the first `limit` of them, then the rest
as bits; a short row that has a rest is written in bits alone. -/
def Bits.text (row : Bits) : Text :=
  let hex (part : Bits) := (Hex.padded (part.length / 4) (Bits.toNat part)).map Char.toNat
  let binary (part : Bits) := part.map fun b => if b then 49 else 48
  let limit := 1000
  let rest := row.length % 4
  if row.isEmpty then []
  else if limit < row.length then Text.of "0x" ++ hex (row.take limit) ++ Text.of "..."
  else if row.length < 32 ∧ rest ≠ 0 then Text.of "0b" ++ binary row
  else if rest = 0 then Text.of "0x" ++ hex row
  else
    Text.of "0x" ++ hex (row.take (row.length - rest)) ++ Text.of ", 0b" ++
      binary (row.drop (row.length - rest))

def Bits.shown (name : String) (row : Bits) : Text :=
  Text.of name ++ Text.of "('" ++ row.text ++ Text.of "')" ++
    (if 1000 < row.length then Text.of "  # length=" ++ Text.ofNat row.length else [])

namespace Value

def shownAtom : Value → Text
  | none => Text.of "None"
  | bool b => Text.of (if b then "True" else "False")
  | int n => Text.ofInt n
  | float pattern => Ieee.decimal pattern
  | text t => Text.quoted t
  | bytes b => Text.quotedBytes b
  | buffer b => Text.of "bytearray(" ++ Text.quotedBuffer b ++ Text.of ")"
  | bits row => Bits.shown "Bits" row
  | bitBuffer row => Bits.shown "BitArray" row
  | v => Text.of "<" ++ Text.of v.kind ++ Text.of ">"

mutual

def shown : Value → Text
  | list items => Text.of "[" ++ Text.joined (Text.of ", ") (shownItems items) ++ Text.of "]"
  | table entries =>
    Text.of "\x7b" ++ Text.joined (Text.of ", ") (shownEntries entries) ++ Text.of "\x7d"
  | member tag name value =>
    Text.of s!"<{tag.name}.{name}: " ++ shown value ++ Text.of ">"
  | layout _ name size =>
    Text.of "<StructDefinition(" ++ plain name ++ Text.of s!", size={size})>"
  | members tag _ => Text.of s!"<enum '{tag.name}'>"
  | record _ layoutName entries _ =>
    Text.of "<" ++ plain layoutName ++ Text.of "(" ++
      Text.joined (Text.of ", ") (shownNamed entries) ++ Text.of ")>"
  | v => shownAtom v

/-- The text of a value as a message quotes it; a record gives each item a line. -/
def plain : Value → Text
  | text t => t
  | bits row | bitBuffer row => row.text
  | member tag name value =>
    if tag.integral then shown value else Text.of s!"{tag.name}.{name}"
  | list items => Text.of "[" ++ Text.joined (Text.of ", ") (shownItems items) ++ Text.of "]"
  | table entries =>
    Text.of "\x7b" ++ Text.joined (Text.of ", ") (shownEntries entries) ++ Text.of "\x7d"
  | layout _ name size =>
    Text.of "<StructDefinition(" ++ plain name ++ Text.of s!", size={size})>"
  | members tag _ => Text.of s!"<enum '{tag.name}'>"
  | record _ _ entries _ => (lines entries).flatten
  | v => shownAtom v

def shownItems : List Value → List Text
  | [] => []
  | item :: rest => shown item :: shownItems rest

def shownEntries : List (Value × Value) → List Text
  | [] => []
  | (key, value) :: rest => (shown key ++ Text.of ": " ++ shown value) :: shownEntries rest

def shownNamed : List (String × Value) → List Text
  | [] => []
  | (name, value) :: rest => (Text.of name ++ Text.of "=" ++ shown value) :: shownNamed rest

def lines : List (String × Value) → List Text
  | [] => []
  | (name, value) :: rest =>
    (Text.of name ++ Text.of ": " ++ shown value ++ Text.of "\n") :: lines rest

end

end Value

end ByteLayout
