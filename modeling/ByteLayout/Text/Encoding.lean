import ByteLayout.Text.Utf8
import ByteLayout.Text.Utf16
import ByteLayout.Text.Utf32

/-! # Encodings

A marked encoding writes a byte order mark before the text, an empty text included.
The two wide ones that name no byte order are marked, write the little order, and
let a mark choose the order when they read.
-/
namespace ByteLayout

inductive Encoding where
  | ascii
  | latin1
  | utf8 (marked : Bool)
  | utf16 (order : Option ByteOrder)
  | utf32 (order : Option ByteOrder)
deriving DecidableEq, Repr

namespace Encoding

def unit : Encoding → Nat
  | ascii | latin1 | utf8 _ => 1
  | utf16 _ => 2
  | utf32 _ => 4

def mark : Encoding → Bytes
  | utf8 true => [0xEF, 0xBB, 0xBF]
  | utf16 none => [0xFF, 0xFE]
  | utf32 none => [0xFF, 0xFE, 0, 0]
  | _ => []

def covers : Encoding → Nat → Bool
  | ascii, c => c < 0x80
  | latin1, c => c < 0x100
  | _, c => Text.isScalar c

def encodeChar : Encoding → Nat → Bytes
  | ascii, c | latin1, c => [UInt8.ofNat c]
  | utf8 _, c => Utf8.encodeChar c
  | utf16 order, c => Utf16.writeUnits (order.getD .little) (Utf16.encodeChar c)
  | utf32 order, c => (order.getD .little).write 4 c

def encode? (e : Encoding) (t : Text) : Option Bytes :=
  if t.all e.covers then some (e.mark ++ t.flatMap e.encodeChar) else none

/-- Every row of bytes decodes: what is not valid becomes a replacement character. -/
def decode : Encoding → Bytes → Text
  | ascii, bytes => bytes.map fun b => if b.toNat < 0x80 then b.toNat else Text.replacement
  | latin1, bytes => bytes.map UInt8.toNat
  | utf8 false, bytes => Utf8.decode bytes
  | utf8 true, 0xEF :: 0xBB :: 0xBF :: rest => Utf8.decode rest
  | utf8 true, bytes => Utf8.decode bytes
  | utf16 (some order), bytes => Utf16.decode order bytes
  | utf16 none, 0xFF :: 0xFE :: rest => Utf16.decode .little rest
  | utf16 none, 0xFE :: 0xFF :: rest => Utf16.decode .big rest
  | utf16 none, bytes => Utf16.decode .little bytes
  | utf32 (some order), bytes => Utf32.decode order bytes
  | utf32 none, 0xFF :: 0xFE :: 0 :: 0 :: rest => Utf32.decode .little rest
  | utf32 none, 0 :: 0 :: 0xFE :: 0xFF :: rest => Utf32.decode .big rest
  | utf32 none, bytes => Utf32.decode .little bytes

/-- Lower case, with each run of other signs between two parts made one low line. -/
def normalName (name : String) : String :=
  let rec go (started gap : Bool) : List Char → List Char
    | [] => []
    | c :: rest =>
      if c.isAlphanum || c == '.' then
        let shown := c.toLower :: go true false rest
        if started && gap then '_' :: shown else shown
      else go started true rest
  String.ofList (go false false name.toList)

def names : List (Encoding × String × List String) :=
  [(ascii, "ascii", ["646", "ansi_x3.4_1968", "ansi_x3_4_1968", "ansi_x3.4_1986", "cp367",
      "csascii", "ibm367", "iso646_us", "iso_646.irv_1991", "iso_ir_6", "us", "us_ascii"]),
    (latin1, "latin_1", ["8859", "cp819", "csisolatin1", "ibm819", "iso8859", "iso8859_1",
      "iso_8859_1", "iso_8859_1_1987", "iso_ir_100", "l1", "latin", "latin1"]),
    (utf8 false, "utf_8", ["u8", "utf", "utf8", "utf8_ucs2", "utf8_ucs4", "cp65001"]),
    (utf8 true, "utf_8_sig", []),
    (utf16 none, "utf_16", ["u16", "utf16"]),
    (utf16 (some .little), "utf_16_le", ["unicodelittleunmarked", "utf_16le"]),
    (utf16 (some .big), "utf_16_be", ["unicodebigunmarked", "utf_16be"]),
    (utf32 none, "utf_32", ["u32", "utf32"]),
    (utf32 (some .little), "utf_32_le", ["utf_32le"]),
    (utf32 (some .big), "utf_32_be", ["utf_32be"])]

/-- The encoding of a name. In a name that is not a proper one a point may stand for a low
line. -/
def named? (name : String) : Option Encoding :=
  let normal := normalName name
  let plain := String.ofList (normal.toList.map fun c => if c == '.' then '_' else c)
  (names.find? fun (_, proper, others) =>
    proper == normal || others.contains normal || others.contains plain).map Prod.fst

def isName (name : String) : Bool := !name.toList.contains '\x00'

end Encoding

end ByteLayout
