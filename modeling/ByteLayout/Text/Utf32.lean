import ByteLayout.Text.Basic

/-! # UTF-32

Each unit of four bytes is one code point; a unit that is no character is replaced,
and so are the bytes left over at the end, together.
-/
namespace ByteLayout.Utf32

def decode (order : ByteOrder) : Bytes → Text
  | a :: b :: c :: d :: rest =>
    let u := order.read [a, b, c, d]
    (if Text.isScalar u then u else Text.replacement) :: decode order rest
  | [] => []
  | _ => [Text.replacement]

end ByteLayout.Utf32
