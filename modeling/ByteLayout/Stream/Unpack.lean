import ByteLayout.Layout.Unpack
import ByteLayout.Stream.Basic

/-! # Unpacking from a stream

The bytes of the layout are read and the stream is left before any field is decoded.
-/
namespace ByteLayout.Layout

def unpackContent (layout : Layout) : Content → Logged (Items Value)
  | .octets bytes => layout.unpack bytes 0
  | .characters _ => .ofResult (.error (.layout .unpack [] (.noBuffer "str")))

def unpackFrom (layout : Layout) (s : Stream) (offset : Value) : Logged (Items Value) × Stream :=
  match s.readAt offset (.int layout.size) with
  | (.error fault, s) => (.ofResult (.error fault), s.close)
  | (.ok content, s) => (layout.unpackContent content, s.close)

end ByteLayout.Layout
