import ByteLayout.Stream.File

/-! # Streams

A stream reads exact parts of a file, given by their offset and size. It may own the
file, which it then closes, or stand over another stream. Each operation gives the stream
as it leaves it, also when it fails.
-/
namespace ByteLayout

inductive Stream where
  | direct (file : File) (owned : Bool)
  | nested (inner : Stream)

namespace Stream

def file : Stream → File
  | direct file _ => file
  | nested inner => inner.file

def withFile (file : File) : Stream → Stream
  | direct _ owned => direct file owned
  | nested inner => nested (inner.withFile file)

def ofBytes (bytes : Bytes) : Stream := direct (.ofBytes bytes) true

def isOwner : Stream → Bool
  | direct _ owned => owned
  | nested _ => false

def close : Stream → Stream
  | direct file owned => direct (if owned then file.close else file) owned
  | nested inner => nested inner

def position (offset : Value) : Except Fault Nat :=
  match offset.asInt? with
  | some n => if 0 ≤ n then .ok n.toNat else .error (.plain .badValue (.wrongOffset offset))
  | none => .error (.plain .badValue (.wrongOffset offset))

def seek (s : Stream) (offset : Value) : Except Fault Unit × Stream :=
  match position offset with
  | .error fault => (.error fault, s)
  | .ok n =>
    match s.file.seek n with
    | .error fault => (.error fault, s)
    | .ok file => (.ok (), s.withFile file)

def read (s : Stream) (size : Value) : Except Fault Content × Stream :=
  match s.file.read size with
  | .error fault => (.error fault, s)
  | .ok (chunk, file) => (.ok chunk, s.withFile file)

def negativeOffset (offset : Value) : Fault := .telling [] [offset] (.negativeOffset offset)

def shortRead (length : Nat) (size offset : Value) : Fault :=
  .telling [] [size, offset] (.shortRead length size offset)

def readAt (s : Stream) (offset size : Value) : Except Fault Content × Stream :=
  if offset.asInt?.any (· < 0) then (.error (negativeOffset offset), s)
  else
    match s.seek offset with
    | (.error fault, s) => (.error fault, s)
    | (.ok (), s) =>
      match s.read size with
      | (.error fault, s) => (.error fault, s)
      | (.ok chunk, s) =>
        if size.asInt? = some (chunk.length : Int) then (.ok chunk, s)
        else (.error (shortRead chunk.length size offset), s)

end Stream

end ByteLayout
