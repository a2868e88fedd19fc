import ByteLayout.Value.Content

/-! # Files

A file has a content and a position that may lie beyond its end. What is read starts at
the position and is cut at the end, so a read may come out short or empty.
-/
namespace ByteLayout

inductive Content where
  | octets (bytes : Bytes)
  | characters (t : Text)
deriving DecidableEq, Repr

namespace Content

def length : Content → Nat
  | octets bytes => bytes.length
  | characters t => t.length

def part (start : Nat) (count : Option Nat) (content : Content) : Content :=
  let cut {α : Type} (row : List α) : List α :=
    match count with
    | some n => (row.drop start).take n
    | none => row.drop start
  match content with
  | octets bytes => octets (cut bytes)
  | characters t => characters (cut t)

def toValue : Content → Value
  | octets bytes => .bytes bytes
  | characters t => .text t

end Content

structure DiskSpace where
  /-- The last position that can be sought. -/
  last : Nat
  /-- There is memory for fewer bytes at a time than this. -/
  room : Nat
deriving DecidableEq, Repr

inductive FileKind where
  | memory
  | disk (space : DiskSpace)
  /-- A file of which no more than `limit` bytes may be asked for at a time. -/
  | limited (limit : Int)
deriving DecidableEq, Repr

structure File where
  kind : FileKind
  content : Content
  position : Nat
  isOpen : Bool
deriving DecidableEq, Repr

namespace File

def ofBytes (bytes : Bytes) : File := ⟨.memory, .octets bytes, 0, true⟩

def kindName (file : File) : String :=
  match file.content, file.kind with
  | .characters _, _ => "StringIO"
  | _, .memory => "BytesIO"
  | _, .disk _ => "BufferedReader"
  | _, .limited _ => "Dribble"

def space? (file : File) : Option DiskSpace :=
  match file.kind with
  | .disk space => some space
  | _ => none

def isOnDisk (file : File) : Bool := file.space?.isSome

def positionLimit : Nat := bitSpan 63

def seek (file : File) (offset : Nat) : Except Fault File :=
  if positionLimit ≤ offset then .error (.bare (if file.isOnDisk then .badValue else .tooLarge))
  else if !file.isOpen then .error (.bare .badValue)
  else if file.space?.any (·.last < offset) then .error (.bare .unreachable)
  else .ok { file with position := offset }

def tell (file : File) : Except Fault Nat :=
  if file.isOpen then .ok file.position else .error (.bare .badValue)

/-- The size that is asked for of a file. One that is above a limit becomes the limit. -/
def allowed (file : File) (size : Value) : Except Fault Value :=
  match file.kind, size, size.asInt? with
  | .limited limit, _, some n => .ok (.int (min n limit))
  | .limited limit, .float pattern, none =>
    .ok (if (Ieee.double.read pattern).aboveInt limit then .int limit else size)
  | .limited _, _, none => .error (.bare .wrongType)
  | _, size, _ => .ok size

/-- How much a size asks for; `none` is all there is, as is a negative size. -/
def wanted (file : File) (size : Value) : Except Fault (Option Nat) := do
  match ← file.allowed size with
  | .none => return none
  | size => size.withIndex .wrongType fun n =>
    if isTooLarge n then throw (.bare .tooLarge)
    else if n < 0 then
      if file.isOnDisk && n < -1 then throw (.bare .badValue) else return none
    else return some n.toNat
where
  isTooLarge (n : Int) : Bool := n < -(positionLimit : Int) || positionLimit ≤ n

/-- The bytes that are asked for of a disk have to have a place before they are read. -/
def checkPlace (file : File) (wanted : Option Nat) : Except Fault Unit :=
  match file.space?, wanted with
  | some space, some n =>
    if Value.fixedLimit ≤ n then .error (.bare .tooLarge)
    else if space.room ≤ n then .error (.bare .noMemory)
    else .ok ()
  | _, _ => .ok ()

def read (file : File) (size : Value) : Except Fault (Content × File) := do
  let wanted ← file.wanted size
  if !file.isOpen then throw (.bare .badValue)
  file.checkPlace wanted
  let chunk := file.content.part file.position wanted
  return (chunk, { file with position := file.position + chunk.length })

def close (file : File) : File := { file with isOpen := false }

end File

end ByteLayout
