import ByteLayout.Stream.File

/-! # Lines of a file and changes to it

A file can also be read line by line, and one in memory can be written and cut. A line ends
after a line feed. What is written beyond the end of a file has zeros before it.
-/
namespace ByteLayout

namespace Content

def lineLength (content : Content) : Nat :=
  let upTo {α : Type} (isEnd : α → Bool) (row : List α) : Nat :=
    min row.length ((row.takeWhile (!isEnd ·)).length + 1)
  match content with
  | octets bytes => upTo (· == 10) bytes
  | characters t => upTo (· == 10) t

def put? (start : Nat) (content chunk : Content) : Option Content :=
  let onto {α : Type} (zero : α) (row part : List α) : List α :=
    if part.isEmpty then row
    else row.take start ++ List.replicate (start - row.length) zero ++ part ++
      row.drop (start + part.length)
  match content, chunk with
  | octets row, octets part => some (octets (onto 0 row part))
  | characters row, characters part => some (characters (onto 0 row part))
  | _, _ => none

def ofValue? : Value → Option Content
  | .bytes b | .buffer b => some (octets b)
  | .text t => some (characters t)
  | _ => none

end Content

namespace File

def isText (file : File) : Bool := file.content matches .characters _

/-- A size of a line; none and those below zero are without a limit. -/
def lineLimit (size : Value) : Except Fault (Option Nat) :=
  match size, size.asInt? with
  | .none, _ => .ok none
  | _, none => .error (.bare .wrongType)
  | _, some n =>
    if wanted.isTooLarge n then .error (.bare .tooLarge)
    else .ok (if n < 0 then none else some n.toNat)

def checkOpen (file : File) : Except Fault Unit :=
  if file.isOpen then .ok () else .error (.bare .badValue)

def next (file : File) (length : Nat) : Content × File :=
  let chunk := file.content.part file.position (some length)
  (chunk, { file with position := file.position + chunk.length })

/-- The next line, or as much of it as is allowed. -/
def nextLine (file : File) (limit : Option Nat) : Content × File :=
  let line := (file.content.part file.position none).lineLength
  file.next (match limit with
    | some n => min n line
    | none => line)

def readLine (file : File) (size : Value) : Except Fault (Content × File) := do
  let limit ← lineLimit size
  file.checkOpen
  return file.nextLine limit

def linesUntil (isEnough : Nat → Bool) : Nat → Nat → File → List Content × File
  | 0, _, file => ([], file)
  | steps + 1, length, file =>
    let (line, after) := file.nextLine none
    let length := length + line.length
    if line.length = 0 then ([], file)
    else if isEnough length then ([line], after)
    else
      let (rest, last) := linesUntil isEnough steps length after
      (line :: rest, last)

/-- All lines, or no more than are needed for a length. Bytes in memory are enough as soon as they
reach it, others when they exceed it. -/
def readLines (file : File) (hint : Value) : Except Fault (List Content × File) := do
  let isExact := !file.isText && !file.isOnDisk
  if isExact then file.checkOpen
  let limit ← lineLimit hint
  file.checkOpen
  let isEnough (length : Nat) : Bool :=
    match limit with
    | none | some 0 => false
    | some n => n < length || isExact && n == length
  return linesUntil isEnough (file.content.length + 1) 0 file

def blockLength : Nat := 8192

def readBlock (file : File) (size : Value) : Except Fault (Content × File) := do
  if file.isOnDisk && size matches .none then throw (.bare .wrongType)
  let limit ← lineLimit size
  file.checkOpen
  file.checkPlace limit
  return file.next (if file.isOnDisk then min (limit.getD blockLength) blockLength
    else limit.getD file.content.length)

def unsupported {α : Type} : Except Fault α :=
  .error (.bare (.badValueCalled "UnsupportedOperation"))

def write (file : File) (v : Value) : Except Fault (Nat × File) := do
  if file.isOnDisk then unsupported
  else
    let position := file.position
    if !file.isText then file.checkOpen
    match Content.ofValue? v with
    | none => throw (.bare .wrongType)
    | some chunk =>
      match file.content.put? position chunk with
      | none => throw (.bare .wrongType)
      | some content =>
        file.checkOpen
        return (chunk.length, { file with content, position := position + chunk.length })

def truncate (file : File) (size : Value) : Except Fault (Nat × File) := do
  if file.isOnDisk then
    file.checkOpen
    unsupported
  else
    let limit ← lineLimit size
    file.checkOpen
    if size.asInt?.any (· < 0) then throw (.bare .badValue)
    let n := limit.getD file.position
    return (n, { file with content := file.content.part 0 (some n) })

abbrev Outcome := Except Fault (Value × File)

def operate? (file : File) (operation : String) (arguments : List Value) : Option Outcome :=
  let told (v : Value) : Outcome := do
    file.checkOpen
    return (v, file)
  let content (result : Except Fault (Content × File)) : Outcome :=
    result.map fun (chunk, file) => (chunk.toValue, file)
  let count (result : Except Fault (Nat × File)) : Outcome :=
    result.map fun (n, file) => (.int n, file)
  let lines (result : Except Fault (List Content × File)) : Outcome :=
    result.map fun (lines, file) => (.list (lines.map Content.toValue), file)
  let inMemory := !file.isOnDisk
  match operation, arguments with
  | "readable", [] | "seekable", [] => some (told (.bool true))
  | "writable", [] => some (if inMemory then told (.bool true) else .ok (.bool false, file))
  | "isatty", [] => some (told (.bool false))
  | "flush", [] => some (told .none)
  | "getvalue", [] => if inMemory then some (told file.content.toValue) else none
  | "readline", [] => some (content (file.readLine .none))
  | "readline", [size] => some (content (file.readLine size))
  | "readlines", [] => some (lines (file.readLines .none))
  | "readlines", [hint] => some (lines (file.readLines hint))
  | "read1", [] => if file.isText then none else some (content (file.readBlock (.int (-1))))
  | "read1", [size] => if file.isText then none else some (content (file.readBlock size))
  | "write", [v] => some (count (file.write v))
  | "truncate", [] => some (count (file.truncate .none))
  | "truncate", [size] => some (count (file.truncate size))
  | "fileno", [] => if inMemory then some unsupported else none
  | operation, _ =>
    if operation = "write" ∧ !inMemory then some unsupported
    else if isKnown operation then some (.error (.bare .wrongType))
    else none
where
  isKnown (operation : String) : Bool :=
    ["readable", "writable", "seekable", "isatty", "flush", "readline", "readlines", "write",
      "truncate"].contains operation ||
    (operation == "getvalue" && !file.isOnDisk) || (operation == "read1" && !file.isText)

end File

end ByteLayout
