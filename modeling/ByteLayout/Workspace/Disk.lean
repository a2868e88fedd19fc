import ByteLayout.Stream.File

/-! # Paths on a disk

A path is followed name by name, from the root or from the working folder. A file has no
names under it, and only the last name of a path may be that of nothing yet.
-/
namespace ByteLayout

abbrev Location := List Text

structure Disk where
  files : List (Location × Bytes)
  space : DiskSpace

namespace Disk

def nullFile : Location := ["dev", "null"].map Text.of

def empty (space : DiskSpace) : Disk := ⟨[(nullFile, [])], space⟩

def workingFolder : Location := ["tmp", "work"].map Text.of

def folders : List Location :=
  [[], workingFolder] ++
    ["bin", "dev", "etc", "home", "lib", "mnt", "opt", "proc", "root", "run", "sys", "tmp", "usr",
      "var"].map fun name => [Text.of name]

inductive Target where
  | file (location : Location) (bytes : Bytes)
  | folder
  /-- A name of nothing in a folder; `asFolder` tells whether it is written as that of one. -/
  | nothing (location : Location) (asFolder : Bool)

/-- Whether a code point can stand in a path: a surrogate has to stand for a stray byte. -/
def isPathPoint (c : Nat) : Bool := Text.isScalar c || (0xDC80 ≤ c && c ≤ 0xDCFF)

def byteLength (path : Text) : Nat :=
  total (path.map fun c =>
    if c < 0x80 || Text.isSurrogate c then 1
    else if c < 0x800 then 2
    else if c < 0x10000 then 3
    else 4)

def nameLimit : Nat := 255
def pathLimit : Nat := 4095

def follow (disk : Disk) (folder : Location) : List Text → Except Fault Target
  | [] => .ok .folder
  | name :: rest =>
    if name.isEmpty || name = [46] then follow disk folder rest
    else if name = [46, 46] then follow disk folder.dropLast rest
    else if nameLimit < byteLength name then .error (.bare .longName)
    else
      let location := folder ++ [name]
      match disk.files.lookup location with
      | some bytes => if rest.isEmpty then .ok (.file location bytes) else .error (.bare .notFolder)
      | none =>
        if folders.contains location then follow disk location rest
        else if rest.all List.isEmpty then .ok (.nothing location !rest.isEmpty)
        else .error (.bare .noFile)

def checkPath (path : Text) : Except Fault Unit :=
  if !path.all isPathPoint then .error (.bare .unencodable)
  else if path.contains 0 then .error (.bare .badValue)
  else if path.isEmpty then .error (.bare .noFile)
  else if pathLimit < byteLength path then .error (.bare .longName)
  else .ok ()

def find (disk : Disk) (path : Text) : Except Fault Target := do
  checkPath path
  disk.follow (if path.head? = some 47 then [] else workingFolder) (Text.split 47 path)

def read (disk : Disk) (path : Text) : Except Fault Bytes :=
  (disk.find path).bind fun target =>
    match target with
    | .file _ bytes => .ok bytes
    | .folder => .error (.bare .isFolder)
    | .nothing .. => .error (.bare .noFile)

def opened (disk : Disk) (path : Text) : Except Fault File :=
  (disk.read path).map fun bytes => ⟨.disk disk.space, .octets bytes, 0, true⟩

def parent (path : Text) : Text :=
  (((path.reverse.dropWhile (· == 47)).dropWhile (· != 47)).reverse)

/-- Makes a file of the bytes. A path that is written as that of a folder is taken for one,
whatever its last name is that of. -/
def write (disk : Disk) (path : Text) (bytes : Bytes) : Except Fault Disk := do
  checkPath path
  match ← disk.find (if path.getLast? = some 47 then parent path ++ [46] else path) with
  | .file location _ | .nothing location false =>
    .ok (if location = nullFile then disk
      else { disk with files := (location, bytes) :: disk.files })
  | .folder | .nothing _ true => .error (.bare .isFolder)

end Disk

end ByteLayout
