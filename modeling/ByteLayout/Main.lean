import ByteLayout.Gpt.Dump

/-! # The command line

Lists the partition table of the disk image that the first argument names; the second may
give the size of a sector.
-/
namespace ByteLayout.Main

def contentOf? (path : String) : IO (Option Bytes) :=
  try
    return some (← IO.FS.readBinFile path).toList
  catch _ =>
    return none

/-- Positions and reads of the image are those that a file can have at all. -/
def space : DiskSpace := ⟨File.positionLimit, Value.fixedLimit⟩

def opened (content? : Option Bytes) (_ : Text) : Except Fault File :=
  match content? with
  | some bytes => .ok ⟨.disk space, .octets bytes, 0, true⟩
  | none => .error (.bare .noFile)

def shown (t : Text) : String := t.toString?.getD ""

def run (arguments : List String) : IO UInt32 := do
  let content? ← match arguments with
    | path :: _ => contentOf? path
    | [] => pure none
  match Gpt.list (opened content?) (arguments.map Text.of) with
  | .ok listing =>
    IO.print (shown listing.output)
    if let some message := listing.logged? then
      IO.eprintln ("ERROR: " ++ shown message)
    return listing.status.toUInt32
  | .error _ =>
    IO.eprintln "the table cannot be listed with these arguments"
    return 1

end ByteLayout.Main

def main (arguments : List String) : IO UInt32 := ByteLayout.Main.run arguments
