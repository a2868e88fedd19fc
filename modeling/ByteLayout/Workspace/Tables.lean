import ByteLayout.Workspace.Compare
import ByteLayout.Workspace.Copies

/-! # Partition tables in a workspace

A table that is read gives its header and its entries names of their own.
-/
namespace ByteLayout.Session

structure ReadTable where
  header : Handle
  entries : List Handle
  used : List Bool
  /-- Whether a file that was handed in open has been closed. -/
  closed? : Option Bool

def readTable (spec : SourceSpec) (sectorSize : Literal) : Session ReadTable := do
  let source ← source spec
  let size ← valueOf sectorSize
  let cell ← openStream source
  let table ← match ← file? cell.base with
    | some (id, file) => ofLogged (← withFile cell id file (Gpt.read · size))
    | none => readObject cell.base size
  let header ← hatch (← layoutAt 4) table.header
  let entryTarget ← layoutAt 5
  let entries ← table.entries.mapM (hatch entryTarget)
  name "header" header
  for (i, h) in entries.zipIdx.map Prod.swap do
    name s!"entry{i}" h
  let used ← ofResult (table.entries.mapM Gpt.isUsed)
  let state? ← openState? source
  return ⟨header, entries, used, state?.map Prod.fst⟩

def isUsed (title : String) : Session Bool := do
  let held ← recordFor title "is_used"
  needOperation held "is_used"
  needOwn held "__getitem__"
  ofResult (Gpt.isUsed (← valuesOf held.items))

def hasAttribute (title : String) (bit : Literal) : Session Bool := do
  let held ← recordFor title "has_attribute"
  let bit ← valueOf bit
  needOperation held "has_attribute"
  needOwn held "__getitem__"
  ofResult (Gpt.hasAttribute (← valuesOf held.items) bit)

def guid (literal : Literal) : Session Text := do
  ofResult (Gpt.guidTextOf (← valueOf literal))

def list (spec? : Option SourceSpec) (arguments : List Text) : Session Gpt.Listing := do
  if let some spec := spec? then
    let _ ← source spec
  ofResult (Gpt.list (← get).disk.opened arguments)

end ByteLayout.Session
