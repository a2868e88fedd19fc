import ByteLayout.Workspace.Records

/-! # Comparing in a workspace

Two names may lead to the same object or to equal ones. Within lists and tables an object is
always equal to itself, whatever it is.
-/
namespace ByteLayout.Session

def isSameObject (a b : Handle) : Bool :=
  match a, b with
  | .cell i, .cell j => i == j
  | .atom (.member s x _), .atom (.member t y _) => s == t && x == y
  | .atom a, .atom b => a.kind == b.kind && Value.equal a b
  | _, _ => false

structure Sameness where
  object : Bool
  layout : Bool
  cls : Bool

def sameness (a b : String) : Session Sameness := do
  let _ ← named a
  let _ ← named b
  let first ← recordNamed a
  let second ← recordNamed b
  return ⟨first.id == second.id, first.layoutId == second.layoutId,
    first.cls.self.id == second.cls.self.id⟩

def sameItem (a b key : String) : Session Bool := do
  let _ ← named a
  let _ ← named b
  let first ← itemNamed a key
  let second ← itemNamed b key
  return isSameObject first second

def entriesOf (h : Handle) : Session (Option (List (Value × Handle))) := do
  match ← cell? h with
  | some (.record r) =>
    return some (r.items.entries.map fun entry => (.ofString entry.1, entry.2))
  | some (.table entries) =>
    return some (← entries.mapM fun entry => do return (← value entry.1, entry.2))
  | _ => return none

def listOf (h : Handle) : Session (Option (List Handle)) := do
  match ← cell? h with
  | some (.list items) => return some items
  | _ => return none

def areEqualValues (a b : Handle) : Session Bool := do
  let x ← value a
  let y ← value b
  if !Value.isComparable x y then fail .badValue
  return Value.equal x y

def areEqualObjects : Nat → Handle → Handle → Session Bool
  | 0, _, _ => fail (.foreign "RecursionError" false)
  | depth + 1, a, b => do
    match ← listOf a, ← listOf b with
    | some xs, some ys =>
      if xs.length ≠ ys.length then return false
      (xs.zip ys).foldlM (fun sofar (x, y) => areEqualParts depth sofar x y) true
    | _, _ =>
      match ← entriesOf a, ← entriesOf b with
      | some xs, some ys =>
        if xs.length ≠ ys.length then return false
        xs.foldlM (fun sofar (key, x) =>
          match ys.find? fun entry => Value.sameKey entry.1 key with
          | some (_, y) => areEqualParts depth sofar x y
          | none => return false) true
      | _, _ => areEqualValues a b
where
  /-- Compares two parts unless an earlier pair differed. -/
  areEqualParts (depth : Nat) (sofar : Bool) (x y : Handle) : Session Bool := do
    if !sofar then return false
    if isSameObject x y then return true
    areEqualObjects depth x y

def areEqual (title : String) (literal : Literal) : Session Bool := do
  let a ← named title
  let b ← realise literal
  if let some (.record r) ← cell? a then
    if r.cls.hides "__eq__" then fail .wrongType
  areEqualObjects ((← get).cells.size + 1) a b

end ByteLayout.Session
