import ByteLayout.Text.Numeral
import ByteLayout.Value.Content

/-! # Enumerations

Named members in the order of their declaration. A name given to a value that an
earlier member has is another name for that member. Some names are those of no member:
they say what the declaration is about, or are nobody's business but the caller's.
-/
namespace ByteLayout

structure Enumeration where
  tag : EnumTag
  /-- The members with their values. -/
  members : List (String × Value)
  /-- The other names, each with the member it stands for. -/
  aliases : List (String × String)
  /-- The rule for a value that no member has. What it gives may be a member all the same. -/
  missing : Value → Except Fault Value := fun _ => .ok .none

namespace Enumeration

def find? (e : Enumeration) (v : Value) : Option Value :=
  (e.members.find? fun member => Value.sameKey member.2 v).map fun member =>
    .member e.tag member.1 member.2

def member? (e : Enumeration) (name : String) : Option Value :=
  let target := (e.aliases.lookup name).getD name
  (e.members.lookup target).map (.member e.tag target)

def isMember (e : Enumeration) : Value → Bool
  | .member tag _ _ => tag == e.tag
  | _ => false

def accept (e : Enumeration) (v : Value) : Except Fault Value :=
  if e.isMember v then .ok v
  else .error (.bare (if v matches .none then .badValue else .wrongType))

def lookup (e : Enumeration) (v : Value) : Except Fault Value :=
  match e.find? v with
  | some member => .ok member
  | none => e.missing v >>= e.accept

def names (e : Enumeration) : List String := e.members.map Prod.fst

/-- The integer that a value given to a member of an integral enumeration is turned into. -/
def integral (v : Value) : Except Fault Value :=
  match v with
  | .float pattern =>
    match Ieee.double.read pattern with
    | .nan .. => throw (.bare .badValue)
    | .infinite _ => throw (.bare .tooLarge)
    | number => pure (.int (number.truncate?.getD 0))
  | .text t => numeral t
  | .bytes b | .buffer b =>
    if b.all (· < 128) then numeral (b.map UInt8.toNat) else throw (.bare .badValue)
  | v => v.withIndex .wrongType fun n => pure (.int n)
where
  numeral (t : Text) : Except Fault Value :=
    match Text.integer? t with
    | some n => pure (.int n)
    | none => throw (.bare .badValue)

/-- A name between single low lines is reserved. -/
def isReserved (name : String) : Bool :=
  let cs := name.toList
  cs.length > 2 && cs.head? == some '_' && cs.getLast? == some '_' &&
    cs[1]? != some '_' && cs[cs.length - 2]? != some '_'

def isInternal (name : String) : Bool :=
  let cs := name.toList
  let bar := ['_', '_']
  cs.length > 4 && cs.take 2 == bar && cs.reverse.take 2 == bar &&
    cs[2]? != some '_' && cs[cs.length - 3]? != some '_'

/-- A name that starts with that of the enumeration between low lines is private. -/
def isPrivate (title name : String) : Bool :=
  let start := '_' :: title.toList ++ ['_', '_']
  let cs := name.toList
  start.length < cs.length && start.isPrefixOf cs && cs.reverse.take 2 != ['_', '_']

def orderName : String := "_order_"
def missingName : String := "_missing_"
def ignoredName : String := "_ignore_"

def usableNames : List String :=
  [orderName, missingName, ignoredName, "_generate_next_value_", "_numeric_repr_",
    "_iter_member_", "_iter_member_by_value_", "_iter_member_by_def_"]

structure Host where
  /-- What comes of calling an object with a value. -/
  call : Value → Value → Except Fault Value
  /-- Why nothing can be looked up among no members, where that is not left to their rule. -/
  hollow? : Option PlainFault

/-- A declaration as it is read: the members, the names of no member, and the names that
are to be left out. -/
structure Body where
  members : List (String × Value)
  others : List (String × Value)
  ignored : List Value

namespace Body

def empty : Body := ⟨[], [], []⟩

def isMember (body : Body) (name : String) : Bool := (body.members.lookup name).isSome

def put (body : Body) (name : String) (v : Value) : Body :=
  { body with others := (name, v) :: body.others.filter (·.1 != name) }

def listed (v : Value) : Except Fault (List Value) :=
  match v with
  | .text t => pure ((Text.words t).map .text)
  | v => v.items

def isIgnored (body : Body) (name : String) : Bool :=
  body.ignored.any fun v => Value.sameKey v (.ofString name)

def ignore (body : Body) (v : Value) : Except Fault Body := do
  let names ← listed v
  if names.any (!·.isKey) then throw (.bare .wrongType)
  let body := { body with ignored := names }
  if body.members.any fun member => body.isIgnored member.1 then throw (.bare .badValue)
  return body.put ignoredName v

def add (title : String) (body : Body) (entry : String × Value) : Except Fault Body :=
  let (name, v) := entry
  if isPrivate title name then pure (body.put name v)
  else if isReserved name then
    if name = ignoredName then body.ignore v
    else if usableNames.contains name then pure (body.put name v)
    else throw (.bare .badValue)
  else if isInternal name then pure (body.put (if name = "__order__" then orderName else name) v)
  else if body.isMember name then throw (.bare .wrongType)
  else if body.isIgnored name then pure (body.put name v)
  else if (body.others.lookup name).isSome then throw (.bare .wrongType)
  else pure { body with members := body.members ++ [(name, v)] }

def other? (body : Body) (name : String) : Option Value :=
  if body.isIgnored name then none else body.others.lookup name

/-- The rule for the values that no member has: what the declaration gives for one is called. -/
def rule (body : Body) (host : Host) (v : Value) : Except Fault Value :=
  match if body.members.isEmpty then host.hollow? else none, body.other? missingName with
  | some kind, _ => .error (.bare kind)
  | none, some object => host.call object v
  | none, none => .ok .none

end Body

def equalMember? (v : Value) : List (String × Value) → Except Fault (Option String)
  | [] => pure none
  | (name, other) :: rest => do
    if v.isKey then
      if Value.sameKey other v then return some name
      equalMember? v rest
    else
      if !Value.isComparable other v then throw (.bare .badValue)
      if Value.equal other v then return some name
      equalMember? v rest

def add (e : Enumeration) (entry : String × Value) : Except Fault Enumeration := do
  let v ← if e.tag.integral then integral entry.2 else pure entry.2
  match ← equalMember? v e.members with
  | some name => return { e with aliases := e.aliases ++ [(entry.1, name)] }
  | none => return { e with members := e.members ++ [(entry.1, v)] }

/-- Whether an order that is asked for is that of the members; other names of members may
stand in it. -/
def checkOrder (e : Enumeration) (order : Value) : Except Fault Unit := do
  if order.truthy then
    let asked ← Body.listed order
    if asked.any (!·.isKey) then throw (.bare .wrongType)
    let isAlias (v : Value) : Bool := e.aliases.any fun entry => Value.sameKey v (.ofString entry.1)
    let kept := asked.filter (!isAlias ·)
    if !Value.equal (.list kept) (.list (e.names.map .ofString)) then throw (.bare .wrongType)

def declare (host : Host) (tag : EnumTag) (entries : List (String × Value)) :
    Except Fault Enumeration := do
  let body ← entries.foldlM (Body.add tag.name) Body.empty
  if body.isMember "" || body.isMember "mro" || tag.name.toList.contains '\x00' then
    throw (.bare .badValue)
  let isHidden (name : String) : Bool := (body.other? name).any fun v => !(v matches .none)
  if let (_, first) :: _ := body.members then
    if isHidden "__new__" then throw (.bare .wrongType)
    if (body.other? "__init__").isSome then
      if tag.integral then discard (integral first)
      throw (.bare .wrongType)
  let e ← body.members.foldlM add ⟨tag, [], [], body.rule host⟩
  e.checkOrder ((body.other? orderName).getD .none)
  return e

end Enumeration

end ByteLayout
