import ByteLayout.Bits.Kinds
import ByteLayout.Fault

/-! # Rows of bits as text

A row is written as parts that are separated by commas and may hold gaps. A part is a row
of hexadecimal, octal or binary digits after the mark of its base, or the name of a kind
with a length and a value. A factor before a part, or before a group of parts in brackets,
repeats it. All parts are told apart before the first of them is read.
-/
namespace ByteLayout.Bits

/-! ## Groups -/

def isDigit (c : Nat) : Bool := (Text.digit? c).isSome

def closed? : Nat → Text → Option (Text × Text)
  | _, [] => none
  | depth, c :: rest =>
    if c = 41 ∧ depth = 0 then some ([], rest)
    else do
      let depth := if c = 40 then depth + 1 else if c = 41 then depth - 1 else depth
      let (group, after) ← closed? depth rest
      return (c :: group, after)

/-- A text without brackets: each group is written out as often as its factor says, but at
least once. What is done already may end in a factor. -/
def ungrouped? : Nat → Text → Text → Option Text
  | 0, _, _ => none
  | steps + 1, done, t =>
    let before := done ++ t.takeWhile (· != 40)
    match t.dropWhile (· != 40) with
    | [] => some before
    | _ :: rest => do
      let (group, after) ← closed? 0 rest
      match before.reverse with
      | 42 :: front =>
        let digits := front.takeWhile isDigit
        let n ← Text.natural? digits.reverse
        let groups := Text.joined [44] (List.replicate (max n 1) group)
        ungrouped? steps (front.drop digits.length).reverse (groups ++ after)
      | _ => ungrouped? steps before (group ++ after)

/-- How many groups a text can have once it is written out: no factor has more digits than the
text has characters, and each bracket may stand within all the others. -/
def groupBound (t : Text) : Nat := Nat.pow (Nat.pow 10 t.length + 1) (t.count 40 + 1)

/-! ## Parts -/

inductive Part where
  | digits (letter width : Nat) (value : Text)
  /-- A row of a kind; its value may be missing, and so may its length. -/
  | ofKind (name : Text) (length? : Option Int) (value? : Option Text)

def malformed {α : Type} : Except PlainFault α := .error .badValue

def ofOption {α : Type} : Option α → Except PlainFault α
  | some a => .ok a
  | none => malformed

def isLetter (c : Nat) : Bool := (65 ≤ c && c ≤ 90) || (97 ≤ c && c ≤ 122)

def isWordLetter (c : Nat) : Bool := isLetter c || (48 ≤ c && c ≤ 57) || c = 95

def isName (t : Text) : Bool := t.head?.any isLetter && t.all isWordLetter

def named? (t : Text) : Option (Text × Option Int) :=
  let digits := (t.reverse.takeWhile isDigit).reverse
  let name := t.take (t.length - digits.length)
  let name := if name.getLast? = some 58 then name.dropLast else name
  if !isName name then none
  else if digits.isEmpty then some (name, none)
  else (Text.natural? digits).map fun n => (name, some (n : Int))

def pointed? (t : Text) : Option (Text × Option Int) :=
  let name := t.takeWhile (· != 58)
  match t.drop name.length with
  | [] => none
  | _ :: length =>
    if isName name && length.all isWordLetter then
      (Text.natural? length).map fun n => (name, some (n : Int))
    else none

/-- The kind and the length that stand before a sign of equality. A numeral alone is the length
of a row of any kind. -/
def heading? (t : Text) : Option (Text × Option Int) :=
  named? t <|> pointed? t <|> (Text.integer? t).map fun n => (Text.of "bits", some n)

def countedLetters? : Text → Text → Option Nat
  | [], [] => some 0
  | _ :: _, [] => none
  | digits, c :: rest =>
    if isDigit c then countedLetters? (digits ++ [c]) rest
    else if (Text.of "bBhHlLqQefd").contains c then do
      let n ← if digits.isEmpty then some 1 else Text.natural? digits
      let more ← countedLetters? [] rest
      return n + more
    else none

/-- How many numbers a mark of a byte order and letters stand for. They have no values. -/
def lettered? (t : Text) : Option Nat :=
  match t with
  | c :: d :: rest => if [60, 61, 62, 64].contains c then countedLetters? [] (d :: rest) else none
  | _ => none

def Part.ofText? (t : Text) : Option Part := do
  let head := t.takeWhile (· != 61)
  let ofHeading? : Option Part := (heading? head).map fun (name, length?) =>
    .ofKind name length? (if head.length < t.length then some (t.drop (head.length + 1)) else none)
  match t with
  | 48 :: c :: d :: rest =>
    match base? c with
    | some (letter, w) => return .digits letter w (d :: rest)
    | none => ofHeading?
  | _ => ofHeading?

def checkFactor (n : Int) : Except PlainFault Unit :=
  if n < -(bitSpan 63 : Int) ∨ (bitSpan 63 : Int) ≤ n then .error .tooLarge else .ok ()

def factored (t : Text) : Except PlainFault (Nat × Text) := do
  let last := t.drop (t.length - 1)
  let front := (t.dropLast.reverse.dropWhile (· != 42)).reverse
  let part := t.dropLast.drop front.length ++ last
  let n ← if front.isEmpty then pure 1 else ofOption (Text.integer? front.dropLast)
  let isEmpty := lettered? part == some 0
  checkFactor n
  return (if isEmpty then 0 else n.toNat, part)

def parts (t : Text) : Except PlainFault (List (Nat × Part)) := do
  let t := t.filter (!Text.isGap ·)
  let t ← ofOption (ungrouped? (groupBound t) [] t)
  let written ← ((Text.split 44 t).filter (!·.isEmpty)).mapM factored
  (written.filter (0 < ·.1)).mapM fun (n, part) => do
    if (lettered? part).isSome then return (n, .ofKind part none none)
    return (n, ← ofOption (Part.ofText? part))

/-! ## Rows -/

def zeros (n : Nat) : Except PlainFault Bits :=
  if bitSpan 63 ≤ n then .error .tooLarge else .ok (List.replicate n false)

/-- The row of a value of a kind. A text is never read as bytes. -/
def ofKind (whole : Text → Except PlainFault Bits) (kind : Text) (length? : Option Int)
    (value? : Option Text) : Except PlainFault Bits :=
  if kind = Text.of "pad" then zeros (length?.getD 0).toNat
  else do
    let value ← ofOption value?
    if kind = Text.of "bits" then whole value
    else if kind = Text.of "bytes" then .error .wrongType
    else
      let found ← ofOption (Kind.named? kind)
      let length? := length?.map Int.toNat
      if length?.all found.allows then ofOption (found.read length? value) else malformed

/-- The row of a part. A length that has a place of its own has to be that of the row. -/
def Part.row (whole : Text → Except PlainFault Bits) : Part → Except PlainFault Bits
  | .digits letter w value => ofOption (ofMarked? letter w value)
  | .ofKind name (some n) value? => do
    let row ← Bits.ofKind whole name (some n) value?
    if n = row.length then return row else malformed
  | .ofKind name none value? => do
    if name ≠ Text.of "pad" ∧ value?.isNone then malformed
    else
      let (kind, length?) ← ofOption (named? name)
      Bits.ofKind whole kind length? value?

def ofTextWithin : Nat → Text → Except PlainFault Bits
  | 0, _ => malformed
  | depth + 1, t => do
    let rows ← (← parts t).mapM fun (n, part) => do
      let row ← part.row (ofTextWithin depth)
      return (List.replicate n row).flatten
    return rows.flatten

def ofText (t : Text) : Except PlainFault Bits := ofTextWithin (t.length + 1) t

end ByteLayout.Bits
