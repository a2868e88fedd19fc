/-! # Kinds of fault

A layout reports faults of a few kinds of its own, and what fails below a layout is of one
of the plain kinds.
-/
namespace ByteLayout

inductive LayoutFault where
  | general
  | definition
  | unpack
  | pack
  | missing
deriving DecidableEq, Repr, Inhabited

def LayoutFault.parent? : LayoutFault → Option LayoutFault
  | general => none
  | missing => some pack
  | _ => some general

inductive PlainFault where
  | badValue
  | wrongType
  | tooLarge
  | outOfRange
  | badFormat
  | unencodable
  | unknownEncoding
  | noKey
  | noAttribute
  | notProvided
  | noFile
  | isFolder
  | notFolder
  | longName
  | unreachable
  | noMemory
  | noVariable
  /-- A special case of a bad value. -/
  | badValueCalled (name : String)
  /-- Any other fault of the caller's own; `refusal` tells whether it refuses a value. -/
  | foreign (name : String) (refusal : Bool)
deriving DecidableEq, Repr

namespace PlainFault

def isBadValue : PlainFault → Bool
  | badValue | unencodable | badValueCalled _ => true
  | _ => false

def isRefusal (kind : PlainFault) : Bool :=
  match kind with
  | wrongType | tooLarge | outOfRange | badFormat => true
  | foreign _ refusal => refusal
  | kind => kind.isBadValue

end PlainFault

end ByteLayout
