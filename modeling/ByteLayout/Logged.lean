import ByteLayout.Fault

/-! # Results with warnings

Decoding never refuses an integer that no member of an enumeration has; it warns. The
warnings given before a fault are kept.
-/
namespace ByteLayout

/-- No member of the enumeration has the value. -/
structure Warning where
  enumeration : String
  value : Int
deriving DecidableEq, Repr

def Warning.text (warning : Warning) : Text :=
  let sign := if warning.value < 0 then "-" else ""
  let digits := String.ofList (Hex.ofNat warning.value.natAbs)
  Text.of s!"enum <enum '{warning.enumeration}'> doesn't have element with value " ++
    Text.of s!"0x{sign}{digits} in it"

structure Logged (α : Type) where
  warnings : List Warning
  result : Except Fault α

namespace Logged
variable {α β : Type}

def ofResult (result : Except Fault α) : Logged α := ⟨[], result⟩

def bind (x : Logged α) (f : α → Logged β) : Logged β :=
  match x.result with
  | .ok a => ⟨x.warnings ++ (f a).warnings, (f a).result⟩
  | .error fault => ⟨x.warnings, .error fault⟩

instance : Monad Logged where
  pure a := ⟨[], .ok a⟩
  bind := bind

instance : MonadLift (Except Fault) Logged := ⟨ofResult⟩

end Logged

end ByteLayout
