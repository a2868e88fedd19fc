import ByteLayout.Bytes.Slice
import ByteLayout.Natural

/-! # Integers in bytes

An unsigned integer of `w` bytes is written with the least significant byte first
and then arranged by the byte order; a signed one is written as its residue modulo
the number of values of `w` bytes, which is its two's complement.
-/
namespace ByteLayout

inductive ByteOrder where
  | little
  | big
deriving DecidableEq, Repr

namespace ByteOrder

def ofFlag (littleEndian : Bool) : ByteOrder := if littleEndian then little else big

def isLittle : ByteOrder → Bool
  | little => true
  | big => false

/-- Between the order at hand and the little one; its own inverse. -/
def arrange : ByteOrder → Bytes → Bytes
  | little, bytes => bytes
  | big, bytes => bytes.reverse

/-- Between the order at hand and the big one; its own inverse. -/
def arrangeBig : ByteOrder → Bytes → Bytes
  | little, bytes => bytes.reverse
  | big, bytes => bytes

end ByteOrder

def littleBytes : Nat → Nat → Bytes
  | 0, _ => []
  | w + 1, n => UInt8.ofNat (n % 256) :: littleBytes w (n / 256)

def littleNat : Bytes → Nat
  | [] => 0
  | b :: rest => b.toNat + 256 * littleNat rest

def ByteOrder.write (order : ByteOrder) (w n : Nat) : Bytes := order.arrange (littleBytes w n)

def ByteOrder.read (order : ByteOrder) (bytes : Bytes) : Nat := littleNat (order.arrange bytes)

def signedOfNat (w n : Nat) : Int :=
  if 2 * n < byteSpan w then n else (n : Int) - byteSpan w

def residue (w : Nat) (n : Int) : Nat := (n % (byteSpan w : Int)).toNat

theorem length_littleBytes (w n : Nat) : (littleBytes w n).length = w := by
  induction w generalizing n with
  | zero => rfl
  | succ w ih => rw [littleBytes, List.length_cons, ih]

theorem littleNat_littleBytes (w n : Nat) : littleNat (littleBytes w n) = n % byteSpan w := by
  induction w generalizing n with
  | zero => rw [littleBytes, littleNat, byteSpan_zero, Nat.mod_one]
  | succ w ih =>
    have h : (UInt8.ofNat (n % 256)).toNat = n % 256 := by
      rw [UInt8.toNat_ofNat']
      omega
    rw [littleBytes, littleNat, ih, h, byteSpan_succ, Nat.mod_mul]

theorem littleNat_lt (bytes : Bytes) : littleNat bytes < byteSpan bytes.length := by
  induction bytes with
  | nil => exact Nat.one_pos
  | cons b rest ih =>
    have hb := b.toNat_lt
    rw [littleNat, List.length_cons, byteSpan_succ]
    omega

theorem littleBytes_littleNat (bytes : Bytes) :
    littleBytes bytes.length (littleNat bytes) = bytes := by
  induction bytes with
  | nil => rfl
  | cons b rest ih =>
    have hb := b.toNat_lt
    have h1 : (b.toNat + 256 * littleNat rest) % 256 = b.toNat := by omega
    have h2 : (b.toNat + 256 * littleNat rest) / 256 = littleNat rest := by omega
    rw [List.length_cons, littleNat, littleBytes, h1, h2, ih, UInt8.ofNat_toNat]

namespace ByteOrder

theorem length_arrange (order : ByteOrder) (bytes : Bytes) :
    (order.arrange bytes).length = bytes.length := by
  cases order
  · rfl
  · exact List.length_reverse

theorem arrange_arrange (order : ByteOrder) (bytes : Bytes) :
    order.arrange (order.arrange bytes) = bytes := by
  cases order
  · rfl
  · exact List.reverse_reverse bytes

theorem length_arrangeBig (order : ByteOrder) (bytes : Bytes) :
    (order.arrangeBig bytes).length = bytes.length := by
  cases order
  · exact List.length_reverse
  · rfl

theorem arrangeBig_arrangeBig (order : ByteOrder) (bytes : Bytes) :
    order.arrangeBig (order.arrangeBig bytes) = bytes := by
  cases order
  · exact List.reverse_reverse bytes
  · rfl

theorem length_write (order : ByteOrder) (w n : Nat) : (order.write w n).length = w := by
  rw [write, length_arrange, length_littleBytes]

theorem read_write (order : ByteOrder) (w n : Nat) :
    order.read (order.write w n) = n % byteSpan w := by
  rw [read, write, arrange_arrange, littleNat_littleBytes]

theorem write_read (order : ByteOrder) (bytes : Bytes) :
    order.write bytes.length (order.read bytes) = bytes := by
  have h := littleBytes_littleNat (order.arrange bytes)
  rw [length_arrange] at h
  rw [write, read, h, arrange_arrange]

end ByteOrder

end ByteLayout
