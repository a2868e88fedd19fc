/-! # Slices of a row

A position counts from the front, a negative one from the back, and both ends of
a slice are moved into the row before it is read or replaced. A single item on
the other hand has to be there.
-/
namespace ByteLayout

abbrev Bytes := List UInt8

variable {α : Type}

def place (length : Nat) (i : Int) : Nat :=
  if i < 0 then (i + length).toNat else min i.toNat length

def slice (row : List α) (low high : Int) : List α :=
  (row.take (place row.length high)).drop (place row.length low)

def splice (row : List α) (low high : Int) (items : List α) : List α :=
  let start := place row.length low
  row.take start ++ items ++ row.drop (max start (place row.length high))

def index? (length : Nat) (i : Int) : Option Nat :=
  let j := if i < 0 then i + length else i
  if 0 ≤ j ∧ j < length then some j.toNat else none

def item? (row : List α) (i : Int) : Option α :=
  (index? row.length i).bind (row[·]?)

theorem place_ofNat (length n : Nat) : place length n = min n length := by
  rw [place, if_neg (by omega), Int.toNat_natCast]

theorem slice_ofNat (row : List α) (a b : Nat) :
    slice row a b = (row.take b).drop a := by
  simp only [slice, place_ofNat]
  rw [← List.take_eq_take_min]
  by_cases h : a ≤ row.length
  · rw [Nat.min_eq_left h]
  · rw [List.drop_eq_nil_of_le (by rw [List.length_take]; omega),
      List.drop_eq_nil_of_le (by rw [List.length_take]; omega)]

theorem splice_ofNat (row items : List α) (o n : Nat) (h : o + n ≤ row.length) :
    splice row o ((o : Int) + n) items = row.take o ++ items ++ row.drop (o + n) := by
  have h1 : place row.length (o : Int) = o := by rw [place_ofNat]; omega
  have h2 : place row.length ((o : Int) + n) = o + n := by
    rw [← Int.natCast_add, place_ofNat]; omega
  simp only [splice, h1, h2]
  rw [Nat.max_eq_right (by omega)]

def padded (size : Int) (bytes : Bytes) : Bytes :=
  bytes ++ List.replicate (size.toNat - bytes.length) 0

/-- The first `size` bytes, filled up with zeros; a negative size drops from the end. -/
def fitted (size : Int) (bytes : Bytes) : Bytes := padded size (slice bytes 0 size)

end ByteLayout
