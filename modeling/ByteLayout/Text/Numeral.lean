import ByteLayout.Text.Basic

/-! # Decimal numerals

An integer is written with the decimal digits of any script. Blanks may surround it,
a sign may precede it, and single low lines may stand between two digits. The length of
a numeral is limited.
-/
namespace ByteLayout.Text

/-- The zero of each script; the other nine digits follow it. -/
def digitZeros : List Nat :=
  [
    0x30, 0x660, 0x6F0, 0x7C0, 0x966, 0x9E6, 0xA66, 0xAE6, 0xB66, 0xBE6, 0xC66, 0xCE6, 0xD66,
    0xDE6, 0xE50, 0xED0, 0xF20, 0x1040, 0x1090, 0x17E0, 0x1810, 0x1946, 0x19D0, 0x1A80, 0x1A90,
    0x1B50, 0x1BB0, 0x1C40, 0x1C50, 0xA620, 0xA8D0, 0xA900, 0xA9D0, 0xA9F0, 0xAA50, 0xABF0,
    0xFF10, 0x104A0, 0x10D30, 0x11066, 0x110F0, 0x11136, 0x111D0, 0x112F0, 0x11450, 0x114D0,
    0x11650, 0x116C0, 0x11730, 0x118E0, 0x11950, 0x11C50, 0x11D50, 0x11DA0, 0x16A60, 0x16AC0,
    0x16B50, 0x1D7CE, 0x1D7D8, 0x1D7E2, 0x1D7EC, 0x1D7F6, 0x1E140, 0x1E2F0, 0x1E950, 0x1FBF0]

def digit? (c : Nat) : Option Nat :=
  (digitZeros.find? fun start => start ≤ c && c < start + 10).map (c - ·)

/-- The blanks around a numeral. The separators of files and records are none. -/
def isBlank (c : Nat) : Bool :=
  (9 ≤ c && c ≤ 13) || (0x2000 ≤ c && c ≤ 0x200A) ||
    [0x20, 0x85, 0xA0, 0x1680, 0x2028, 0x2029, 0x202F, 0x205F, 0x3000].contains c

/-- Whether a sign separates words. The separators of files and records do. -/
def isGap (c : Nat) : Bool := isBlank c || (0x1C ≤ c && c ≤ 0x1F)

def words (t : Text) : List Text :=
  (split 44 (t.map fun c => if isGap c then 44 else c)).filter (!·.isEmpty)

/-- Numerals have no more digits than this, whether read or written. -/
def digitLimit : Nat := 4300

def isWritable (n : Int) : Bool := n.natAbs < Nat.pow 10 digitLimit

theorem isWritable_of_lt_pow {n : Int} {k : Nat} (hk : k ≤ digitLimit)
    (hn : n.natAbs < Nat.pow 10 k) : isWritable n = true := by
  have hp : ∀ m, k ≤ m → Nat.pow 10 k ≤ Nat.pow 10 m := fun m hm =>
    Nat.pow_le_pow_right (Nat.succ_pos 9) hm
  exact decide_eq_true (Nat.lt_of_lt_of_le hn (hp digitLimit hk))

theorem isWritable_pow {k : Nat} (hk : digitLimit ≤ k) :
    isWritable (Nat.pow 10 k : Nat) = false := by
  have hp : ∀ m, m ≤ k → Nat.pow 10 m ≤ Nat.pow 10 k := fun m hm =>
    Nat.pow_le_pow_right (Nat.succ_pos 9) hm
  exact decide_eq_false (Nat.not_lt.mpr (hp digitLimit hk))

theorem exists_neg_unwritable : ∃ n : Int, n < 0 ∧ isWritable n = false := by
  -- Over the limit by name only, or it would be computed.
  have hfar : ∀ k, digitLimit ≤ k → ∃ n : Int, n < 0 ∧ isWritable n = false := by
    intro k hk
    have hw := isWritable_pow hk
    rw [isWritable, ← Int.natAbs_neg] at hw
    exact ⟨_, Int.neg_neg_of_pos (Int.natCast_pos.mpr (Nat.pow_pos (by decide))), hw⟩
  exact hfar _ (Nat.le_refl _)

/-- The digits of a row that has one between any two low lines and at both ends. -/
def digits? : Text → Option (List Nat)
  | [] => none
  | [c] => (digit? c).map fun d => [d]
  | c :: 95 :: rest => do
    let d ← digit? c
    let more ← digits? rest
    return d :: more
  | c :: rest => do
    let d ← digit? c
    let more ← digits? rest
    return d :: more

def natural? (t : Text) : Option Nat :=
  (digits? t).bind fun digits =>
    if digits.length ≤ digitLimit then some (digits.foldl (fun n d => 10 * n + d) 0) else none

def integer? (t : Text) : Option Int :=
  let body := ((t.dropWhile isBlank).reverse.dropWhile isBlank).reverse
  match body with
  | 43 :: rest => (natural? rest).map Int.ofNat
  | 45 :: rest => (natural? rest).map fun n => -(n : Int)
  | _ => (natural? body).map Int.ofNat

end ByteLayout.Text
