import PostalAddress.Text.Basic

/-!
The code units of a text. A character of the basic plane is one unit, any other is a pair of
halves, the high one in front. Nothing keeps the halves of a text together: one may stand alone,
and what is taken out between two of them makes them a pair. The number of a half is no
character, so a half stands in a text as the character that lies 0x10000 above its number.
-/

namespace PostalAddress.Text

def isHighHalf (unit : Char) : Bool := 0x1D800 ≤ unit.toNat && unit.toNat < 0x1DC00

def isLowHalf (unit : Char) : Bool := 0x1DC00 ≤ unit.toNat && unit.toNat < 0x1E000

def isHalf (unit : Char) : Bool := isHighHalf unit || isLowHalf unit

def isPair (high low : Char) : Bool := isHighHalf high && isLowHalf low

def ofUnit (number : Nat) : Char :=
  if 0xD800 ≤ number && number < 0xE000 then Char.ofNat (0x10000 + number) else Char.ofNat number

def pairPoint (high low : Char) : Nat :=
  0x10000 + (high.toNat - 0x1D800) * 0x400 + (low.toNat - 0x1DC00)

def ofPoint (point : Nat) : Text :=
  if point < 0x10000 then [ofUnit point]
  else
    [Char.ofNat (0x1D800 + (point - 0x10000) / 0x400),
      Char.ofNat (0x1DC00 + (point - 0x10000) % 0x400)]

/-- A half without its other half counts as one. -/
def pointCount : Text → Nat
  | high :: low :: rest =>
      if isPair high low then pointCount rest + 1 else pointCount (low :: rest) + 1
  | [_] => 1
  | [] => 0

theorem point_of_valid (point : Nat) (valid : point.isValidChar) :
    (Char.ofNat point).toNat = point := by
  rw [Char.ofNat, dif_pos valid]
  rfl

theorem pair_iff (high low : Char) :
    isPair high low = true ↔
      (0x1D800 ≤ high.toNat ∧ high.toNat < 0x1DC00) ∧ 0x1DC00 ≤ low.toNat ∧ low.toNat < 0x1E000 := by
  simp only [isPair, isHighHalf, isLowHalf, Bool.and_eq_true, decide_eq_true_eq]

/-- Each code point above the basic plane is a pair of halves, and these give it back. -/
theorem of_point_pair (point : Nat) (lower : 0x10000 ≤ point) (upper : point < 0x110000) :
    ∃ high low, ofPoint point = [high, low] ∧ isPair high low = true ∧
      pairPoint high low = point := by
  have highPoint := point_of_valid (0x1D800 + (point - 0x10000) / 0x400) (by
    right
    constructor <;> omega)
  have lowPoint := point_of_valid (0x1DC00 + (point - 0x10000) % 0x400) (by
    right
    constructor <;> omega)
  have paired : ¬point < 0x10000 := by omega
  refine ⟨Char.ofNat (0x1D800 + (point - 0x10000) / 0x400),
    Char.ofNat (0x1DC00 + (point - 0x10000) % 0x400), if_neg paired, ?_, ?_⟩
  · rw [pair_iff, highPoint, lowPoint]
    omega
  · unfold pairPoint
    rw [highPoint, lowPoint]
    omega

theorem pair_point_bounds (high low : Char) (pair : isPair high low = true) :
    0x10000 ≤ pairPoint high low ∧ pairPoint high low < 0x110000 := by
  rw [pair_iff] at pair
  unfold pairPoint
  omega

theorem low_not_high (unit : Char) (low : isLowHalf unit = true) : isHighHalf unit = false := by
  simp only [isLowHalf, isHighHalf, Bool.and_eq_true, Bool.and_eq_false_iff, decide_eq_true_eq,
    decide_eq_false_iff_not] at low ⊢
  omega

theorem high_not_low (unit : Char) (high : isHighHalf unit = true) : isLowHalf unit = false := by
  cases low : isLowHalf unit with
  | false => rfl
  | true =>
      rw [low_not_high unit low] at high
      cases high

end PostalAddress.Text
