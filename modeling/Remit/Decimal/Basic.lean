import Remit.Text.Integer

/-!
# Decimal numbers

A `Decimal` is a sign, a coefficient and a power of ten, kept as they were written: `1.50` and `1.5`
are two decimals of one value. Besides the finite decimals there are two infinities and the
undefined results, quiet and signaling. This module holds the type and the numbers that comparing,
printing and adding are built from: the `adjusted` exponent, that of the first digit, and the
`scaled` coefficient, in units of a smaller power of ten.

What a request, a value or a transfer holds is a decimal whose exponents stay within a fixed range
(`Decimal.Representable`). Whole numbers of any size are compared with it as decimals, which need
not be.
-/

namespace Remit

-- Powers are those of the core library, whatever else is imported.
attribute [local instance (high)] instPowNat

/-- An exact decimal number. -/
inductive Decimal where
  /-- The number `± coefficient · 10 ^ exponent`. -/
  | finite (negative : Bool) (coefficient : Nat) (exponent : Int)
  /-- An infinity. -/
  | infinite (negative : Bool)
  /-- An undefined result. A signaling one is refused by every operation; `payload` is printed with
  it if it is not zero. -/
  | nan (negative signaling : Bool) (payload : Nat)
  deriving DecidableEq, Repr, Inhabited

namespace Decimal

/-- The decimal of a whole number. -/
def ofInt (i : Int) : Decimal := .finite (i < 0) i.natAbs 0

/-- Zero without decimal places. -/
def zero : Decimal := .ofInt 0

/-- Whether a decimal is a number and not an infinity. -/
def isFinite : Decimal → Bool
  | .finite .. => true
  | _ => false

/-- The power of ten of the first digit of `c · 10 ^ e`. -/
def adjusted (c : Nat) (e : Int) : Int := e + Text.digitCount c - 1

/-- The coefficient of `c · 10 ^ e` in units of `10 ^ e'`, for `e' ≤ e`. -/
def scaled (c : Nat) (e e' : Int) : Nat := c * 10 ^ (e - e').toNat

/-- The largest exponent of the first digit of a representable decimal. -/
def maxExponent : Int := 999999999999999999

/-- The smallest exponent of a representable decimal. -/
def minExponent : Int := -1999999999999999997

/-- Whether `c · 10 ^ e` is representable as it stands. -/
def inRange (c : Nat) (e : Int) : Bool :=
  minExponent ≤ e && (if c = 0 then e ≤ maxExponent else adjusted c e ≤ maxExponent)

/-- Whether a decimal is representable; infinities and undefined results always are. -/
def IsRepresentable : Decimal → Prop
  | .finite _ c e => inRange c e = true
  | .infinite _ | .nan .. => True

instance : DecidablePred IsRepresentable
  | .finite _ c e => inferInstanceAs (Decidable (inRange c e = true))
  | .infinite _ | .nan .. => .isTrue trivial

/-- A representable decimal. -/
abbrev Representable := { d : Decimal // d.IsRepresentable }

/-- What can go wrong in decimal arithmetic. -/
inductive Signal where
  /-- An undefined result was compared, or infinities of opposite sign were added. -/
  | undefined
  /-- A result is too large to be represented. -/
  | overflow
  deriving DecidableEq, Repr

/-- A finite decimal is told by a sign, a coefficient and an exponent. -/
theorem isFinite_iff {d : Decimal} : d.isFinite = true ↔ ∃ n c e, d = .finite n c e := by
  cases d <;> simp [isFinite]

/-- A whole number that has a text is representable. -/
theorem isRepresentable_ofInt {i : Int} (h : Text.IsShort i) : (ofInt i).IsRepresentable := by
  simp only [ofInt, IsRepresentable, inRange, Bool.and_eq_true, decide_eq_true_eq]
  refine ⟨by decide, ?_⟩
  unfold adjusted maxExponent
  unfold Text.IsShort Text.maxDigits at h
  split
  · simp
  · simp only [decide_eq_true_eq]
    omega

namespace Representable

/-- A whole number that has a text, as a representable decimal. -/
def ofInt (i : Int) (h : Text.IsShort i := by decide) : Representable :=
  ⟨.ofInt i, isRepresentable_ofInt h⟩

@[simp] theorem val_ofInt (i : Int) (h : Text.IsShort i) : (ofInt i h).val = .ofInt i := rfl

/-- Zero without decimal places. -/
def zero : Representable := .ofInt 0

instance : Inhabited Representable := ⟨zero⟩

end Representable

end Decimal

end Remit
