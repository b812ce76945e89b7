/-!
# Decimal digits of every script

A numeral may be written with the decimal digits of any script (`digitValue?`). Each script has its
ten digits in a row, so the table `digitZeros` names the digit zero of each. The digits `0` to `9`
come first and keep their usual values (`digitValue?_ascii`).
-/

namespace Remit.Text

/-- The code points of the digits zero, in increasing order; the nine code points after each are the
digits one to nine of the same script. -/
def digitZeros : List Nat :=
  [0x30, 0x660, 0x6F0, 0x7C0, 0x966, 0x9E6, 0xA66, 0xAE6, 0xB66, 0xBE6, 0xC66, 0xCE6, 0xD66, 0xDE6,
    0xE50, 0xED0, 0xF20, 0x1040, 0x1090, 0x17E0, 0x1810, 0x1946, 0x19D0, 0x1A80, 0x1A90, 0x1B50,
    0x1BB0, 0x1C40, 0x1C50, 0xA620, 0xA8D0, 0xA900, 0xA9D0, 0xA9F0, 0xAA50, 0xABF0, 0xFF10, 0x104A0,
    0x10D30, 0x11066, 0x110F0, 0x11136, 0x111D0, 0x112F0, 0x11450, 0x114D0, 0x11650, 0x116C0,
    0x11730, 0x118E0, 0x11950, 0x11C50, 0x11D50, 0x11DA0, 0x16A60, 0x16AC0, 0x16B50, 0x1D7CE,
    0x1D7D8, 0x1D7E2, 0x1D7EC, 0x1D7F6, 0x1E140, 0x1E2F0, 0x1E950, 0x1FBF0]

/-- The value of a decimal digit, `none` for any other character. -/
def digitValue? (c : Char) : Option Nat :=
  (digitZeros.find? fun z => z ≤ c.toNat && c.toNat < z + 10).map (c.toNat - ·)

/-- Whether a character is a decimal digit of some script. -/
def isDigit (c : Char) : Bool := (digitValue? c).isSome

/-- The number that a row of digits stands for, most significant digit first. -/
def ofDigits (ds : List Nat) : Nat := ds.foldl (fun n d => 10 * n + d) 0

/-- The digits zero to nine of the first row of the table have their usual values. -/
theorem digitValue?_ascii {c : Char} (h : c.isDigit = true) :
    digitValue? c = some (c.toNat - 48) := by
  have h2 : 48 ≤ c.toNat ∧ c.toNat ≤ 57 := by
    simpa [Char.isDigit, UInt32.le_iff_toNat_le] using h
  have h3 : (decide (0x30 ≤ c.toNat) && decide (c.toNat < 0x30 + 10)) = true := by
    simp; omega
  simp [digitValue?, digitZeros, h3]

end Remit.Text
