import Remit.Text.Integer

/-!
# Quoted texts

A text inside a message that lists values stands in single quotes, or in double quotes when it holds
a single quote and no double one (`quote`). The quote, the backslash and the characters that cannot
be shown (`isPrintable`) are escaped.
-/

namespace Remit.Text

/-- The characters that cannot be shown: controls, format characters, and all separators but the
space. Each pair is the first and the last code point of a range. -/
def unprintable : List (Nat × Nat) :=
  [(0x0, 0x1F), (0x7F, 0xA0), (0xAD, 0xAD), (0x600, 0x605), (0x61C, 0x61C), (0x6DD, 0x6DD),
    (0x70F, 0x70F), (0x890, 0x891), (0x8E2, 0x8E2), (0x1680, 0x1680), (0x180E, 0x180E),
    (0x2000, 0x200F), (0x2028, 0x202F), (0x205F, 0x2064), (0x2066, 0x206F), (0x3000, 0x3000),
    (0xD800, 0xF8FF), (0xFEFF, 0xFEFF), (0xFFF9, 0xFFFB), (0x110BD, 0x110BD), (0x110CD, 0x110CD),
    (0x13430, 0x13438), (0x1BCA0, 0x1BCA3), (0x1D173, 0x1D17A), (0xE0001, 0xE0001),
    (0xE0020, 0xE007F), (0xF0000, 0xFFFFD), (0x100000, 0x10FFFD)]

/-- Whether a character can be shown. -/
def isPrintable (c : Char) : Bool :=
  !unprintable.any fun r => r.1 ≤ c.toNat && c.toNat ≤ r.2

/-- A number in base sixteen with zeros in front up to `width` digits. -/
def hex (width n : Nat) : List Char :=
  let ds := Nat.toDigits 16 n
  List.replicate (width - ds.length) '0' ++ ds

/-- A character as it stands between quotes `q`. -/
def quoteChar (q c : Char) : List Char :=
  if c = q ∨ c = '\\' then ['\\', c]
  else if c = '\n' then ['\\', 'n']
  else if c = '\r' then ['\\', 'r']
  else if c = '\t' then ['\\', 't']
  else if isPrintable c then [c]
  else if c.toNat < 0x100 then '\\' :: 'x' :: hex 2 c.toNat
  else if c.toNat < 0x10000 then '\\' :: 'u' :: hex 4 c.toNat
  else '\\' :: 'U' :: hex 8 c.toNat

/-- The text in quotes. -/
def quote (s : String) : String :=
  let q := if s.toList.contains '\'' && !s.toList.contains '"' then '"' else '\''
  String.ofList (q :: s.toList.flatMap (quoteChar q) ++ [q])

/-- The texts in brackets with commas between them. -/
def listed (items : List String) : String := "[" ++ ", ".intercalate items ++ "]"

end Remit.Text
