/-!
# Blank characters

The characters that a request may leave around a text without changing it (`isBlank`), the text
without them (`strip`), and the texts that hold nothing else (`isBlankText`).

A text is a row of Unicode characters. Half of a surrogate pair is none, so texts that hold one, as
a command line or the escapes of a JSON text may, have no place here.
-/

namespace Remit.Text

/-- The blank characters: white space in the sense of Unicode, and the four information separators
U+001C to U+001F. -/
def isBlank (c : Char) : Bool :=
  let n := c.toNat
  (0x09 ≤ n && n ≤ 0x0D) || (0x1C ≤ n && n ≤ 0x20) || n == 0x85 || n == 0xA0 || n == 0x1680 ||
    (0x2000 ≤ n && n ≤ 0x200A) || n == 0x2028 || n == 0x2029 || n == 0x202F || n == 0x205F ||
    n == 0x3000

/-- Whether a character is one of the four information separators, which a numeral may not have
around it although they are blank elsewhere. -/
def isSeparator (c : Char) : Bool := 0x1C ≤ c.toNat && c.toNat ≤ 0x1F

/-- The characters without those at either end that `p` holds of. -/
def trimBy (p : Char → Bool) (cs : List Char) : List Char :=
  ((cs.dropWhile p).reverse.dropWhile p).reverse

/-- The characters without the blanks at either end. -/
def trim (cs : List Char) : List Char := trimBy isBlank cs

/-- The text without the blanks at either end. -/
def strip (s : String) : String := String.ofList (trim s.toList)

/-- Whether a text holds blanks only; the empty text does. -/
def isBlankText (s : String) : Bool := s.toList.all isBlank

/-- A text without the characters `c` at its end. -/
def stripEnd (c : Char) (s : String) : String :=
  String.ofList ((s.toList.reverse.dropWhile (· == c)).reverse)

end Remit.Text
