/-!
Blanks: the characters that Unicode counts as white space.
-/
namespace Punctual.Text

/-- The character is white space: the Unicode property, not only the blanks of ASCII. -/
def isBlank (c : Char) : Bool :=
  let n := c.toNat
  (9 ≤ n && n ≤ 13) || n == 32 || n == 0x85 || n == 0xA0 || n == 0x1680 ||
    (0x2000 ≤ n && n ≤ 0x200A) || n == 0x2028 || n == 0x2029 || n == 0x202F || n == 0x205F ||
    n == 0x3000

/-- The text without its leading blanks. -/
def skipBlanks (cs : List Char) : List Char := cs.dropWhile isBlank

/-- The text holds nothing but blanks. -/
def isAllBlank (cs : List Char) : Bool := cs.all isBlank

end Punctual.Text
