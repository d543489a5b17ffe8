
/-!
Names in quotation marks, for descriptions. Characters that cannot be seen are written as their
number.
-/
namespace Punctual.Text

/-- Ranges of characters without a shape of their own: controls, blanks other than the space, marks
that join the character before them, and code points of private or no use. -/
def unseenRanges : List (Nat × Nat) :=
  [(0x0, 0x1f), (0x7f, 0xa0), (0xad, 0xad), (0x300, 0x36f), (0x483, 0x489), (0x591, 0x5bd),
   (0x600, 0x605), (0x61c, 0x61c), (0x6dd, 0x6dd), (0x70f, 0x70f), (0x1680, 0x1680),
   (0x180e, 0x180e), (0x1ab0, 0x1ace), (0x1dc0, 0x1dff), (0x2000, 0x200f), (0x2028, 0x202f),
   (0x205f, 0x206f), (0x20d0, 0x20f0), (0x3000, 0x3000), (0x302a, 0x302f), (0x3099, 0x309a),
   (0xe000, 0xf8ff), (0xfe00, 0xfe0f), (0xfe20, 0xfe2f), (0xfeff, 0xfeff), (0xfff0, 0xfffb),
   (0xfffe, 0xffff), (0xe0000, 0x10ffff)]

/-- The character is not shown as itself: its number is written instead. -/
def isUnseen (c : Char) : Bool := unseenRanges.any fun (low, high) => low ≤ c.toNat && c.toNat ≤ high

/-- A number in hexadecimal digits, without zeros in front. -/
def hexText (n : Nat) : List Char := (Nat.toDigits 16 n).map Char.toLower

/-- A character as it stands between quotation marks. -/
def shown (c : Char) : List Char :=
  if c = '"' then ['\\', '"']
  else if c = '\\' then ['\\', '\\']
  else if c = '\n' then ['\\', 'n']
  else if c = '\r' then ['\\', 'r']
  else if c = '\t' then ['\\', 't']
  else if c.toNat = 0 then ['\\', '0']
  else if isUnseen c then '\\' :: 'u' :: '\x7b' :: hexText c.toNat ++ ['\x7d']
  else [c]

/-- A name in quotation marks. -/
def quoted (s : String) : String := String.ofList ('"' :: s.toList.flatMap shown ++ ['"'])

end Punctual.Text
