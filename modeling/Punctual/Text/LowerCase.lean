/-!
Lower case, for names that are compared without regard to case.
-/
namespace Punctual.Text

/-- The small letter, for every letter whose small letter is in ASCII: the capitals of ASCII and the
sign for kelvin. -/
def lowerChar (c : Char) : Char := if c = '\u212A' then 'k' else c.toLower

/-- Every character in lower case. -/
def lowerCase (s : String) : String := String.ofList (s.toList.map lowerChar)

end Punctual.Text
