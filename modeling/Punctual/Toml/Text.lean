import Punctual.Json.Reader

/-!
The text of TOML documents below the level of values: blanks, line ends, comments, strings and keys.
Each reader takes its part off the front of a text and answers the rest with it.
-/
namespace Punctual.Toml

/-- The character may stand between the parts of a line. -/
def isGap (c : Char) : Bool := c = ' ' || c = '\t'

/-- What follows a gap. -/
def skipGap (cs : List Char) : List Char := cs.dropWhile isGap

/-- The character may stand in comments and strings: no control character but the tab. -/
def isPlain (c : Char) : Bool := c = '\t' || (0x20 ≤ c.toNat && c.toNat ≠ 0x7f)

/-- The text after a line end. -/
def afterLineEnd? : List Char → Option (List Char)
  | '\n' :: rest => some rest
  | '\r' :: '\n' :: rest => some rest
  | _ => none

/-- The text after the rest of a line, which holds nothing but a comment. -/
def endLine? (cs : List Char) : Option (List Char) :=
  let cs := match skipGap cs with
    | '#' :: rest => rest.dropWhile isPlain
    | rest => rest
  if cs.isEmpty then some [] else afterLineEnd? cs

/-- Skips blanks, line ends and comments. -/
def skipLines? (inComment : Bool) : List Char → Option (List Char)
  | [] => some []
  | '\n' :: rest => skipLines? false rest
  | '\r' :: '\n' :: rest => skipLines? false rest
  | c :: rest =>
    if inComment then if isPlain c then skipLines? true rest else none
    else if isGap c then skipLines? false rest
    else if c = '#' then skipLines? true rest
    else some (c :: rest)

/-! ## Strings -/

/-- Puts a character in front of those that were read. -/
def push (c : Char) (read? : Option (List Char × List Char)) : Option (List Char × List Char) :=
  read?.map fun (cs, rest) => (c :: cs, rest)

/-- After three closing quotes, the quotes that belong to the string: at most two, as the last three
of a row close it. -/
def closing (quote : Char) : List Char → List Char × List Char
  | a :: b :: rest =>
    if a = quote ∧ b = quote then ([quote, quote], rest)
    else if a = quote then ([quote], b :: rest)
    else ([], a :: b :: rest)
  | [a] => if a = quote then ([quote], []) else ([], [a])
  | [] => ([], [])

/-- The character of a number escape. -/
def numbered? (digits : List Char) : Option Char := do
  let n ← Json.hexNumber? digits
  if n < 0xD800 ∨ (0xE000 ≤ n ∧ n < 0x110000) then some (Char.ofNat n) else none

/-- The character that a short escape stands for. -/
def shortEscape? (c : Char) : Option Char := if c = '/' then none else Json.shortEscape? c

/-- Only blanks stand before the line end. -/
def isLineOver (cs : List Char) : Bool := (afterLineEnd? (skipGap cs)).isSome

/-- The character belongs to a break that a backslash at a line end began. -/
def isBreak (c : Char) (rest : List Char) : Bool :=
  isGap c || c = '\n' || (c = '\r' && rest.head? = some '\n')

/-- A string with escapes up to its closing quotes. A long one, in three quotes, may run over several
lines; a backslash at a line end then takes away all blanks up to the next character. -/
def readEscaped? (long skipping : Bool) : List Char → Option (List Char × List Char)
  | [] => none
  | c :: rest =>
    if skipping && isBreak c rest then readEscaped? long true rest
    else match c, rest with
      | '"', rest =>
        if !long then some ([], rest)
        else match rest with
          | '"' :: '"' :: more => some (closing '"' more)
          | rest => push '"' (readEscaped? long false rest)
      | '\\', 'u' :: d₁ :: d₂ :: d₃ :: d₄ :: rest =>
        (numbered? [d₁, d₂, d₃, d₄]).bind fun c => push c (readEscaped? long false rest)
      | '\\', 'U' :: d₁ :: d₂ :: d₃ :: d₄ :: d₅ :: d₆ :: d₇ :: d₈ :: rest =>
        (numbered? [d₁, d₂, d₃, d₄, d₅, d₆, d₇, d₈]).bind fun c =>
          push c (readEscaped? long false rest)
      | '\\', next :: rest =>
        if long && isLineOver (next :: rest) then readEscaped? long true rest
        else (shortEscape? next).bind fun c => push c (readEscaped? long false rest)
      | '\r', '\n' :: rest => if long then push '\n' (readEscaped? long false rest) else none
      | '\n', rest => if long then push '\n' (readEscaped? long false rest) else none
      | c, rest => if isPlain c && c ≠ '\\' then push c (readEscaped? long false rest) else none

/-- A string without escapes up to its closing quotes. -/
def readLiteral? (long : Bool) : List Char → Option (List Char × List Char)
  | [] => none
  | '\'' :: rest =>
    if !long then some ([], rest)
    else match rest with
      | '\'' :: '\'' :: more => some (closing '\'' more)
      | rest => push '\'' (readLiteral? long rest)
  | '\r' :: '\n' :: rest => if long then push '\n' (readLiteral? long rest) else none
  | '\n' :: rest => if long then push '\n' (readLiteral? long rest) else none
  | c :: rest => if isPlain c then push c (readLiteral? long rest) else none

/-- A line end right after the opening quotes of a long string does not belong to it. -/
def dropLineEnd (cs : List Char) : List Char := (afterLineEnd? cs).getD cs

/-! ## Keys -/

/-- The character may stand in a key without quotes. -/
def isBareKey (c : Char) : Bool := c.isAlphanum || c = '-' || c = '_'

/-- One part of a key. -/
def readName? : List Char → Option (String × List Char)
  | '"' :: rest => (readEscaped? false false rest).map fun (cs, rest) => (String.ofList cs, rest)
  | '\'' :: rest => (readLiteral? false rest).map fun (cs, rest) => (String.ofList cs, rest)
  | cs =>
    let name := cs.takeWhile isBareKey
    if name.isEmpty then none else some (String.ofList name, cs.dropWhile isBareKey)

/-- A key: the parts before its last dot, the part after it, and what follows the blanks behind it. -/
def readKey? : (fuel : Nat) → List Char → Option ((List String × String) × List Char)
  | 0, _ => none
  | fuel + 1, cs => do
    let (name, rest) ← readName? (skipGap cs)
    match skipGap rest with
    | '.' :: rest =>
      let ((path, last), rest) ← readKey? fuel rest
      return ((name :: path, last), rest)
    | rest => return (([], name), rest)

end Punctual.Toml
