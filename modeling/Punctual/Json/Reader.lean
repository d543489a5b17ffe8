import Punctual.Bounds
import Punctual.Json
import Punctual.Text.Numeral

/-!
Reading JSON text. Objects keep every field they are written with, in order; `Json.canonical` drops
the ones that later fields of the same name replace. Values may be nested 127 levels deep.
-/
namespace Punctual.Json

/-! ## Strings -/

/-- The value of a hexadecimal digit. -/
def hexValue? (c : Char) : Option Nat :=
  if c.isDigit then some (c.toNat - '0'.toNat)
  else if 'a' ≤ c ∧ c ≤ 'f' then some (c.toNat - 'a'.toNat + 10)
  else if 'A' ≤ c ∧ c ≤ 'F' then some (c.toNat - 'A'.toNat + 10)
  else none

/-- The number that hexadecimal digits spell. -/
def hexNumber? (digits : List Char) : Option Nat :=
  digits.foldlM (fun n c => (hexValue? c).map (16 * n + ·)) 0

/-- The character that a short escape stands for. -/
def shortEscape? : Char → Option Char
  | '"' => some '"'
  | '\\' => some '\\'
  | '/' => some '/'
  | 'b' => some '\x08'
  | 'f' => some '\x0c'
  | 'n' => some '\n'
  | 'r' => some '\r'
  | 't' => some '\t'
  | _ => none

/-- The characters of a string up to its closing quote, and what follows that. A number escape of the
first half of a pair must be followed by one of the second half. -/
def readChars? : List Char → Option (List Char × List Char)
  | [] => none
  | '"' :: rest => some ([], rest)
  | '\\' :: 'u' :: a :: b :: c :: d :: rest => do
    let n ← hexNumber? [a, b, c, d]
    if 0xD800 ≤ n ∧ n < 0xDC00 then
      match rest with
      | '\\' :: 'u' :: e :: f :: g :: h :: rest =>
        let m ← hexNumber? [e, f, g, h]
        if 0xDC00 ≤ m ∧ m < 0xE000 then
          let (cs, rest) ← readChars? rest
          return (Char.ofNat (0x10000 + (n - 0xD800) * 0x400 + (m - 0xDC00)) :: cs, rest)
        else none
      | _ => none
    else if 0xDC00 ≤ n ∧ n < 0xE000 then none
    else
      let (cs, rest) ← readChars? rest
      return (Char.ofNat n :: cs, rest)
  | '\\' :: c :: rest => do
    let e ← shortEscape? c
    let (cs, rest) ← readChars? rest
    return (e :: cs, rest)
  | c :: rest =>
    if c.toNat < 0x20 ∨ c = '\\' then none
    else (readChars? rest).map fun (cs, rest) => (c :: cs, rest)

/-! ## Numbers -/

/-- Takes digits as long as 64 bits hold the number they spell; answers the number, how many digits
it has taken, and the digits left. -/
def takeDigits (n taken : Nat) : List Char → Nat × Nat × List Char
  | [] => (n, taken, [])
  | c :: rest =>
    let more := 10 * n + (c.toNat - '0'.toNat)
    if more ≤ maxNat64 then takeDigits more (taken + 1) rest else (n, taken, c :: rest)

/-- A significand scaled by a power of ten, in steps of at most 308 decimal places, each rounded. A
number too large has no value. -/
def scaled? : Nat → Float → Int → Option Float
  | 0, f, _ => some f
  | steps + 1, f, exponent =>
    if exponent.natAbs ≤ 308 then
      let power := Float.ofScientific 1 false exponent.natAbs
      if 0 ≤ exponent then
        let product := f * power
        if product.isInf then none else some product
      else some (f / power)
    else if f == 0 then some f
    else if 0 ≤ exponent then none
    else scaled? steps (f / 1e308) (exponent + 308)

/-- The floating-point number of decimal digits and a power of ten, if it is finite. -/
def realOf? (negative : Bool) (significand : Nat) (exponent : Int) : Option Json := do
  let f ← scaled? 8 (Float.ofNat significand) exponent
  return .real (.ofFloat (if negative then -f else f))

/-- The exponent after the letter E, which scales a significand further. One that 32 bits do not hold
makes zero, unless it makes the number too large. -/
def readExponent? (negative : Bool) (significand : Nat) (exponent : Int) (cs : List Char) :
    Option (Json × List Char) := do
  let (down, cs) := match cs with
    | '+' :: rest => (false, rest)
    | '-' :: rest => (true, rest)
    | rest => (false, rest)
  let digits := cs.takeWhile Char.isDigit
  let rest := cs.dropWhile Char.isDigit
  if digits.isEmpty then none
  let n := Numeral.value digits
  if maxInt32 < n then
    if significand ≠ 0 ∧ !down then none
    else return (← realOf? negative 0 0, rest)
  else
    let total := if down then exponent - n else exponent + n
    return (← realOf? negative significand (max minInt32 (min total maxInt32)), rest)

/-- A number from the digits behind its point on, and what follows it. -/
def readFraction? (negative : Bool) (significand : Nat) (exponent : Int) (cs : List Char) :
    Option (Json × List Char) := do
  let digits := cs.takeWhile Char.isDigit
  let rest := cs.dropWhile Char.isDigit
  if digits.isEmpty then none
  let (significand, taken, _) := takeDigits significand 0 digits
  let exponent := exponent - taken
  match rest with
  | 'e' :: rest | 'E' :: rest => readExponent? negative significand exponent rest
  | rest => return (← realOf? negative significand exponent, rest)

/-- A number. Without fraction and exponent it is whole if 64 bits hold it, with or without sign;
minus zero is not whole. -/
def readNumber? (cs : List Char) : Option (Json × List Char) := do
  let (negative, cs) := match cs with
    | '-' :: rest => (true, rest)
    | rest => (false, rest)
  let digits := cs.takeWhile Char.isDigit
  let rest := cs.dropWhile Char.isDigit
  if digits.isEmpty ∨ (digits.head? = some '0' ∧ 1 < digits.length) then none
  let (significand, _, left) := takeDigits 0 0 digits
  match rest with
  | '.' :: rest => readFraction? negative significand left.length rest
  | 'e' :: rest | 'E' :: rest => readExponent? negative significand left.length rest
  | rest =>
    if !left.isEmpty then return (← realOf? negative significand left.length, rest)
    else if !negative then return (.int significand, rest)
    else if significand ≠ 0 ∧ -(significand : Int) ≥ minInt64 then
      return (.int (-significand), rest)
    else return (← realOf? true significand 0, rest)

/-! ## Values -/

/-- The character may stand between two parts of a text. -/
def isSpace (c : Char) : Bool := c = ' ' || c = '\n' || c = '\t' || c = '\r'

/-- What follows the characters that may stand between parts. -/
def skipSpace (cs : List Char) : List Char := cs.dropWhile isSpace

/-- The text after a word that it begins with. -/
def afterWord? (word cs : List Char) : Option (List Char) :=
  if word.isPrefixOf cs then some (cs.drop word.length) else none

mutual

/-- A value at the front of a text. `fuel` bounds the steps, `depth` the levels of nesting. -/
def readValue? : (fuel depth : Nat) → List Char → Option (Json × List Char)
  | 0, _, _ => none
  | fuel + 1, depth, cs =>
    match skipSpace cs with
    | '"' :: rest => (readChars? rest).map fun (cs, rest) => (.ofChars cs, rest)
    | '[' :: rest =>
      match depth with
      | 0 => none
      | depth + 1 =>
        match skipSpace rest with
        | ']' :: rest => some (.arr [], rest)
        | rest => (readItems? fuel depth rest).map fun (items, rest) => (.arr items, rest)
    | '{' :: rest =>
      match depth with
      | 0 => none
      | depth + 1 =>
        match skipSpace rest with
        | '}' :: rest => some (.obj [], rest)
        | rest => (readFields? fuel depth rest).map fun (fields, rest) => (.obj fields, rest)
    | 'n' :: rest => (afterWord? "ull".toList rest).map fun rest => (.null, rest)
    | 't' :: rest => (afterWord? "rue".toList rest).map fun rest => (.bool true, rest)
    | 'f' :: rest => (afterWord? "alse".toList rest).map fun rest => (.bool false, rest)
    | rest => readNumber? rest

/-- The items of an array, up to its closing bracket. -/
def readItems? : (fuel depth : Nat) → List Char → Option (List Json × List Char)
  | 0, _, _ => none
  | fuel + 1, depth, cs => do
    let (item, rest) ← readValue? fuel depth cs
    match skipSpace rest with
    | ',' :: rest =>
      let (items, rest) ← readItems? fuel depth rest
      return (item :: items, rest)
    | ']' :: rest => return ([item], rest)
    | _ => none

/-- The fields of an object, up to its closing brace. -/
def readFields? : (fuel depth : Nat) → List Char → Option (List (String × Json) × List Char)
  | 0, _, _ => none
  | fuel + 1, depth, cs => do
    match skipSpace cs with
    | '"' :: rest =>
      let (name, rest) ← readChars? rest
      match skipSpace rest with
      | ':' :: rest =>
        let (value, rest) ← readValue? fuel depth rest
        let field := (String.ofList name, value)
        match skipSpace rest with
        | ',' :: rest =>
          let (fields, rest) ← readFields? fuel depth rest
          return (field :: fields, rest)
        | '}' :: rest => return ([field], rest)
        | _ => none
      | _ => none
    | _ => none

end

/-- The value that a text spells, with nothing but space around it. -/
def ofText? (text : String) : Option Json := do
  let cs := text.toList
  let (value, rest) ← readValue? (cs.length + 1) 127 cs
  if (skipSpace rest).isEmpty then some value else none

end Punctual.Json
