import Punctual.Binary64.Reader
import Punctual.Bounds
import Punctual.Calendar
import Punctual.Json.Reader
import Punctual.Text.Length

/-!
Words in TOML documents that are values: truth values, numbers, dates and times. A date or time is kept
as text, in its usual form.
-/
namespace Punctual.Toml

/-- Digits without the single underscores that may stand between two of them. -/
def digits? (isDigit : Char → Bool) : List Char → Option (List Char)
  | [] => none
  | [c] => if isDigit c then some [c] else none
  | c :: '_' :: rest => if isDigit c then (digits? isDigit rest).map (c :: ·) else none
  | c :: rest => if isDigit c then (digits? isDigit rest).map (c :: ·) else none

/-- Digits that do not begin with a zero, unless it is the only one. -/
def leading? (cs : List Char) : Option (List Char) := do
  let digits ← digits? Char.isDigit cs
  if digits.head? = some '0' ∧ 1 < digits.length then none else some digits

/-- A number in hexadecimal, octal or binary digits. -/
def based? (base : Nat) (cs : List Char) : Option Json := do
  let digits ← digits? (fun c => (Json.hexValue? c).any (· < base)) cs
  let n := digits.foldl (fun n c => base * n + (Json.hexValue? c).getD 0) 0
  (toInt64? n).map .int

/-- A number's digits, with its sign. -/
def withSign (negative : Bool) (cs : List Char) : List Char := if negative then '-' :: cs else cs

/-- A number with the fraction and exponent it is written with; positive infinity is none. -/
def ofFloating? (negative : Bool) (whole fraction exponent : List Char) : Option Json := do
  let x ← Binary64.ofText? (withSign negative (whole ++ fraction ++ exponent))
  if x = Binary64.infinity then none else some (.real x)

/-- An exponent after the letter E. -/
def exponent? : List Char → Option (List Char)
  | '-' :: digits => (digits? Char.isDigit digits).map fun digits => 'e' :: '-' :: digits
  | '+' :: digits => (digits? Char.isDigit digits).map ('e' :: ·)
  | digits => (digits? Char.isDigit digits).map ('e' :: ·)

/-- A decimal number without its sign. -/
def decimal? (negative : Bool) (cs : List Char) : Option Json := do
  let isWhole (c : Char) : Bool := c.isDigit || c = '_'
  let whole ← leading? (cs.takeWhile isWhole)
  match cs.dropWhile isWhole with
  | [] =>
    let n : Int := Numeral.value whole
    (toInt64? (if negative then -n else n)).map .int
  | '.' :: rest =>
    let fraction ← digits? Char.isDigit (rest.takeWhile isWhole)
    match rest.dropWhile isWhole with
    | [] => ofFloating? negative whole ('.' :: fraction) []
    | 'e' :: rest | 'E' :: rest => ofFloating? negative whole ('.' :: fraction) (← exponent? rest)
    | _ => none
  | 'e' :: rest | 'E' :: rest => ofFloating? negative whole [] (← exponent? rest)
  | _ => none

/-- A number behind its sign. -/
def magnitude? (negative : Bool) (cs : List Char) : Option Json :=
  match cs with
  | ['i', 'n', 'f'] =>
    some (.real (if negative then Binary64.infinity.neg else Binary64.infinity))
  | ['n', 'a', 'n'] => some (.real Binary64.noNumber)
  | cs => decimal? negative cs

/-- The number that a word spells. -/
def number? : List Char → Option Json
  | '0' :: 'x' :: rest => based? 16 rest
  | '0' :: 'o' :: rest => based? 8 rest
  | '0' :: 'b' :: rest => based? 2 rest
  | '-' :: rest => magnitude? true rest
  | '+' :: rest => magnitude? false rest
  | cs => magnitude? false cs

/-! ## Dates and times -/

/-- So many digits. -/
def fixed? (width : Nat) (cs : List Char) : Option (Nat × List Char) :=
  let digits := cs.take width
  if digits.length = width && digits.all Char.isDigit then
    some (Numeral.value digits, cs.drop width)
  else none

/-- The text after a mark. -/
def afterMark? (mark : Char) : List Char → Option (List Char)
  | c :: rest => if c = mark then some rest else none
  | [] => none

/-- Whether a date that exists stands at the front. -/
def beginsWithDate (cs : List Char) : Bool :=
  (do
    let (year, rest) ← fixed? 4 cs
    let (month, rest) ← fixed? 2 (← afterMark? '-' rest)
    let (day, _) ← fixed? 2 (← afterMark? '-' rest)
    return (⟨year, month, day⟩ : Date).isValid : Option Bool).getD false

/-- The text of a distance from UTC. -/
def offset? : List Char → Option (List Char)
  | [] => some []
  | ['Z'] | ['z'] => some ['Z']
  | sign :: rest => do
    if sign ≠ '+' ∧ sign ≠ '-' then none
    let (hours, tail) ← fixed? 2 rest
    let (minutes, tail) ← fixed? 2 (← afterMark? ':' tail)
    if 23 < hours ∨ 59 < minutes ∨ tail ≠ [] then none
    return (if hours = 0 ∧ minutes = 0 then '+' else sign) :: rest

/-- The text of a time; behind a date it may have an offset. -/
def time? (dated : Bool) (cs : List Char) : Option (List Char) := do
  let (hour, rest) ← fixed? 2 cs
  let (minute, rest) ← fixed? 2 (← afterMark? ':' rest)
  let (second, rest) ← fixed? 2 (← afterMark? ':' rest)
  if 23 < hour ∨ 59 < minute ∨ 60 < second then none
  let (fraction, rest) ← match rest with
    | '.' :: rest =>
      let digits := rest.takeWhile Char.isDigit
      if digits.isEmpty then none
      else
        let nanos := Numeral.value ((digits ++ List.replicate 9 '0').take 9)
        some (if nanos = 0 then [] else '.' :: Text.fractionDigits 9 nanos, rest.dropWhile Char.isDigit)
    | rest => some ([], rest)
  if dated then return cs.take 8 ++ fraction ++ (← offset? rest)
  else if rest.isEmpty then some (cs.take 8 ++ fraction) else none

/-- The text of a date, a time or both. -/
def moment? (cs : List Char) : Option (List Char) :=
  if beginsWithDate cs then
    match cs.drop 10 with
    | [] => some cs
    | c :: rest =>
      if c = 'T' ∨ c = 't' ∨ c = ' ' then (time? true rest).map fun time => cs.take 10 ++ 'T' :: time
      else none
  else time? false cs

/-- The value that a word is. -/
def scalar? (word : List Char) : Option Json :=
  match word with
  | ['t', 'r', 'u', 'e'] => some (.bool true)
  | ['f', 'a', 'l', 's', 'e'] => some (.bool false)
  | word => number? word <|> (moment? word).map .ofChars

/-- The character may stand in a value without quotes. -/
def isScalarChar (c : Char) : Bool :=
  c.isAlphanum || c = '+' || c = '-' || c = '_' || c = '.' || c = ':'

/-- A value without quotes or brackets. A blank may stand between a date and a time. -/
def readScalar? (cs : List Char) : Option (Json × List Char) :=
  let word := cs.takeWhile isScalarChar
  let rest := cs.dropWhile isScalarChar
  match rest with
  | ' ' :: h₁ :: h₂ :: ':' :: more =>
    if word.length = 10 && beginsWithDate word && h₁.isDigit && h₂.isDigit then
      let time := h₁ :: h₂ :: ':' :: more
      (scalar? (word ++ ' ' :: time.takeWhile isScalarChar)).map (·, time.dropWhile isScalarChar)
    else (scalar? word).map (·, rest)
  | rest => (scalar? word).map (·, rest)

end Punctual.Toml
