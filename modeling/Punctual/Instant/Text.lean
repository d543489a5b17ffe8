import Punctual.Instant
import Punctual.Text.Blank
import Punctual.Text.Numeral

/-!
Instants as text. Written, an instant is a date and a time of day in UTC, with three, six or nine
fraction digits if it is not a whole second, and with second 60 inside a leap second. Read, it may
also be given at an offset from UTC, with shorter numbers and with blanks between its parts.
-/
namespace Punctual.Instant

open Text

/-! ## Writing -/

/-- Four digits at least; a sign when the year is not written in four digits. -/
def yearText (year : Int) : List Char :=
  if 0 ≤ year ∧ year ≤ 9999 then Numeral.padded 4 year.toNat
  else (if year < 0 then '-' else '+') :: Numeral.padded 4 year.natAbs

/-- The date of an instant, from the year down. -/
def dateText (t : Instant) : List Char :=
  let date := Date.ofDays (t.second / 86400)
  yearText date.year ++ '-' :: Numeral.padded 2 date.month ++ '-' :: Numeral.padded 2 date.day

/-- Hour, minute and second; the second is one higher inside a leap second. -/
def timeText (t : Instant) : List Char :=
  let second := (t.second % 86400).toNat
  Numeral.padded 2 (second / 3600) ++ ':' :: Numeral.padded 2 (second / 60 % 60) ++
    ':' :: Numeral.padded 2 (second % 60 + (if t.isLeap then 1 else 0))

/-- The fraction of the second, in the fewest of zero, three, six or nine digits that tell it. -/
def fractionText (t : Instant) : List Char :=
  let nano := t.nano % nanosPerSecond
  if nano = 0 then []
  else if nano % 1000000 = 0 then '.' :: Numeral.padded 3 (nano / 1000000)
  else if nano % 1000 = 0 then '.' :: Numeral.padded 6 (nano / 1000)
  else '.' :: Numeral.padded 9 nano

/-- The form in which records are kept: `2024-05-01T10:00:00.500Z`. -/
def text (t : Instant) : List Char :=
  t.dateText ++ 'T' :: t.timeText ++ t.fractionText ++ ['Z']

/-- As `text`, always with six fraction digits, the rest cut off. -/
def microsText (t : Instant) : List Char :=
  t.dateText ++ 'T' :: t.timeText ++
    '.' :: Numeral.padded 6 (t.nano % nanosPerSecond / 1000) ++ ['Z']

/-- The form of messages: `2024-05-01 10:00:00.500 UTC`. -/
def messageText (t : Instant) : List Char :=
  t.dateText ++ ' ' :: t.timeText ++ t.fractionText ++ " UTC".toList

/-- The form of listings: `2024-05-01T10:00:00.500+00:00`. -/
def listingText (t : Instant) : List Char :=
  t.dateText ++ 'T' :: t.timeText ++ t.fractionText ++ "+00:00".toList

/-! ## Reading -/

/-- One character, which must be the given one, after blanks. -/
def readMark? (mark : Char) (cs : List Char) : Option (List Char) :=
  match skipBlanks cs with
  | c :: rest => if c = mark then some rest else none
  | [] => none

/-- Up to four digits, or a sign and any number of digits. -/
def readYear? (cs : List Char) : Option (Int × List Char) :=
  match skipBlanks cs with
  | '-' :: rest => (Numeral.read? rest.length rest).map fun (n, rest) => (-(n : Int), rest)
  | '+' :: rest => (Numeral.read? rest.length rest).map fun (n, rest) => ((n : Int), rest)
  | rest => (Numeral.read? 4 rest).map fun (n, rest) => ((n : Int), rest)

/-- One or two digits, after blanks. -/
def readPair? (cs : List Char) : Option (Nat × List Char) := Numeral.read? 2 (skipBlanks cs)

/-- A date that exists, within the range of instants. -/
def readDate? (cs : List Char) : Option (Date × List Char) := do
  let (year, cs) ← readYear? cs
  let cs ← readMark? '-' cs
  let (month, cs) ← readPair? cs
  let cs ← readMark? '-' cs
  let (day, cs) ← readPair? cs
  let date : Date := ⟨year, month, day⟩
  if date.isValid && -262143 ≤ year && year ≤ 262142 then some (date, cs) else none

/-- The letter T, or blanks, between date and time. -/
def readSeparator? : List Char → Option (List Char)
  | c :: rest =>
    if c = 'T' ∨ c = 't' then some rest
    else if isBlank c then some (skipBlanks rest)
    else none
  | [] => none

/-- The nanoseconds after a point; digits after the ninth are cut off. No point means zero. -/
def readFraction? : List Char → Option (Nat × List Char)
  | '.' :: rest =>
    match Numeral.span 9 rest with
    | ([], _) => none
    | (digits, rest) =>
      some (Numeral.value digits * Nat.pow 10 (9 - digits.length), rest.dropWhile Char.isDigit)
  | cs => some (0, cs)

/-- Seconds after midnight and nanoseconds; second 60 is second 59 with a second of nanoseconds. -/
def readTime? (cs : List Char) : Option (Nat × Nat × List Char) := do
  let (hour, cs) ← readPair? cs
  let cs ← readMark? ':' cs
  let (minute, cs) ← readPair? cs
  let cs ← readMark? ':' cs
  let (second, cs) ← readPair? cs
  let (nano, cs) ← readFraction? cs
  if 23 < hour ∨ 59 < minute ∨ 60 < second then none
  else if second = 60 then some (hour * 3600 + minute * 60 + 59, nano + nanosPerSecond, cs)
  else some (hour * 3600 + minute * 60 + second, nano, cs)

/-- Two digits, exactly. -/
def readTwoDigits? : List Char → Option (Nat × List Char)
  | a :: b :: rest => if a.isDigit && b.isDigit then some (Numeral.value [a, b], rest) else none
  | _ => none

/-- Hours and minutes, two digits each, below a day; colons and blanks may stand between them. -/
def readDistance? (cs : List Char) : Option (Int × List Char) := do
  let (hours, cs) ← readTwoDigits? cs
  let (minutes, cs) ← readTwoDigits? (cs.dropWhile fun c => c = ':' || isBlank c)
  if 59 < minutes ∨ 23 < hours then none else some (hours * 3600 + minutes * 60, cs)

/-- The letter Z, or a distance from UTC with a sign. -/
def readSignedOffset? : List Char → Option (Int × List Char)
  | 'Z' :: rest => some (0, rest)
  | 'z' :: rest => some (0, rest)
  | '+' :: rest => readDistance? rest
  | '-' :: rest => (readDistance? rest).map fun (n, rest) => (-n, rest)
  | '−' :: rest => (readDistance? rest).map fun (n, rest) => (-n, rest)
  | _ => none

/-- Seconds east of UTC: the word UTC, the letter Z, or a distance with a sign. -/
def readOffset? : List Char → Option (Int × List Char)
  | u :: t :: c :: rest =>
    if u.toUpper = 'U' ∧ t.toUpper = 'T' ∧ c.toUpper = 'C' then some (0, rest)
    else readSignedOffset? (u :: t :: c :: rest)
  | cs => readSignedOffset? cs

/-- The instant that a text spells, if it does. -/
def ofText? (cs : List Char) : Option Instant := do
  let (date, cs) ← readDate? cs
  let cs ← readSeparator? cs
  let (second, nano, cs) ← readTime? cs
  let (offset, cs) ← readOffset? (skipBlanks cs)
  let t : Instant := ⟨date.toDays * 86400 + second - offset, nano⟩
  if isAllBlank cs && t.inRange then some t else none

end Punctual.Instant
