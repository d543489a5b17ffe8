import Punctual.Json.Reader
import Punctual.Json.Printer
import Punctual.Json.Record

/-!
Handles name armed timers. A timer service numbers the timers it arms; records left by other
processes name timers by universally unique identifiers, which are 128-bit numbers written as 32
hexadecimal digits.
-/
namespace Punctual

/-- A universally unique identifier. -/
structure Uuid where
  value : Nat
  value_lt : value < Nat.pow 2 128
deriving DecidableEq, Repr

namespace Uuid

/-- The identifier whose bits are all zero. -/
def zero : Uuid := ⟨0, by decide⟩

/-- The identifier that 32 hexadecimal digits spell, in either case. -/
def ofDigits? (digits : List Char) : Option Uuid :=
  if digits.length = 32 then
    (Json.hexNumber? digits).bind fun n => if h : n < Nat.pow 2 128 then some ⟨n, h⟩ else none
  else none

/-- Groups of 8, 4, 4, 4 and 12 digits with hyphens between them. -/
def ofGroups? (cs : List Char) : Option Uuid :=
  if cs.length = 36 ∧ [8, 13, 18, 23].all (fun i => cs[i]? = some '-') then
    ofDigits? (cs.filter (· ≠ '-'))
  else none

/-- Digits without hyphens, or groups, also in braces or after `urn:uuid:`. -/
def ofText? (cs : List Char) : Option Uuid :=
  if cs.length = 32 then ofDigits? cs
  else if cs.length = 38 ∧ cs.head? = some '\x7b' ∧ cs.getLast? = some '\x7d' then
    ofGroups? (cs.drop 1).dropLast
  else if cs.length = 45 ∧ "urn:uuid:".toList.isPrefixOf cs then ofGroups? (cs.drop 9)
  else ofGroups? cs

/-- The lowest hexadecimal digits of a number, in lower case. -/
def hexDigits : Nat → Nat → List Char
  | 0, _ => []
  | width + 1, n => hexDigits width (n / 16) ++ [Json.hexDigit (n % 16)]

/-- The groups of digits, in lower case. -/
def text (u : Uuid) : List Char :=
  let digits := hexDigits 32 u.value
  digits.take 8 ++ '-' :: ((digits.drop 8).take 4 ++ '-' :: ((digits.drop 12).take 4 ++
    '-' :: ((digits.drop 16).take 4 ++ '-' :: digits.drop 20)))

end Uuid

/-- What names a timer, in the index and in the field `scheduled_id` of a record. -/
inductive Handle
  /-- the n-th timer armed by this process's timer service, counted from one -/
  | issued (n : Nat)
  | foreign (id : Uuid)
deriving DecidableEq, Repr

namespace Handle

/-- A handle of this process is shown as its number. -/
def text : Handle → List Char
  | issued n => '#' :: Numeral.padded 1 n
  | foreign id => id.text

/-- A handle in a record is an identifier. -/
def ofJson? (j : Json) : Option Handle :=
  j.string?.bind fun s => (Uuid.ofText? s.toList).map .foreign

/-- The handle in a record. -/
def toJson (h : Handle) : Json := .ofChars h.text

end Handle

end Punctual
