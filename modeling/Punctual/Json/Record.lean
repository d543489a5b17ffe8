import Punctual.Bounds
import Punctual.Instant.Text
import Punctual.Json

/-!
Records in JSON: objects with known field names. Fields with other names are passed over, a known
field must not be given twice, and a record may also be written as an array of its leading fields.
A reader of a field answers nothing when the value does not have the field's type.
-/
namespace Punctual.Json

/-- The fields of a record, by name. -/
structure Record where
  lookup : String → Option Json
  /-- written as an array -/
  isArray : Bool

/-- The record with these field names, in the order an array gives them. -/
def record? (names : List String) : Json → Option Record
  | .obj fields =>
    if names.any fun name => 1 < fields.countP (·.1 == name) then none
    else some ⟨fun name => fields.lookup name, false⟩
  | .arr items =>
    if names.length < items.length then none
    else some ⟨fun name => (names.zip items).lookup name, true⟩
  | _ => none

/-- Takes the word in the field `tag`, which says what kind of record the other fields make up; in an
array it comes first. -/
def tagged? (tag : String) : Json → Option (String × Json)
  | .obj fields =>
    match fields.filter (·.1 == tag) with
    | [(_, .str word)] => some (word, .obj (fields.filter (·.1 != tag)))
    | _ => none
  | .arr (.str word :: items) => some (word, .arr items)
  | _ => none

namespace Record

variable {α : Type}

/-- A field that must be there. -/
def required (r : Record) (name : String) (read : Json → Option α) : Option α :=
  (r.lookup name).bind read

/-- A field that has a value when it is left out. -/
def withDefault (r : Record) (name : String) (read : Json → Option α) (default : α) : Option α :=
  match r.lookup name with
  | none => some default
  | some value => read value

/-- A field that may be left out or null. -/
def optional (r : Record) (name : String) (read : Json → Option α) : Option (Option α) :=
  match r.lookup name with
  | none => some none
  | some .null => some none
  | some value => (read value).map some

/-- A field that may be null, and left out except in an array. -/
def nullable (r : Record) (name : String) (read : Json → Option α) : Option (Option α) :=
  if r.isArray && (r.lookup name).isNone then none else r.optional name read

end Record

/-! ## Readers -/

/-- The text that a value is. -/
def string? : Json → Option String
  | .str s => some s
  | _ => none

/-- The truth value that a value is. -/
def bool? : Json → Option Bool
  | .bool b => some b
  | _ => none

/-- A whole number of 64 bits, with or without sign. -/
def int? : Json → Option Int
  | .int n => some n
  | _ => none

/-- The number that a value is, if 32 bits with a sign hold it. -/
def int32? (j : Json) : Option Int := j.int?.bind toInt32?

/-- The number that a value is, if 64 bits with a sign hold it. -/
def int64? (j : Json) : Option Int := j.int?.bind toInt64?

/-- The number that a value is, if 32 bits without a sign hold it. -/
def nat32? (j : Json) : Option Nat :=
  j.int?.bind fun n => if 0 ≤ n ∧ n ≤ maxNat32 then some n.toNat else none

/-- The number that a value is, if 64 bits without a sign hold it. -/
def nat64? (j : Json) : Option Nat :=
  j.int?.bind fun n => if 0 ≤ n ∧ n ≤ maxNat64 then some n.toNat else none

/-- A finite number; a whole one is rounded. -/
def real? : Json → Option Binary64
  | .int n => (some (Binary64.ofInt n)).filter Binary64.isFinite
  | .real x => (some x).filter Binary64.isFinite
  | _ => none

/-- A word of a fixed set: a text, or an object whose one field has that name and is null. -/
def word? : Json → Option String
  | .str s => some s
  | .obj [(name, .null)] => some name
  | _ => none

/-- The instant that a text spells. -/
def instant? (j : Json) : Option Instant := j.string?.bind fun s => Instant.ofText? s.toList

/-- Texts by name. -/
def texts? : Json → Option (List (String × String))
  | .obj fields => do
    let texts ← fields.mapM fun (name, value) => value.string?.map (name, ·)
    return Named.ofList texts
  | _ => none

/-- A number, or null for one that is not finite. -/
def ofReal (x : Binary64) : Json := if x.isFinite then .real x else .null

/-- An instant in a record. -/
def ofInstant (t : Instant) : Json := .ofChars t.text

end Punctual.Json
