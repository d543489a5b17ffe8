import Punctual.Json.Record

/-!
Where a fired job is delivered: an HTTP endpoint, with a method, headers, query parameters and
perhaps a payload.
-/
namespace Punctual

/-- The types `Recipient` and `HttpRecipient`. -/
structure Recipient where
  url : String
  method : String
  /-- sorted by name -/
  headers : List (String × String)
  /-- sorted by name -/
  queryParams : List (String × String)
  payload? : Option Json
deriving DecidableEq, Repr

namespace Recipient

/-- The method of a recipient that names none. -/
def defaultMethod : String := "POST"

/-- Posts to the endpoint, with nothing else. -/
def ofUrl (url : String) : Recipient := ⟨url, defaultMethod, [], [], none⟩

/-- The operation `with_method`: with another method. -/
def withMethod (r : Recipient) (method : String) : Recipient := { r with method }

/-- The operation `with_header`: with a header, in place of any of its name. -/
def withHeader (r : Recipient) (name value : String) : Recipient :=
  { r with headers := Named.insert name value r.headers }

/-- The operation `with_query_param`: with a query parameter, in place of any of its name. -/
def withQueryParam (r : Recipient) (name value : String) : Recipient :=
  { r with queryParams := Named.insert name value r.queryParams }

/-- The operation `with_payload`: with another payload. -/
def withPayload (r : Recipient) (payload : Json) : Recipient := { r with payload? := some payload }

/-- The word for the kind of recipient. -/
def kind (_ : Recipient) : String := "http"

/-- A payload is any value but null. -/
def readPayload? (r : Json.Record) : Option (Option Json) :=
  r.optional "payload" fun value => some value.canonical

/-- The recipient that a record spells. -/
def ofJson? (j : Json) : Option Recipient := do
  let (kind, fields) ← j.tagged? "type"
  if kind ≠ "http" then none
  let r ← fields.record? ["url", "method", "headers", "query_params", "payload"]
  return {
    url := ← r.required "url" Json.string?
    method := ← r.withDefault "method" Json.string? defaultMethod
    headers := ← r.withDefault "headers" Json.texts? []
    queryParams := ← r.withDefault "query_params" Json.texts? []
    payload? := ← readPayload? r }

/-- Named texts in a record. -/
def textsToJson (texts : List (String × String)) : Json :=
  .obj (texts.map fun (name, value) => (name, .str value))

/-- The record of a recipient. -/
def toJson (r : Recipient) : Json :=
  .obj [
    ("type", .str r.kind),
    ("url", .str r.url),
    ("method", .str r.method),
    ("headers", textsToJson r.headers),
    ("query_params", textsToJson r.queryParams),
    ("payload", .ofOption id r.payload?)]

end Recipient

end Punctual
