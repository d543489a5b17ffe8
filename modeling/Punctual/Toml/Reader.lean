import Punctual.Toml
import Punctual.Toml.Scalar
import Punctual.Toml.Text

/-!
Reading TOML documents: values, then lines, which make up the sections of `Toml.ofSections?`.
-/
namespace Punctual.Toml

mutual

/-- A value at the front of a text. `fuel` bounds the steps, `depth` the levels of nesting. -/
def readValue? : (fuel depth : Nat) → List Char → Option (Json × List Char)
  | 0, _, _ => none
  | fuel + 1, depth, cs =>
    match cs with
    | '"' :: '"' :: '"' :: rest =>
      (readEscaped? true false (dropLineEnd rest)).map fun (cs, rest) => (.ofChars cs, rest)
    | '"' :: rest => (readEscaped? false false rest).map fun (cs, rest) => (.ofChars cs, rest)
    | '\'' :: '\'' :: '\'' :: rest =>
      (readLiteral? true (dropLineEnd rest)).map fun (cs, rest) => (.ofChars cs, rest)
    | '\'' :: rest => (readLiteral? false rest).map fun (cs, rest) => (.ofChars cs, rest)
    | '[' :: rest =>
      match depth with
      | 0 => none
      | depth + 1 => (readItems? fuel depth rest).map fun (items, rest) => (.arr items, rest)
    | '\x7b' :: rest =>
      match depth with
      | 0 => none
      | depth + 1 =>
        match skipGap rest with
        | '\x7d' :: rest => some (.obj [], rest)
        | rest => do
          let (pairs, rest) ← readPairs? fuel depth rest
          return (← inlineTable? pairs, rest)
    | cs => readScalar? cs

/-- The items of an array, up to its closing bracket. -/
def readItems? : (fuel depth : Nat) → List Char → Option (List Json × List Char)
  | 0, _, _ => none
  | fuel + 1, depth, cs => do
    match ← skipLines? false cs with
    | ']' :: rest => return ([], rest)
    | cs =>
      let (item, rest) ← readValue? fuel depth cs
      match ← skipLines? false rest with
      | ',' :: rest =>
        let (items, rest) ← readItems? fuel depth rest
        return (item :: items, rest)
      | ']' :: rest => return ([item], rest)
      | _ => none

/-- A key and its value, and what follows the blanks behind it. -/
def readPair? : (fuel depth : Nat) → List Char → Option (Pair × List Char)
  | 0, _, _ => none
  | fuel + 1, depth, cs => do
    let ((path, name), rest) ← readKey? fuel cs
    let (value, rest) ← readValue? fuel depth (skipGap (← afterMark? '=' rest))
    return (⟨path, name, value⟩, skipGap rest)

/-- The pairs of a table in one line, up to its closing brace. -/
def readPairs? : (fuel depth : Nat) → List Char → Option (List Pair × List Char)
  | 0, _, _ => none
  | fuel + 1, depth, cs => do
    let (pair, rest) ← readPair? fuel depth cs
    match rest with
    | ',' :: rest =>
      let (pairs, rest) ← readPairs? fuel depth rest
      return (pair :: pairs, rest)
    | '\x7d' :: rest => return ([pair], rest)
    | _ => none

end

/-- A header behind its opening brackets, up to the next line. -/
def readHeader? (fuel : Nat) (cs : List Char) : Option (Header × List Char) :=
  match cs with
  | '[' :: rest => do
    let ((path, name), rest) ← readKey? fuel rest
    return (.element path name, ← endLine? (← afterMark? ']' (← afterMark? ']' rest)))
  | rest => do
    let ((path, name), rest) ← readKey? fuel rest
    return (.table path name, ← endLine? (← afterMark? ']' rest))

/-- The sections of a text whose first lines belong under a header. -/
def readSections? : (fuel : Nat) → Section → List Char → Option (List Section)
  | 0, _, _ => none
  | fuel + 1, current, cs => do
    match ← skipLines? false cs with
    | [] => return [current]
    | '[' :: rest =>
      let (header, rest) ← readHeader? fuel rest
      return current :: (← readSections? fuel ⟨header, []⟩ rest)
    | cs =>
      let (pair, rest) ← readPair? (cs.length + 1) 79 cs
      readSections? fuel { current with pairs := current.pairs ++ [pair] } (← endLine? rest)

/-- The value that a document spells. -/
def ofText? (text : String) : Option Json := do
  let cs := match text.toList with
    | '\uFEFF' :: rest => rest
    | cs => cs
  ofSections? (← readSections? (cs.length + 1) ⟨.root, []⟩ cs)

end Punctual.Toml
