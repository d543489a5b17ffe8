/-!
Lists of values with names, sorted by name, in which no name occurs twice.
-/
namespace Punctual.Named

/-- Puts a value in its place by name, instead of any value with that name. -/
def insert {α : Type} (name : String) (value : α) : List (String × α) → List (String × α)
  | [] => [(name, value)]
  | (other, old) :: rest =>
    if name = other then (name, value) :: rest
    else if name < other then (name, value) :: (other, old) :: rest
    else (other, old) :: insert name value rest

/-- The values with their names, the last of equal names kept. -/
def ofList {α : Type} (entries : List (String × α)) : List (String × α) :=
  entries.foldl (fun sorted (name, value) => insert name value sorted) []

end Punctual.Named
