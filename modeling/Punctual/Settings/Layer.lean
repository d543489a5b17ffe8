import Punctual.Json
import Punctual.Named
import Punctual.Text.LowerCase

/-!
Settings come in layers, each of which says what stands at some places of a tree of tables. A later
layer wins at every place that it names and leaves all others as they are; tables are laid over each
other name by name, at every level. Names are compared without regard to case.
-/
namespace Punctual.Settings

/-- Values with the names that lead to them. -/
abbrev Layer := List (List String × Json)

/-- What a table holds; anything but a table holds nothing. -/
def fieldsOf : Option Json → List (String × Json)
  | some (.obj fields) => fields
  | _ => []

/-- What stands at a place of a tree. -/
def at? : List String → Json → Option Json
  | [], tree => some tree
  | name :: path, tree => ((fieldsOf (some tree)).lookup name).bind (at? path)

mutual

/-- A value laid over what stood at its place. Of a table each entry is laid over by itself, so that an
empty one changes nothing but where nothing stood. -/
def layOver (old? : Option Json) : Json → Json
  | .obj fields => layFieldsOver (old?.getD (.obj [])) fields
  | .null => .null
  | .bool b => .bool b
  | .int n => .int n
  | .real x => .real x
  | .str s => .str s
  | .arr items => .arr items

/-- Lays fields over a value one after another. -/
def layFieldsOver (old : Json) : List (String × Json) → Json
  | [] => old
  | (name, value) :: rest =>
    let held := fieldsOf (some old)
    let name := Text.lowerCase name
    layFieldsOver (.obj (Named.insert name (layOver (held.lookup name) value) held)) rest

end

/-- Puts a value in its place. What stands in the way of the place makes room for a table. -/
def put : List String → Json → Option Json → Json
  | [], value, old? => layOver old? value
  | name :: path, value, old? =>
    let held := fieldsOf old?
    let name := Text.lowerCase name
    .obj (Named.insert name (put path value (held.lookup name)) held)

/-- A tree with a layer over it. -/
def overlay (tree : Json) (layer : Layer) : Json :=
  layer.foldl (fun tree (path, value) => put path value (some tree)) tree

/-- The tree that layers make up, the earliest given first. -/
def resolve (layers : List Layer) : Json := layers.foldl overlay (.obj [])

end Punctual.Settings
