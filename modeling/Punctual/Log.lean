import Punctual.Text.Numeral

/-!
Which log lines are written. A filter is a list of directives, each a level with the sources to which it
applies; the directive that tells the source most exactly decides. A filter without directives lets
through errors only.
-/
namespace Punctual

/-- How much is written, from nothing to everything. -/
inductive LogLevel
  | off | error | warn | info | debug | trace
deriving DecidableEq, Repr

namespace LogLevel

/-- All levels, from the one that logs nothing. -/
def all : List LogLevel := [off, error, warn, info, debug, trace]

/-- The place of a level; a line is logged where its rank is not above that of the level asked for. -/
def rank : LogLevel → Nat
  | off => 0 | error => 1 | warn => 2 | info => 3 | debug => 4 | trace => 5

/-- The word for a level. -/
def name : LogLevel → String
  | off => "off"
  | error => "error"
  | warn => "warn"
  | info => "info"
  | debug => "debug"
  | trace => "trace"

/-- The level of a word in any case, or of its rank. Nothing means errors. -/
def ofWord? (word : List Char) : Option LogLevel :=
  let digits := match word with
    | '+' :: digits => digits
    | digits => digits
  match Numeral.whole? digits with
  | some n => all[n]?
  | none =>
    if word.isEmpty then some error
    else all.find? fun level => level.name.toList == word.map Char.toLower

end LogLevel

/-- A line that may be written. -/
structure LogLine where
  source : String
  level : LogLevel
deriving DecidableEq, Repr

/-- A level for some lines. -/
structure LogDirective where
  /-- how the names of its sources begin -/
  source : List Char
  /-- it says nothing outside of a certain stretch of work -/
  isBound : Bool
  level : LogLevel
deriving DecidableEq, Repr

namespace LogDirective

/-- The character may begin a word of a filter. -/
def isNameStart (c : Char) : Bool := c.isAlphanum || c = '-' || c = ':' || c = '_' || 0x80 ≤ c.toNat

/-- A level, a source, or both with an equals sign between them. A source alone means everything. -/
def ofText? (cs : List Char) : Option LogDirective :=
  let cs := cs.dropWhile (· = ' ')
  let cs := (cs.reverse.dropWhile (· = ' ')).reverse
  match cs with
  | [] => some ⟨[], false, .trace⟩
  | c :: rest =>
    if c = '[' then some ⟨[], true, .trace⟩
    else if !isNameStart c then none
    else
      let word := (c :: rest).takeWhile fun c => c ≠ '=' ∧ c ≠ '['
      match (c :: rest).drop word.length with
      | [] =>
        match LogLevel.ofWord? word with
        | some level => some ⟨[], false, level⟩
        | none => some ⟨word, false, .trace⟩
      | '=' :: level =>
        if level.isEmpty then some ⟨word, false, .trace⟩
        else (LogLevel.ofWord? level).map fun level => ⟨word, false, level⟩
      | _ => some ⟨word, true, .trace⟩

/-- The directive speaks of the source. -/
def concerns (d : LogDirective) (source : String) : Bool :=
  !d.isBound && (d.source.isPrefixOf source.toList || source.toList.isPrefixOf d.source)

end LogDirective

/-- What is logged, as directives tell. -/
abbrev LogFilter := List LogDirective

namespace LogFilter

/-- The parts of a text between commas, without empty ones. -/
def parts (cs : List Char) : List (List Char) :=
  (cs.foldr (fun c parts =>
    if c = ',' then [] :: parts
    else match parts with
      | part :: others => (c :: part) :: others
      | [] => [[c]]) [[]]).filter fun part => !part.isEmpty

/-- The filter that a text spells, if every directive can be read. -/
def ofText? (text : String) : Option LogFilter := (parts text.toList).mapM LogDirective.ofText?

/-- The filter of those directives in a text that can be read. -/
def ofReadable (text : String) : LogFilter := (parts text.toList).filterMap LogDirective.ofText?

/-- The filter that a variable sets, or else the log level. -/
def choose (stated? : Option String) (level : String) : LogFilter :=
  (stated?.bind ofText?).getD (ofReadable level)

/-- Of two directives the one that tells the source more exactly, or else the later. -/
def sharper (a? : Option LogDirective) (b : LogDirective) : Option LogDirective :=
  match a? with
  | some a => if b.source.length < a.source.length then some a else some b
  | none => some b

/-- The line is written. -/
def passes (f : LogFilter) (line : LogLine) : Bool :=
  let level :=
    if f.isEmpty then LogLevel.error
    else
      ((f.filter (·.concerns line.source)).foldl sharper none).elim .off (·.level)
  line.level ≠ .off && line.level.rank ≤ level.rank

end LogFilter

end Punctual
