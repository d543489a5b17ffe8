import Punctual.Proofs.Overlays
import Punctual.Settings.Sources

/-!
What settings come to be when they are loaded. Each leaf gets the value of the highest layer that sets it,
whatever layers set the leaves around it, or else the value that is built in. A backoff alone is taken as
a whole: where any layer says something of it, its kind and all fields of that kind must be set, by
whatever layers. How files are searched for and read is left open, also which formats there are; a layer is
what the reader makes of a file.
-/
namespace Punctual

namespace Settings

variable {α : Type}

/-! ## Leaves -/

/-- The table of the scheduler's configuration. -/
def schedulerPlace : List String := ["scheduler"]

/-- The table of the retry policy. -/
def retryPlace : List String := schedulerPlace ++ ["retry"]

/-- The table of the backoff. -/
def backoffPlace : List String := retryPlace ++ ["backoff"]

/-- A setting that stands for itself: the place of its table, its name in there, and how its value is read. -/
structure Leaf (α : Type) where
  table : List String
  name : String
  read : Json → Option α

/-- Where the leaf stands in a tree of values. -/
def Leaf.place (leaf : Leaf α) : List String := leaf.table ++ [leaf.name]

namespace Leaf

def logLevel : Leaf String := ⟨[], "log_level", Json.asText?⟩

def backend : Leaf TimerBackend := ⟨[], "timer_backend", TimerBackend.ofAny?⟩

def shutdownSeconds : Leaf Nat := ⟨[], "shutdown_timeout_secs", Json.asNat?⟩

def chunkMinutes : Leaf Nat := ⟨schedulerPlace, "scheduler_chunk_in_minutes", Json.asNat?⟩

def loadMinutes : Leaf Nat := ⟨schedulerPlace, "load_job_interval_in_minutes", Json.asNat?⟩

def forceExpired : Leaf Bool := ⟨schedulerPlace, "force_execute_expired_jobs", Json.asBool?⟩

def toleranceMs : Leaf Nat := ⟨schedulerPlace, "expired_tolerance_ms", Json.asNat?⟩

def maxRetries : Leaf Nat := ⟨retryPlace, "max_retries", Json.asNat32?⟩

def kind : Leaf String := ⟨backoffPlace, "kind", Json.string?⟩

def delayMs : Leaf Nat := ⟨backoffPlace, "delay_ms", Json.nat64?⟩

def initialMs : Leaf Nat := ⟨backoffPlace, "initial_ms", Json.nat64?⟩

def multiplier : Leaf Binary64 := ⟨backoffPlace, "multiplier", Json.asReal?⟩

def maxMs : Leaf Nat := ⟨backoffPlace, "max_ms", Json.nat64?⟩

end Leaf

/-! ## What layers set -/

variable {layers : List Layer} {tree : Json} {place : List String}

/-- What the layer sets the place to, the last time it does. -/
def Layer.sets? (layer : Layer) (place : List String) : Option Json :=
  layer.assignments.reverse.lookup place

/-- The layer sets something at the place or below. -/
def Layer.enters (layer : Layer) (place : List String) : Bool :=
  layer.assignments.any fun a => place <+: a.1

/-- The value of the highest layer that sets the place. -/
def highest? (layers : List Layer) (place : List String) : Option Json :=
  layers.reverse.findSome? (·.sets? place)

/-- The value of a leaf, if any layer sets it. -/
def Leaf.settled? (leaf : Leaf α) (layers : List Layer) : Option α :=
  (highest? layers leaf.place).bind leaf.read

/-- The backoff that layers set, which must tell its kind and all that this kind needs; the built-in one, if
they say nothing of it. -/
def settledBackoff? (layers : List Layer) : Option Backoff :=
  if layers.any (·.enters backoffPlace) then do
    match ← Leaf.kind.settled? layers with
    | "fixed" => return .fixed (← Leaf.delayMs.settled? layers)
    | "exponential" =>
      return .exponential (← Leaf.initialMs.settled? layers) (← Leaf.multiplier.settled? layers)
        (← Leaf.maxMs.settled? layers)
    | _ => none
  else some .initial

/-- The settings whose leaves have the values of the highest layers that set them. -/
def settled (layers : List Layer) (backoff : Backoff) : Settings where
  logLevel := (Leaf.logLevel.settled? layers).getD initial.logLevel
  backend := (Leaf.backend.settled? layers).getD initial.backend
  shutdownSeconds := (Leaf.shutdownSeconds.settled? layers).getD initial.shutdownSeconds
  scheduler :=
    { chunkMinutes := (Leaf.chunkMinutes.settled? layers).getD SchedulerConfig.initial.chunkMinutes
      loadMinutes := (Leaf.loadMinutes.settled? layers).getD SchedulerConfig.initial.loadMinutes
      forceExpired := (Leaf.forceExpired.settled? layers).getD SchedulerConfig.initial.forceExpired
      toleranceMs := (Leaf.toleranceMs.settled? layers).getD SchedulerConfig.initial.toleranceMs
      retry :=
        { maxRetries := (Leaf.maxRetries.settled? layers).getD RetryPolicy.initial.maxRetries
          backoff } }

/-- A leaf's place, and which values can be read there. -/
def Leaf.check (leaf : Leaf α) : List String × (Json → Bool) :=
  (leaf.place, fun value => (leaf.read value).isSome)

/-- Every leaf with the check that its value must pass. -/
def checks : List (List String × (Json → Bool)) :=
  [Leaf.logLevel.check, Leaf.backend.check, Leaf.shutdownSeconds.check, Leaf.chunkMinutes.check,
    Leaf.loadMinutes.check, Leaf.forceExpired.check, Leaf.toleranceMs.check, Leaf.maxRetries.check,
    Leaf.kind.check, Leaf.delayMs.check, Leaf.initialMs.check, Leaf.multiplier.check, Leaf.maxMs.check]

/-- If the assignment concerns the leaf, it is to that very leaf and of a value that can be read, or makes a
table on the way to it. -/
structure Suits (check : List String × (Json → Bool)) (a : Assignment) : Prop extends Meets check.1 a where
  reads : a.1 = check.1 → check.2 a.2 = true

/-- The layer sets whichever leaves it likes, to values that can be read. -/
def Layer.Fits (layer : Layer) : Prop := ∀ a ∈ layer.assignments, ∀ check ∈ checks, Suits check a

instance (check : List String × (Json → Bool)) (a : Assignment) : Decidable (Suits check a) :=
  decidable_of_iff ((a.1 = check.1 → isTable a.2 = false) ∧
      (a.1 <+: check.1 → a.1 ≠ check.1 → a.2 = .obj []) ∧ (check.1 <+: a.1 → a.1 = check.1) ∧
      (a.1 = check.1 → check.2 a.2 = true))
    ⟨fun ⟨plain, passes, above, reads⟩ => ⟨⟨plain, passes, above⟩, reads⟩,
      fun suits => ⟨suits.plain, suits.passes, suits.above, suits.reads⟩⟩

instance (layer : Layer) : Decidable layer.Fits :=
  inferInstanceAs (Decidable (∀ a ∈ layer.assignments, ∀ check ∈ checks, Suits check a))

/-! ## Single leaves -/

theorem highest_cons (layer : Layer) (layers : List Layer) (place : List String) :
    highest? (layer :: layers) place = (highest? layers place).or (layer.sets? place) := by
  rw [highest?, List.reverse_cons, List.findSome?_append, List.findSome?_singleton, ← highest?]

/-- The last of all assignments to a place is the last one of the highest layer that sets it. -/
theorem lookup_assignments (layers : List Layer) (place : List String) :
    (layers.flatMap Layer.assignments).reverse.lookup place = highest? layers place := by
  induction layers with
  | nil => rfl
  | cons layer rest ih =>
    rw [List.flatMap_cons, List.reverse_append, List.lookup_append, ih, highest_cons, Layer.sets?]

theorem resolve_eq (layers : List Layer) :
    some (resolve layers) = assignAll (some (.obj [])) (layers.flatMap Layer.assignments) :=
  foldl_overlay_eq ..

/-- A leaf of the tree that layers make up is what the highest layer that sets it sets it to. -/
theorem at_resolve (fits : ∀ a ∈ layers.flatMap Layer.assignments, Meets place a) (named : place ≠ []) :
    at? place (resolve layers) = highest? layers place := by
  have found := at_assignAll fits (some (.obj []))
  rw [← resolve_eq, lookup_assignments] at found
  cases place with
  | nil => exact absurd rfl named
  | cons name place => exact found.trans (Option.or_none ..)

/-- What highest layers set comes from one of the assignments. -/
theorem mem_of_highest {value : Json} (found : highest? layers place = some value) :
    (place, value) ∈ layers.flatMap Layer.assignments := by
  rw [← lookup_assignments] at found
  obtain ⟨before, after, split, _⟩ := List.lookup_eq_some_iff.mp found
  have member : (place, value) ∈ (layers.flatMap Layer.assignments).reverse := by
    rw [split]
    exact List.mem_append_right _ List.mem_cons_self
  exact List.mem_reverse.mp member

/-! ## Records -/

/-- Reads a value, or takes another one where there is none to be read. -/
def readOr (read : Json → Option α) (default : α) (value? : Option Json) : Option α :=
  value?.elim (some default) read

theorem bind_at_table (name : String) (fields : List (String × Json)) :
    (some (Json.obj fields)).bind (at? [name]) = fields.lookup name := by
  rw [bind_at_cons, fieldsOf]
  cases fields.lookup name <;> rfl

theorem withDefault_table (fields : List (String × Json)) (name : String) (read : Json → Option α)
    (default : α) (isArray : Bool) :
    (Json.Record.mk (fun name => fields.lookup name) isArray).withDefault name read default =
      readOr read default ((some (Json.obj fields)).bind (at? [name])) := by
  rw [bind_at_table, Json.Record.withDefault, readOr]
  dsimp only
  cases fields.lookup name <;> rfl

/-- A leaf as its table's record reads it. -/
def Leaf.readIn (leaf : Leaf α) (default : α) (tree : Json) : Option α :=
  readOr leaf.read default ((at? leaf.table tree).bind (at? [leaf.name]))

theorem read_settings (isOpen : IsOpen (at? [] tree)) :
    ofAny? tree = (do
      return {
        logLevel := ← Leaf.logLevel.readIn initial.logLevel tree
        backend := ← Leaf.backend.readIn initial.backend tree
        shutdownSeconds := ← Leaf.shutdownSeconds.readIn initial.shutdownSeconds tree
        scheduler := ← readOr SchedulerConfig.ofAny? .initial ((at? [] tree).bind (at? ["scheduler"])) }) := by
  obtain ⟨fields, rfl, _⟩ := isOpen tree rfl
  have root : at? [] (Json.obj fields) = some (Json.obj fields) := rfl
  simp only [Leaf.readIn, Leaf.logLevel, Leaf.backend, Leaf.shutdownSeconds, root,
    ← withDefault_table fields _ _ _ false]
  rfl

theorem read_scheduler (isOpen : IsOpen (at? schedulerPlace tree)) :
    readOr SchedulerConfig.ofAny? .initial (at? schedulerPlace tree) = (do
      return {
        chunkMinutes := ← Leaf.chunkMinutes.readIn SchedulerConfig.initial.chunkMinutes tree
        loadMinutes := ← Leaf.loadMinutes.readIn SchedulerConfig.initial.loadMinutes tree
        forceExpired := ← Leaf.forceExpired.readIn SchedulerConfig.initial.forceExpired tree
        toleranceMs := ← Leaf.toleranceMs.readIn SchedulerConfig.initial.toleranceMs tree
        retry := ← readOr RetryPolicy.ofAny? .initial ((at? schedulerPlace tree).bind (at? ["retry"])) }) := by
  simp only [Leaf.readIn, Leaf.chunkMinutes, Leaf.loadMinutes, Leaf.forceExpired, Leaf.toleranceMs]
  cases held : at? schedulerPlace tree with
  | none => rfl
  | some value =>
    obtain ⟨fields, rfl, _⟩ := isOpen value held
    simp only [← withDefault_table fields _ _ _ false]
    rfl

theorem read_retry (isOpen : IsOpen (at? retryPlace tree)) :
    readOr RetryPolicy.ofAny? .initial (at? retryPlace tree) = (do
      return {
        maxRetries := ← Leaf.maxRetries.readIn RetryPolicy.initial.maxRetries tree
        backoff := ← readOr (Backoff.readWith? Json.asReal?) .initial
          ((at? retryPlace tree).bind (at? ["backoff"])) }) := by
  simp only [Leaf.readIn, Leaf.maxRetries]
  cases held : at? retryPlace tree with
  | none => rfl
  | some value =>
    obtain ⟨fields, rfl, _⟩ := isOpen value held
    simp only [← withDefault_table fields _ _ _ false]
    rfl

/-- A backoff in a table in which each name occurs once. -/
theorem readWith_table {fields : List (String × Json)} (ordered : Named.Sorted fields)
    (multiplier? : Json → Option Binary64) :
    Backoff.readWith? multiplier? (.obj fields) = (do
      match ← (fields.lookup "kind").bind Json.string? with
      | "fixed" => return .fixed (← (fields.lookup "delay_ms").bind Json.nat64?)
      | "exponential" =>
        return .exponential (← (fields.lookup "initial_ms").bind Json.nat64?)
          (← (fields.lookup "multiplier").bind multiplier?) (← (fields.lookup "max_ms").bind Json.nat64?)
      | _ => none) := by
  have record : ∀ names, (Json.obj (fields.filter (·.1 != "kind"))).record? names =
      some ⟨fun name => (fields.filter (·.1 != "kind")).lookup name, false⟩ := by
    intro names
    refine if_neg fun repeated => ?_
    obtain ⟨name, _, twice⟩ := List.any_eq_true.mp repeated
    rw [decide_eq_true_eq, List.countP_eq_length_filter,
      Named.Sorted.filter_eq (ordered.filter (·.1 != "kind")) name] at twice
    cases held : (fields.filter (·.1 != "kind")).lookup name <;> simp [held] at twice
  rw [Backoff.readWith?, Json.tagged?, ordered.filter_eq]
  cases fields.lookup "kind" with
  | none => rfl
  | some value =>
    cases value with
    | str word =>
      simp only [Option.map_some, Option.toList_some, Option.bind_eq_bind, Option.bind_some, record,
        Json.Record.required, Json.string?]
      rewrite [Named.lookup_filter (by decide), Named.lookup_filter (by decide),
        Named.lookup_filter (by decide), Named.lookup_filter (by decide)]
      rfl
    | _ => rfl

/-! ## Loading -/

/-- All assignments of the layers suit all leaves. -/
def Fitting (layers : List Layer) : Prop :=
  ∀ a ∈ layers.flatMap Layer.assignments, ∀ check ∈ checks, Suits check a

theorem builtIn_fits : builtIn.Fits := by
  decide

theorem fitting_builtIn (fits : ∀ layer ∈ layers, layer.Fits) : Fitting (builtIn :: layers) := by
  intro a member
  obtain ⟨layer, given, assigned⟩ := List.mem_flatMap.mp member
  rcases List.mem_cons.mp given with rfl | later
  · exact builtIn_fits a assigned
  · exact fits layer later a assigned

/-- What is assigned above a leaf are empty tables. -/
theorem Suits.passes_above {check : List String × (Json → Bool)} {a : Assignment} (suits : Suits check a)
    (above : place <+: check.1) (proper : place ≠ check.1) (leads : a.1 <+: place) : a.2 = .obj [] := by
  refine suits.passes (leads.trans above) fun same => proper ?_
  exact above.eq_of_length_le (same ▸ leads.length_le)

section

variable (fitting : Fitting layers)
include fitting

/-- Above backoffs no plain value stands. -/
theorem Fitting.passes (above : place <+: backoffPlace) :
    ∀ a ∈ layers.flatMap Layer.assignments, a.1 <+: place → a.2 = .obj [] := by
  intro a assigned leads
  have member : Leaf.kind.check ∈ checks := by simp [checks]
  have below : place <+: Leaf.kind.check.1 := above.trans (List.prefix_append ..)
  refine (fitting a assigned Leaf.kind.check member).passes_above below (fun same => ?_) leads
  have length := above.length_le
  rw [same] at length
  exact absurd length (by decide)

theorem Fitting.isOpen (above : place <+: backoffPlace) : IsOpen (at? place (resolve layers)) := by
  have start : IsOpen ((some (Json.obj [])).bind (at? place)) := by
    cases place with
    | nil =>
      rintro _ ⟨⟩
      exact ⟨[], rfl, List.Pairwise.nil⟩
    | cons => nofun
  have made := isOpen_assignAll (fitting.passes above) start
  rwa [← resolve_eq] at made

/-- Something stands at the place of the backoff where a layer says something of it. -/
theorem Fitting.isSome_backoff :
    (at? backoffPlace (resolve layers)).isSome = layers.any (·.enters backoffPlace) := by
  have made := isSome_assignAll (fun a assigned _ => fitting.passes List.prefix_rfl a assigned)
    (some (.obj []))
  rw [← resolve_eq, List.any_flatMap] at made
  exact made.trans (Bool.or_false _)

theorem Fitting.at_leaf (leaf : Leaf α) (member : leaf.check ∈ checks) :
    (at? leaf.table (resolve layers)).bind (at? [leaf.name]) = highest? layers leaf.place := by
  have meets : ∀ a ∈ layers.flatMap Layer.assignments, Meets leaf.place a :=
    fun a assigned => (fitting a assigned leaf.check member).toMeets
  exact (at_append ..).symm.trans
    (at_resolve meets (List.append_ne_nil_of_right_ne_nil _ (List.cons_ne_nil _ _)))

end

/-- A leaf that has a default is read as what is settled, or else as the default, of which the built-in
layer may tell the same. -/
theorem Fitting.read_leaf (fitting : Fitting (builtIn :: layers)) (leaf : Leaf α) (default : α)
    (member : leaf.check ∈ checks)
    (same : ((builtIn.sets? leaf.place).bind leaf.read).getD default = default) :
    leaf.readIn default (resolve (builtIn :: layers)) = some ((leaf.settled? layers).getD default) := by
  have readable : ∀ value, highest? (builtIn :: layers) leaf.place = some value →
      (leaf.read value).isSome :=
    fun value found => (fitting _ (mem_of_highest found) leaf.check member).reads rfl
  rw [Leaf.readIn, fitting.at_leaf leaf member, Leaf.settled?]
  rw [highest_cons] at readable ⊢
  cases found : highest? layers leaf.place with
  | some value =>
    rw [found, Option.some_or] at readable
    obtain ⟨read, answer⟩ := Option.isSome_iff_exists.mp (readable value rfl)
    rw [Option.some_or, Option.bind_some, answer, readOr, Option.elim_some, answer]
    rfl
  | none =>
    rw [found, Option.none_or] at readable
    rw [Option.none_or, Option.bind_none, Option.getD_none]
    cases built : builtIn.sets? leaf.place with
    | none => rfl
    | some value =>
      obtain ⟨read, answer⟩ := Option.isSome_iff_exists.mp (readable value built)
      rw [built, Option.bind_some, answer, Option.getD_some] at same
      rw [readOr, Option.elim_some, answer, same]

theorem Fitting.read_backoff (fitting : Fitting (builtIn :: layers)) :
    readOr (Backoff.readWith? Json.asReal?) .initial (at? backoffPlace (resolve (builtIn :: layers))) =
      settledBackoff? layers := by
  have entered := fitting.isSome_backoff
  have unset : builtIn.enters backoffPlace = false := by decide
  rw [List.any_cons, unset, Bool.false_or] at entered
  rw [settledBackoff?, ← entered]
  cases held : at? backoffPlace (resolve (builtIn :: layers)) with
  | none => rfl
  | some value =>
    obtain ⟨fields, rfl, ordered⟩ := fitting.isOpen List.prefix_rfl value held
    have field : ∀ {α : Type} (leaf : Leaf α), leaf.table = backoffPlace → leaf.check ∈ checks →
        builtIn.sets? leaf.place = none →
        (fields.lookup leaf.name).bind leaf.read = leaf.settled? layers := by
      intro α leaf inside member unset
      have found := fitting.at_leaf leaf member
      rw [inside, held, bind_at_table, highest_cons, unset, Option.or_none] at found
      rw [found, Leaf.settled?]
    rw [readOr, Option.elim_some, readWith_table ordered, Option.isSome_some, if_pos rfl,
      ← field Leaf.kind rfl (by simp [checks]) rfl, ← field Leaf.delayMs rfl (by simp [checks]) rfl,
      ← field Leaf.initialMs rfl (by simp [checks]) rfl,
      ← field Leaf.multiplier rfl (by simp [checks]) rfl, ← field Leaf.maxMs rfl (by simp [checks]) rfl]
    rfl

/-- The settings that layers make up. -/
theorem Fitting.ofAny_resolve (fitting : Fitting (builtIn :: layers)) :
    ofAny? (resolve (builtIn :: layers)) = (settledBackoff? layers).map (settled layers) := by
  have scheduler : schedulerPlace <+: backoffPlace := ⟨["retry", "backoff"], rfl⟩
  have retry : retryPlace <+: backoffPlace := ⟨["backoff"], rfl⟩
  rw [read_settings (fitting.isOpen List.nil_prefix), ← at_append,
    show [] ++ ["scheduler"] = schedulerPlace from rfl, read_scheduler (fitting.isOpen scheduler),
    ← at_append, ← retryPlace, read_retry (fitting.isOpen retry), ← at_append, ← backoffPlace,
    fitting.read_backoff, fitting.read_leaf Leaf.logLevel initial.logLevel (by simp [checks]) rfl,
    fitting.read_leaf Leaf.backend initial.backend (by simp [checks]) rfl,
    fitting.read_leaf Leaf.shutdownSeconds initial.shutdownSeconds (by simp [checks]) rfl,
    fitting.read_leaf Leaf.chunkMinutes SchedulerConfig.initial.chunkMinutes (by simp [checks]) rfl,
    fitting.read_leaf Leaf.loadMinutes SchedulerConfig.initial.loadMinutes (by simp [checks]) rfl,
    fitting.read_leaf Leaf.forceExpired SchedulerConfig.initial.forceExpired (by simp [checks]) rfl,
    fitting.read_leaf Leaf.toleranceMs SchedulerConfig.initial.toleranceMs (by simp [checks]) rfl,
    fitting.read_leaf Leaf.maxRetries RetryPolicy.initial.maxRetries (by simp [checks]) rfl]
  cases settledBackoff? layers <;> rfl

/-- Whatever the reader of files makes of them: if the sources can be read, and each sets whichever leaves it
likes to values that can be read, then settings are loaded with every leaf as the highest layer that sets it
has it, or as it is built in where none does; with a backoff as the layers make it up, if any says something
of it; and only if the scheduler's configuration that comes of it is valid. They cannot be read if a layer
says something of the backoff, but none tells its kind, or none a field that this kind needs. -/
theorem leaves_have_the_values_of_the_highest_layers {reader : FileReader} {files : Files}
    {usual : String} {named? : Option String} {environment : List (String × String)}
    (read : layers? reader files usual named? environment = some (builtIn :: layers))
    (fits : ∀ layer ∈ layers, layer.Fits) :
    loadWith reader files usual named? environment =
      match settledBackoff? layers with
      | none => .error .unreadable
      | some backoff =>
        (settled layers backoff).scheduler.validate.map fun _ => settled layers backoff := by
  rw [loadWith, read, Option.bind_some, (fitting_builtIn fits).ofAny_resolve]
  cases settledBackoff? layers <;> rfl

/-- A backoff that is set as fixed in one file, and given another length by the environment. -/
theorem leaves_have_the_values_of_the_highest_layers_around_a_backoff :
    load
      [("config.toml",
          "log_level = \"warn\"\n[scheduler.retry.backoff]\nkind = \"fixed\"\ndelay_ms = 250\n"),
        ("given.toml", "[scheduler.retry]\nmax_retries = 7\n")]
      "config" (some "given.toml")
      [("TIMER_SCHEDULER__RETRY__BACKOFF__DELAY_MS", "90"), ("TIMER_LOG_LEVEL", "debug")] =
      .ok { initial with
        logLevel := "debug"
        scheduler := { SchedulerConfig.initial with retry := ⟨7, .fixed 90⟩ } } :=
  (leaves_have_the_values_of_the_highest_layers
    (show layers? tomlOrJson _ _ _ _ = some (builtIn :: [
      [(["log_level"], .str "warn"), (["scheduler"], .obj [("retry", .obj [("backoff",
        .obj [("delay_ms", .int 250), ("kind", .str "fixed")])])])],
      [(["scheduler"], .obj [("retry", .obj [("max_retries", .int 7)])])],
      [(["scheduler", "retry", "backoff", "delay_ms"], .int 90), (["log_level"], .str "debug")]])
      by decide +kernel)
    (by decide)).trans rfl

/-- If all that is set is the longest wait of an exponential backoff, its other fields do not take the values
that are built in, although the backoff would be valid with them. -/
theorem backoffs_set_in_part_are_refused :
    let environment := [("TIMER_SCHEDULER__RETRY__BACKOFF__MAX_MS", "90000")]
    let layer : Layer := [(["scheduler", "retry", "backoff", "max_ms"], .int 90000)]
    let backoff : Backoff := .exponential 1000 (.ofInt 2) 90000
    layers? tomlOrJson [] "config" none environment = some [builtIn, [], [], layer] ∧ layer.Fits ∧
      Leaf.maxMs.settled? [[], [], layer] = some 90000 ∧
      Backoff.initial = .exponential 1000 (.ofInt 2) 60000 ∧
      (settled [[], [], layer] backoff).scheduler.validate = .ok () ∧
      load [] "config" none environment = .error .unreadable :=
  ⟨by decide +kernel, by decide, rfl, rfl, rfl, rfl⟩

end Settings

end Punctual
