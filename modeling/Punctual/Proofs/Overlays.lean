import Punctual.Proofs.Encodings
import Punctual.Settings.Layer

/-!
What layers make up, place by place. A layer comes down to assignments, each of a plain value or of an
empty table to one place, which are made one after the other. An assignment is seen at its own place and
below it. It is also seen above it, where it leaves a table; and nowhere else, unless it puts a plain
value where other places lead through.
-/
namespace Punctual

namespace Named

variable {α : Type} {name : String} {value : α} {entries : List (String × α)}

theorem lookup_cons {κ : Type} [DecidableEq κ] [BEq κ] [LawfulBEq κ] (entry : κ × α)
    (rest : List (κ × α)) (name : κ) :
    (entry :: rest).lookup name = if name = entry.1 then some entry.2 else rest.lookup name := by
  rw [List.lookup_cons]
  by_cases same : name = entry.1
  · rw [if_pos same, beq_iff_eq.mpr same]
  · rw [if_neg same, beq_eq_false_iff_ne.mpr same]

theorem lookup_insert (name other : String) (value : α) (entries : List (String × α)) :
    (insert name value entries).lookup other =
      if other = name then some value else entries.lookup other := by
  fun_induction insert name value entries with
  | case1 => exact lookup_cons ..
  | case2 =>
    rw [lookup_cons, lookup_cons]
    split <;> rfl
  | case3 => exact lookup_cons ..
  | case4 first old rest different _ ih =>
    rw [lookup_cons, lookup_cons, ih]
    by_cases same : other = first
    · have apart : other ≠ name := fun equal => different (equal.symm.trans same)
      rw [if_pos same, if_neg apart, if_pos same]
    · rw [if_neg same, if_neg same]

/-- Of two values put in one place, the second stays. -/
theorem insert_insert (name : String) (value old : α) (entries : List (String × α)) :
    insert name value (insert name old entries) = insert name value entries := by
  fun_induction insert name old entries with
  | case1 => simp [insert]
  | case2 => simp [insert]
  | case3 other _ _ different before => simp [insert, different, before]
  | case4 other _ _ different notBefore ih => simp [insert, different, notBefore, ih]

theorem lookup_filter {tag : String} (other : name ≠ tag) :
    (entries.filter (·.1 != tag)).lookup name = entries.lookup name := by
  induction entries with
  | nil => rfl
  | cons entry rest ih =>
    by_cases tagged : entry.1 = tag
    · have apart : name ≠ entry.1 := fun same => other (same.trans tagged)
      rw [List.filter_cons_of_neg (by simpa using tagged), ih, lookup_cons, if_neg apart]
    · rw [List.filter_cons_of_pos (by simpa using tagged), lookup_cons, lookup_cons, ih]

/-- Under no name is there more than one value. -/
theorem Sorted.filter_eq (ordered : Sorted entries) (name : String) :
    entries.filter (·.1 == name) = ((entries.lookup name).map (name, ·)).toList := by
  induction entries with
  | nil => rfl
  | cons entry rest ih =>
    obtain ⟨first, later⟩ := List.pairwise_cons.mp ordered
    by_cases same : name = entry.1
    · have none : rest.filter (·.1 == name) = [] := by
        refine List.filter_eq_nil_iff.mpr fun other member equal => ?_
        have after := first other member
        rw [← same, beq_iff_eq.mp equal] at after
        exact String.lt_irrefl _ after
      rw [List.filter_cons_of_pos (by simp [same]), none, lookup_cons, if_pos same, same]
      rfl
    · have apart : ¬ entry.1 = name := fun equal => same equal.symm
      rw [List.filter_cons_of_neg (by simpa using apart), ih later, lookup_cons, if_neg same]

end Named

namespace Settings

variable {place seen : List String} {value : Json} {old? : Option Json}

/-! ## Single assignments -/

/-- A value and the place where it is to stand. -/
abbrev Assignment := List String × Json

/-- Puts a value in a place whose names are told exactly. -/
def assign : List String → Json → Option Json → Json
  | [], value, old? => layOver old? value
  | name :: place, value, old? =>
    .obj (Named.insert name (assign place value ((fieldsOf old?).lookup name)) (fieldsOf old?))

/-- Assignments one after another. -/
def assignAll (old? : Option Json) (assignments : List Assignment) : Option Json :=
  assignments.foldl (fun old? a => some (assign a.1 a.2 old?)) old?

/-- The assignment as seen from further out. -/
def under (place : List String) (a : Assignment) : Assignment := (place ++ a.1, a.2)

mutual

/-- What laying a value over another comes down to. A table is made before what it holds. -/
def assignmentsOf : Json → List Assignment
  | .obj fields => ([], .obj []) :: fieldAssignments fields
  | .null => [([], .null)]
  | .bool b => [([], .bool b)]
  | .int n => [([], .int n)]
  | .real x => [([], .real x)]
  | .str s => [([], .str s)]
  | .arr items => [([], .arr items)]

/-- The assignments that fields amount to. -/
def fieldAssignments : List (String × Json) → List Assignment
  | [] => []
  | (name, value) :: rest =>
    (assignmentsOf value).map (under [Text.lowerCase name]) ++ fieldAssignments rest

end

/-- The assignments that a layer amounts to. -/
def Layer.assignments (layer : Layer) : List Assignment :=
  layer.flatMap fun entry => (assignmentsOf entry.2).map (under (entry.1.map Text.lowerCase))

/-! ## Layers as assignments -/

theorem assignAll_append (old? : Option Json) (first second : List Assignment) :
    assignAll old? (first ++ second) = assignAll (assignAll old? first) second :=
  List.foldl_append ..

theorem assignmentsOf_ne_nil (value : Json) : assignmentsOf value ≠ [] := by
  cases value <;> nofun

/-- Assignments below one name are made in what stands there. -/
theorem assignAll_under (name : String) {assignments : List Assignment} (some? : assignments ≠ []) :
    assignAll old? (assignments.map (under [name])) =
      (assignAll ((fieldsOf old?).lookup name) assignments).map fun value =>
        .obj (Named.insert name value (fieldsOf old?)) := by
  induction assignments generalizing old? with
  | nil => exact absurd rfl some?
  | cons a rest ih =>
    have first : assign (under [name] a).1 (under [name] a).2 old? =
        .obj (Named.insert name (assign a.1 a.2 ((fieldsOf old?).lookup name)) (fieldsOf old?)) := rfl
    cases rest with
    | nil => rfl
    | cons b rest =>
      rw [List.map_cons, assignAll, List.foldl_cons, ← assignAll, first, ih (List.cons_ne_nil b rest),
        fieldsOf, Named.lookup_insert, if_pos rfl]
      simp only [Named.insert_insert]
      rfl

mutual

theorem layOver_eq (old? : Option Json) (value : Json) :
    some (layOver old? value) = assignAll old? (assignmentsOf value) := by
  cases value with
  | obj fields =>
    rw [layOver, layFieldsOver_eq, assignmentsOf, assignAll, assignAll, List.foldl_cons]
    rfl
  | _ => rfl

theorem layFieldsOver_eq (old : Json) (fields : List (String × Json)) :
    some (layFieldsOver old fields) = assignAll (some old) (fieldAssignments fields) := by
  match fields with
  | [] => rfl
  | (name, value) :: rest =>
    rw [layFieldsOver, layFieldsOver_eq, fieldAssignments, assignAll_append,
      assignAll_under _ (assignmentsOf_ne_nil value), ← layOver_eq]
    rfl

end

theorem put_eq (place : List String) (value : Json) (old? : Option Json) :
    some (put place value old?) =
      assignAll old? ((assignmentsOf value).map (under (place.map Text.lowerCase))) := by
  induction place generalizing old? with
  | nil =>
    rw [put, layOver_eq]
    exact congrArg _ (List.map_id _).symm
  | cons name place ih =>
    have nested : (assignmentsOf value).map (under ((name :: place).map Text.lowerCase)) =
        ((assignmentsOf value).map (under (place.map Text.lowerCase))).map
          (under [Text.lowerCase name]) := by
      rw [List.map_map]
      rfl
    have some? : (assignmentsOf value).map (under (place.map Text.lowerCase)) ≠ [] :=
      fun none => assignmentsOf_ne_nil value (List.map_eq_nil_iff.mp none)
    rw [nested, assignAll_under _ some?, ← ih]
    rfl

theorem overlay_eq (tree : Json) (layer : Layer) :
    some (overlay tree layer) = assignAll (some tree) layer.assignments := by
  induction layer generalizing tree with
  | nil => rfl
  | cons entry rest ih =>
    rw [overlay, List.foldl_cons, ← overlay, ih, put_eq, ← assignAll_append]
    rfl

theorem foldl_overlay_eq (tree : Json) (layers : List Layer) :
    some (layers.foldl overlay tree) = assignAll (some tree) (layers.flatMap Layer.assignments) := by
  induction layers generalizing tree with
  | nil => rfl
  | cons layer rest ih =>
    rw [List.foldl_cons, ih, overlay_eq, ← assignAll_append]
    rfl

/-! ## What is seen of an assignment -/

theorem bind_at_cons (name : String) (place : List String) (old? : Option Json) :
    old?.bind (at? (name :: place)) = ((fieldsOf old?).lookup name).bind (at? place) := by
  cases old? <;> rfl

theorem at_append (first second : List String) (tree : Json) :
    at? (first ++ second) tree = (at? first tree).bind (at? second) := by
  induction first generalizing tree with
  | nil => rfl
  | cons name first ih =>
    rw [List.cons_append, at?, at?, Option.bind_assoc]
    exact Option.bind_congr fun inner _ => ih inner

theorem at_assign_append (seen place : List String) (value : Json) (old? : Option Json) :
    at? seen (assign (seen ++ place) value old?) =
      some (assign place value (old?.bind (at? seen))) := by
  induction seen generalizing old? with
  | nil => cases old? <;> rfl
  | cons name seen ih =>
    rw [List.cons_append, assign, at?, fieldsOf, Named.lookup_insert, if_pos rfl, bind_at_cons]
    exact ih _

/-- An assignment that leads elsewhere, or makes a table on the way, is not seen. -/
theorem at_assign_elsewhere (apart : ¬ seen <+: place) (passes : place <+: seen → value = .obj []) :
    at? seen (assign place value old?) = old?.bind (at? seen) := by
  induction place generalizing seen old? with
  | nil =>
    cases passes (List.nil_prefix)
    cases seen with
    | nil => exact absurd List.nil_prefix apart
    | cons name seen => cases old? <;> rfl
  | cons name place ih =>
    cases seen with
    | nil => exact absurd List.nil_prefix apart
    | cons first seen =>
      rw [assign, at?, fieldsOf, Named.lookup_insert, bind_at_cons]
      split
      · rename_i same
        subst same
        exact ih (fun leads => apart ((List.prefix_cons_inj first).mpr leads))
          (fun leads => passes ((List.prefix_cons_inj first).mpr leads))
      · rfl

/-! ## What is seen of many -/

/-- A table or another value. -/
def isTable : Json → Bool
  | .obj _ => true
  | _ => false

/-- Nothing, or a table in which each name occurs once. -/
def IsOpen (old? : Option Json) : Prop :=
  ∀ value, old? = some value → ∃ fields, value = .obj fields ∧ Named.Sorted fields

/-- If the assignment is to the place, it is of a plain value; if to a place on the way there, of an empty
table; and it is to no place below. -/
structure Meets (place : List String) (a : Assignment) : Prop where
  plain : a.1 = place → isTable a.2 = false
  passes : a.1 <+: place → a.1 ≠ place → a.2 = .obj []
  above : place <+: a.1 → a.1 = place

theorem layOver_plain (old? : Option Json) (plain : isTable value = false) :
    layOver old? value = value := by
  cases value with
  | obj fields => cases plain
  | _ => rfl

theorem fieldsOf_sorted (isOpen : IsOpen old?) : Named.Sorted (fieldsOf old?) := by
  cases old? with
  | none => exact List.Pairwise.nil
  | some value =>
    obtain ⟨fields, rfl, ordered⟩ := isOpen value rfl
    exact ordered

/-- Where plain values stand, the last that was assigned stands. -/
theorem at_assignAll {assignments : List Assignment} (meets : ∀ a ∈ assignments, Meets place a)
    (old? : Option Json) : (assignAll old? assignments).bind (at? place) =
      (assignments.reverse.lookup place).or (old?.bind (at? place)) := by
  induction assignments generalizing old? with
  | nil => rfl
  | cons a rest ih =>
    have last : (at? place (assign a.1 a.2 old?)) =
        ([a].lookup place).or (old?.bind (at? place)) := by
      have here := meets a List.mem_cons_self
      rw [Named.lookup_cons]
      split
      · rename_i same
        have own := at_assign_append place [] a.2 old?
        rw [List.append_nil, assign, layOver_plain _ (here.plain same.symm)] at own
        rw [← same, own]
        rfl
      · rename_i other
        exact at_assign_elsewhere (fun below => other (here.above below).symm)
          (fun leads => here.passes leads fun same => other same.symm)
    rw [assignAll, List.foldl_cons, ← assignAll, ih fun b member => meets b (List.mem_cons_of_mem a member),
      Option.bind_some, last, List.reverse_cons, List.lookup_append, Option.or_assoc]

/-- What is assigned at a place or below it is seen there, if no plain value gets in the way. -/
theorem isSome_assignAll {assignments : List Assignment}
    (passes : ∀ a ∈ assignments, ¬ place <+: a.1 → a.1 <+: place → a.2 = .obj []) (old? : Option Json) :
    ((assignAll old? assignments).bind (at? place)).isSome =
      (assignments.any (fun a => place <+: a.1) || (old?.bind (at? place)).isSome) := by
  induction assignments generalizing old? with
  | nil => rfl
  | cons a rest ih =>
    rw [assignAll, List.foldl_cons, ← assignAll, ih fun b member => passes b (List.mem_cons_of_mem a member),
      Option.bind_some, List.any_cons]
    by_cases leads : place <+: a.1
    · obtain ⟨below, same⟩ := leads
      rw [← same, at_assign_append]
      simp
    · rw [at_assign_elsewhere leads (passes a List.mem_cons_self leads), decide_eq_false leads,
        Bool.false_or]

/-- A place at which only empty tables are assigned stays open. -/
theorem isOpen_assignAll {assignments : List Assignment}
    (passes : ∀ a ∈ assignments, a.1 <+: place → a.2 = .obj [])
    (isOpen : IsOpen (old?.bind (at? place))) :
    IsOpen ((assignAll old? assignments).bind (at? place)) := by
  induction assignments generalizing old? with
  | nil => exact isOpen
  | cons a rest ih =>
    refine ih (fun b member => passes b (List.mem_cons_of_mem a member)) ?_
    rw [Option.bind_some]
    by_cases leads : place <+: a.1
    · obtain ⟨below, same⟩ := leads
      rw [← same, at_assign_append]
      rintro _ ⟨⟩
      cases below with
      | nil =>
        rw [List.append_nil] at same
        rw [passes a List.mem_cons_self (same ▸ List.prefix_rfl), assign, layOver, layFieldsOver]
        cases held : old?.bind (at? place) with
        | none => exact ⟨[], rfl, List.Pairwise.nil⟩
        | some value => exact isOpen value held
      | cons name below => exact ⟨_, rfl, Named.insert_sorted (fieldsOf_sorted isOpen)⟩
    · rw [at_assign_elsewhere leads (passes a List.mem_cons_self)]
      exact isOpen

end Settings

end Punctual
