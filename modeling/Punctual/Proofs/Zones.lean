import Punctual.Zone

/-!
Offsets and the local times that they show. The spans of a zone follow each other in time, so the first
span that shows a local time shows it no later than any other.
-/
namespace Punctual

variable {offset second last : Int} {start? : Option Int} {changes : List OffsetChange}

namespace OffsetChange

/-- The offset in force at a second, from a first offset and the changes after it. -/
def inForce (offset second : Int) (changes : List OffsetChange) : Int :=
  changes.foldl (fun offset c => if c.instant ≤ second then c.offset else offset) offset

/-- Changes are three days apart. -/
theorem apart_of_steady (steady : areSteady offset (some last) changes = true) :
    ∀ c ∈ changes, last + 3 * 86400 ≤ c.instant := by
  induction changes generalizing offset last with
  | nil => exact fun _ member => nomatch member
  | cons c rest ih =>
    simp only [areSteady, Option.all_some, Bool.and_eq_true, decide_eq_true_eq] at steady
    intro other member
    rcases List.mem_cons.mp member with rfl | member
    · exact steady.1.2
    · have after := ih steady.2 other member
      omega

/-- Changes follow each other in time. -/
theorem later_of_steady (steady : areSteady offset (some last) changes = true) :
    ∀ c ∈ changes, last < c.instant := by
  intro c member
  have apart := apart_of_steady steady c member
  omega

/-- Before the changes the first offset is in force. -/
theorem inForce_before (later : ∀ c ∈ changes, second < c.instant) :
    inForce offset second changes = offset := by
  induction changes with
  | nil => rfl
  | cons c rest ih =>
    have unchanged : ¬ c.instant ≤ second := Int.not_le.mpr (later c List.mem_cons_self)
    rw [inForce, List.foldl_cons, if_neg unchanged]
    exact ih fun other member => later other (List.mem_cons_of_mem c member)

/-- No change is to an offset of a day or more. -/
theorem bounded_of_steady {last? : Option Int} (steady : areSteady offset last? changes = true) :
    ∀ c ∈ changes, -86400 < c.offset ∧ c.offset < 86400 := by
  induction changes generalizing offset last? with
  | nil => exact fun _ member => nomatch member
  | cons c rest ih =>
    simp only [areSteady, Bool.and_eq_true, decide_eq_true_eq] at steady
    intro other member
    rcases List.mem_cons.mp member with rfl | member
    · exact steady.1.1.1
    · exact ih steady.2 other member

theorem inForce_bounded (bounded : -86400 < offset ∧ offset < 86400)
    (changed : ∀ c ∈ changes, -86400 < c.offset ∧ c.offset < 86400) :
    -86400 < inForce offset second changes ∧ inForce offset second changes < 86400 := by
  induction changes generalizing offset with
  | nil => exact bounded
  | cons c rest ih =>
    have later : ∀ c ∈ rest, -86400 < c.offset ∧ c.offset < 86400 := fun other member =>
      changed other (List.mem_cons_of_mem c member)
    rw [inForce, List.foldl_cons]
    by_cases reached : c.instant ≤ second
    · rw [if_pos reached]
      exact ih (changed c List.mem_cons_self) later
    · rw [if_neg reached]
      exact ih bounded later

end OffsetChange

open OffsetChange

/-- A local time that a second shows is shown first under an offset no less than that in force at the
second, so no later than by the second. -/
theorem OffsetSpan.first_showing (last? : Option Int)
    (steady : areSteady offset last? changes = true) (begun : start?.all (· ≤ second) = true) :
    ∃ first, ((ofChanges start? offset changes).filter fun span =>
        span.contains (second + inForce offset second changes - span.offset)).head? = some first ∧
      inForce offset second changes ≤ first.offset := by
  induction changes generalizing offset start? last? with
  | nil =>
    refine ⟨⟨start?, none, offset⟩, ?_, Int.le_refl _⟩
    simp [ofChanges, inForce, contains, begun]
  | cons c rest ih =>
    simp only [areSteady, Bool.and_eq_true, decide_eq_true_eq] at steady
    rw [ofChanges, List.filter_cons]
    by_cases changed : c.instant ≤ second
    · have onward : inForce offset second (c :: rest) = inForce c.offset second rest := by
        rw [inForce, List.foldl_cons, if_pos changed]
        rfl
      rw [onward]
      split
      · -- shown before the change already, hence under a greater offset
        rename_i shown
        simp only [contains, Option.all_some, Bool.and_eq_true, decide_eq_true_eq] at shown
        exact ⟨_, rfl, by dsimp only; omega⟩
      · exact ih (some c.instant) steady.2 (by simpa using changed)
    · have still : inForce offset second (c :: rest) = offset := by
        refine inForce_before fun other member => ?_
        rcases List.mem_cons.mp member with rfl | member
        · omega
        · have after := later_of_steady steady.2 other member
          omega
      rw [still]
      have shown : contains ⟨start?, some c.instant, offset⟩ (second + offset - offset) = true := by
        simp only [contains, Option.all_some, Bool.and_eq_true, decide_eq_true_eq]
        rw [Int.add_sub_cancel]
        exact ⟨begun, by omega⟩
      rw [if_pos shown]
      exact ⟨_, rfl, Int.le_refl _⟩

/-- The local time of an instant is shown first no later than at the instant. -/
theorem Zone.first_showing (z : Zone) (t : Instant) :
    ∃ first, (z.offsetsShowing (z.toLocal t)).head? = some first ∧ z.offsetAt t.second ≤ first := by
  have begun : (none : Option Int).all (· ≤ t.second) = true := rfl
  obtain ⟨span, found, bound⟩ := OffsetSpan.first_showing none z.steady begun
  exact ⟨span.offset, by rw [offsetsShowing, List.head?_map]; exact congrArg _ found, bound⟩

/-- Each span has the first offset or one that a change leads to. -/
theorem OffsetSpan.bounded_of_mem (bounded : -86400 < offset ∧ offset < 86400)
    (changed : ∀ c ∈ changes, -86400 < c.offset ∧ c.offset < 86400) :
    ∀ span ∈ ofChanges start? offset changes, -86400 < span.offset ∧ span.offset < 86400 := by
  induction changes generalizing start? offset with
  | nil =>
    intro span member
    obtain rfl := List.mem_singleton.mp member
    exact bounded
  | cons c rest ih =>
    intro span member
    rcases List.mem_cons.mp member with rfl | member
    · exact bounded
    · exact ih (changed c List.mem_cons_self)
        (fun other later => changed other (List.mem_cons_of_mem c later)) span member

theorem Zone.offsetsShowing_bounded {z : Zone} {l : LocalTime}
    (shown : (z.offsetsShowing l).head? = some offset) : -86400 < offset ∧ offset < 86400 := by
  obtain ⟨span, member, rfl⟩ := List.mem_map.mp (List.mem_of_head? shown)
  exact OffsetSpan.bounded_of_mem z.initial_bounded (bounded_of_steady z.steady) span
    (List.mem_filter.mp member).1

/-- Local time is less than a day from UTC. -/
theorem Zone.offsetAt_bounded (z : Zone) (second : Int) :
    -86400 < z.offsetAt second ∧ z.offsetAt second < 86400 :=
  inForce_bounded z.initial_bounded (bounded_of_steady z.steady)

end Punctual
