import Mathlib.Data.List.Nodup
import Punctual.Proofs.Bookkeeping

/-!
How timers end. A timer that elapses, a caller that disarms it and a shutdown that drops it race for
the one entry that the service keeps of it, and whoever takes the entry decides what became of the
timer. The steps here are the ones that may come between one another. A request to arm looks whether
the service is open and enters its timer later; a shutdown closes the service and then drops the
timers one part of the table after the other. In between, timers elapse and are disarmed. The history
of a service tells what it gave out and how each of it ended, by the answers of the service's calls.
-/
namespace Punctual

/-- How a timer ended. -/
inductive Fate (α : Type)
  /-- it elapsed or was fired, and handed this over -/
  | began (payload : α)
  /-- a request to disarm it was told that it had been pending -/
  | disarmed
  /-- a shutdown found it pending -/
  | dropped
deriving DecidableEq, Repr

/-- A step of a timer service. -/
inductive TimerStep (α : Type)
  /-- a caller that is about to arm looks whether the service is open -/
  | look
  /-- a caller that found the service open enters its timer -/
  | enter (clock : Clock) (delay : Nat) (payload : α)
  | disarm (handle : Handle)
  /-- the timer elapses by itself or is fired -/
  | elapse (number : Nat)
  /-- a shutdown begins -/
  | close
  /-- a shutdown drops the timers in one part of the table -/
  | sweep (part : Nat → Bool)

/-- A timer service and what it has done, the oldest first. -/
structure TimerHistory (α : Type) where
  timers : Timers α
  /-- callers that found the service open and are yet to enter their timer -/
  admitted : Nat
  /-- handles given out, each with what its timer is to hand over -/
  armed : List (Handle × α)
  ended : List (Handle × Fate α)

namespace Timers

variable {α : Type}

/-- A caller that is about to arm goes on. -/
def isOpen (t : Timers α) : Bool := !(t.service = .sleeping && t.isShutDown)

/-- In arm order, what is pending. -/
def entries (t : Timers α) : List (Handle × α) :=
  t.pending.map fun timer => (.issued timer.handle, timer.payload)

theorem filter_handle {t : Timers α} (numbered : t.Numbered) (n : Nat) :
    t.pending.filter (·.handle == n) = (t.find? n).toList := by
  have distinct := numbered.distinct
  unfold find?
  generalize t.pending = pending at distinct
  induction pending with
  | nil => rfl
  | cons first rest ih =>
    obtain ⟨apart, distinct⟩ := List.nodup_cons.mp distinct
    by_cases same : first.handle = n
    · have others : rest.filter (·.handle == n) = [] := by
        refine List.filter_eq_nil_iff.mpr fun other listed named => apart ?_
        exact List.mem_map.mpr ⟨other, listed, (beq_iff_eq.mp named).trans same.symm⟩
      simp [same, others]
    · simp [same, ih distinct]

end Timers

namespace TimerHistory

variable {α : Type} {g h : TimerHistory α}

/-- A service that has armed nothing. -/
def ofService (service : TimerService) : TimerHistory α := ⟨.ofService service, 0, [], []⟩

/-- The fates that a handle's timer has met. -/
def fates (h : TimerHistory α) (handle : Handle) : List (Fate α) :=
  (h.ended.filter (·.1 = handle)).map (·.2)

/-- In arm order, the timers that have not met their fate. -/
def fateless (h : TimerHistory α) : List (Handle × α) :=
  h.armed.filter fun entry => (h.fates entry.1).isEmpty

/-- A caller that found the service open does not look again, and so a shutdown that has begun
meanwhile does not keep it from entering its timer. -/
def enter (h : TimerHistory α) (clock : Clock) (delay : Nat) (payload : α) : TimerHistory α :=
  match { h.timers with isShutDown := false }.arm clock delay payload with
  | (.ok n, timers) =>
    { h with
      timers := { timers with isShutDown := h.timers.isShutDown }
      admitted := h.admitted - 1
      armed := h.armed ++ [(.issued n, payload)] }
  | (.error _, _) => h

/-- Takes a step. It has no effect where nobody could take it: a timer is entered only by a caller
that was admitted, and dropped only by a shutdown that has begun. -/
def take (h : TimerHistory α) : TimerStep α → TimerHistory α
  | .look => if h.timers.isOpen then { h with admitted := h.admitted + 1 } else h
  | .enter clock delay payload => if h.admitted = 0 then h else h.enter clock delay payload
  | .disarm handle =>
    let (wasPending, timers) := h.timers.disarm handle
    { h with timers, ended := h.ended ++ if wasPending then [(handle, .disarmed)] else [] }
  | .elapse n =>
    let (payload?, timers) := h.timers.elapse n
    { h with timers, ended := h.ended ++ payload?.toList.map fun payload => (.issued n, .began payload) }
  | .close => { h with timers := { h.timers with isShutDown := true } }
  | .sweep part =>
    if h.timers.isShutDown then
      let gone := h.timers.pending.filter (part ·.handle)
      { h with
        timers := { h.timers with pending := h.timers.pending.filter (!part ·.handle) }
        ended := h.ended ++ gone.map fun timer => (.issued timer.handle, .dropped) }
    else h

/-- Steps one after another. -/
def run (h : TimerHistory α) (steps : List (TimerStep α)) : TimerHistory α := steps.foldl take h

/-! ## What every step keeps -/

/-- The history of the service and the entries it keeps tell the same. -/
structure Accounted (h : TimerHistory α) : Prop where
  waits : h.timers.service ≠ .polling
  unstaged : h.timers.failures = 0
  numbered : h.armed.map (·.1) = (List.range' 1 h.timers.issued).map .issued
  entries : h.timers.entries = h.fateless
  once : ∀ handle, (h.fates handle).length ≤ 1
  given : ∀ handle, h.fates handle ≠ [] → handle ∈ h.armed.map (·.1)
  handed : ∀ handle payload, .began payload ∈ h.fates handle → (handle, payload) ∈ h.armed

theorem accounted_ofService {service : TimerService} (waits : service ≠ .polling) :
    Accounted (ofService service : TimerHistory α) where
  waits := waits
  unstaged := rfl
  numbered := rfl
  entries := rfl
  once _ := Nat.zero_le 1
  given _ met := absurd rfl met
  handed _ _ began := by cases began

theorem Accounted.distinct (accounted : Accounted h) : (h.armed.map (·.1)).Nodup := by
  rw [accounted.numbered]
  refine List.Nodup.map (fun m n same => ?_) List.nodup_range'
  cases same
  rfl

theorem Accounted.timersNumbered (accounted : Accounted h) : h.timers.Numbered := by
  have kept : (h.timers.pending.map fun timer => Handle.issued timer.handle).Sublist
      ((List.range' 1 h.timers.issued).map .issued) := by
    rw [← accounted.numbered]
    have shorter : (h.timers.entries.map (·.1)).Sublist (h.armed.map (·.1)) := by
      rw [accounted.entries]
      exact List.filter_sublist.map _
    simpa [Timers.entries, Function.comp_def] using shorter
  constructor
  · intro timer member
    have issued := kept.subset (List.mem_map_of_mem member)
    simp only [List.mem_map, List.mem_range'_1, Handle.issued.injEq, exists_eq_right] at issued
    omega
  · have distinct : (h.timers.pending.map fun timer => Handle.issued timer.handle).Nodup :=
      (accounted.numbered ▸ accounted.distinct).sublist kept
    rw [show (h.timers.pending.map fun timer => Handle.issued timer.handle) =
      (h.timers.pending.map (·.handle)).map .issued by simp] at distinct
    exact List.Nodup.of_map _ distinct

/-- A timer is pending exactly if it was armed and has met no fate. -/
theorem Accounted.payload_iff (accounted : Accounted h) (handle : Handle) (payload : α) :
    h.timers.payload? handle = some payload ↔ (handle, payload) ∈ h.armed ∧ h.fates handle = [] := by
  have entry : (handle, payload) ∈ h.timers.entries ↔
      (handle, payload) ∈ h.armed ∧ h.fates handle = [] := by
    rw [accounted.entries]
    simp [fateless]
  rw [← entry]
  constructor
  · intro held
    obtain ⟨timer, member, rfl, rfl⟩ := Timers.mem_of_payload held
    exact List.mem_map_of_mem member
  · intro listed
    obtain ⟨timer, member, same⟩ := List.mem_map.mp listed
    cases same
    exact Timers.payload_of_mem accounted.timersNumbered member

/-- The handle is not one of those in a part of the table. -/
def outside (part : Nat → Bool) : Handle → Bool
  | .issued n => !part n
  | .foreign _ => true

/-- The pending timers in one part of the table meet their fate; nothing else happens. -/
structure Finishes (h : TimerHistory α) (part : Nat → Bool) (fate : ArmedTimer α → Fate α)
    (g : TimerHistory α) : Prop where
  service : g.timers.service = h.timers.service
  failures : g.timers.failures = h.timers.failures
  issued : g.timers.issued = h.timers.issued
  armed : g.armed = h.armed
  pending : g.timers.pending = h.timers.pending.filter (!part ·.handle)
  ended : g.ended = h.ended ++ (h.timers.pending.filter (part ·.handle)).map fun timer =>
    (.issued timer.handle, fate timer)

variable {part : Nat → Bool} {fate : ArmedTimer α → Fate α}

/-- A timer meets its fate as its first one, or has no part in what happens. -/
theorem Finishes.fates_cases (accounted : Accounted h) (finishes : Finishes h part fate g)
    (handle : Handle) :
    (∃ timer ∈ h.timers.pending, handle = .issued timer.handle ∧ part timer.handle = true ∧
      h.fates handle = [] ∧ g.fates handle = [fate timer]) ∨
    ((∀ timer ∈ h.timers.pending, handle = .issued timer.handle → part timer.handle = false) ∧
      g.fates handle = h.fates handle) := by
  cases handle with
  | foreign id =>
    refine .inr ⟨fun _ _ same => Handle.noConfusion same, ?_⟩
    simp [TimerHistory.fates, finishes.ended, List.filter_map, Function.comp_def]
  | issued n =>
    have fates : g.fates (.issued n) =
        h.fates (.issued n) ++ ((h.timers.find? n).toList.filter (part ·.handle)).map fate := by
      rw [← Timers.filter_handle accounted.timersNumbered n, List.filter_filter]
      simp [TimerHistory.fates, finishes.ended, List.filter_map, Function.comp_def,
        List.filter_filter, Bool.and_comm, beq_eq_decide]
    cases held : h.timers.find? n with
    | none =>
      refine .inr ⟨fun timer member same => ?_, by simpa [held] using fates⟩
      have payload := Timers.payload_of_mem accounted.timersNumbered member
      rw [← same] at payload
      simp [Timers.payload?, held] at payload
    | some timer =>
      have member := List.mem_of_find?_eq_some held
      obtain rfl : timer.handle = n := by simpa using List.find?_some held
      have payload := Timers.payload_of_mem accounted.timersNumbered member
      have fresh := ((accounted.payload_iff _ _).mp payload).2
      rw [held] at fates
      cases chosen : part timer.handle with
      | true => exact .inl ⟨timer, member, rfl, chosen, fresh, by simpa [chosen, fresh] using fates⟩
      | false =>
        refine .inr ⟨fun other _ same => ?_, by simpa [chosen] using fates⟩
        rw [← Handle.issued.inj same, chosen]

/-- The end of a timer keeps the account, whatever ended it. -/
theorem Accounted.finish (accounted : Accounted h) (finishes : Finishes h part fate g)
    (truthful : ∀ timer payload, fate timer = .began payload → payload = timer.payload) :
    Accounted g where
  waits := by rw [finishes.service]; exact accounted.waits
  unstaged := by rw [finishes.failures]; exact accounted.unstaged
  numbered := by rw [finishes.armed, finishes.issued]; exact accounted.numbered
  entries := by
    have kept : g.timers.entries = h.fateless.filter (outside part ·.1) := by
      rw [← accounted.entries]
      simp [Timers.entries, finishes.pending, List.filter_map, Function.comp_def, outside]
    rw [kept, fateless, fateless, finishes.armed, List.filter_filter]
    refine List.filter_congr fun entry listed => ?_
    rcases finishes.fates_cases accounted entry.1 with
      ⟨timer, _, same, chosen, fresh, fates⟩ | ⟨unchosen, fates⟩
    · rw [fates, fresh, same]
      simp [outside, chosen]
    · rw [fates]
      cases fresh : (h.fates entry.1).isEmpty with
      | false => simp
      | true =>
        have held := (accounted.payload_iff entry.1 entry.2).mpr ⟨listed, List.isEmpty_iff.mp fresh⟩
        obtain ⟨timer, member, same, _⟩ := Timers.mem_of_payload held
        rw [same]
        simp [outside, unchosen timer member same]
  once handle := by
    rcases finishes.fates_cases accounted handle with ⟨_, _, _, _, _, fates⟩ | ⟨_, fates⟩
    · rw [fates]
      exact Nat.le_refl 1
    · rw [fates]
      exact accounted.once handle
  given handle met := by
    rw [finishes.armed]
    rcases finishes.fates_cases accounted handle with ⟨timer, member, same, _, _, _⟩ | ⟨_, fates⟩
    · have held := Timers.payload_of_mem accounted.timersNumbered member
      rw [← same] at held
      exact List.mem_map_of_mem ((accounted.payload_iff _ _).mp held).1
    · rw [fates] at met
      exact accounted.given handle met
  handed handle payload began := by
    rw [finishes.armed]
    rcases finishes.fates_cases accounted handle with ⟨timer, member, same, _, _, fates⟩ | ⟨_, fates⟩
    · rw [fates, List.mem_singleton] at began
      have held := Timers.payload_of_mem accounted.timersNumbered member
      rw [← same, ← truthful timer payload began.symm] at held
      exact ((accounted.payload_iff _ _).mp held).1
    · rw [fates] at began
      exact accounted.handed handle payload began

/-- Arming gives out a handle that nobody has had. -/
theorem Accounted.enter (accounted : Accounted h) (clock : Clock) (delay : Nat) (payload : α) :
    Accounted (h.enter clock delay payload) ∧
      (h.enter clock delay payload).armed = h.armed ++ [(.issued (h.timers.issued + 1), payload)] := by
  have unheld : Handle.issued (h.timers.issued + 1) ∉ h.armed.map (·.1) := by
    rw [accounted.numbered]
    simp only [List.mem_map, List.mem_range'_1, Handle.issued.injEq, exists_eq_right]
    omega
  have fateless : h.fates (.issued (h.timers.issued + 1)) = [] := by
    by_contra met
    exact unheld (accounted.given _ met)
  have armed : ∃ g, h.enter clock delay payload = g ∧
      g.armed = h.armed ++ [(.issued (h.timers.issued + 1), payload)] ∧ g.ended = h.ended ∧
      g.timers.service = h.timers.service ∧ g.timers.failures = h.timers.failures ∧
      g.timers.issued = h.timers.issued + 1 ∧
      g.timers.entries = h.timers.entries ++ [(.issued (h.timers.issued + 1), payload)] := by
    refine ⟨_, rfl, ?_⟩
    simp [TimerHistory.enter, Timers.arm, accounted.unstaged, Timers.entries]
  obtain ⟨g, entered, armed, ended, service, failures, issued, entries⟩ := armed
  rw [entered]
  have fates : g.fates = h.fates := by
    funext handle
    rw [TimerHistory.fates, ended, TimerHistory.fates]
  refine ⟨?_, armed⟩
  constructor
  case waits => rw [service]; exact accounted.waits
  case unstaged => rw [failures]; exact accounted.unstaged
  case numbered =>
    rw [armed, issued, List.map_append, accounted.numbered, List.range'_concat, List.map_append]
    simp [Nat.add_comm]
  case entries =>
    rw [entries, accounted.entries, TimerHistory.fateless, TimerHistory.fateless, fates, armed]
    simp [fateless]
  case once => rw [fates]; exact accounted.once
  case given =>
    intro handle met
    rw [fates] at met
    rw [armed, List.map_append]
    exact List.mem_append_left _ (accounted.given handle met)
  case handed =>
    intro handle other began
    rw [fates] at began
    rw [armed]
    exact List.mem_append_left _ (accounted.handed handle other began)

/-- Whether the service is open, and for whom, is no part of the account. -/
theorem Accounted.reopen (accounted : Accounted h) (isShutDown : Bool) (admitted : Nat) :
    Accounted { h with timers := { h.timers with isShutDown }, admitted } where
  waits := accounted.waits
  unstaged := accounted.unstaged
  numbered := accounted.numbered
  entries := accounted.entries
  once := accounted.once
  given := accounted.given
  handed := accounted.handed

theorem Accounted.disarm (accounted : Accounted h) (handle : Handle) :
    Accounted (h.take (.disarm handle)) := by
  have idle : (h.timers.disarm handle) = (false, h.timers) → Accounted (h.take (.disarm handle)) := by
    intro unknown
    simpa [take, unknown] using accounted
  cases handle with
  | foreign id => exact idle (by simp [Timers.disarm, accounted.waits])
  | issued n =>
    have named := Timers.filter_handle accounted.timersNumbered n
    cases held : h.timers.find? n with
    | none => exact idle (by simp [Timers.disarm, Timers.isPending, held, accounted.waits])
    | some timer =>
      obtain rfl : timer.handle = n := by simpa using List.find?_some held
      have finishes : Finishes h (· == timer.handle) (fun _ => .disarmed)
          (h.take (.disarm (.issued timer.handle))) := by
        constructor <;>
          simp [take, Timers.disarm, Timers.isPending, held, Timers.drop, named, bne]
      exact accounted.finish finishes fun _ _ began => by cases began

theorem Accounted.elapse (accounted : Accounted h) (n : Nat) : Accounted (h.take (.elapse n)) := by
  have named := Timers.filter_handle accounted.timersNumbered n
  have finishes : Finishes h (· == n) (fun timer => .began timer.payload) (h.take (.elapse n)) := by
    constructor
    case ended =>
      simp only [take, Timers.elapse, accounted.waits, false_and, ↓reduceIte, named]
      cases held : h.timers.find? n with
      | none => simp
      | some timer =>
        have number : timer.handle = n := by simpa using List.find?_some held
        simp [number]
    all_goals simp [take, Timers.elapse, Timers.drop, bne]
  exact accounted.finish finishes fun _ _ began => (Fate.began.inj began).symm

theorem Accounted.sweep (accounted : Accounted h) (part : Nat → Bool) :
    Accounted (h.take (.sweep part)) := by
  by_cases closed : h.timers.isShutDown = true
  · have finishes : Finishes h part (fun _ => .dropped) (h.take (.sweep part)) := by
      constructor <;> simp [take, closed]
    exact accounted.finish finishes fun _ _ began => by cases began
  · simpa [take, closed] using accounted

theorem Accounted.take (accounted : Accounted h) (step : TimerStep α) : Accounted (h.take step) := by
  cases step with
  | look =>
    simp only [TimerHistory.take]
    split
    · exact accounted.reopen h.timers.isShutDown (h.admitted + 1)
    · exact accounted
  | enter clock delay payload =>
    simp only [TimerHistory.take]
    split
    · exact accounted
    · exact (accounted.enter clock delay payload).1
  | disarm handle => exact accounted.disarm handle
  | elapse n => exact accounted.elapse n
  | close => exact accounted.reopen true h.admitted
  | sweep part => exact accounted.sweep part

theorem Accounted.run (accounted : Accounted h) (steps : List (TimerStep α)) :
    Accounted (h.run steps) := by
  induction steps generalizing h with
  | nil => exact accounted
  | cons step rest ih => exact ih (accounted.take step)

/-! ## After a shutdown -/

/-- A sleeping service whose shutdown has begun. -/
structure Closed (h : TimerHistory α) : Prop where
  sleeping : h.timers.service = .sleeping
  closed : h.timers.isShutDown = true

theorem Closed.take (closed : Closed h) (step : TimerStep α) : Closed (h.take step) := by
  obtain ⟨sleeping, shut⟩ := closed
  cases step with
  | look => simp only [TimerHistory.take]; split <;> exact ⟨sleeping, shut⟩
  | enter clock delay payload =>
    simp only [TimerHistory.take, TimerHistory.enter, Timers.arm]
    split_ifs <;> exact ⟨sleeping, shut⟩
  | disarm handle =>
    have shrinks := Timers.disarm_shrinks h.timers handle
    exact ⟨shrinks.service.trans sleeping, shrinks.isShutDown.trans shut⟩
  | elapse n => exact ⟨sleeping, shut⟩
  | close => exact ⟨sleeping, rfl⟩
  | sweep part => simp only [TimerHistory.take]; split <;> exact ⟨sleeping, shut⟩

/-- The callers that may still enter a timer and the timers entered are so many as ever. -/
theorem Closed.take_length (closed : Closed h) (accounted : Accounted h) (step : TimerStep α) :
    (h.take step).armed.length + (h.take step).admitted = h.armed.length + h.admitted := by
  cases step with
  | look => simp [TimerHistory.take, Timers.isOpen, closed.sleeping, closed.closed]
  | enter clock delay payload =>
    have armed := (accounted.enter clock delay payload).2
    have admitted : (h.enter clock delay payload).admitted = h.admitted - 1 := by
      simp [TimerHistory.enter, Timers.arm, accounted.unstaged]
    simp only [TimerHistory.take]
    split
    · rfl
    · rw [armed, admitted, List.length_append, List.length_singleton]
      omega
  | sweep part => simp only [TimerHistory.take]; split <;> rfl
  | disarm handle => rfl
  | elapse n => rfl
  | close => rfl

theorem Closed.run_length (closed : Closed h) (accounted : Accounted h) (steps : List (TimerStep α)) :
    (h.run steps).armed.length + (h.run steps).admitted = h.armed.length + h.admitted := by
  induction steps generalizing h with
  | nil => rfl
  | cons step rest ih =>
    exact (ih (closed.take step) (accounted.take step)).trans (closed.take_length accounted step)

/-- What has been noted stays noted. -/
theorem take_prefix (h : TimerHistory α) (step : TimerStep α) :
    h.armed <+: (h.take step).armed ∧ h.ended <+: (h.take step).ended := by
  cases step with
  | enter clock delay payload =>
    simp only [TimerHistory.take, TimerHistory.enter, Timers.arm]
    split_ifs <;> simp
  | look => simp only [TimerHistory.take]; split <;> simp
  | sweep part => simp only [TimerHistory.take]; split <;> simp
  | _ => simp [TimerHistory.take]

theorem run_prefix (h : TimerHistory α) (steps : List (TimerStep α)) :
    h.armed <+: (h.run steps).armed ∧ h.ended <+: (h.run steps).ended := by
  induction steps generalizing h with
  | nil => exact ⟨List.prefix_rfl, List.prefix_rfl⟩
  | cons step rest ih =>
    obtain ⟨armed, ended⟩ := take_prefix h step
    obtain ⟨laterArmed, laterEnded⟩ := ih (h.take step)
    exact ⟨armed.trans laterArmed, ended.trans laterEnded⟩

/-! ## One fate each -/

/-- What a service owes its callers, whatever comes before what. -/
structure OneFate (h : TimerHistory α) : Prop where
  /-- no handle is given out twice -/
  distinct : (h.armed.map (·.1)).Nodup
  /-- a timer hands over once, or is disarmed once, or is dropped, and never two of these -/
  once : ∀ handle, (h.fates handle).length ≤ 1
  /-- only a timer that was armed hands over, and only what it was armed with -/
  handed : ∀ handle payload, .began payload ∈ h.fates handle → (handle, payload) ∈ h.armed
  /-- a request to disarm is told so exactly if there is nothing left to disarm -/
  told : ∀ handle, (h.timers.disarm handle).1 = false ↔
    handle ∉ h.armed.map (·.1) ∨ h.fates handle ≠ []
  /-- a timer hands over when it elapses unless its fate is already decided -/
  begins : ∀ n payload, (h.timers.elapse n).1 = some payload ↔
    (.issued n, payload) ∈ h.armed ∧ h.fates (.issued n) = []
  /-- the service lists the timers without a fate, in arm order -/
  listed : h.timers.entries = h.fateless
  /-- fates stay, whatever comes later -/
  lasting : ∀ later, h.armed <+: (h.run later).armed ∧ h.ended <+: (h.run later).ended
  /-- after a shutdown began a request to arm is refused, and nothing happens -/
  refused : Closed h → ∀ clock delay payload,
    h.timers.arm clock delay payload = (.error .shutDown, h.timers)
  /-- only callers that were admitted before may still arm after that -/
  late : Closed h → ∀ later, (h.run later).armed.length ≤ h.armed.length + h.admitted

/-- However arming, disarming, elapsing and a shutdown come between one another, every timer has one
fate. -/
theorem every_timer_has_one_fate {service : TimerService} (waits : service ≠ .polling)
    (steps : List (TimerStep α)) : OneFate ((ofService service : TimerHistory α).run steps) := by
  have accounted := (accounted_ofService (α := α) waits).run steps
  generalize (ofService service : TimerHistory α).run steps = h at accounted ⊢
  constructor
  case distinct => exact accounted.distinct
  case once => exact accounted.once
  case handed => exact accounted.handed
  case listed => exact accounted.entries
  case lasting => exact run_prefix h
  case late =>
    intro closed later
    rw [← closed.run_length accounted later]
    exact Nat.le_add_right _ _
  case refused =>
    intro closed clock delay payload
    simp [Timers.arm, accounted.unstaged, closed.sleeping, closed.closed]
  case begins =>
    intro n payload
    rw [← accounted.payload_iff]
    simp [Timers.elapse, accounted.waits, Timers.payload?]
  case told =>
    intro handle
    have pending : (h.timers.disarm handle).1 = (h.timers.payload? handle).isSome := by
      cases handle with
      | foreign id => simp [Timers.disarm, Timers.payload?, accounted.waits]
      | issued n =>
        cases held : h.timers.find? n <;>
          simp [Timers.disarm, Timers.isPending, Timers.payload?, accounted.waits, held]
    cases held : h.timers.payload? handle with
    | some payload =>
      obtain ⟨armed, fresh⟩ := (accounted.payload_iff handle payload).mp held
      simp [pending, held, fresh, List.mem_map_of_mem (f := (·.1)) armed]
    | none =>
      simp only [pending, held, Option.isSome_none, true_iff]
      by_contra! undecided
      obtain ⟨⟨_, payload⟩, armed, rfl⟩ := List.mem_map.mp undecided.1
      have pending := (accounted.payload_iff _ payload).mpr ⟨armed, undecided.2⟩
      rw [held] at pending
      cases pending

/-- Of four timers the first elapses and the second is disarmed, either for good; the third is dropped by a
shutdown, which the fourth enters while it is under way. -/
theorem fates_around_shutDown :
    let clock : Clock := ⟨⟨0, 0⟩, 0⟩
    let steps : List (TimerStep Nat) :=
      [.look, .enter clock 5 10, .look, .enter clock 5 20, .look, .enter clock 5 30, .look,
        .elapse 1, .disarm (.issued 1), .disarm (.issued 2), .elapse 2, .close, .look,
        .sweep (· ≤ 3), .enter clock 5 40, .enter clock 5 50, .elapse 3]
    let h := (ofService .sleeping).run steps
    OneFate h ∧ h.fateless = [(.issued 4, 40)] ∧
      h.ended = [(.issued 1, .began 10), (.issued 2, .disarmed), (.issued 3, .dropped)] :=
  ⟨every_timer_has_one_fate (by decide) _, by decide, by decide⟩

end TimerHistory

end Punctual
