import Punctual.Scheduler.Locks

/-!
Operations at the locks of their jobs, in whatever order their steps come. An operation that enters
refers to the lock that the table has for its job, and an entry is removed only when nobody refers to
its lock. So all operations on one job that refer to a lock refer to the same one, although locks are
removed and made anew while others wait: one of them works at a time, and it keeps only those on its own
job waiting. Whoever enters is bound to tidy up later, which leaves nothing in the table in the end.
-/
namespace Punctual

/-- How far an operation under its job's lock has come. -/
inductive LockStage
  /-- it refers to a lock, which it has yet to acquire -/
  | waiting
  /-- it holds the lock -/
  | working
  /-- it has released the lock, to which it still refers -/
  | released
  /-- it refers to no lock any more, and is yet to tidy up -/
  | left
  | ended
deriving DecidableEq, Repr

/-- At this stage the operation refers to a lock. -/
def LockStage.refers : LockStage → Bool
  | waiting | working | released => true
  | left | ended => false

/-- An operation with its job and the stage it has reached. -/
structure LockedOperation where
  id : JobId
  stage : LockStage
deriving DecidableEq, Repr

/-- The locks, and every operation that has begun, by its number. -/
structure Locking where
  locks : JobLocks
  operations : List LockedOperation
deriving DecidableEq, Repr

/-- A step of one operation. -/
inductive LockStep
  /-- a further operation begins -/
  | enter (id : JobId)
  | acquire (number : Nat)
  | release (number : Nat)
  | leave (number : Nat)
  | tidy (number : Nat)
deriving DecidableEq, Repr

namespace Locking

/-- No operation has begun. -/
def idle : Locking := ⟨.empty, []⟩

/-- The operation under a number is on the job and has come so far. -/
def At (l : Locking) (number : Nat) (id : JobId) (stage : LockStage) : Prop :=
  l.operations[number]? = some ⟨id, stage⟩

/-- Moves an operation on. -/
def goOn (l : Locking) (number : Nat) (id : JobId) (stage : LockStage) (locks : JobLocks) : Locking :=
  ⟨locks, l.operations.set number ⟨id, stage⟩⟩

/-- A step, if the operation has come to it; any other is without effect. -/
def perform (l : Locking) : LockStep → Locking
  | .enter id => ⟨l.locks.enter l.operations.length id, l.operations ++ [⟨id, .waiting⟩]⟩
  | .acquire n =>
    match l.operations[n]? with
    | some ⟨id, .waiting⟩ =>
      if l.locks.mayAcquire n then l.goOn n id .working (l.locks.acquire n) else l
    | _ => l
  | .release n =>
    match l.operations[n]? with
    | some ⟨id, .working⟩ => l.goOn n id .released (l.locks.release n)
    | _ => l
  | .leave n =>
    match l.operations[n]? with
    | some ⟨id, .released⟩ => l.goOn n id .left (l.locks.leave n)
    | _ => l
  | .tidy n =>
    match l.operations[n]? with
    | some ⟨id, .left⟩ => l.goOn n id .ended (l.locks.tidy id)
    | _ => l

/-- Steps one after another. -/
def performAll (l : Locking) (steps : List LockStep) : Locking := steps.foldl perform l

variable {l : Locking} {m n lock other : Nat} {id id' : JobId} {stage : LockStage}

/-- The entries of the table, of the references and of the holders belong together. -/
structure Coherent (l : Locking) : Prop where
  keyed : ∀ {id lock other}, (id, lock) ∈ l.locks.table → (id, other) ∈ l.locks.table → lock = other
  apart : ∀ {id id' lock}, (id, lock) ∈ l.locks.table → (id', lock) ∈ l.locks.table → id = id'
  made : ∀ {id lock}, (id, lock) ∈ l.locks.table → lock ≤ l.locks.made
  /-- an operation refers to the lock that the table has for its job -/
  located : ∀ {n id stage}, l.At n id stage → stage.refers = true → ∃ lock, (id, lock) ∈ l.locks.table
  referring : ∀ {n lock}, (n, lock) ∈ l.locks.references ↔
    ∃ id stage, l.At n id stage ∧ stage.refers = true ∧ (id, lock) ∈ l.locks.table
  holding : ∀ {lock n}, (lock, n) ∈ l.locks.holders ↔
    ∃ id, l.At n id .working ∧ (id, lock) ∈ l.locks.table
  single : ∀ {lock m n}, (lock, m) ∈ l.locks.holders → (lock, n) ∈ l.locks.holders → m = n
  /-- somebody is bound to tidy up -/
  tended : ∀ {id lock}, (id, lock) ∈ l.locks.table → ∃ n stage, l.At n id stage ∧ stage ≠ .ended

/-! ## Look-ups -/

/-- Where a key has one value at most, a look-up finds exactly what is listed. -/
theorem lookup_eq_some_iff {α β : Type} [BEq α] [LawfulBEq α] {entries : List (α × β)} {key : α}
    {value : β} (single : ∀ {v w}, (key, v) ∈ entries → (key, w) ∈ entries → v = w) :
    entries.lookup key = some value ↔ (key, value) ∈ entries := by
  constructor
  · intro found
    obtain ⟨before, after, rfl, _⟩ := List.lookup_eq_some_iff.mp found
    simp
  · intro listed
    cases found : entries.lookup key with
    | none =>
      have absent := List.lookup_eq_none_iff.mp found (key, value) listed
      simp at absent
    | some held =>
      obtain ⟨before, after, rfl, _⟩ := List.lookup_eq_some_iff.mp found
      have same : value = held := single listed (by simp)
      rw [same]

theorem Coherent.table_lookup (coherent : Coherent l) :
    l.locks.table.lookup id = some lock ↔ (id, lock) ∈ l.locks.table :=
  lookup_eq_some_iff coherent.keyed

theorem Coherent.reference_lookup (coherent : Coherent l) :
    l.locks.references.lookup n = some lock ↔ (n, lock) ∈ l.locks.references := by
  refine lookup_eq_some_iff fun first second => ?_
  obtain ⟨id, stage, here, _, entry⟩ := coherent.referring.mp first
  obtain ⟨id', stage', here', _, entry'⟩ := coherent.referring.mp second
  rw [At] at here here'
  rw [here] at here'
  cases here'
  exact coherent.keyed entry entry'

theorem Coherent.holder_lookup (coherent : Coherent l) :
    l.locks.holders.lookup lock = some n ↔ (lock, n) ∈ l.locks.holders :=
  lookup_eq_some_iff coherent.single

/-- A waiting operation may go on if nobody works on its job. -/
theorem Coherent.mayAcquire_iff (coherent : Coherent l) (waits : l.At n id .waiting) :
    l.locks.mayAcquire n = true ↔ ∀ m, ¬ l.At m id .working := by
  obtain ⟨lock, entry⟩ := coherent.located waits rfl
  have refers : l.locks.references.lookup n = some lock :=
    coherent.reference_lookup.mpr (coherent.referring.mpr ⟨id, _, waits, rfl, entry⟩)
  simp only [JobLocks.mayAcquire, refers, Option.any_some, Option.isNone_iff_eq_none]
  constructor
  · intro free m works
    have held := coherent.holder_lookup.mpr (coherent.holding.mpr ⟨id, works, entry⟩)
    rw [free] at held
    cases held
  · intro nobody
    cases held : l.locks.holders.lookup lock with
    | none => rfl
    | some m =>
      obtain ⟨id', works, entry'⟩ := coherent.holding.mp (coherent.holder_lookup.mp held)
      rw [coherent.apart entry' entry] at works
      exact absurd works (nobody m)

/-! ## What every step keeps -/

theorem at_unique (here : l.At n id stage) {stage' : LockStage} (again : l.At n id' stage') :
    id' = id ∧ stage' = stage := by
  rw [At] at here again
  rw [here] at again
  cases again
  exact ⟨rfl, rfl⟩

/-- Only the operation that goes on comes to another stage. -/
theorem at_goOn {before after stage' : LockStage} {locks : JobLocks} (here : l.At n id before) :
    (l.goOn n id after locks).At m id' stage' ↔
      (m = n ∧ id' = id ∧ stage' = after) ∨ (m ≠ n ∧ l.At m id' stage') := by
  obtain ⟨bound, _⟩ := List.getElem?_eq_some_iff.mp here
  by_cases same : m = n
  · subst same
    simp [At, goOn, bound, eq_comm]
  · simp [At, goOn, same, List.getElem?_set_ne (Ne.symm same)]

theorem at_enter {stage' : LockStage} :
    (l.perform (.enter id)).At m id' stage' ↔
      l.At m id' stage' ∨ (m = l.operations.length ∧ id' = id ∧ stage' = .waiting) := by
  simp only [At, perform]
  by_cases last : m = l.operations.length
  · subst last
    simp [eq_comm]
  · simp only [List.getElem?_append, last, false_and, or_false]
    split
    · rfl
    · rename_i beyond
      have past : m - l.operations.length ≠ 0 := by omega
      rw [List.getElem?_eq_none (Nat.le_of_not_lt beyond)]
      simp [past]

/-- An operation goes on with the table as it is. -/
theorem Coherent.goOn (coherent : Coherent l) {before after : LockStage} {locks : JobLocks}
    (here : l.At n id before) (table : locks.table = l.locks.table) (made : locks.made = l.locks.made)
    (references : ∀ {m lock}, (m, lock) ∈ locks.references ↔
      (m, lock) ∈ l.locks.references ∧ (m = n → after.refers = true))
    (holders : ∀ {lock m}, (lock, m) ∈ locks.holders ↔
      (m = n ∧ after = .working ∧ (id, lock) ∈ l.locks.table) ∨ (m ≠ n ∧ (lock, m) ∈ l.locks.holders))
    (single : ∀ {lock m m'}, (lock, m) ∈ locks.holders → (lock, m') ∈ locks.holders → m = m')
    (refers : after.refers = true → before.refers = true)
    (tends : ∀ lock, (id, lock) ∈ l.locks.table → after = .ended →
      ∃ m stage, m ≠ n ∧ l.At m id stage ∧ stage ≠ .ended) :
    Coherent (l.goOn n id after locks) where
  keyed := table ▸ coherent.keyed
  apart := table ▸ coherent.apart
  made := by
    rw [Locking.goOn, table, made]
    exact coherent.made
  located := by
    intro m id' stage now going
    rw [Locking.goOn, table]
    rcases (at_goOn here).mp now with ⟨_, rfl, rfl⟩ | ⟨_, earlier⟩
    · exact coherent.located here (refers going)
    · exact coherent.located earlier going
  referring := by
    intro m lock
    simp only [at_goOn here]
    rw [Locking.goOn, table, references, coherent.referring]
    constructor
    · rintro ⟨⟨id', stage, earlier, going, entry⟩, still⟩
      by_cases same : m = n
      · subst same
        obtain ⟨rfl, rfl⟩ := at_unique here earlier
        exact ⟨id', after, .inl ⟨rfl, rfl, rfl⟩, still rfl, entry⟩
      · exact ⟨id', stage, .inr ⟨same, earlier⟩, going, entry⟩
    · rintro ⟨id', stage, ⟨rfl, rfl, rfl⟩ | ⟨different, earlier⟩, going, entry⟩
      · exact ⟨⟨id', before, here, refers going, entry⟩, fun _ => going⟩
      · exact ⟨⟨id', stage, earlier, going, entry⟩, fun same => absurd same different⟩
  holding := by
    intro lock m
    simp only [at_goOn here]
    rw [Locking.goOn, table, holders, coherent.holding]
    constructor
    · rintro (⟨rfl, rfl, entry⟩ | ⟨different, id', works, entry⟩)
      · exact ⟨id, .inl ⟨rfl, rfl, rfl⟩, entry⟩
      · exact ⟨id', .inr ⟨different, works⟩, entry⟩
    · rintro ⟨id', ⟨rfl, rfl, rfl⟩ | ⟨different, works⟩, entry⟩
      · exact .inl ⟨rfl, rfl, entry⟩
      · exact .inr ⟨different, id', works, entry⟩
  single := single
  tended := by
    intro id' lock entry
    rw [Locking.goOn, table] at entry
    obtain ⟨m, stage, tending, going⟩ := coherent.tended entry
    by_cases same : m = n
    · subst same
      obtain ⟨rfl, rfl⟩ := at_unique here tending
      by_cases finished : after = .ended
      · obtain ⟨m', stage', different, tending, going⟩ := tends lock entry finished
        exact ⟨m', stage', (at_goOn here).mpr (.inr ⟨different, tending⟩), going⟩
      · exact ⟨m, after, (at_goOn here).mpr (.inl ⟨rfl, rfl, rfl⟩), finished⟩
    · exact ⟨m, stage, (at_goOn here).mpr (.inr ⟨same, tending⟩), going⟩

theorem coherent_idle : Coherent idle := by
  constructor <;> simp [idle, JobLocks.empty, At]

/-- Whoever enters refers to the one lock of its job, which is new if there was none. -/
theorem Coherent.enter_locks (coherent : Coherent l) (id : JobId) : ∃ lock,
    (l.perform (.enter id)).locks.references = (l.operations.length, lock) :: l.locks.references ∧
    (l.perform (.enter id)).locks.holders = l.locks.holders ∧
    (∀ entry, entry ∈ (l.perform (.enter id)).locks.table ↔ entry = (id, lock) ∨ entry ∈ l.locks.table) ∧
    (∀ {other}, (id, other) ∈ l.locks.table → other = lock) ∧
    (∀ {id'}, (id', lock) ∈ l.locks.table → id' = id) ∧
    lock ≤ (l.perform (.enter id)).locks.made ∧
    l.locks.made ≤ (l.perform (.enter id)).locks.made := by
  cases found : l.locks.table.lookup id with
  | some lock =>
    have entry := coherent.table_lookup.mp found
    have entered : (l.perform (.enter id)).locks =
        { l.locks with references := (l.operations.length, lock) :: l.locks.references } := by
      simp [perform, JobLocks.enter, found]
    rw [entered]
    refine ⟨lock, rfl, rfl, fun listed => ?_, fun other => coherent.keyed other entry,
      fun other => coherent.apart other entry, coherent.made entry, Nat.le_refl _⟩
    simp only [iff_or_self]
    rintro rfl
    exact entry
  | none =>
    have entered : (l.perform (.enter id)).locks =
        { l.locks with
          made := l.locks.made + 1
          table := (id, l.locks.made + 1) :: l.locks.table
          references := (l.operations.length, l.locks.made + 1) :: l.locks.references } := by
      simp [perform, JobLocks.enter, found]
    rw [entered]
    refine ⟨l.locks.made + 1, rfl, rfl, fun listed => List.mem_cons, fun {other} entry => ?_,
      fun {id'} entry => ?_, Nat.le_refl _, Nat.le_succ _⟩
    · rw [coherent.table_lookup.mpr entry] at found
      cases found
    · have bound := coherent.made entry
      omega

theorem Coherent.enter (coherent : Coherent l) (id : JobId) : Coherent (l.perform (.enter id)) := by
  obtain ⟨lock, references, holders, table, keyed, apart, bound, grown⟩ := coherent.enter_locks id
  have unreferred : ∀ {n stage id'}, l.At n id' stage → n ≠ l.operations.length := by
    intro n stage id' here
    obtain ⟨bound, _⟩ := List.getElem?_eq_some_iff.mp here
    omega
  have located : ∀ {id' other}, (∃ n stage, l.At n id' stage ∧ stage.refers = true) →
      (id', other) ∈ (l.perform (.enter id)).locks.table → (id', other) ∈ l.locks.table := by
    rintro id' other ⟨n, stage, here, refers⟩ entry
    rcases (table _).mp entry with same | entry
    · cases same
      obtain ⟨held, entry⟩ := coherent.located here refers
      rwa [keyed entry] at entry
    · exact entry
  constructor
  case keyed =>
    intro id' first second entry entry'
    rcases (table _).mp entry with same | entry <;> rcases (table _).mp entry' with same' | entry'
    · cases same
      cases same'
      rfl
    · cases same
      exact (keyed entry').symm
    · cases same'
      exact keyed entry
    · exact coherent.keyed entry entry'
  case apart =>
    intro first second other entry entry'
    rcases (table _).mp entry with same | entry <;> rcases (table _).mp entry' with same' | entry'
    · cases same
      cases same'
      rfl
    · cases same
      exact (apart entry').symm
    · cases same'
      exact apart entry
    · exact coherent.apart entry entry'
  case made =>
    intro id' other entry
    rcases (table _).mp entry with same | entry
    · cases same
      exact bound
    · exact Nat.le_trans (coherent.made entry) grown
  case located =>
    intro n id' stage here refers
    rcases at_enter.mp here with earlier | ⟨_, rfl, _⟩
    · obtain ⟨other, entry⟩ := coherent.located earlier refers
      exact ⟨other, (table _).mpr (.inr entry)⟩
    · exact ⟨lock, (table _).mpr (.inl rfl)⟩
  case referring =>
    intro n other
    simp only [at_enter]
    rw [references, List.mem_cons, coherent.referring]
    constructor
    · rintro (same | ⟨id', stage, here, refers, entry⟩)
      · cases same
        exact ⟨id, .waiting, .inr ⟨rfl, rfl, rfl⟩, rfl, (table _).mpr (.inl rfl)⟩
      · exact ⟨id', stage, .inl here, refers, (table _).mpr (.inr entry)⟩
    · rintro ⟨id', stage, here | ⟨rfl, rfl, rfl⟩, refers, entry⟩
      · exact .inr ⟨id', stage, here, refers, located ⟨n, stage, here, refers⟩ entry⟩
      · rcases (table _).mp entry with same | entry
        · cases same
          exact .inl rfl
        · exact .inl (by rw [keyed entry])
  case holding =>
    intro other n
    simp only [at_enter, reduceCtorEq, and_false, or_false]
    rw [holders, coherent.holding]
    constructor
    · rintro ⟨id', works, entry⟩
      exact ⟨id', works, (table _).mpr (.inr entry)⟩
    · rintro ⟨id', works, entry⟩
      exact ⟨id', works, located ⟨n, _, works, rfl⟩ entry⟩
  case single =>
    rw [holders]
    exact coherent.single
  case tended =>
    intro id' other entry
    rcases (table _).mp entry with same | entry
    · cases same
      exact ⟨_, .waiting, at_enter.mpr (.inr ⟨rfl, rfl, rfl⟩), nofun⟩
    · obtain ⟨n, stage, tends, going⟩ := coherent.tended entry
      exact ⟨n, stage, at_enter.mpr (.inl tends), going⟩

/-- A lock that may be acquired is one that nobody holds. -/
theorem Coherent.acquire (coherent : Coherent l) (n : Nat) : Coherent (l.perform (.acquire n)) := by
  simp only [perform]
  split
  case h_2 => exact coherent
  case h_1 id waits =>
  split
  case isFalse => exact coherent
  case isTrue may =>
  obtain ⟨lock, entry⟩ := coherent.located waits rfl
  have refers : l.locks.references.lookup n = some lock :=
    coherent.reference_lookup.mpr (coherent.referring.mpr ⟨id, _, waits, rfl, entry⟩)
  have free : l.locks.holders.lookup lock = none := by
    simpa [JobLocks.mayAcquire, refers] using may
  have idle : ∀ {m}, (lock, m) ∉ l.locks.holders := by
    intro m held
    rw [coherent.holder_lookup.mpr held] at free
    cases free
  have taken : l.locks.acquire n = { l.locks with holders := (lock, n) :: l.locks.holders } := by
    simp [JobLocks.acquire, refers, free]
  have unheld : ∀ {other}, (other, n) ∉ l.locks.holders := by
    intro other held
    obtain ⟨_, works, _⟩ := coherent.holding.mp held
    cases (at_unique waits works).2
  rw [taken]
  refine coherent.goOn waits rfl rfl (by simp [LockStage.refers]) ?_ ?_ (fun _ => rfl) nofun
  · intro other m
    rw [List.mem_cons]
    constructor
    · rintro (same | held)
      · cases same
        exact .inl ⟨rfl, rfl, entry⟩
      · refine .inr ⟨?_, held⟩
        rintro rfl
        exact unheld held
    · rintro (⟨rfl, _, listed⟩ | ⟨_, held⟩)
      · rw [coherent.keyed listed entry]
        exact .inl rfl
      · exact .inr held
  · intro other first second held held'
    rcases List.mem_cons.mp held with same | held <;> rcases List.mem_cons.mp held' with same' | held'
    · cases same
      cases same'
      rfl
    · cases same
      exact absurd held' idle
    · cases same'
      exact absurd held idle
    · exact coherent.single held held'

theorem Coherent.release (coherent : Coherent l) (n : Nat) : Coherent (l.perform (.release n)) := by
  simp only [perform]
  split
  case h_2 => exact coherent
  case h_1 id works =>
  refine coherent.goOn works rfl rfl (by simp [JobLocks.release, LockStage.refers]) ?_ ?_
    (fun _ => rfl) nofun
  · intro lock m
    simp [JobLocks.release, and_comm]
  · intro lock first second held held'
    exact coherent.single (List.mem_filter.mp held).1 (List.mem_filter.mp held').1

theorem Coherent.leave (coherent : Coherent l) (n : Nat) : Coherent (l.perform (.leave n)) := by
  simp only [perform]
  split
  case h_2 => exact coherent
  case h_1 id released =>
  have unheld : ∀ {lock}, (lock, n) ∉ l.locks.holders := by
    intro lock held
    obtain ⟨_, works, _⟩ := coherent.holding.mp held
    cases (at_unique released works).2
  refine coherent.goOn released rfl rfl (by simp [JobLocks.leave, LockStage.refers]) ?_
    coherent.single nofun nofun
  intro lock m
  simp only [reduceCtorEq, false_and, and_false, false_or]
  constructor
  · intro held
    refine ⟨?_, held⟩
    rintro rfl
    exact unheld held
  · exact And.right

/-- An entry that tidying up leaves for the job is one to whose lock an operation refers. -/
theorem Coherent.tidied (coherent : Coherent l) (id : JobId) :
    Coherent ⟨l.locks.tidy id, l.operations⟩ ∧
    ∀ {lock}, (id, lock) ∈ (l.locks.tidy id).table → ∃ m stage, l.At m id stage ∧ stage.refers = true := by
  cases found : l.locks.table.lookup id with
  | none =>
    have same : l.locks.tidy id = l.locks := by simp [JobLocks.tidy, found]
    rw [same]
    refine ⟨coherent, fun {lock} entry => ?_⟩
    rw [coherent.table_lookup.mpr entry] at found
    cases found
  | some lock =>
    have entry := coherent.table_lookup.mp found
    have named : l.locks.references.any (·.2 == lock) = true ↔ ∃ m, (m, lock) ∈ l.locks.references := by
      simp
    by_cases referred : l.locks.references.any (·.2 == lock) = true
    · have same : l.locks.tidy id = l.locks := by simp only [JobLocks.tidy, found, referred, if_true]
      rw [same]
      refine ⟨coherent, fun {other} _ => ?_⟩
      obtain ⟨m, refers⟩ := named.mp referred
      obtain ⟨id', stage, here, refers, entry'⟩ := coherent.referring.mp refers
      rw [coherent.apart entry' entry] at here
      exact ⟨m, stage, here, refers⟩
    · have removed : l.locks.tidy id =
          { l.locks with table := l.locks.table.filter (·.1 != id) } := by
        simp only [JobLocks.tidy, found, referred, Bool.false_eq_true, if_false]
      have listed : ∀ {id' other}, (id', other) ∈ l.locks.table.filter (·.1 != id) ↔
          (id', other) ∈ l.locks.table ∧ id' ≠ id := by
        intro id' other
        simp [List.mem_filter]
      -- all that refer to the job's lock have left, so that the entry was of no use to anyone
      have apart : ∀ {n id' stage}, l.At n id' stage → stage.refers = true → id' ≠ id := by
        rintro n id' stage here refers rfl
        exact referred (named.mpr ⟨n, coherent.referring.mpr ⟨id', stage, here, refers, entry⟩⟩)
      rw [removed]
      refine ⟨?_, fun {other} entry => absurd rfl (listed.mp entry).2⟩
      constructor
      case keyed => exact fun first second => coherent.keyed (listed.mp first).1 (listed.mp second).1
      case apart => exact fun first second => coherent.apart (listed.mp first).1 (listed.mp second).1
      case made => exact fun entry => coherent.made (listed.mp entry).1
      case located =>
        intro n id' stage here refers
        obtain ⟨other, entry⟩ := coherent.located here refers
        exact ⟨other, listed.mpr ⟨entry, apart here refers⟩⟩
      case referring =>
        intro n other
        rw [coherent.referring]
        constructor
        · rintro ⟨id', stage, here, refers, entry⟩
          exact ⟨id', stage, here, refers, listed.mpr ⟨entry, apart here refers⟩⟩
        · rintro ⟨id', stage, here, refers, entry⟩
          exact ⟨id', stage, here, refers, (listed.mp entry).1⟩
      case holding =>
        intro other n
        rw [coherent.holding]
        constructor
        · rintro ⟨id', works, entry⟩
          exact ⟨id', works, listed.mpr ⟨entry, apart works rfl⟩⟩
        · rintro ⟨id', works, entry⟩
          exact ⟨id', works, (listed.mp entry).1⟩
      case single => exact coherent.single
      case tended => exact fun entry => coherent.tended (listed.mp entry).1

theorem Coherent.tidy (coherent : Coherent l) (n : Nat) : Coherent (l.perform (.tidy n)) := by
  simp only [perform]
  split
  case h_2 => exact coherent
  case h_1 id left =>
  obtain ⟨tidied, kept⟩ := coherent.tidied id
  have unheld : ∀ {lock}, (lock, n) ∉ (l.locks.tidy id).holders := by
    intro lock held
    obtain ⟨_, works, _⟩ := tidied.holding.mp held
    cases (at_unique left works).2
  have unreferring : ∀ {lock}, (n, lock) ∉ (l.locks.tidy id).references := by
    intro lock refers
    obtain ⟨_, stage, here, refers, _⟩ := tidied.referring.mp refers
    obtain ⟨_, rfl⟩ := at_unique left here
    cases refers
  refine tidied.goOn left rfl rfl ?_ ?_ tidied.single nofun ?_
  · intro m lock
    simp only [LockStage.refers, Bool.false_eq_true, imp_false, iff_self_and]
    rintro refers rfl
    exact unreferring refers
  · intro lock m
    simp only [reduceCtorEq, false_and, and_false, false_or, iff_and_self]
    rintro held rfl
    exact unheld held
  · intro lock entry _
    obtain ⟨m, stage, here, refers⟩ := kept entry
    refine ⟨m, stage, ?_, here, ?_⟩
    · rintro rfl
      obtain ⟨_, rfl⟩ := at_unique left here
      cases refers
    · rintro rfl
      cases refers

theorem Coherent.perform (coherent : Coherent l) (step : LockStep) : Coherent (l.perform step) := by
  cases step with
  | enter id => exact coherent.enter id
  | acquire n => exact coherent.acquire n
  | release n => exact coherent.release n
  | leave n => exact coherent.leave n
  | tidy n => exact coherent.tidy n

theorem coherent_performAll (steps : List LockStep) : Coherent (idle.performAll steps) := by
  have onward : ∀ l, Coherent l → Coherent (l.performAll steps) := by
    induction steps with
    | nil => exact fun l coherent => coherent
    | cons step rest ih => exact fun l coherent => ih _ (coherent.perform step)
  exact onward idle coherent_idle

/-! ## Turns -/

/-- Operations on one job take turns, those on others do not count, and all of them together leave nothing
behind. -/
structure TakeTurns (l : Locking) : Prop where
  exclusive : ∀ {m n id}, l.At m id .working → l.At n id .working → m = n
  waits : ∀ {n id}, l.At n id .waiting →
    (l.locks.mayAcquire n = false ↔ ∃ m, l.At m id .working)
  emptied : (∀ operation ∈ l.operations, operation.stage = .ended) →
    l.locks.table = [] ∧ l.locks.references = [] ∧ l.locks.holders = []

theorem Coherent.takeTurns (coherent : Coherent l) : TakeTurns l where
  exclusive := by
    intro m n id works works'
    obtain ⟨lock, entry⟩ := coherent.located works rfl
    exact coherent.single (coherent.holding.mpr ⟨id, works, entry⟩)
      (coherent.holding.mpr ⟨id, works', entry⟩)
  waits := by
    intro n id waits
    rw [← Bool.not_eq_true, coherent.mayAcquire_iff waits]
    simp
  emptied := by
    intro ended
    have finished : ∀ {n id stage}, l.At n id stage → stage = .ended := fun here =>
      ended _ (List.mem_of_getElem? here)
    have references : l.locks.references = [] := by
      refine List.eq_nil_iff_forall_not_mem.mpr fun ⟨n, lock⟩ refers => ?_
      obtain ⟨_, _, here, refers, _⟩ := coherent.referring.mp refers
      rw [finished here] at refers
      cases refers
    have holders : l.locks.holders = [] := by
      refine List.eq_nil_iff_forall_not_mem.mpr fun ⟨lock, n⟩ held => ?_
      obtain ⟨_, works, _⟩ := coherent.holding.mp held
      cases finished works
    have table : l.locks.table = [] := by
      refine List.eq_nil_iff_forall_not_mem.mpr fun ⟨id, lock⟩ entry => ?_
      obtain ⟨_, _, tends, going⟩ := coherent.tended entry
      exact going (finished tends)
    exact ⟨table, references, holders⟩

/-- However the steps of operations are interleaved: one operation at most works on a job, an operation
waits only as long as another works on the same job, and when all operations have ended, the table has
no lock left. -/
theorem operations_take_turns_by_job (steps : List LockStep) : TakeTurns (idle.performAll steps) :=
  (coherent_performAll steps).takeTurns

/-- The third operation meets a second lock of the job, which the second keeps when it tidies up late. -/
example :
    let l := idle.performAll [.enter "a", .acquire 0, .release 0, .leave 0, .enter "a", .acquire 1, .release 1,
      .leave 1, .tidy 0, .enter "a", .enter "b", .tidy 1, .acquire 2, .acquire 3]
    l.locks.table = [("b", 3), ("a", 2)] ∧
      l.operations = [⟨"a", .ended⟩, ⟨"a", .ended⟩, ⟨"a", .working⟩, ⟨"b", .working⟩] := by
  decide

end Locking

end Punctual
