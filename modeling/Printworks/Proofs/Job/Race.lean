import Printworks.Proofs.Job.Standing

/-!
# Recordings that race for one record

Any number of recordings of final states, and the task that marks the record as running, take turns at
the record of one job. A recording that is refused reads the record again, and nothing in it counts how
often. What bounds it is the record: that changes twice at most, from waiting to running and on to a
final state, and a write is refused only if the record has changed since it was read. So whoever takes
which turn, a recording is refused twice and reads three times at most, and if it answers that there is
a final state there is one.
-/

namespace Printworks

open Registry JobRecord

/-! ### How often a record changes -/

namespace JobRecord

/-- How often the record of a job may still change, going by the state that it is in. -/
def changesLeft (stored : Option Record) : Nat :=
  match stored.map storedState with
  | some (.ok (.pending false)) => 2
  | some (.ok (.pending true)) => 1
  | _ => 0

/-- What may become of a record when somebody takes a turn: it stays, or it comes nearer to a final
state. -/
inductive Changes : Option Record → Option Record → Prop where
  | kept (stored : Option Record) : Changes stored stored
  | nearer {old : Record} {new : JobRecord}
      (less : changesLeft (some new.toRecord) < changesLeft (some old)) :
      Changes (some old) (some new.toRecord)

variable {before after : Option Record} {record : Record}

theorem changesLeft_le (stored : Option Record) : changesLeft stored ≤ 2 := by
  unfold changesLeft
  split <;> decide

theorem changesLeft_of_pending {running : Bool}
    (pending : storedState record = .ok (.pending running)) :
    changesLeft (some record) = if running then 1 else 2 := by
  cases running <;> simp [changesLeft, pending]

theorem changesLeft_of_isFinal (final : IsFinal record) : changesLeft (some record) = 0 := by
  obtain ⟨s, state, terminal⟩ := final
  cases s with
  | pending running => cases terminal
  | success artifact => simp [changesLeft, state]
  | failure error => simp [changesLeft, state]
  | cancelled => simp [changesLeft, state]

/-- A record from which an open job is read may change. -/
theorem changesLeft_pos {reference : String} {job : JobRecord}
    (legible : ofRecord reference record = .ok job) (open_ : job.isTerminal = false) :
    0 < changesLeft (some record) := by
  obtain ⟨running, pending⟩ := pending_of_not_isTerminal open_
  rw [changesLeft_of_pending (pending ▸ storedState_of_ofRecord legible)]
  split <;> decide

/-- A record that has been completed is final, whatever the state that was given to it. -/
theorem isFinal_completed (r : JobRecord) (s : JobState) (now : Instant) :
    IsFinal (r.completed s now).toRecord := by
  cases terminal : s.isTerminal with
  | true => exact isFinal_toRecord (r.isSettled_completed terminal now) terminal
  | false =>
    -- The completion date alone is enough: what is said of the outcome is missing, and that is read
    -- as a failure without a reason.
    obtain ⟨running, rfl⟩ := pending_of_not_isTerminal terminal
    have success := (r.completed (.pending running) now).present?_state "success" (by decide)
      (by decide)
    have error := (r.completed (.pending running) now).present?_state "error" (by decide) (by decide)
    simp [completed, stateFields, Entries.find?] at success error
    refine ⟨.failure unknownError, ?_, rfl⟩
    rw [storedState, present?_completionDate]
    simp [completed, readState, optional, success, error]
    rfl

theorem Changes.le (changes : Changes before after) : changesLeft after ≤ changesLeft before := by
  cases changes with
  | kept => exact Nat.le_refl _
  | nearer less => exact Nat.le_of_lt less

theorem Changes.eq_of_isFinal (changes : Changes (some record) after) (final : IsFinal record) :
    after = some record := by
  cases changes with
  | kept => rfl
  | nearer less =>
    rw [changesLeft_of_isFinal final] at less
    exact absurd less (Nat.not_lt_zero _)

/-- Whether records of a kind, among them the stored forms of all jobs, agree with themselves and with
no others of the kind. -/
structure TellsApart (P : Record → Prop) : Prop where
  agrees_iff : ∀ a b, P a → P b → (a.agrees b = true ↔ a = b)
  stored : ∀ r : JobRecord, P r.toRecord

/-- The stored forms of jobs are told apart from one another, and from any record that has been there
before them and agrees with itself. -/
theorem tellsApart_of_first {first : Option Record}
    (self : ∀ record, first = some record → record.agrees record = true) :
    TellsApart (fun record => first = some record ∨ record.IsExact) := by
  refine ⟨?_, fun r => .inr r.isExact_toRecord⟩
  rintro a b (rfl | exactA) (there | exactB)
  · cases there
    exact iff_of_true (self a rfl) rfl
  · exact exactB.agrees_iff_right
  · exact exactA.agrees_iff
  · exact exactA.agrees_iff

end JobRecord

/-- A task that tries to mark its record as running brings it nearer to a final state, or leaves it. -/
theorem Task.markRunning_changes {P : Record → Prop} (kind : TellsApart P) {t : Task}
    (waiting : t.submitted.state = .pending false) (settled : t.submitted.IsSettled)
    {u : Unreliable Memory}
    (known : ∀ record, u.store.records.get? (key t.reference) = some record → P record) :
    Changes (u.store.records.get? (key t.reference))
      ((t.markRunning u).2.store.records.get? (key t.reference)) := by
  obtain ⟨result, u', put⟩ : ∃ result u', Registry.compareAndPut (key t.reference)
      t.submitted.toRecord t.submitted.started.toRecord u = (result, u') := ⟨_, _, rfl⟩
  have writes := Unreliable.compareAndPut_writes (isExact_toRecord _) (fun current there =>
    (kind.agrees_iff _ _ (known current there) (kind.stored _)).mp) put
  simp only [markRunning, put]
  cases result with
  | error e =>
    rw [writes.unchanged (by simp)]
    exact .kept _
  | ok marked =>
    cases marked with
    | false =>
      rw [writes.unchanged (by simp)]
      exact .kept _
    | true =>
      obtain ⟨there, written⟩ := writes.written rfl
      have before : storedState t.submitted.toRecord = .ok (.pending false) := by
        rw [storedState_toRecord settled, waiting]
        rfl
      rw [there, written, Memory.write, Dict.get?_insert_self]
      refine .nearer ?_
      rw [changesLeft_of_pending before,
        changesLeft_of_pending (storedState_started waiting settled)]
      decide

/-! ### One recording -/

namespace Completion

/-- What a recording uses the registry for: it reads the record, or it tries to replace it. -/
inductive Use where
  | read
  | write (answer : Except StoreError Bool)
  deriving DecidableEq

/-- What a recording uses the registry for in its next step. -/
def use? {Store : Type} [Registry Store] (reference : String) (s : JobState) (now : Instant)
    (c : Completion) (store : Store) : Option Use :=
  match c with
  | .reading => some .read
  | .writing found job =>
    some (.write
      (Registry.compareAndPut (key reference) found (job.completed s now).toRecord store).1)
  | .ended _ => none

/-- What a step of a recording comes to: what it uses the registry for, where it stands afterwards and
what is stored of the job then. -/
inductive Steps (reference : String) (s : JobState) (now : Instant) (before : Option Record) :
    Completion → Option Use → Completion → Option Record → Prop where
  | unread (cause : JobError) :
      Steps reference s now before .reading (some .read) (.ended (.error cause)) before
  | settled {record : Record} (there : before = some record) (final : IsFinal record) :
      Steps reference s now before .reading (some .read) (.ended (.ok false)) before
  | read {found : Record} {job : JobRecord} (there : before = some found)
      (legible : ofRecord reference found = .ok job) (open_ : job.isTerminal = false) :
      Steps reference s now before .reading (some .read) (.writing found job) before
  | failed {found : Record} {job : JobRecord} (error : StoreError) :
      Steps reference s now before (.writing found job) (some (.write (.error error)))
        (.ended (.error (.store error))) before
  /-- A write is refused if the record has changed, and only then. -/
  | refused {found : Record} {job : JobRecord} (changed : before ≠ some found) :
      Steps reference s now before (.writing found job) (some (.write (.ok false))) .reading before
  | written {found : Record} {job : JobRecord} (there : before = some found) :
      Steps reference s now before (.writing found job) (some (.write (.ok true)))
        (.ended (.ok true)) (some (job.completed s now).toRecord)
  | idle (result : Except JobError Bool) :
      Steps reference s now before (.ended result) none (.ended result) before

/-- Whether what a recording has found or answered suits what is stored of the job. -/
def Suits (P : Record → Prop) (reference : String) (stored : Option Record) (c : Completion) :
    Prop :=
  match c with
  | .reading => True
  | .writing found job =>
    P found ∧ ofRecord reference found = .ok job ∧ job.isTerminal = false
  | .ended (.ok _) => ∃ record, stored = some record ∧ IsFinal record
  | .ended (.error _) => True

variable {P : Record → Prop} {reference : String} {s : JobState} {now : Instant}
  {before after : Option Record} {c c' : Completion} {use : Option Use}

/-- A step comes to one of these, as long as the records are told apart. -/
theorem steps_step (kind : TellsApart P) {u : Unreliable Memory}
    (known : ∀ record, u.store.records.get? (key reference) = some record → P record)
    (suits : c.Suits P reference (u.store.records.get? (key reference))) (s : JobState)
    (now : Instant) :
    Steps reference s now (u.store.records.get? (key reference)) c (c.use? reference s now u)
      (c.step reference s now u).1
      ((c.step reference s now u).2.store.records.get? (key reference)) := by
  cases c with
  | reading =>
    simp only [step, use?, Completion.read]
    split
    next fetched =>
      rw [(fetch_spec fetched).1]
      exact .unread _
    next fetched =>
      obtain ⟨same, stored⟩ := fetch_spec fetched
      obtain ⟨there, legible⟩ := stored _ _ rfl
      rw [same]
      split
      next closed => exact .settled there ⟨_, storedState_of_ofRecord legible, closed⟩
      next open_ => exact .read there legible (by simpa using open_)
  | writing found job =>
    obtain ⟨result, u', put⟩ : ∃ result u', Registry.compareAndPut (key reference) found
        (job.completed s now).toRecord u = (result, u') := ⟨_, _, rfl⟩
    -- What the write expects has been read before, and is told apart from all that is stored since.
    have writes := Unreliable.compareAndPut_writes (isExact_toRecord _) (fun current there =>
      (kind.agrees_iff _ _ (known current there) suits.1).mp) put
    simp only [step, use?, write, put]
    cases result with
    | error e =>
      rw [writes.unchanged (by simp)]
      exact .failed e
    | ok written =>
      cases written with
      | false =>
        have self : found.agrees found = true := (kind.agrees_iff _ _ suits.1 suits.1).mpr rfl
        rw [writes.unchanged (by simp)]
        exact .refused (Unreliable.compareAndPut_refused (isExact_toRecord _) self put)
      | true =>
        obtain ⟨there, written⟩ := writes.written rfl
        rw [written, Memory.write, Dict.get?_insert_self]
        exact .written there
  | ended result => exact .idle result

theorem Steps.changes (steps : Steps reference s now before c use c' after)
    (suits : c.Suits P reference before) : Changes before after := by
  cases steps with
  -- Only an open job is completed, and no change is left after that.
  | @written found job there =>
    obtain ⟨-, legible, open_⟩ := suits
    rw [there]
    refine .nearer ?_
    rw [changesLeft_of_isFinal (isFinal_completed job s now)]
    exact changesLeft_pos legible open_
  | _ => exact .kept _

theorem Steps.suits (steps : Steps reference s now before c use c' after)
    (known : ∀ record, before = some record → P record) (suits : c.Suits P reference before) :
    c'.Suits P reference after := by
  cases steps with
  | unread cause => trivial
  | settled there final => exact ⟨_, there, final⟩
  | read there legible open_ => exact ⟨known _ there, legible, open_⟩
  | failed error => trivial
  | refused changed => trivial
  | written there => exact ⟨_, rfl, isFinal_completed _ s now⟩
  | idle result => exact suits

/-- An answer that there is a final state stays right, whoever takes a turn. -/
theorem Suits.of_changes (suits : c.Suits P reference before) (changes : Changes before after) :
    c.Suits P reference after := by
  match c with
  | .reading => trivial
  | .writing found job => exact suits
  | .ended (.ok _) =>
    obtain ⟨record, rfl, final⟩ := suits
    exact ⟨record, changes.eq_of_isFinal final, final⟩
  | .ended (.error _) => trivial

/-! ### What is left to a recording -/

/-- How often a recording may still be refused: once for each change of the record that may come, and
once more if the record has changed already since it was read. -/
def refusalsLeft (stored : Option Record) (c : Completion) : Nat :=
  match c with
  | .reading => changesLeft stored
  | .writing found _ => changesLeft stored + if stored = some found then 0 else 1
  | .ended _ => 0

/-- How often a recording reads before it tries to write. -/
def due (c : Completion) : Nat :=
  match c with
  | .reading => 1
  | _ => 0

@[simp] theorem refusalsLeft_reading (stored : Option Record) :
    reading.refusalsLeft stored = changesLeft stored := rfl

@[simp] theorem refusalsLeft_ended (stored : Option Record) (result : Except JobError Bool) :
    (ended result).refusalsLeft stored = 0 := rfl

@[simp] theorem due_reading : reading.due = 1 := rfl

@[simp] theorem due_writing (found : Record) (job : JobRecord) : (writing found job).due = 0 := rfl

@[simp] theorem due_ended (result : Except JobError Bool) : (ended result).due = 0 := rfl

theorem refusalsLeft_of_found {stored : Option Record} {found : Record} (there : stored = some found)
    (job : JobRecord) : (writing found job).refusalsLeft stored = changesLeft stored := by
  simp only [refusalsLeft, there, if_true, Nat.add_zero]

theorem refusalsLeft_of_changed {stored : Option Record} {found : Record}
    (changed : stored ≠ some found) (job : JobRecord) :
    (writing found job).refusalsLeft stored = changesLeft stored + 1 := by
  simp only [refusalsLeft, changed, if_false]

/-- A write may be refused: the record that it expects may change, or has changed. -/
theorem refusalsLeft_pos {stored : Option Record} {found : Record} {job : JobRecord}
    (suits : (writing found job).Suits P reference stored) :
    0 < (writing found job).refusalsLeft stored := by
  obtain ⟨-, legible, open_⟩ := suits
  by_cases there : stored = some found
  · rw [refusalsLeft_of_found there, there]
    exact changesLeft_pos legible open_
  · rw [refusalsLeft_of_changed there]
    exact Nat.succ_pos _

/-- What becomes of a recording in some turns, of which a number is its own. What it uses the registry
for is taken off from what was left to it: a refusal leads to one read more, and to one write more if
there is an open job to be read. A recording that is not over has used the registry in all its turns. -/
structure Spends (before : Option Record) (c : Completion) (turns : Nat) (uses : List Use)
    (after : Option Record) (c' : Completion) : Prop where
  refusals : uses.count (.write (.ok false)) + c'.refusalsLeft after ≤ c.refusalsLeft before
  reads : uses.count .read + (c'.refusalsLeft after + c'.due) ≤ c.refusalsLeft before + c.due
  steps : uses.length + (2 * c'.refusalsLeft after + c'.due) ≤ 2 * c.refusalsLeft before + c.due
  busy : c'.answer? = none → c.answer? = none ∧ uses.length = turns

theorem Spends.refl (stored : Option Record) (c : Completion) : Spends stored c 0 [] stored c :=
  ⟨by simp, by simp, by simp, fun more => ⟨more, rfl⟩⟩

theorem Spends.trans {middle : Option Record} {c₁ : Completion} {turns turns' : Nat}
    {uses uses' : List Use} (first : Spends before c turns uses middle c₁)
    (second : Spends middle c₁ turns' uses' after c') :
    Spends before c (turns + turns') (uses ++ uses') after c' := by
  obtain ⟨refusals, reads, steps, busy⟩ := first
  obtain ⟨refusals', reads', steps', busy'⟩ := second
  refine ⟨?_, ?_, ?_, fun more => ?_⟩
  · rw [List.count_append]
    omega
  · rw [List.count_append]
    omega
  · rw [List.length_append]
    omega
  · obtain ⟨more₁, all'⟩ := busy' more
    obtain ⟨more₀, all⟩ := busy more₁
    exact ⟨more₀, by rw [List.length_append, all, all']⟩

theorem refusalsLeft_of_changes (changes : Changes before after) (c : Completion) :
    c.refusalsLeft after ≤ c.refusalsLeft before := by
  cases c with
  | reading => exact changes.le
  | writing found job =>
    cases changes with
    | kept => exact Nat.le_refl _
    -- From now on the record may be another one than was read, which makes for a refusal more; but
    -- it has one change less before it.
    | nearer less =>
      simp only [refusalsLeft]
      split <;> split <;> omega
  | ended result => exact Nat.le_refl _

/-- Whatever others do leaves no more to a recording. -/
theorem Spends.of_changes (changes : Changes before after) (c : Completion) :
    Spends before c 0 [] after c := by
  have less := refusalsLeft_of_changes changes c
  refine ⟨?_, ?_, ?_, fun more => ⟨more, rfl⟩⟩
  · simpa using less
  · simpa using less
  · simpa using less

theorem Steps.spends (steps : Steps reference s now before c use c' after)
    (suits : c.Suits P reference before) : Spends before c 1 use.toList after c' := by
  cases steps with
  | unread cause => exact ⟨by simp, by simp, by simp, nofun⟩
  | settled there final => exact ⟨by simp, by simp, by simp, nofun⟩
  | @read found job there legible open_ =>
    have left := refusalsLeft_of_found there job
    exact ⟨by simp [left], by simp [left, Nat.add_comm], by simp [left, Nat.add_comm],
      fun _ => ⟨rfl, rfl⟩⟩
  | @refused found job changed =>
    have left := refusalsLeft_of_changed changed job
    exact ⟨by simp [left, Nat.add_comm], by simp [left], by simp [left]; omega,
      fun _ => ⟨rfl, rfl⟩⟩
  -- Whatever the answer, the recording is over and could have been refused instead.
  | failed error =>
    have room := refusalsLeft_pos suits
    exact ⟨by simp, by simp, by simp; omega, nofun⟩
  | written there =>
    have room := refusalsLeft_pos suits
    exact ⟨by simp, by simp, by simp; omega, nofun⟩
  | idle result => exact ⟨by simp, by simp, by simp, nofun⟩

/-- A recording that is not over has a step left. -/
theorem stepsLeft_pos {stored : Option Record} (suits : c.Suits P reference stored)
    (more : c.answer? = none) : 0 < 2 * c.refusalsLeft stored + c.due := by
  cases c with
  | reading => exact Nat.succ_pos _
  | writing found job =>
    have room := refusalsLeft_pos suits
    omega
  | ended result => cases more

end Completion

/-! ### Taking turns -/

/-- Somebody who records a final state of a job, and how far that has come. -/
structure Recorder where
  state : JobState
  progress : Completion

/-- All those who write to the record of one job, and the registry. The task of the job knows the record
as it was submitted, and marks that one as running. -/
structure Race where
  submitted : JobRecord
  recorders : List Recorder
  registry : Memory

namespace Race

/-- The next step of somebody, who may be told that the registry fails. -/
inductive Turn where
  | mark (failure : Option StoreError)
  /-- A recorder, given by its number, takes its next step. -/
  | record (recorder : Nat) (now : Instant) (failure : Option StoreError)

/-- Whether it is a certain recorder that takes a turn. -/
def Turn.isOf (i : Nat) (t : Turn) : Bool :=
  match t with
  | .mark _ => false
  | .record k _ _ => k == i

/-- Recorders of some states who have not begun yet. -/
def start (submitted : JobRecord) (states : List JobState) (registry : Memory) : Race :=
  ⟨submitted, states.map (⟨·, .reading⟩), registry⟩

def reference (r : Race) : String := r.submitted.reference

/-- The registry, told whether its next use fails. -/
def unreliable (r : Race) (failure : Option StoreError) : Unreliable Memory := ⟨r.registry, failure⟩

/-- What is stored of the job. -/
def stored (r : Race) : Option Record := r.registry.records.get? (key r.reference)

/-- A recorder takes its next step. -/
def record (r : Race) (i : Nat) (c : Recorder) (now : Instant) (failure : Option StoreError) :
    Race :=
  let (progress, u) := c.progress.step r.reference c.state now (r.unreliable failure)
  { r with recorders := r.recorders.set i { c with progress := progress }, registry := u.store }

/-- The race after a turn. The task may try to mark the record at any time, and as often as it
likes. -/
def take (r : Race) (t : Turn) : Race :=
  match t with
  | .mark failure =>
    let task : Task := ⟨r.submitted, .marking⟩
    { r with registry := (task.markRunning (r.unreliable failure)).2.store }
  | .record i now failure => (r.recorders[i]?).elim r (r.record i · now failure)

def run (r : Race) (turns : List Turn) : Race := turns.foldl take r

/-- What a recorder uses the registry for in a turn. -/
def use? (r : Race) (i : Nat) (t : Turn) : Option Completion.Use :=
  match t with
  | .mark _ => none
  | .record k now failure =>
    if k = i then
      (r.recorders[i]?).bind (fun c =>
        c.progress.use? r.reference c.state now (r.unreliable failure))
    else none

/-- All that a recorder uses the registry for in some turns, one after the other. -/
def uses (r : Race) (i : Nat) (turns : List Turn) : List Completion.Use :=
  match turns with
  | [] => []
  | t :: rest => (r.use? i t).toList ++ (r.take t).uses i rest

/-- What a recorder has answered. -/
def result? (r : Race) (i : Nat) : Option (Except JobError Bool) :=
  (r.recorders[i]?).bind (·.progress.answer?)

/-- Whether the job waits as far as its task knows, only records of a kind are stored, and all recorders
stand where they may. -/
structure IsSound (P : Record → Prop) (r : Race) : Prop where
  waiting : r.submitted.state = .pending false
  settled : r.submitted.IsSettled
  known : ∀ record, r.stored = some record → P record
  suits : ∀ c ∈ r.recorders, c.progress.Suits P r.reference r.stored

open Completion

variable {P : Record → Prop} {r : Race} {i : Nat} {c : Recorder}

theorem steps_record (kind : TellsApart P) (sound : r.IsSound P) (there : r.recorders[i]? = some c)
    (now : Instant) (failure : Option StoreError) :
    Steps r.reference c.state now r.stored c.progress
      (c.progress.use? r.reference c.state now (r.unreliable failure))
      (c.progress.step r.reference c.state now (r.unreliable failure)).1
      (r.record i c now failure).stored :=
  steps_step (u := r.unreliable failure) kind sound.known
    (sound.suits c (List.mem_of_getElem? there)) c.state now

/-- Whoever takes a turn, the record stays or comes nearer to a final state. -/
theorem changes_take (kind : TellsApart P) (sound : r.IsSound P) (t : Turn) :
    Changes r.stored (r.take t).stored := by
  cases t with
  | mark failure =>
    exact Task.markRunning_changes (t := ⟨r.submitted, .marking⟩) (u := r.unreliable failure) kind
      sound.waiting sound.settled sound.known
  | record k now failure =>
    cases there : r.recorders[k]? with
    | none =>
      simp only [take, there]
      exact .kept _
    | some c =>
      simp only [take, there]
      exact (steps_record kind sound there now failure).changes
        (sound.suits c (List.mem_of_getElem? there))

theorem submitted_take (r : Race) (t : Turn) : (r.take t).submitted = r.submitted := by
  cases t with
  | mark failure => rfl
  | record k now failure =>
    simp only [take]
    cases r.recorders[k]? <;> rfl

theorem length_recorders_take (r : Race) (t : Turn) :
    (r.take t).recorders.length = r.recorders.length := by
  cases t with
  | mark failure => rfl
  | record k now failure =>
    simp only [take]
    cases r.recorders[k]? with
    | none => rfl
    | some c => simp [record]

/-- A recorder is left alone in the turns of others. -/
theorem recorders_take_of_other {t : Turn} (other : t.isOf i = false) :
    (r.take t).recorders[i]? = r.recorders[i]? ∧ r.use? i t = none := by
  cases t with
  | mark failure => exact ⟨rfl, rfl⟩
  | record k now failure =>
    have ne : k ≠ i := by simpa [Turn.isOf] using other
    refine ⟨?_, by simp [use?, ne]⟩
    simp only [take]
    cases r.recorders[k]? with
    | none => rfl
    | some c => simp [record, List.getElem?_set_ne ne]

/-- What becomes of a recorder in a turn, its own or another's. -/
theorem exists_recorder_take (kind : TellsApart P) (sound : r.IsSound P)
    (there : r.recorders[i]? = some c) (t : Turn) :
    ∃ c', (r.take t).recorders[i]? = some c' ∧ c'.progress.Suits P r.reference (r.take t).stored ∧
      Spends r.stored c.progress (if t.isOf i then 1 else 0) (r.use? i t).toList (r.take t).stored
        c'.progress := by
  have suits := sound.suits c (List.mem_of_getElem? there)
  cases own : t.isOf i with
  -- In the turn of somebody else nothing can happen but that the record changes.
  | false =>
    obtain ⟨same, none_⟩ := recorders_take_of_other (r := r) own
    have changes := changes_take kind sound t
    rw [none_]
    exact ⟨c, same.trans there, suits.of_changes changes, .of_changes changes _⟩
  | true =>
    cases t with
    | mark failure => cases own
    | record k now failure =>
      obtain rfl : k = i := by simpa [Turn.isOf] using own
      have inside := (List.getElem?_eq_some_iff.mp there).1
      have steps := steps_record kind sound there now failure
      simp only [take, use?, there, if_true, Option.bind_some, Option.elim_some]
      exact ⟨_, List.getElem?_set_self inside, steps.suits sound.known suits, steps.spends suits⟩

theorem IsSound.take (kind : TellsApart P) (sound : r.IsSound P) (t : Turn) :
    (r.take t).IsSound P := by
  have same := submitted_take r t
  refine ⟨same ▸ sound.waiting, same ▸ sound.settled, ?_, ?_⟩
  · intro record there
    have changes := changes_take kind sound t
    rw [there] at changes
    generalize eq : r.stored = before at changes
    -- What is new is the stored form of a job.
    cases changes with
    | kept => exact sound.known record eq
    | nearer less => exact kind.stored _
  · intro c' member
    -- Nobody comes or goes, so the recorder has had its place before.
    obtain ⟨i, inside, rfl⟩ := List.getElem_of_mem member
    rw [length_recorders_take] at inside
    obtain ⟨c', there, suits, -⟩ :=
      exists_recorder_take kind sound (List.getElem?_eq_getElem inside) t
    obtain ⟨_, rfl⟩ := List.getElem?_eq_some_iff.mp there
    rwa [reference, same]

theorem run_cons (r : Race) (t : Turn) (rest : List Turn) :
    r.run (t :: rest) = (r.take t).run rest := rfl

/-- What becomes of a recorder in any turns, whosoever they are. -/
theorem exists_recorder_run (kind : TellsApart P) (sound : r.IsSound P)
    (there : r.recorders[i]? = some c) (turns : List Turn) :
    ∃ c', (r.run turns).recorders[i]? = some c' ∧
      c'.progress.Suits P r.reference (r.run turns).stored ∧
      Spends r.stored c.progress (turns.countP (·.isOf i)) (r.uses i turns) (r.run turns).stored
        c'.progress := by
  -- The induction is on the turns: what the first one takes off comes before what the others do.
  induction turns generalizing r c with
  | nil => exact ⟨c, there, sound.suits c (List.mem_of_getElem? there), .refl _ _⟩
  | cons t rest ih =>
    obtain ⟨c₁, there₁, -, first⟩ := exists_recorder_take kind sound there t
    obtain ⟨c', there', suits, others⟩ := ih (sound.take kind t) there₁
    rw [run_cons]
    refine ⟨c', there', ?_, ?_⟩
    · rwa [reference, submitted_take] at suits
    · rw [List.countP_cons, Nat.add_comm]
      exact first.trans others

/-- Any number of recordings race for the record of a job, along with the task that marks it as running.
The record that is there at first may be any that agrees with itself. Each of the recordings is refused
twice at most and reads the record three times at most. Its fifth turn is its last, whoever takes turns
in between and whichever uses of the registry fail; and once it has answered that there is a final
state, be it its own or that of another, there is one. -/
theorem recordings_end (reference appId fileName : String) (access : Access) (requestCount : Nat)
    (submittedAt : Instant) (states : List JobState) (registry : Memory)
    (self : ∀ record, registry.records.get? (key reference) = some record →
      record.agrees record = true)
    (turns : List Turn) (i : Nat) (inside : i < states.length) :
    let submitted : JobRecord := .pending reference appId fileName access requestCount submittedAt
    let race := start submitted states registry
    (race.uses i turns).count (.write (.ok false)) ≤ 2 ∧ (race.uses i turns).count .read ≤ 3 ∧
      (5 ≤ turns.countP (·.isOf i) → ((race.run turns).result? i).isSome = true) ∧
      ∀ wrote, (race.run turns).result? i = some (.ok wrote) →
        ∃ record, (race.run turns).stored = some record ∧ IsFinal record := by
  intro submitted race
  have kind := tellsApart_of_first self
  have sound : race.IsSound (fun record => race.stored = some record ∨ record.IsExact) := by
    refine ⟨rfl, rfl, fun record found => .inl found, ?_⟩
    intro c member
    obtain ⟨s, -, rfl⟩ := List.mem_map.mp member
    trivial
  have begun : race.recorders[i]? = some ⟨states[i], .reading⟩ := by
    simp [race, start, inside]
  obtain ⟨c', ended, suits, spends⟩ := exists_recorder_run kind sound begun turns
  -- All that a recording can spend from its beginning on is what two changes of the record allow.
  have few : changesLeft race.stored ≤ 2 := changesLeft_le _
  obtain ⟨refusals, reads, steps, busy⟩ := spends
  simp only [refusalsLeft_reading, due_reading] at refusals reads steps
  refine ⟨by omega, by omega, fun enough => ?_, fun wrote answer => ?_⟩
  · rw [result?, ended, Option.bind_some]
    cases answer : c'.progress.answer? with
    | some result => rfl
    -- A recording that is not over has used the registry five times, and has a step left: too many.
    | none =>
      have left := stepsLeft_pos suits answer
      have all := (busy answer).2
      omega
  · rw [result?, ended, Option.bind_some] at answer
    match progress : c'.progress, answer with
    | .ended (.ok wrote), rfl =>
      rw [progress] at suits
      exact suits

/-- A recording is overtaken by the task and then by another recording: it is refused twice, reads three
times, and finds the final state of the other in its fifth turn. -/
theorem recordings_end_overtaken :
    let submitted : JobRecord := .pending "ref" "plan" "map" .alwaysAllow 0 default
    let registry := Memory.empty.write (key "ref") submitted.toRecord
    let race := start submitted [.failure "no ink", .cancelled] registry
    let own : Turn := .record 0 default none
    let other : Turn := .record 1 default none
    let turns := [own, .mark none, own, own, other, other, own, own]
    race.uses 0 turns = [.read, .write (.ok false), .read, .write (.ok false), .read] ∧
      (race.run turns).result? 0 = some (.ok false) ∧
      (race.run turns).result? 1 = some (.ok true) ∧
      ∃ record, (race.run turns).stored = some record ∧ IsFinal record := by
  intro submitted registry race own other turns
  have uses : race.uses 0 turns =
      [.read, .write (.ok false), .read, .write (.ok false), .read] := by decide +kernel
  have overtaken : (race.run turns).result? 0 = some (.ok false) := by decide +kernel
  have wrote : (race.run turns).result? 1 = some (.ok true) := by decide +kernel
  have filed : registry.records.get? (key "ref") = some submitted.toRecord :=
    Dict.get?_insert_self _ _ _
  have self : ∀ record, registry.records.get? (key "ref") = some record →
      record.agrees record = true := by
    intro record there
    cases filed.symm.trans there
    exact submitted.isExact_toRecord.agrees_iff.mpr rfl
  obtain ⟨-, -, -, final⟩ := recordings_end "ref" "plan" "map" .alwaysAllow 0 default
    [.failure "no ink", .cancelled] registry self turns 0 (by decide)
  exact ⟨uses, overtaken, wrote, final false overtaken⟩

end Race

end Printworks
