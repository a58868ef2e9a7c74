import Printworks.Execution.Shift
import Printworks.Proofs.Job.Cancelling

/-!
# Jobs and their executions

A workshop is a bureau along with the executions of its jobs. The execution of a job begins when its
task waits for it, and when it is over the task is told what it has come to. Whatever happens in
between, in whichever order, a job that is cancelled while its record waits has no execution: the
task cannot mark the record as running any more, and it does not wait for an execution before.
-/

namespace Printworks

open Registry JobRecord

universe u

/-- A bureau along with the executions that have begun for its jobs. -/
structure Workshop (Implementation : Type u) where
  bureau : Bureau Implementation
  /-- The execution of a job, given by its number, once it has begun. -/
  shifts : Nat → Option Shift

/-- One step of somebody in a workshop. -/
inductive Deed (Implementation : Type u) where
  | act (a : Act Implementation)
  /-- The execution begins that the task of a job waits for. -/
  | launch (job : Nat) (config : ExecutorConfig) (id : String) (suffixes : Suffixes)
  /-- Something happens in the execution of a job. -/
  | move (job : Nat) (m : Move)
  /-- The task of a job is told about its execution, which is over. -/
  | conclude (job : Nat)

namespace Workshop

variable {Implementation : Type u} {w : Workshop Implementation} {d : Deed Implementation}
  {e : Engagement Implementation} {j : Nat}

def empty : Workshop Implementation := ⟨.empty, fun _ => none⟩

/-- The act of the bureau that a deed comes to. Nobody makes up what an execution reports. -/
def act? (w : Workshop Implementation) (d : Deed Implementation) : Option (Act Implementation) :=
  match d with
  | .act (.report _ _) => none
  | .act a => some a
  | .conclude j =>
    (w.shifts j).bind (fun s =>
      if s.place = .finished then some (.report j s.concluded.report) else none)
  | _ => none

/-- The execution of a job that begins, provided that the task of the job waits for it. -/
def begun? (w : Workshop Implementation) (j : Nat) (config : ExecutorConfig) (id : String)
    (suffixes : Suffixes) : Option Shift :=
  (w.bureau.jobs[j]?).bind (fun e =>
    match e.task.stance with
    | .executing =>
      some (.start config id e.submission.template.pipeline.graph e.submission.seed suffixes)
    | _ => none)

/-- The execution of a job after a deed. It begins only once. -/
def nextShift (w : Workshop Implementation) (d : Deed Implementation) (j : Nat) : Option Shift :=
  match d, w.shifts j with
  | .launch k config id suffixes, none => if k = j then w.begun? j config id suffixes else none
  | .move k m, some s => some (if k = j then s.act m else s)
  | _, shift => shift

/-- The workshop after a deed. -/
def perform (w : Workshop Implementation) (d : Deed Implementation) : Workshop Implementation :=
  ⟨(w.act? d).elim w.bureau w.bureau.act, w.nextShift d⟩

def run (deeds : List (Deed Implementation)) : Workshop Implementation := deeds.foldl perform empty

/-- The reference of a job, if a call to cancel it ends in a deed and succeeds. -/
def cancelled? (w : Workshop Implementation) (d : Deed Implementation) : Option String :=
  (w.act? d).bind w.bureau.cancelled?

theorem run_concat (deeds : List (Deed Implementation)) (d : Deed Implementation) :
    run (deeds ++ [d]) = (run deeds).perform d := by
  rw [run, List.foldl_append]
  rfl

/-- What is done in a workshop is done in its bureau, as far as that is concerned. -/
theorem exists_run (deeds : List (Deed Implementation)) :
    ∃ acts, (run deeds).bureau = .run acts := by
  induction deeds using List.reverseRecOn with
  | nil => exact ⟨[], rfl⟩
  | append_singleton deeds d ih =>
    obtain ⟨acts, same⟩ := ih
    rw [run_concat, perform]
    cases act : (run deeds).act? d with
    | none => exact ⟨acts, same⟩
    | some a => exact ⟨acts ++ [a], by rw [Bureau.run_concat, ← same]; rfl⟩

/-- What holds of a bureau after any acts holds of the one in a workshop. -/
theorem of_bureau_run {P : Bureau Implementation → Prop} (holds : ∀ acts, P (.run acts))
    (deeds : List (Deed Implementation)) : P (run deeds).bureau := by
  obtain ⟨acts, same⟩ := exists_run deeds
  rw [same]
  exact holds acts

theorem isOrderly_run (deeds : List (Deed Implementation)) : (run deeds).bureau.IsOrderly :=
  of_bureau_run Bureau.isOrderly_run deeds

/-- What is done in the bureau is asked for as such, or it is the report of an execution that is
over. -/
theorem act_cases {a : Act Implementation} (act : w.act? d = some a) :
    (d = .act a ∧ ∀ j report, a ≠ .report j report) ∨
      ∃ j s, d = .conclude j ∧ w.shifts j = some s ∧ s.place = .finished ∧
        a = .report j s.concluded.report := by
  unfold act? at act
  split at act
  next => cases act
  next other =>
    cases act
    exact .inl ⟨rfl, other⟩
  next j =>
    obtain ⟨s, shift, concluded⟩ := Option.bind_eq_some_iff.mp act
    split at concluded
    next finished =>
      cases concluded
      exact .inr ⟨j, s, rfl, shift, finished, rfl⟩
    next => cases concluded
  next => cases act

/-! ### Which jobs have executions -/

/-- An execution that begins is one that the task of its job waits for, and nothing else happens. -/
theorem begins (none : w.shifts j = none) {s : Shift} (begun : w.nextShift d j = some s) :
    w.act? d = Option.none ∧ ∃ e, w.bureau.jobs[j]? = some e ∧ e.task.stance = .executing := by
  unfold nextShift at begun
  split at begun
  next k config id suffixes _ =>
    split at begun
    next =>
      obtain ⟨e, job, begun⟩ := Option.bind_eq_some_iff.mp begun
      refine ⟨rfl, e, job, ?_⟩
      split at begun
      next stance => exact stance
      next => cases begun
    next => cases begun
  next there => rw [none] at there; cases there
  next => rw [none] at begun; cases begun

theorem nextShift_isSome {s : Shift} (there : w.shifts j = some s) :
    (w.nextShift d j).isSome = true := by
  unfold nextShift
  split
  next none => rw [there] at none; cases none
  next => rfl
  next => rw [there]; rfl

end Workshop

/-! ### The record of a job that has an execution -/

namespace Task

variable {t : Task} {signalled : Bool} {now : Instant} {u : Unreliable Memory}

/-- A task begins to wait for an execution when it marks the record as running. -/
theorem started_of_executing (stored : AllStored u.store)
    (executing : (t.step signalled now u).1.stance = .executing) :
    t.stance = .executing ∨
      (t.step signalled now u).2.store.records.get? (key t.reference) =
        some t.submitted.started.toRecord := by
  cases stance : t.stance with
  | created => cases signalled <;> simp [step, stance] at executing
  | marking =>
    right
    simp only [step, stance, markRunning] at executing ⊢
    split at executing
    next => cases executing
    next => cases executing
    next put =>
      have spec := Unreliable.compareAndPut_spec (isExact_toRecord _)
        (fun _ there => (stored _ _ there).isExact) put
      rw [(spec.written rfl).2]
      exact Dict.get?_insert_self _ _ _
  | executing => exact .inl rfl
  | recording s attempt c =>
    have late := isEarly_afterRecording t.submitted s attempt (c.step t.reference s now u).1
    simp only [step, stance] at executing
    simp [isEarly, executing] at late
  | fallingBack cause c =>
    have late := isEarly_afterFallback t.submitted cause
      (c.step t.reference (fallbackState cause) now u).1
    simp only [step, stance] at executing
    simp [isEarly, executing] at late
  | filed => simp [step, stance] at executing
  | pausing s attempt => simp [step, stance] at executing
  | ended result => simp [step, stance] at executing

end Task

namespace Bureau

variable {Implementation : Type u} {b : Bureau Implementation} {a : Act Implementation}
  {e : Engagement Implementation} {j : Nat}

theorem started_of_executing (sound : b.IsSound) (job : b.jobs[j]? = some e)
    (executing : (b.nextTask a j e).stance = .executing) :
    e.task.stance = .executing ∨
      (b.act a).stored e.task.reference = some e.task.submitted.started.toRecord := by
  by_cases own : a.IsStepOf j
  · obtain ⟨signalled, now, failure, rfl⟩ := own
    rw [stored_work job]
    simp only [nextTask, if_true] at executing
    exact Task.started_of_executing sound.registry executing
  · left
    rcases nextTask_cases own with same | entered | ⟨s, executed⟩ | resumed
    · rwa [same] at executing
    · rw [entered, Task.enter] at executing
      split at executing
      next => cases executing
      next => exact executing
    · rw [executed, Task.executed] at executing
      split at executing
      next => cases executing
      next => exact executing
    · rw [resumed, Task.resume] at executing
      split at executing
      next => cases executing
      next => exact executing

/-- A record that does not wait never waits again. -/
theorem not_waiting_act (sound : b.IsSound) {reference : String} {record : Record}
    (there : b.stored reference = some record)
    (started : storedState record ≠ .ok (.pending false)) (a : Act Implementation) :
    ∃ record', (b.act a).stored reference = some record' ∧
      storedState record' ≠ .ok (.pending false) := by
  have moves := moves_act sound a reference
  rw [there] at moves
  generalize (b.act a).stored reference = after at moves
  cases moves with
  | kept => exact ⟨record, rfl, started⟩
  | started later => exact absurd later.1 started
  | finished later => exact ⟨_, rfl, later.2.1.not_pending false⟩

end Bureau

namespace Workshop

variable {Implementation : Type u} {w : Workshop Implementation} {d : Deed Implementation}
  {e : Engagement Implementation} {j : Nat}

/-- The record of a job that has an execution does not wait. -/
theorem started_of_shift (deeds : List (Deed Implementation)) {s : Shift}
    (shift : (run deeds).shifts j = some s) :
    ∃ e record, (run deeds).bureau.jobs[j]? = some e ∧
      (run deeds).bureau.stored e.task.reference = some record ∧
      storedState record ≠ .ok (.pending false) := by
  induction deeds using List.reverseRecOn generalizing s with
  | nil => cases shift
  | append_singleton deeds d ih =>
    have orderly := isOrderly_run deeds
    rw [run_concat, perform] at shift ⊢
    cases before : (run deeds).shifts j with
    -- The execution begins now. Its task waits for it, so that it has marked the record.
    | none =>
      obtain ⟨quiet, e, job, executing⟩ := begins before shift
      have sound := orderly.jobs e (List.mem_of_getElem? job)
      obtain ⟨record, there, final | fits⟩ := orderly.standing e (List.mem_of_getElem? job)
      · rw [quiet]
        exact ⟨e, record, job, there, final.not_pending false⟩
      · rw [quiet]
        refine ⟨e, record, job, there, ?_⟩
        rw [Task.Fits, executing] at fits
        rw [fits, storedState_started sound.waiting sound.settled]
        simp
    -- It has begun before, and a record that has been marked never waits again.
    | some s' =>
      obtain ⟨e, record, job, there, started⟩ := ih before
      cases act : (run deeds).act? d with
      | none => exact ⟨e, record, job, there, started⟩
      | some a =>
        obtain ⟨record', there', started'⟩ :=
          Bureau.not_waiting_act orderly.toIsSound there started a
        refine ⟨_, record', Bureau.getElem?_jobs_act job a, ?_, started'⟩
        change ((run deeds).bureau.act a).stored (Bureau.nextTask _ a j e).reference = _
        rw [Bureau.reference_nextTask]
        exact there'

/-- Whether the record of a job is final, and its task has no execution and does not wait for one. -/
structure IsClosed (w : Workshop Implementation) (j : Nat) (e : Engagement Implementation)
    (record : Record) : Prop where
  job : w.bureau.jobs[j]? = some e
  there : w.bureau.stored e.task.reference = some record
  final : IsFinal record
  idle : e.task.stance ≠ .executing
  none : w.shifts j = none

/-- If the record of a job is final after a deed, and the task has not waited for an execution before
and had none, then it will not get one. -/
theorem isClosed_perform (sound : w.bureau.IsSound) (job : w.bureau.jobs[j]? = some e)
    (idle : e.task.stance ≠ .executing) (none : w.shifts j = none) {record : Record}
    (there : (w.perform d).bureau.stored e.task.reference = some record) (final : IsFinal record) :
    ∃ e', (w.perform d).IsClosed j e' record := by
  -- An execution begins only if the task waits for it.
  have none' : w.nextShift d j = Option.none := by
    cases begun : w.nextShift d j with
    | none => rfl
    | some s =>
      obtain ⟨-, e', job', executing⟩ := begins none begun
      cases job.symm.trans job'
      exact absurd executing idle
  rw [perform] at there ⊢
  cases act : w.act? d with
  | none =>
    rw [act] at there
    exact ⟨e, job, there, final, idle, none'⟩
  | some a =>
    rw [act] at there
    refine ⟨_, Bureau.getElem?_jobs_act job a, ?_, final, fun executing => ?_, none'⟩
    · rw [Bureau.reference_nextTask]
      exact there
    · rcases Bureau.started_of_executing sound job executing with earlier | started
      · exact idle earlier
      -- Then the record has just been marked as running, and is not final.
      · have ok := sound.jobs e (List.mem_of_getElem? job)
        cases there.symm.trans started
        exact final.not_pending true (storedState_started ok.waiting ok.settled)

theorem stored_perform_of_isFinal (sound : w.bureau.IsSound) {reference : String} {record : Record}
    (there : w.bureau.stored reference = some record) (final : IsFinal record)
    (d : Deed Implementation) : (w.perform d).bureau.stored reference = some record := by
  rw [perform]
  cases w.act? d with
  | none => exact there
  | some a => exact Bureau.stored_act_of_isFinal sound there final a

theorem stored_run_of_isFinal (before after : List (Deed Implementation)) {reference : String}
    {record : Record} (there : (run before).bureau.stored reference = some record)
    (final : IsFinal record) : (run (before ++ after)).bureau.stored reference = some record := by
  induction after using List.reverseRecOn with
  | nil => rwa [List.append_nil]
  | append_singleton after d ih =>
    rw [← List.append_assoc, run_concat]
    exact stored_perform_of_isFinal (isOrderly_run _).toIsSound ih final d

theorem isClosed_run (before after : List (Deed Implementation)) {record : Record}
    (closed : (run before).IsClosed j e record) :
    ∃ e', (run (before ++ after)).IsClosed j e' record := by
  induction after using List.reverseRecOn with
  | nil => exact ⟨e, by rwa [List.append_nil]⟩
  | append_singleton after d ih =>
    obtain ⟨e', closed⟩ := ih
    have sound := (isOrderly_run (before ++ after)).toIsSound
    have there := stored_perform_of_isFinal sound closed.there closed.final d
    rw [← List.append_assoc, run_concat]
    exact isClosed_perform sound closed.job closed.idle closed.none there closed.final

/-- An execution that is not there has not been there before. -/
theorem shifts_none_of_append {earlier : List (Deed Implementation)}
    (later : List (Deed Implementation)) (none : (run (earlier ++ later)).shifts j = none) :
    (run earlier).shifts j = Option.none := by
  induction later using List.reverseRecOn with
  | nil => rwa [List.append_nil] at none
  | append_singleton later d ih =>
    refine ih ?_
    rw [← List.append_assoc, run_concat] at none
    cases there : (run (earlier ++ later)).shifts j with
    | none => rfl
    | some s =>
      have stays : ((run (earlier ++ later)).perform d).shifts j ≠ Option.none :=
        Option.isSome_iff_ne_none.mp (nextShift_isSome there)
      exact absurd none stays

/-- A job whose record waits has no execution, and its task does not wait for one. -/
theorem not_begun_of_waiting (deeds : List (Deed Implementation))
    (job : (run deeds).bureau.jobs[j]? = some e) {record : Record}
    (there : (run deeds).bureau.stored e.task.reference = some record)
    (waiting : storedState record = .ok (.pending false)) :
    (run deeds).shifts j = none ∧ e.task.stance ≠ .executing := by
  constructor
  · cases shift : (run deeds).shifts j with
    | none => rfl
    | some s =>
      obtain ⟨e', record', job', there', started⟩ := started_of_shift deeds shift
      cases job.symm.trans job'
      cases there.symm.trans there'
      exact absurd waiting started
  · intro executing
    have orderly := isOrderly_run deeds
    have sound := orderly.jobs e (List.mem_of_getElem? job)
    obtain ⟨record', there', standing⟩ := orderly.standing e (List.mem_of_getElem? job)
    cases there.symm.trans there'
    rcases standing with final | fits
    · exact final.not_pending false waiting
    · rw [Task.Fits, executing] at fits
      rw [fits, storedState_started sound.waiting sound.settled] at waiting
      cases waiting

/-- When a call to cancel a job succeeds the record is final and stays: it says that the job has been
cancelled, or has been final before; and calls to cancel the job change nothing from then on. A job
whose record waits before a deed and says after it that the job has been cancelled has no execution at
any time. -/
theorem cancel_settles (before : List (Deed Implementation)) (d : Deed Implementation) :
    (∀ reference, (run before).cancelled? d = some reference →
      ∃ record, IsFinal record ∧
        (storedState record = .ok .cancelled ∨
          (run before).bureau.stored reference = some record) ∧
        ∀ after, (run (before ++ d :: after)).bureau.stored reference = some record ∧
          (run (before ++ d :: after)).bureau.IgnoresCalls reference) ∧
      ∀ j e, (run before).bureau.jobs[j]? = some e →
        ((run before).bureau.stored e.task.reference).map storedState =
          some (.ok (.pending false)) →
        ((run (before ++ [d])).bureau.stored e.task.reference).map storedState =
          some (.ok .cancelled) →
        ∀ earlier later after, earlier ++ later = before ++ d :: after →
          (run earlier).shifts j = none := by
  have sound := (isOrderly_run before).toIsSound
  constructor
  · intro reference cancelled
    obtain ⟨a, act, cancelled⟩ := Option.bind_eq_some_iff.mp cancelled
    obtain ⟨record, there, final, how⟩ := Bureau.stored_of_cancelled sound cancelled
    refine ⟨record, final, how, fun after => ?_⟩
    have there : (run (before ++ [d])).bureau.stored reference = some record := by
      rw [run_concat, perform, act]
      exact there
    have stays := stored_run_of_isFinal (before ++ [d]) after there final
    rw [List.append_assoc, List.singleton_append] at stays
    exact ⟨stays, Bureau.ignoresCalls_of_isFinal (isOrderly_run _).toIsSound stays final⟩
  · intro j e job waiting cancelled earlier later after split
    obtain ⟨old, there, waiting⟩ := Option.map_eq_some_iff.mp waiting
    obtain ⟨record, settled, cancelled⟩ := Option.map_eq_some_iff.mp cancelled
    -- Up to the deed nothing has begun, and from the deed on nothing can.
    obtain ⟨none, idle⟩ := not_begun_of_waiting before job there waiting
    rw [run_concat] at settled
    obtain ⟨e', closed⟩ := isClosed_perform sound job idle none settled ⟨_, cancelled, rfl⟩
    rw [← run_concat] at closed
    obtain ⟨_, closed⟩ := isClosed_run (before ++ [d]) after closed
    refine shifts_none_of_append later ?_
    rw [split, ← List.singleton_append, ← List.append_assoc]
    exact closed.none

/-- A task is about to mark the record as running when another manager, which does not know the
job, is called to cancel it and is faster. -/
theorem cancel_settles_marking :
    let before : List (Deed Unit) := (Bureau.opening .alwaysAllow).map .act ++
      [.act (.join .default), .act (.cancel 1 "ref" .anonymous), .act (.proceed 0 default none),
        .act (.proceed 0 default none), .act (Bureau.step false)]
    let d : Deed Unit := .act (.proceed 0 default none)
    (run before).cancelled? d = some "ref" ∧
      ((run before).bureau.stored "ref").map storedState = some (.ok (.pending false)) ∧
      ((run (before ++ [d])).bureau.stored "ref").map storedState = some (.ok .cancelled) ∧
      (∃ record, IsFinal record ∧
        (storedState record = .ok .cancelled ∨ (run before).bureau.stored "ref" = some record) ∧
        ∀ after, (run (before ++ d :: after)).bureau.stored "ref" = some record ∧
          (run (before ++ d :: after)).bureau.IgnoresCalls "ref") ∧
      ∀ earlier later after, earlier ++ later = before ++ d :: after →
        (run earlier).shifts 0 = none := by
  intro before d
  have cancelled : (run before).cancelled? d = some "ref" := by decide +kernel
  have waiting : ((run before).bureau.stored "ref").map storedState =
      some (.ok (.pending false)) := by decide +kernel
  have settled : ((run (before ++ [d])).bureau.stored "ref").map storedState =
      some (.ok .cancelled) := by decide +kernel
  have reference : ((run before).bureau.jobs[0]?).map (·.task.reference) = some "ref" := by
    decide +kernel
  obtain ⟨e, job, own⟩ := Option.map_eq_some_iff.mp reference
  obtain ⟨returned, never⟩ := cancel_settles before d
  exact ⟨cancelled, waiting, settled, returned "ref" cancelled,
    never 0 e job (own.symm ▸ waiting) (own.symm ▸ settled)⟩

end Workshop

end Printworks
