import Mathlib.Data.List.Induction
import Printworks.Proofs.Job.History

/-!
# Where tasks stand

As long as nobody has completed the record of a job, the record is the one that its task has left:
as it was submitted until the task has marked it as running, and as it was marked from then on. So
where the task stands tells which record it will find. Nobody else marks the record, because no two
jobs have one reference, and whoever else writes to it completes it.
-/

namespace Printworks

open Registry JobRecord

universe u

namespace JobRecord

/-! ### Records that have not been completed -/

/-- Whether a stored record is that of a job as it was submitted, or as it was marked as running. -/
def IsOpenForm (r : JobRecord) (record : Record) : Prop :=
  record = r.toRecord ∨ record = r.started.toRecord

/-- Whether a job can be read from the stored form of a record. -/
def IsReadable (r : JobRecord) : Prop := ∃ job, ofRecord r.reference r.toRecord = .ok job

theorem IsReadable.nesting_le {r : JobRecord} (readable : r.IsReadable) :
    r.access.encode.nesting ≤ Json.depthLimit := by
  obtain ⟨job, read⟩ := readable
  have access := (isRead_of_ofRecord read).access
  rw [readAccess_toRecord] at access
  split at access
  next room => exact room
  next => cases access

instance (r : JobRecord) : Decidable r.IsReadable :=
  decidable_of_iff ((ofRecord r.reference r.toRecord).toOption.isSome = true) (by
    rw [IsReadable]
    cases ofRecord r.reference r.toRecord <;> simp [Except.toOption])

variable {a b : Record}

theorem SameTerms.present? (same : SameTerms a b) {name : String} (term : name ∈ termNames) :
    present? a name = present? b name := by
  rw [JobRecord.present?, same name term, JobRecord.present?]

theorem SameTerms.optional (same : SameTerms a b) {name : String} (term : name ∈ termNames)
    {α : Type} (read : Json → Option α) (what : String) :
    optional a name read what = optional b name read what := by
  rw [JobRecord.optional, same.present? term, JobRecord.optional]

theorem SameTerms.required (same : SameTerms a b) {name : String} (term : name ∈ termNames)
    {α : Type} (read : Json → Option α) (what : String) :
    required a name read what = required b name read what := by
  rw [JobRecord.required, same.optional term, JobRecord.required]

theorem isSome_of_optional {α : Type} {name : String} {read : Json → Option α} {what : String}
    {found : Option α} (h : optional a name read what = .ok found) :
    found.isSome = (present? a name).isSome := by
  cases there : JobRecord.present? a name with
  | none =>
    simp only [JobRecord.optional, there, Except.ok.injEq] at h
    simp [← h]
  | some j =>
    obtain ⟨_, rfl, -⟩ := optional_some there h
    rfl

/-- A record can be read if it has the terms of one that can, and if its completion date and its state
can. -/
theorem ofRecord_of_sameTerms {reference : String} {job : JobRecord} {date : Option Instant}
    {s : JobState} (same : SameTerms a b) (read : ofRecord reference a = .ok job)
    (dated : optional b "completionDate" readMillis? "a timestamp" = .ok date)
    (state : storedState b = .ok s) :
    ofRecord reference b = .ok { job with completedAt := date, state := s } := by
  have fields := isRead_of_ofRecord read
  rw [storedState, ← isSome_of_optional dated] at state
  -- Of what is read only the date and the state are no terms.
  refine ofRecord_of_isRead ⟨fields.reference, ?_, dated, state, ?_, ?_, ?_, ?_⟩
  · rw [← fields.access, readAccess, requiredText, ← same.required (by decide), readAccess,
      requiredText]
  · rw [← fields.appId, requiredText, ← same.required (by decide), requiredText]
  · rw [← fields.fileName, requiredText, ← same.required (by decide), requiredText]
  · rw [← fields.submittedAt, ← same.required (by decide)]
  · rw [← same.optional (by decide)]
    exact fields.requestCount

/-- Whether a record can be read depends on its terms alone, as long as it is not completed. -/
theorem ofRecord_of_terms {reference : String} {r q job : JobRecord} (same : r.terms = q.terms)
    {running : Bool} (state : q.state = .pending running) (open_ : q.completedAt = none)
    (read : ofRecord reference r.toRecord = .ok job) :
    ∃ job', ofRecord reference q.toRecord = .ok job' := by
  have none_ : present? q.toRecord "completionDate" = none := by
    rw [present?_completionDate, open_]
    rfl
  have settled : q.IsSettled := by
    rw [IsSettled, isTerminal, state, open_]
    rfl
  have dated : optional q.toRecord "completionDate" readMillis? "a timestamp" = .ok none := by
    rw [optional, none_]
  exact ⟨_, ofRecord_of_sameTerms (sameTerms_toRecord same) read dated (storedState_toRecord settled)⟩

/-- Both forms of an open job can be read, or none of them. -/
theorem IsOpenForm.readable_iff {r : JobRecord} {record : Record} (open_ : r.IsOpenForm record)
    (waiting : r.state = .pending false) (settled : r.IsSettled) :
    (∃ job, ofRecord r.reference record = .ok job) ↔ r.IsReadable := by
  have none_ : r.completedAt = none := by
    rw [IsSettled, isTerminal, waiting] at settled
    simpa [JobState.isTerminal] using settled
  rcases open_ with rfl | rfl
  · exact Iff.rfl
  · constructor
    · rintro ⟨job, read⟩
      exact ofRecord_of_terms (r := r.started) (q := r) rfl waiting none_ read
    · rintro ⟨job, read⟩
      exact ofRecord_of_terms (r := r) (q := r.started) rfl rfl none_ read

/-- A job that waits has a running record once it is marked. -/
theorem storedState_started {r : JobRecord} (waiting : r.state = .pending false)
    (settled : r.IsSettled) : JobRecord.storedState r.started.toRecord = .ok (.pending true) := by
  have started : r.started.IsSettled := by
    rw [IsSettled, isTerminal, waiting] at settled
    exact settled
  rw [storedState_toRecord started]
  rfl

theorem IsOpenForm.storedState {r : JobRecord} {record : Record} (open_ : r.IsOpenForm record)
    (waiting : r.state = .pending false) (settled : r.IsSettled) :
    ∃ running, storedState record = .ok (.pending running) := by
  rcases open_ with rfl | rfl
  · refine ⟨false, ?_⟩
    rw [storedState_toRecord settled, waiting]
    rfl
  · exact ⟨true, storedState_started waiting settled⟩

theorem IsOpenForm.not_isFinal {r : JobRecord} {record : Record} (open_ : r.IsOpenForm record)
    (waiting : r.state = .pending false) (settled : r.IsSettled) : ¬ IsFinal record := by
  obtain ⟨running, pending⟩ := open_.storedState waiting settled
  exact fun final => final.not_pending running pending

end JobRecord

/-! ### What a step does with an open record -/

namespace Completion

/-- What becomes of the recording of a state, and of the record, in a step that finds the record
open and as the recording knows it. -/
inductive Works (reference : String) (s : JobState) (now : Instant) (failure : Option StoreError)
    (record : Record) : Completion → Completion → Record → Prop
  | read {job : JobRecord} (works : failure = none) (read : ofRecord reference record = .ok job) :
      Works reference s now failure record .reading (.writing record job) record
  | unread {cause : JobError} (reason : failure.map JobError.store = some cause ∨
        failure = none ∧ ofRecord reference record = .error cause) :
      Works reference s now failure record .reading (.ended (.error cause)) record
  | written {job : JobRecord} (works : failure = none) :
      Works reference s now failure record (.writing record job) (.ended (.ok true))
        (job.completed s now).toRecord
  | refused {job : JobRecord} {error : StoreError} (fails : failure = some error) :
      Works reference s now failure record (.writing record job) (.ended (.error (.store error)))
        record

/-- Whether a recording that is about to write expects a certain record. -/
def Expects (c : Completion) (record : Record) : Prop :=
  ∀ found job, c = .writing found job → found = record

variable {reference : String} {s : JobState} {now : Instant} {u : Unreliable Memory} {c : Completion}
  {record : Record}

theorem works_step (s : JobState) (now : Instant)
    (there : u.store.records.get? (key reference) = some record) (open_ : ¬ IsFinal record)
    (sound : c.IsSound reference) (expects : c.Expects record) :
    ∃ record', (c.step reference s now u).2.store.records.get? (key reference) = some record' ∧
      Works reference s now u.failure record c (c.step reference s now u).1 record' := by
  cases c with
  | reading =>
    cases failure : u.failure with
    | some error =>
      simp only [step, read, fetch, Unreliable.get_failing failure]
      exact ⟨record, there, .unread (.inl rfl)⟩
    | none =>
      simp only [step, read, fetch, Unreliable.get_working failure, there]
      cases found : ofRecord reference record with
      | error cause => exact ⟨record, there, .unread (.inr ⟨rfl, found⟩)⟩
      | ok job =>
        -- A job that is over would have been read from a final record.
        have more : job.isTerminal = false := by
          rw [← Bool.not_eq_true]
          exact fun closed => open_ ⟨_, storedState_of_ofRecord found, closed⟩
        simp only [more]
        exact ⟨record, there, .read rfl found⟩
  | writing found job =>
    obtain rfl := expects found job rfl
    obtain ⟨⟨r, -, rfl⟩, -, -⟩ := sound
    cases failure : u.failure with
    | some error =>
      simp only [step, write, Unreliable.compareAndPut_failing failure]
      exact ⟨_, there, .refused rfl⟩
    | none =>
      simp only [step, write, Unreliable.compareAndPut_found (isExact_toRecord _)
        (isExact_toRecord _) failure there]
      exact ⟨_, Dict.get?_insert_self _ _ _, .written rfl⟩
  | ended result => exact sound.elim

/-- A recording that answers that it has written its state has found the record that it expected, and
has completed what it has read from it. -/
theorem step_wrote (stored : AllStored u.store) (sound : c.IsSound reference)
    (answer : (c.step reference s now u).1.answer? = some (.ok true)) :
    ∃ found job, u.store.records.get? (key reference) = some found ∧
      ofRecord reference found = .ok job ∧
      (c.step reference s now u).2.store =
        u.store.write (key reference) (job.completed s now).toRecord := by
  cases c with
  | reading =>
    obtain ⟨c', u', eq⟩ : ∃ c' u', read reference u = (c', u') := ⟨_, _, rfl⟩
    rw [step, eq] at answer
    exact absurd answer (read_spec stored eq).2.1
  | writing found job =>
    obtain ⟨⟨r, -, rfl⟩, read, -⟩ := sound
    refine ⟨r.toRecord, job, ?_⟩
    simp only [step, write] at answer ⊢
    split at answer
    next => simp [answer?] at answer
    next put =>
      have spec := Unreliable.compareAndPut_spec (isExact_toRecord _)
        (fun _ there => (stored _ _ there).isExact) put
      obtain ⟨there, written⟩ := spec.written rfl
      exact ⟨there, read, written⟩
    next => simp [answer?] at answer
  | ended result => exact sound.elim

theorem expects_reading : Expects .reading record := by
  rintro found job ⟨⟩

/-- A step completes the record and says so, or leaves it and does not. -/
theorem Works.cases {failure : Option StoreError} {c' : Completion} {record' : Record}
    (works : Works reference s now failure record c c' record') (final : s.isTerminal = true) :
    IsFinal record' ∧ c' = .ended (.ok true) ∨
      record' = record ∧ (c' = .reading ∨ (∃ job, c' = .writing record job) ∨
        ∃ cause, c' = .ended (.error cause)) := by
  cases works with
  | read _ _ => exact .inr ⟨rfl, .inr (.inl ⟨_, rfl⟩)⟩
  | unread _ => exact .inr ⟨rfl, .inr (.inr ⟨_, rfl⟩)⟩
  | @written job _ =>
    exact .inl ⟨isFinal_toRecord (job.isSettled_completed final now) final, rfl⟩
  | refused _ => exact .inr ⟨rfl, .inr (.inr ⟨_, rfl⟩)⟩

end Completion

namespace Task

/-- Whether a task stands where it does when nobody has completed the record. -/
def Fits (t : Task) (record : Record) : Prop :=
  match t.stance with
  | .filed => record = t.submitted.toRecord
  | .created => record = t.submitted.toRecord
  | .marking => record = t.submitted.toRecord
  | .executing => record = t.submitted.started.toRecord
  | .recording _ _ c => t.submitted.IsOpenForm record ∧ c.Expects record
  | .fallingBack _ c => t.submitted.IsOpenForm record ∧ c.Expects record
  | .pausing _ _ => t.submitted.IsOpenForm record
  | .ended (.ok _) => False
  | .ended (.error _) => t.submitted.IsOpenForm record

/-- What becomes of a task, and of the record, in a step that finds the record open. -/
inductive Works (t : Task) (signalled : Bool) (now : Instant) (failure : Option StoreError)
    (record : Record) : Stance → Record → Prop
  | begin (stance : t.stance = .created) : Works t signalled now failure record
      (if signalled then .recording .cancelled 1 .reading else .marking) record
  | mark (stance : t.stance = .marking) (works : failure = none) :
      Works t signalled now failure record .executing t.submitted.started.toRecord
  | unmarked {error : StoreError} (stance : t.stance = .marking) (fails : failure = some error) :
      Works t signalled now failure record (.ended (.error (.store error))) record
  | record {s : JobState} {attempt : Nat} {c c' : Completion} {record' : Record}
      (stance : t.stance = .recording s attempt c)
      (works : Completion.Works t.reference s now failure record c c' record') :
      Works t signalled now failure record (afterRecording s attempt c') record'
  | fallBack {cause : JobError} {c c' : Completion} {record' : Record}
      (stance : t.stance = .fallingBack cause c)
      (works : Completion.Works t.reference (fallbackState cause) now failure record c c' record') :
      Works t signalled now failure record (afterFallback cause c') record'
  | idle (waits : t.isWaiting = true) : Works t signalled now failure record t.stance record

variable {t : Task} {signalled : Bool} {now : Instant} {u : Unreliable Memory} {record : Record}

theorem step_submitted {Store : Type} [Registry Store] (signalled : Bool) (now : Instant) (t : Task)
    (store : Store) : (t.step signalled now store).1.submitted = t.submitted := by
  unfold step
  split <;> rfl

/-- What a sound task records is final and can be recorded. -/
theorem isSound_recording {s : JobState} {c : Completion} (sound : t.IsSound)
    (recording : t.recording? = some (s, c)) : s.isTerminal = true ∧ c.IsSound t.reference := by
  have ok := sound.stance
  unfold recording? at recording
  split at recording
  next stance =>
    cases recording
    rw [stance] at ok
    exact ok
  next stance =>
    cases recording
    rw [stance] at ok
    exact ⟨rfl, ok⟩
  next => cases recording

/-- What a task that records something does with the registry is what the recording does. -/
theorem store_recording {Store : Type} [Registry Store] {s : JobState} {c : Completion}
    (recording : t.recording? = some (s, c)) (signalled : Bool) (now : Instant) (store : Store) :
    (t.step signalled now store).2 = (c.step t.reference s now store).2 := by
  unfold recording? at recording
  split at recording
  next stance =>
    cases recording
    simp only [step, stance]
  next stance =>
    cases recording
    simp only [step, stance]
  next => cases recording

theorem Fits.isOpenForm (fits : t.Fits record) : t.submitted.IsOpenForm record := by
  unfold Fits at fits
  split at fits
  next => exact .inl fits
  next => exact .inl fits
  next => exact .inl fits
  next => exact .inr fits
  next => exact fits.1
  next => exact fits.1
  next => exact fits
  next => exact fits.elim
  next => exact fits

theorem Fits.enter (fits : t.Fits record) : t.enter.Fits record := by
  unfold Task.enter
  split
  next stance =>
    rw [Fits, stance] at fits
    exact fits
  next => exact fits

theorem Fits.executed (fits : t.Fits record) (s : JobState) : (t.executed s).Fits record := by
  unfold Task.executed
  split
  next stance =>
    rw [Fits, stance] at fits
    exact ⟨.inr fits, Completion.expects_reading⟩
  next => exact fits

theorem Fits.resume (fits : t.Fits record) : t.resume.Fits record := by
  unfold Task.resume
  split
  next => exact ⟨fits.isOpenForm, Completion.expects_reading⟩
  next => exact fits

theorem markRunning_failing {error : StoreError} (fails : u.failure = some error) :
    t.markRunning u = (.ended (.error (.store error)), u) := by
  simp only [markRunning, Unreliable.compareAndPut_failing fails]

theorem markRunning_working (works : u.failure = none)
    (there : u.store.records.get? (key t.reference) = some t.submitted.toRecord) :
    t.markRunning u = (.executing,
      { u with store := u.store.write (key t.reference) t.submitted.started.toRecord }) := by
  simp only [markRunning, Unreliable.compareAndPut_found (isExact_toRecord _) (isExact_toRecord _)
    works there]

theorem works_step (signalled : Bool) (now : Instant) (sound : t.IsSound)
    (there : u.store.records.get? (key t.reference) = some record) (fits : t.Fits record) :
    ∃ record', (t.step signalled now u).2.store.records.get? (key t.reference) = some record' ∧
      t.Works signalled now u.failure record (t.step signalled now u).1.stance record' := by
  have open_ : ¬ IsFinal record := fits.isOpenForm.not_isFinal sound.waiting sound.settled
  obtain ⟨submitted, stance⟩ := t
  obtain ⟨waiting, settled, ok⟩ := sound
  cases stance with
  | created => exact ⟨record, there, .begin rfl⟩
  -- The record is as it was submitted, so that the write finds what it expects.
  | marking =>
    obtain rfl : record = submitted.toRecord := fits
    cases failure : u.failure with
    | some error =>
      simp only [step, markRunning_failing failure]
      exact ⟨_, there, .unmarked rfl rfl⟩
    | none =>
      simp only [step, markRunning_working failure there]
      exact ⟨_, Dict.get?_insert_self _ _ _, .mark rfl rfl⟩
  | recording s attempt c =>
    obtain ⟨record', after, works⟩ := Completion.works_step s now there open_ ok.2 fits.2
    exact ⟨record', after, .record rfl works⟩
  | fallingBack cause c =>
    obtain ⟨record', after, works⟩ :=
      Completion.works_step (fallbackState cause) now there open_ ok fits.2
    exact ⟨record', after, .fallBack rfl works⟩
  | filed => exact ⟨record, there, .idle rfl⟩
  | executing => exact ⟨record, there, .idle rfl⟩
  | pausing s attempt => exact ⟨record, there, .idle rfl⟩
  | ended result => exact ⟨record, there, .idle rfl⟩

theorem fits_afterFailure {submitted : JobRecord} (form : submitted.IsOpenForm record)
    (s : JobState) (attempt : Nat) (cause : JobError) :
    Fits ⟨submitted, afterFailure s attempt cause⟩ record := by
  unfold afterFailure
  split
  next =>
    split
    next => exact form
    next =>
      split
      next => exact form
      next => exact ⟨form, Completion.expects_reading⟩
  next => exact form
  next => exact ⟨form, Completion.expects_reading⟩

/-- Whether a task has not begun to record a result. -/
def isEarly (t : Task) : Bool :=
  match t.stance with
  | .filed => true
  | .created => true
  | .marking => true
  | .executing => true
  | _ => false

theorem isEarly_afterFailure (submitted : JobRecord) (s : JobState) (attempt : Nat)
    (cause : JobError) : isEarly ⟨submitted, afterFailure s attempt cause⟩ = false := by
  unfold afterFailure
  split
  next =>
    split
    next => rfl
    next => split <;> rfl
  next => rfl
  next => rfl

/-- Nothing leads back from recording a state. -/
theorem isEarly_afterRecording (submitted : JobRecord) (s : JobState) (attempt : Nat)
    (c : Completion) : isEarly ⟨submitted, afterRecording s attempt c⟩ = false := by
  unfold afterRecording
  split
  next => rfl
  next => exact isEarly_afterFailure _ _ _ _
  next => rfl

theorem isEarly_afterFallback (submitted : JobRecord) (cause : JobError) (c : Completion) :
    isEarly ⟨submitted, afterFallback cause c⟩ = false := by
  unfold afterFallback
  split <;> rfl

/-- A step leaves a final record, or an open one along with a task that stands where it does. -/
theorem Works.fits {stance : Stance} {record' : Record} (sound : t.IsSound) (fits : t.Fits record)
    {failure : Option StoreError} (works : t.Works signalled now failure record stance record') :
    IsFinal record' ∨ Fits ⟨t.submitted, stance⟩ record' := by
  have form := fits.isOpenForm
  cases works with
  | begin stance =>
    right
    cases signalled with
    | true => exact ⟨form, by rintro _ _ ⟨⟩⟩
    | false =>
      rw [Fits, stance] at fits
      exact fits
  | mark _ _ => exact .inr rfl
  | unmarked stance _ =>
    right
    rw [Fits, stance] at fits
    exact .inl fits
  | @record s attempt c c' record' stance works =>
    have final : s.isTerminal = true := by
      have ok := sound.stance
      rw [stance] at ok
      exact ok.1
    obtain ⟨final, -⟩ | ⟨rfl, rfl | ⟨job, rfl⟩ | ⟨cause, rfl⟩⟩ := works.cases final
    · exact .inl final
    · exact .inr ⟨form, Completion.expects_reading⟩
    · exact .inr ⟨form, by rintro _ _ ⟨⟩; rfl⟩
    · exact .inr (fits_afterFailure form s attempt cause)
  | fallBack stance works =>
    obtain ⟨final, -⟩ | ⟨rfl, rfl | ⟨job, rfl⟩ | ⟨cause, rfl⟩⟩ := works.cases rfl
    · exact .inl final
    · exact .inr ⟨form, Completion.expects_reading⟩
    · exact .inr ⟨form, by rintro _ _ ⟨⟩; rfl⟩
    · exact .inr form
  | idle waits =>
    exact .inr fits

end Task

/-- Whether the task of a job takes a step in an act. -/
def Act.IsStepOf {Implementation : Type u} (a : Act Implementation) (j : Nat) : Prop :=
  ∃ signalled now failure, a = .work j signalled now failure

namespace Bureau

variable {Implementation : Type u} {b : Bureau Implementation} {a : Act Implementation}
  {e : Engagement Implementation} {i j : Nat}

/-! ### Jobs and their references -/

/-- The task of a job after an act. -/
def nextTask (b : Bureau Implementation) (a : Act Implementation) (j : Nat)
    (e : Engagement Implementation) : Task :=
  match a with
  | .enter k => if k = j then e.task.enter else e.task
  | .work k signalled now failure =>
    if k = j then (e.task.step signalled now (b.unreliable failure)).1 else e.task
  | .report k report =>
    if k = j then e.task.executed (.ofReport e.submission.template.artifactSlot report)
    else e.task
  | .resume k => if k = j then e.task.resume else e.task
  | _ => e.task

theorem nextTask_submitted (b : Bureau Implementation) (a : Act Implementation) (j : Nat)
    (e : Engagement Implementation) : (b.nextTask a j e).submitted = e.task.submitted := by
  have enter : e.task.enter.submitted = e.task.submitted := by
    unfold Task.enter
    split <;> rfl
  have executed (s : JobState) : (e.task.executed s).submitted = e.task.submitted := by
    unfold Task.executed
    split <;> rfl
  have resume : e.task.resume.submitted = e.task.submitted := by
    unfold Task.resume
    split <;> rfl
  unfold nextTask
  split
  next => split <;> simp [enter]
  next => split <;> simp [Task.step_submitted]
  next => split <;> simp [executed]
  next => split <;> simp [resume]
  next => rfl

/-- A task that takes no step stays where it is, or is started, or is told a result, or that its pause
is over. -/
theorem nextTask_cases (other : ¬ a.IsStepOf j) : b.nextTask a j e = e.task ∨
    b.nextTask a j e = e.task.enter ∨ (∃ s, b.nextTask a j e = e.task.executed s) ∨
    b.nextTask a j e = e.task.resume := by
  unfold nextTask
  split
  next =>
    split
    next => exact .inr (.inl rfl)
    next => exact .inl rfl
  next k signalled now failure =>
    have ne : k ≠ j := by
      rintro rfl
      exact other ⟨_, _, _, rfl⟩
    exact .inl (if_neg ne)
  next =>
    split
    next => exact .inr (.inr (.inl ⟨_, rfl⟩))
    next => exact .inl rfl
  next =>
    split
    next => exact .inr (.inr (.inr rfl))
    next => exact .inl rfl
  next => exact .inl rfl

/-- What is told to a task that takes no step keeps what all of its three forms keep. -/
theorem nextTask_of_other {P : Task → Prop} (other : ¬ a.IsStepOf j) (same : P e.task)
    (enter : P e.task.enter) (executed : ∀ s, P (e.task.executed s)) (resume : P e.task.resume) :
    P (b.nextTask a j e) := by
  rcases nextTask_cases other with eq | eq | ⟨s, eq⟩ | eq
  · exact eq ▸ same
  · exact eq ▸ enter
  · exact eq ▸ executed s
  · exact eq ▸ resume

/-! What acts leave alone. -/

theorem enter_frame (b : Bureau Implementation) (j : Nat) : ∃ managers jobs,
    b.act (.enter j) = { b with managers := managers, jobs := jobs } ∧
      managers.length = b.managers.length ∧ jobs.length = b.jobs.length := by
  cases job : b.jobs[j]? with
  | none => exact ⟨b.managers, b.jobs, by simp [act, job], rfl, rfl⟩
  | some e =>
    simp only [act, job, Option.elim_some, enter]
    split
    next => exact ⟨_, _, rfl, by simp, by simp⟩
    next => exact ⟨_, _, rfl, rfl, rfl⟩

theorem work_frame (b : Bureau Implementation) (j : Nat) (signalled : Bool) (now : Instant)
    (failure : Option StoreError) : ∃ managers jobs registry,
      b.act (.work j signalled now failure) =
        { b with managers := managers, jobs := jobs, registry := registry } ∧
      managers.length = b.managers.length ∧ jobs.length = b.jobs.length := by
  cases job : b.jobs[j]? with
  | none => exact ⟨b.managers, b.jobs, b.registry, by simp [act, job], rfl, rfl⟩
  | some e =>
    simp only [act, job, Option.elim_some, work]
    refine ⟨_, _, _, rfl, ?_, by simp⟩
    split <;> simp

theorem proceed_frame (b : Bureau Implementation) (k : Nat) (now : Instant)
    (failure : Option StoreError) : ∃ managers calls registry,
      b.act (.proceed k now failure) =
        { b with managers := managers, calls := calls, registry := registry } ∧
      managers.length = b.managers.length := by
  cases call_ : b.calls[k]? with
  | none => exact ⟨b.managers, b.calls, b.registry, by simp [act, call_], rfl⟩
  | some call =>
    cases manager : b.managers[call.manager]? with
    | none => exact ⟨b.managers, b.calls, b.registry, by simp [act, call_, manager], rfl⟩
    | some m =>
      simp only [act, call_, manager, Option.elim_some, proceed]
      exact ⟨_, _, _, rfl, by simp⟩

theorem ne_of_job {k : Nat} (there : b.jobs[j]? = some e) (absent : b.jobs[k]? = none) : k ≠ j := by
  rintro rfl
  rw [there] at absent
  cases absent

theorem getElem?_jobs_act (there : b.jobs[j]? = some e) (a : Act Implementation) :
    (b.act a).jobs[j]? = some { e with task := b.nextTask a j e } := by
  obtain ⟨inside, same⟩ := List.getElem?_eq_some_iff.mp there
  cases a with
  | submit i appId request access => exact there
  | attend k reference now failure =>
    have attends := attends_act b k reference now failure
    generalize b.filed? (.attend k reference now failure) = s at attends
    simp only [nextTask]
    generalize b.act (.attend k reference now failure) = after at attends ⊢
    cases attends with
    | kept => exact there
    | stands => exact there
    | files => simp only [List.getElem?_append_left inside, there]
  | enter k =>
    cases job : b.jobs[k]? with
    | none => simp [act, nextTask, job, ne_of_job there job, there]
    | some e' =>
      by_cases eq : k = j
      · subst eq
        rw [there] at job
        cases job
        simp only [act, there, Option.elim_some, enter, nextTask, if_true]
        split
        next => simp [inside]
        next entered => simpa [Task.enter_of_not_isFiled entered] using there
      · simp only [act, job, Option.elim_some, enter, nextTask, eq, if_false]
        split
        next => simp [eq, there]
        next => exact there
  | work k signalled now failure =>
    cases job : b.jobs[k]? with
    | none => simp [act, nextTask, job, ne_of_job there job, there]
    | some e' =>
      by_cases eq : k = j
      · subst eq
        rw [there] at job
        cases job
        simp [act, nextTask, work, inside, same]
      · simp [act, nextTask, job, eq, work, there]
  | report k report =>
    by_cases eq : k = j
    · simp [act, nextTask, updateTask, eq, there]
    · simp [act, nextTask, updateTask, eq, there]
  | resume k =>
    by_cases eq : k = j
    · simp [act, nextTask, updateTask, eq, there]
    · simp [act, nextTask, updateTask, eq, there]
  | proceed k now failure =>
    obtain ⟨_, _, _, frame, -⟩ := b.proceed_frame k now failure
    rw [frame]
    exact there
  | join config => exact there
  | register i definition catalog suffixes => exact there
  | shutDown i => exact there
  | cancel i reference capability => exact there

/-- A job whose record is written has been asked for, comes behind those that are there, and its record
is new. -/
theorem filed_spec {s : Submission Implementation} (files : b.filed? a = some s) :
    (∃ call ∈ b.requests, call.progress = .filing s ∧ (∃ m, b.managers[call.manager]? = some m) ∧
        (b.act a).jobs = b.jobs ++ [⟨call.manager, s, .file s.record⟩]) ∧
      b.stored s.record.reference = none ∧
      (b.act a).stored s.record.reference = some s.record.toRecord := by
  cases a with
  | attend k reference now failure =>
    have attends := attends_act b k reference now failure
    rw [files] at attends
    generalize b.act (.attend k reference now failure) = after at attends
    cases attends with
    | @files call m s there manager filing absent =>
      exact ⟨⟨call, List.mem_of_getElem? there, filing, ⟨m, manager⟩, rfl⟩, absent,
        Dict.get?_insert_self _ _ _⟩
  | _ => cases files

theorem jobs_of_none (none : b.filed? a = none) : (b.act a).jobs.length = b.jobs.length := by
  cases a with
  | submit i appId request access => rfl
  | attend k reference now failure =>
    have attends := attends_act b k reference now failure
    rw [none] at attends
    generalize b.act (.attend k reference now failure) = after at attends ⊢
    cases attends with
    | kept => rfl
    | stands => rfl
  | enter k =>
    obtain ⟨_, _, frame, -, jobs⟩ := b.enter_frame k
    rw [frame, jobs]
  | work k signalled now failure =>
    obtain ⟨_, _, _, frame, -, jobs⟩ := b.work_frame k signalled now failure
    rw [frame, jobs]
  | proceed k now failure =>
    obtain ⟨_, _, _, frame, -⟩ := b.proceed_frame k now failure
    rw [frame]
  | report k report => simp [act, updateTask]
  | resume k => simp [act, updateTask]
  | join config => rfl
  | register i definition catalog suffixes => rfl
  | shutDown i => rfl
  | cancel i reference capability => rfl

/-- A job after an act has been there before, or is the one whose record has been written. -/
theorem jobs_act_cases (a : Act Implementation) (there : (b.act a).jobs[j]? = some e) :
    (∃ before, b.jobs[j]? = some before ∧ e = { before with task := b.nextTask a j before }) ∨
      b.jobs.length = j ∧ ∃ s, b.filed? a = some s ∧ e.task = .file s.record := by
  cases old : b.jobs[j]? with
  | some before =>
    rw [getElem?_jobs_act old] at there
    exact .inl ⟨before, rfl, (Option.some.inj there).symm⟩
  | none =>
    -- The job was not there, so that one has been filed, and it is the last.
    have outside : b.jobs.length ≤ j := List.getElem?_eq_none_iff.mp old
    cases files : b.filed? a with
    | none =>
      have inside := (List.getElem?_eq_some_iff.mp there).1
      have length := jobs_of_none files
      omega
    | some s =>
      obtain ⟨⟨call, -, -, -, jobs⟩, -, -⟩ := filed_spec files
      rw [jobs, List.getElem?_append_right outside, List.getElem?_singleton] at there
      split at there
      next last =>
        cases there
        exact .inr ⟨by omega, s, rfl, rfl⟩
      next => cases there

/-! ### Who writes to a record -/

/-- Whether all jobs have references of their own, and the records of their jobs are final or as the
tasks have left them. -/
structure IsOrderly (b : Bureau Implementation) : Prop extends IsSound b where
  distinct : ∀ (i j : Nat) e e', b.jobs[i]? = some e → b.jobs[j]? = some e' →
    e.task.reference = e'.task.reference → i = j
  standing : ∀ e ∈ b.jobs, ∃ record, b.stored e.task.reference = some record ∧
    (IsFinal record ∨ e.task.Fits record)

theorem stored_work {k : Nat} {signalled : Bool} {now : Instant} {failure : Option StoreError}
    (job : b.jobs[k]? = some e) (reference : String) :
    (b.act (.work k signalled now failure)).stored reference =
      (e.task.step signalled now (b.unreliable failure)).2.store.records.get? (key reference) := by
  simp [stored, act, job, work]

/-- The task of another job writes elsewhere. -/
theorem stored_work_of_ne (h : b.IsOrderly) (job : b.jobs[j]? = some e) {k : Nat} (ne : k ≠ j)
    (signalled : Bool) (now : Instant) (failure : Option StoreError) :
    (b.act (.work k signalled now failure)).stored e.task.reference =
      b.stored e.task.reference := by
  cases job' : b.jobs[k]? with
  | none => simp [act, job']
  | some e' =>
    have other : e'.task.reference ≠ e.task.reference :=
      fun same => ne (h.distinct k j e' e job' job same)
    obtain ⟨task, u, step⟩ :
        ∃ task u, e'.task.step signalled now (b.unreliable failure) = (task, u) := ⟨_, _, rfl⟩
    obtain ⟨-, -, effect⟩ :=
      Task.step_spec (h.jobs e' (List.mem_of_getElem? job')) h.registry step
    rw [stored_work job', step]
    rcases effect with ⟨-, same | replaced⟩ | ⟨-, replaced⟩
    · rw [same]
      rfl
    · exact replaced.other other
    · exact replaced.other other

/-- A call to cancel a job completes its record, or leaves it alone. -/
theorem stored_proceed (sound : b.IsSound) {reference : String} {record : Record}
    (there : b.stored reference = some record) (k : Nat) (now : Instant)
    (failure : Option StoreError) :
    (b.act (.proceed k now failure)).stored reference = some record ∨
      ∃ new, (b.act (.proceed k now failure)).stored reference = some new ∧ IsFinal new := by
  cases call_ : b.calls[k]? with
  | none => exact .inl (by simpa [act, call_] using there)
  | some call =>
    cases manager : b.managers[call.manager]? with
    | none => exact .inl (by simpa [act, call_, manager] using there)
    | some m =>
      obtain ⟨progress, m', u, step⟩ : ∃ progress m' u, call.progress.step call.reference
          call.capability now m (b.unreliable failure) = (progress, m', u) := ⟨_, _, _, rfl⟩
      have after : (b.act (.proceed k now failure)).stored reference =
          u.store.records.get? (key reference) := by
        simp [stored, act, call_, manager, proceed, step]
      obtain ⟨-, ⟨-, same⟩ | ⟨-, replaced⟩⟩ :=
        Cancellation.step_spec (sound.calls call (List.mem_of_getElem? call_)) sound.registry step
      · rw [after, same]
        exact .inl there
      · rw [after]
        by_cases own : call.reference = reference
        · obtain ⟨_, new, -, later, written⟩ := replaced.own
          exact .inr ⟨new, own ▸ written, later.2.1⟩
        · rw [replaced.other own]
          exact .inl there

/-- A job that is filed gets a record of its own. -/
theorem stored_attend {reference : String} {record : Record}
    (there : b.stored reference = some record) (k : Nat) (given : String) (now : Instant)
    (failure : Option StoreError) :
    (b.act (.attend k given now failure)).stored reference = some record := by
  have attends := attends_act b k given now failure
  generalize b.filed? (.attend k given now failure) = s at attends
  generalize b.act (.attend k given now failure) = after at attends
  cases attends with
  | kept => exact there
  | stands => exact there
  | @files call m s asked manager filing absent =>
    have ne : key s.record.reference ≠ key reference := by
      intro same
      rw [stored, same] at absent
      exact Option.some_ne_none record (there.symm.trans absent)
    exact (Dict.get?_insert_ne _ _ ne).trans there

theorem stored_enter (j : Nat) (reference : String) :
    (b.act (.enter j)).stored reference = b.stored reference := by
  obtain ⟨_, _, frame, -⟩ := b.enter_frame j
  rw [frame, stored, stored]

/-- Whoever else writes to the record of a job completes it. -/
theorem stored_act_of_other (h : b.IsOrderly) (job : b.jobs[j]? = some e)
    {record : Record} (there : b.stored e.task.reference = some record)
    (other : ¬ a.IsStepOf j) :
    (b.act a).stored e.task.reference = some record ∨
      ∃ new, (b.act a).stored e.task.reference = some new ∧ IsFinal new := by
  cases a with
  | work k signalled now failure =>
    have ne : k ≠ j := by
      rintro rfl
      exact other ⟨_, _, _, rfl⟩
    rw [stored_work_of_ne h job ne]
    exact .inl there
  | proceed k now failure => exact stored_proceed h.toIsSound there k now failure
  | attend k reference now failure => exact .inl (stored_attend there k reference now failure)
  | enter k => exact .inl ((stored_enter k _).trans there)
  | _ => exact .inl there

/-- What becomes of the task of a job, and of its record, in an act that finds the record open. -/
inductive Passes (b : Bureau Implementation) (a : Act Implementation) (j : Nat)
    (e : Engagement Implementation) (record : Record) : Record → Prop
  /-- The task takes a step. -/
  | works {signalled : Bool} {now : Instant} {failure : Option StoreError} {record' : Record}
      (act : a = .work j signalled now failure)
      (works : e.task.Works signalled now failure record (b.nextTask a j e).stance record') :
      Passes b a j e record record'
  /-- The task is told what has been executed, or that its pause is over, or stays where it is. -/
  | waits (other : ¬ a.IsStepOf j) : Passes b a j e record record
  | finished (other : ¬ a.IsStepOf j) {record' : Record} (final : IsFinal record') :
      Passes b a j e record record'

theorem passes_act (h : b.IsOrderly) (job : b.jobs[j]? = some e) {record : Record}
    (there : b.stored e.task.reference = some record) (fits : e.task.Fits record)
    (a : Act Implementation) :
    ∃ record', (b.act a).stored e.task.reference = some record' ∧ Passes b a j e record record' := by
  -- The task's own step finds the record as it has left it; anybody else completes it at most.
  by_cases own : a.IsStepOf j
  · obtain ⟨signalled, now, failure, rfl⟩ := own
    obtain ⟨record', after, works⟩ := Task.works_step (u := b.unreliable failure) signalled now
      (h.jobs e (List.mem_of_getElem? job)) there fits
    rw [stored_work job]
    exact ⟨record', after, .works rfl (by simpa [nextTask, unreliable] using works)⟩
  · rcases stored_act_of_other h job there own with same | ⟨new, written, final⟩
    · exact ⟨record, same, .waits own⟩
    · exact ⟨new, written, .finished own final⟩

/-- A recording that answers that it has written its state has read the record, and has completed the
job that it has read at the time of the act. The state is a cancellation unless it is the job's own
task that records it. -/
theorem completes_of_answer (sound : b.IsSound) {reference : String}
    (answer : b.answer? a = some (reference, .ok true)) :
    ∃ found job s now, b.stored reference = some found ∧ ofRecord reference found = .ok job ∧
      s.isTerminal = true ∧ a.now? = some now ∧
      (b.act a).stored reference = some (job.completed s now).toRecord ∧
      (s = .cancelled ∨
        ∃ j e, a.IsStepOf j ∧ b.jobs[j]? = some e ∧ e.task.reference = reference) := by
  cases a with
  | work k signalled now failure =>
    obtain ⟨e, job, told⟩ := Option.bind_eq_some_iff.mp answer
    obtain ⟨result, told, same⟩ := Option.map_eq_some_iff.mp told
    cases same
    obtain ⟨⟨s, c⟩, recording, told⟩ := Option.bind_eq_some_iff.mp told
    obtain ⟨final, ok⟩ := Task.isSound_recording (sound.jobs e (List.mem_of_getElem? job)) recording
    obtain ⟨found, read, there, legible, written⟩ := Completion.step_wrote sound.registry ok told
    refine ⟨found, read, s, now, there, legible, final, rfl, ?_,
      .inr ⟨k, e, ⟨_, _, _, rfl⟩, job, rfl⟩⟩
    rw [stored_work job, Task.store_recording recording, written]
    exact Dict.get?_insert_self _ _ _
  | proceed k now failure =>
    obtain ⟨call, there, answer⟩ := Option.bind_eq_some_iff.mp answer
    obtain ⟨m, manager, answer⟩ := Option.bind_eq_some_iff.mp answer
    obtain ⟨result, told, same⟩ := Option.map_eq_some_iff.mp answer
    cases same
    have ok := sound.calls call (List.mem_of_getElem? there)
    unfold Cancellation.answer? at told
    split at told
    next completion progress =>
      rw [progress] at ok
      obtain ⟨found, read, stored_, legible, written⟩ :=
        Completion.step_wrote sound.registry ok told
      refine ⟨found, read, .cancelled, now, stored_, legible, rfl, rfl, ?_, .inl rfl⟩
      simp only [stored, act, there, manager, Option.elim_some, proceed, progress,
        Cancellation.step, written]
      exact Dict.get?_insert_self _ _ _
    next => cases told
  | _ => cases answer

/-! ### Over a whole run -/

/-- What a task is told from outside leaves it where it stands with the record. -/
theorem fits_nextTask {record : Record} (fits : e.task.Fits record) (other : ¬ a.IsStepOf j) :
    (b.nextTask a j e).Fits record :=
  nextTask_of_other (P := (Task.Fits · record)) other fits fits.enter fits.executed fits.resume

theorem reference_nextTask (b : Bureau Implementation) (a : Act Implementation) (j : Nat)
    (e : Engagement Implementation) : (b.nextTask a j e).reference = e.task.reference := by
  rw [Task.reference, nextTask_submitted, Task.reference]

/-- The task of a job that is there fits its record after an act if it has before. -/
theorem standing_act (h : b.IsOrderly) (job : b.jobs[j]? = some e) (a : Act Implementation) :
    ∃ record, (b.act a).stored e.task.reference = some record ∧
      (IsFinal record ∨ (b.nextTask a j e).Fits record) := by
  obtain ⟨record, there, final | fits⟩ := h.standing e (List.mem_of_getElem? job)
  · exact ⟨record, stored_act_of_isFinal h.toIsSound there final a, .inl final⟩
  · obtain ⟨record', after, passes⟩ := passes_act h job there fits a
    refine ⟨record', after, ?_⟩
    cases passes with
    | works _ works =>
      have fits := works.fits (h.jobs e (List.mem_of_getElem? job)) fits
      rwa [← nextTask_submitted b a j e] at fits
    | waits other => exact .inr (fits_nextTask fits other)
    | finished _ final => exact .inl final

theorem isOrderly_act (h : b.IsOrderly) (a : Act Implementation) : (b.act a).IsOrderly := by
  -- The record of a job that has been filed before is there, so that a new reference is another one.
  have new {j : Nat} {before : Engagement Implementation} {s : Submission Implementation}
      (old : b.jobs[j]? = some before) (files : b.filed? a = some s) :
      before.task.reference ≠ s.record.reference := by
    intro same
    obtain ⟨record, there, -⟩ := h.standing before (List.mem_of_getElem? old)
    rw [same, (filed_spec files).2.1] at there
    cases there
  refine ⟨(act_spec h.toIsSound a).1, ?_, ?_⟩
  · intro i j e e' there there' same
    rcases jobs_act_cases a there with ⟨before, old, rfl⟩ | ⟨last, s, files, start⟩
    · rw [reference_nextTask] at same
      rcases jobs_act_cases a there' with ⟨before', old', rfl⟩ | ⟨-, s, files, start⟩
      · rw [reference_nextTask] at same
        exact h.distinct i j before before' old old' same
      · rw [start] at same
        exact absurd same (new old files)
    · rcases jobs_act_cases a there' with ⟨before', old', rfl⟩ | ⟨last', -⟩
      · rw [reference_nextTask, start] at same
        exact absurd same.symm (new old' files)
      · exact last.symm.trans last'
  · intro e member
    obtain ⟨j, there⟩ := List.getElem?_of_mem member
    rcases jobs_act_cases a there with ⟨before, old, rfl⟩ | ⟨-, s, files, start⟩
    · rw [reference_nextTask]
      exact standing_act h old a
    · rw [start]
      exact ⟨_, (filed_spec files).2.2, .inr rfl⟩

theorem isOrderly_empty : (empty : Bureau Implementation).IsOrderly :=
  ⟨isSound_empty, by simp [empty], by simp [empty]⟩

theorem isOrderly_foldl (h : b.IsOrderly) (acts : List (Act Implementation)) :
    (acts.foldl act b).IsOrderly := by
  induction acts generalizing b with
  | nil => exact h
  | cons a rest ih => exact ih (isOrderly_act h a)

theorem isOrderly_run (acts : List (Act Implementation)) : (run acts).IsOrderly :=
  isOrderly_foldl isOrderly_empty acts

/-- A job that has been filed stays, and so does what was submitted. -/
theorem getElem?_jobs_foldl (there : b.jobs[j]? = some e) (acts : List (Act Implementation)) :
    ∃ e', (acts.foldl act b).jobs[j]? = some e' ∧ e'.task.submitted = e.task.submitted := by
  induction acts generalizing b e with
  | nil => exact ⟨e, there, rfl⟩
  | cons a rest ih =>
    obtain ⟨e', there', same⟩ := ih (getElem?_jobs_act there a)
    exact ⟨e', there', same.trans (nextTask_submitted b a j e)⟩

theorem run_concat (acts : List (Act Implementation)) (a : Act Implementation) :
    run (acts ++ [a]) = (run acts).act a := by
  rw [run, List.foldl_append]
  rfl

/-- Nobody completes a record that cannot be read. -/
theorem isOpenForm_of_not_isReadable (acts : List (Act Implementation))
    (job : (run acts).jobs[j]? = some e) (illegible : ¬ e.task.submitted.IsReadable) :
    ∃ record, (run acts).stored e.task.reference = some record ∧
      e.task.submitted.IsOpenForm record := by
  induction acts using List.reverseRecOn generalizing e with
  | nil => simp [run, empty] at job
  | append_singleton acts a ih =>
    rw [run_concat] at job ⊢
    rcases jobs_act_cases a job with ⟨before, old, rfl⟩ | ⟨last, s, files, start⟩
    · rw [nextTask_submitted] at illegible ⊢
      rw [reference_nextTask]
      obtain ⟨record, there, open_⟩ := ih old illegible
      obtain ⟨later, after, final | fits⟩ := standing_act (isOrderly_run acts) old a
      · exfalso
        have sound := (isOrderly_run acts).jobs before (List.mem_of_getElem? old)
        have moves := moves_act (isSound_run acts) a before.task.reference
        rw [there, after] at moves
        cases moves with
        | kept => exact open_.not_isFinal sound.waiting sound.settled final
        | started starts => exact final.not_pending true starts.2.1
        -- Whoever has completed the record has read it before.
        | finished _ answer =>
          obtain ⟨found, read, _, _, there', legible, -⟩ :=
            completes_of_answer (isSound_run acts) answer
          cases there.symm.trans there'
          exact illegible ((open_.readable_iff sound.waiting sound.settled).mp ⟨read, legible⟩)
      · have form := fits.isOpenForm
        rw [nextTask_submitted] at form
        exact ⟨later, after, form⟩
    · rw [start]
      exact ⟨_, (filed_spec files).2.2, .inl rfl⟩

/-! ### A bureau with one job -/

/-- A print that is made in one stage. -/
def sheetDefinition : TemplateDefinition :=
  { appId := "print"
    attributes := []
    stages := [⟨"draw", "draw", [], [⟨"sheet", "any", none, none, [], none⟩], ∅, ∅⟩]
    artifactSlot := "sheet"
    outputFilename := some "print"
    access := []
    timeoutMs := none
    strictParameters := true }

/-- A manager joins and takes a job for such a print. -/
def opening (access : Access) : List (Act Unit) :=
  [.join .default, .register 0 sheetDefinition (.ofList [("draw", ())]) .numbered,
    .submit 0 "print" ∅ access] ++ List.replicate 3 (.attend 0 "ref" default none) ++ [.enter 0]

/-- A step of the task of the job, in which the registry works or fails. -/
def step (fails : Bool) : Act Unit :=
  .work 0 false default (if fails then some (.corrupt "ref" "registry unavailable") else none)

end Bureau

end Printworks
