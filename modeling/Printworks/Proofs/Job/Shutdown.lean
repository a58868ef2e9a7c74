import Printworks.Proofs.Job.Ending
import Printworks.Proofs.Job.Persistence

/-!
# Shutting a manager down

A manager that is shut down takes no more jobs and waits for the tasks of those in its table. As long
as the registry does not fail them they leave final records, if these can be read: a job is cancelled
unless its record was final already, or its task had been told before what its execution has come to.

A call to submit a job takes several steps. If the shutdown comes between its check and its entry in
the table, its job is entered later, is told to stop at once, and nobody waits for it.
-/

namespace Printworks

open Registry JobRecord

universe u

/-! ### What a task is going to record -/

namespace Task

/-- Whether a task has yet to be given a result, or records one of certain states and no write of it
has failed. -/
def Bears (P : JobState → Prop) (t : Task) : Prop := t.isEarly = true ∨ ∃ s, P s ∧ t.Tally s 0

variable {P Q : JobState → Prop} {t : Task} {signalled : Bool} {now : Instant}
  {record record' : Record} {stance : Stance}

theorem Bears.mono (bears : t.Bears P) (more : ∀ s, P s → Q s) : t.Bears Q := by
  rcases bears with early | ⟨s, allowed, tally⟩
  · exact .inl early
  · exact .inr ⟨s, more s allowed, tally⟩

/-- A task that has ended has recorded something, or writes have failed. -/
theorem Bears.isEnded (bears : t.Bears P) : t.isEnded = false := by
  rcases bears with early | ⟨s, -, tally⟩
  · exact isEnded_of_isEarly early
  · rw [← Bool.not_eq_true]
    intro ended
    rcases tally_of_isEnded ended tally with ⟨-, count⟩ | ⟨-, count⟩ <;> simp [attempts] at count

theorem Bears.enter (bears : t.Bears P) : t.enter.Bears P := by
  rcases bears with early | ⟨s, allowed, tally⟩
  · exact .inl (isEarly_enter early)
  · exact .inr ⟨s, allowed, tally.enter⟩

theorem Bears.executed (bears : t.Bears P) {s : JobState}
    (allowed : t.stance = .executing → P s) : (t.executed s).Bears P := by
  rcases bears with early | ⟨s', allowed', tally⟩
  · by_cases executing : t.stance = .executing
    · exact (executed_of_isEarly early s).imp_right (fun tally => ⟨s, allowed executing, tally⟩)
    · left
      rw [Task.executed]
      split
      next stance => exact absurd stance executing
      next => exact early
  · exact .inr ⟨s', allowed', tally.executed s⟩

theorem Bears.resume (bears : t.Bears P) : t.resume.Bears P := by
  rcases bears with early | ⟨s, allowed, tally⟩
  · rw [resume_of_isEarly early]
    exact .inl early
  · exact .inr ⟨s, allowed, tally.resume⟩

/-- In a step in which the registry works, a task leaves a record with one of the states that it may
record, or it still has one of them to record. -/
theorem Works.bears (sound : t.IsSound) (fits : t.Fits record) (bears : t.Bears P)
    (readable : t.submitted.IsReadable) (cancelled : P .cancelled)
    (works : t.Works signalled now none record stance record') :
    (IsFinal record' ∧ ∃ s, P s ∧ storedState record' = .ok (recorded s)) ∨
      Fits ⟨t.submitted, stance⟩ record' ∧ Bears P ⟨t.submitted, stance⟩ := by
  have open_ {record : Record} (form : t.submitted.IsOpenForm record) : ¬ IsFinal record :=
    form.not_isFinal sound.waiting sound.settled
  have fits' := works.fits sound fits
  rcases bears with early | ⟨s, allowed, tally⟩
  · right
    cases works with
    | begin _ =>
      refine ⟨fits'.resolve_left (open_ fits.isOpenForm), ?_⟩
      cases signalled with
      | true => exact .inr ⟨.cancelled, cancelled, rfl, rfl, by decide⟩
      | false => exact .inl rfl
    | mark _ _ => exact ⟨fits'.resolve_left (open_ (.inr rfl)), .inl rfl⟩
    | unmarked _ fails => cases fails
    | record stance _ => simp [isEarly, stance] at early
    | fallBack stance _ => simp [isEarly, stance] at early
    | idle _ => exact ⟨fits, .inl early⟩
  -- No write of the result has failed, so that the one that works is the first.
  · cases works.counts sound fits tally readable (by simp) with
    | other _ same tally =>
      subst same
      exact .inr ⟨fits'.resolve_left (open_ fits.isOpenForm), .inr ⟨s, allowed, tally⟩⟩
    | fails _ fails _ _ => cases fails
    | written _ _ final result =>
      rcases result with ⟨-, state⟩ | ⟨-, count, -⟩
      · exact .inl ⟨final, s, allowed, state⟩
      · cases count

end Task

namespace Bureau

variable {Implementation : Type u} {b : Bureau Implementation} {a : Act Implementation}
  {e : Engagement Implementation} {i j : Nat} {P : JobState → Prop}

/-- Whoever else completes the record of a job cancels it. -/
theorem cancelled_of_other (h : b.IsOrderly) (job : b.jobs[j]? = some e) (other : ¬ a.IsStepOf j)
    {record record' : Record} (there : b.stored e.task.reference = some record)
    (open_ : ¬ IsFinal record) (after : (b.act a).stored e.task.reference = some record')
    (final : IsFinal record') : storedState record' = .ok .cancelled := by
  have moves := moves_act h.toIsSound a e.task.reference
  rw [there, after] at moves
  cases moves with
  | kept => exact absurd final open_
  | started starts => exact absurd starts.2.1 (final.not_pending true)
  | finished _ answer =>
    obtain ⟨found, job', s, now, -, -, -, -, written, rfl | ⟨k, e', own, job'', same⟩⟩ :=
      completes_of_answer h.toIsSound answer
    · cases after.symm.trans written
      exact Task.storedState_completed job' rfl now
    -- The task of another job has another reference.
    · obtain rfl := h.distinct k j e' e job'' job same
      exact absurd own other

theorem bears_nextTask (bears : e.task.Bears P) (other : ¬ a.IsStepOf j)
    (reported : ∀ report, a = .report j report → e.task.stance = .executing →
      P (.ofReport e.submission.template.artifactSlot report)) : (b.nextTask a j e).Bears P := by
  unfold nextTask
  split
  next =>
    split
    next => exact bears.enter
    next => exact bears
  next k signalled now failure =>
    have ne : k ≠ j := by
      rintro rfl
      exact other ⟨_, _, _, rfl⟩
    rw [if_neg ne]
    exact bears
  next k report =>
    split
    next own => exact bears.executed (reported report (by rw [own]))
    next => exact bears
  next =>
    split
    next => exact bears.resume
    next => exact bears
  next => exact bears

/-- What becomes of a job in an act in which the registry works: its record has one of the states that
its task may record, or is open and the task still has one of them to record. -/
theorem bears_act (h : b.IsOrderly) (job : b.jobs[j]? = some e) {record : Record}
    (there : b.stored e.task.reference = some record) (fits : e.task.Fits record)
    (bears : e.task.Bears P) (readable : e.task.submitted.IsReadable) (cancelled : P .cancelled)
    (works : ∀ signalled now failure, a = .work j signalled now failure → failure = none)
    (reported : ∀ report, a = .report j report → e.task.stance = .executing →
      P (.ofReport e.submission.template.artifactSlot report)) :
    ∃ record', (b.act a).stored e.task.reference = some record' ∧
      ((IsFinal record' ∧ ∃ s, P s ∧ storedState record' = .ok (recorded s)) ∨
        (b.nextTask a j e).Fits record' ∧ (b.nextTask a j e).Bears P) := by
  have sound := h.jobs e (List.mem_of_getElem? job)
  obtain ⟨record', after, passes⟩ := passes_act h job there fits a
  refine ⟨record', after, ?_⟩
  cases passes with
  | @works signalled now failure record' act step =>
    subst act
    cases works signalled now failure rfl
    have next := step.bears sound fits bears readable cancelled
    rwa [← nextTask_submitted b (.work j signalled now none) j e] at next
  | waits other => exact .inr ⟨fits_nextTask fits other, bears_nextTask bears other reported⟩
  | finished other final =>
    have open_ : ¬ IsFinal record := fits.isOpenForm.not_isFinal sound.waiting sound.settled
    exact .inl ⟨final, .cancelled, cancelled, cancelled_of_other h job other there open_ after final⟩

/-- Whether the record of a job is final and has one of certain states, or its task may still record
one of them. -/
def Promises (b : Bureau Implementation) (e : Engagement Implementation) (P : JobState → Prop) :
    Prop :=
  ∃ record, b.stored e.task.reference = some record ∧
    ((IsFinal record ∧ ∃ s, P s ∧ storedState record = .ok (recorded s)) ∨
      e.task.Fits record ∧ e.task.Bears P)

theorem Promises.mono {Q : JobState → Prop} (promises : b.Promises e P) (more : ∀ s, P s → Q s) :
    b.Promises e Q := by
  obtain ⟨record, there, ⟨final, s, allowed, state⟩ | ⟨fits, bears⟩⟩ := promises
  · exact ⟨record, there, .inl ⟨final, s, more s allowed, state⟩⟩
  · exact ⟨record, there, .inr ⟨fits, bears.mono more⟩⟩

theorem promises_act (h : b.IsOrderly) (job : b.jobs[j]? = some e) (promises : b.Promises e P)
    (readable : e.task.submitted.IsReadable) (cancelled : P .cancelled)
    (works : ∀ signalled now failure, a = .work j signalled now failure → failure = none)
    (reported : ∀ report, a = .report j report → e.task.stance = .executing →
      P (.ofReport e.submission.template.artifactSlot report)) :
    (b.act a).Promises { e with task := b.nextTask a j e } P := by
  obtain ⟨record, there, ⟨final, recorded⟩ | ⟨fits, bears⟩⟩ := promises
  · refine ⟨record, ?_, .inl ⟨final, recorded⟩⟩
    rw [reference_nextTask]
    exact stored_act_of_isFinal h.toIsSound there final a
  · rw [Promises, reference_nextTask]
    exact bears_act h job there fits bears readable cancelled works reported

theorem promises_of_filed {s : Submission Implementation} (files : b.filed? a = some s)
    (filed : e.task = .file s.record) : (b.act a).Promises e P := by
  refine ⟨s.record.toRecord, ?_, .inr ?_⟩
  · rw [filed]
    exact (filed_spec files).2.2
  · rw [filed]
    exact ⟨rfl, .inl rfl⟩

/-- The record of a job whose task is over has one of the states that it may have. -/
theorem Promises.final (promises : b.Promises e P) (ended : e.task.isEnded = true) :
    ∃ record, b.stored e.task.reference = some record ∧ IsFinal record ∧
      ∃ s, P s ∧ storedState record = .ok (recorded s) := by
  obtain ⟨record, there, ⟨final, recorded⟩ | ⟨-, bears⟩⟩ := promises
  · exact ⟨record, there, final, recorded⟩
  · rw [bears.isEnded] at ended
    cases ended

end Bureau

namespace Workshop

variable {Implementation : Type u} {w : Workshop Implementation} {d : Deed Implementation}
  {e e' : Engagement Implementation} {i j : Nat} {m : Manager Implementation}
  {before after deeds : List (Deed Implementation)} {P : JobState → Prop}

theorem works_of_heeds (heeds : w.heeds d = true) {signalled : Bool} {now : Instant}
    {failure : Option StoreError} (act : w.act? d = some (.work j signalled now failure)) :
    failure = none := by
  obtain ⟨rfl, -⟩ | ⟨_, _, -, -, -, ⟨⟩⟩ := act_cases act
  simpa using (Bool.and_eq_true_iff.mp heeds).1

/-- An execution whose job has been told to stop reports that it has been cancelled. -/
theorem outcome_of_heeds (heeds : w.heeds d = true) {report : ExecutionReport}
    (act : w.act? d = some (.report j report)) (told : w.bureau.tells j = true) :
    report.outcome = .cancelled := by
  obtain ⟨-, other⟩ | ⟨_, s, rfl, shift, -, ⟨⟩⟩ := act_cases act
  · exact absurd rfl (other j report)
  · have signalled : s.signalled = true := by simpa [Workshop.heeds, told, shift] using heeds
    rw [Shift.concluded, Execution.outcome_conclude, signalled, Bool.or_true]

/-- Whether the task of a job has been told in one of some deeds what its execution has come to. -/
def HasReported (deeds : List (Deed Implementation)) (j : Nat) (report : ExecutionReport) : Prop :=
  ∃ earlier d later, deeds = earlier ++ d :: later ∧ (run earlier).act? d = some (.report j report)

theorem hasReported_concat {report : ExecutionReport} : HasReported (deeds ++ [d]) j report ↔
    HasReported deeds j report ∨ (run deeds).act? d = some (.report j report) :=
  exists_split_concat

/-- The states that the task of a job may record after some deeds: it has been cancelled, or its
execution has been reported. -/
def MayRecord (deeds : List (Deed Implementation)) (j : Nat) (slot : String) (s : JobState) : Prop :=
  s = .cancelled ∨ ∃ report, HasReported deeds j report ∧ s = .ofReport slot report

/-- What becomes of a job in a deed. -/
theorem promises_perform (orderly : w.bureau.IsOrderly) (heeds : w.heeds d = true)
    (job : w.bureau.jobs[j]? = some e) (promises : w.bureau.Promises e P)
    (readable : e.task.submitted.IsReadable) (cancelled : P .cancelled)
    (reported : ∀ report, w.act? d = some (.report j report) → e.task.stance = .executing →
      P (.ofReport e.submission.template.artifactSlot report)) :
    ∃ e', (w.perform d).bureau.jobs[j]? = some e' ∧ e'.manager = e.manager ∧
      e'.submission = e.submission ∧ e'.task.submitted = e.task.submitted ∧
      (w.perform d).bureau.Promises e' P := by
  rw [perform]
  cases act : w.act? d with
  | none => exact ⟨e, job, rfl, rfl, rfl, promises⟩
  | some a =>
    refine ⟨_, Bureau.getElem?_jobs_act job a, rfl, rfl, Bureau.nextTask_submitted _ a j e, ?_⟩
    refine Bureau.promises_act orderly job promises readable cancelled ?_ ?_
    · rintro signalled now failure rfl
      exact works_of_heeds heeds act
    · rintro report rfl
      exact reported report act

/-- A job after a deed has been there before, or is one whose record has been written. -/
theorem jobs_perform_cases (job : (w.perform d).bureau.jobs[j]? = some e) :
    (∃ e₀, w.bureau.jobs[j]? = some e₀ ∧ e₀.task.submitted = e.task.submitted) ∨
      ∃ a s, w.act? d = some a ∧ w.bureau.filed? a = some s ∧ e.task = .file s.record := by
  rw [perform] at job
  cases act : w.act? d with
  | none =>
    rw [act] at job
    exact .inl ⟨e, job, rfl⟩
  | some a =>
    rw [act] at job
    rcases Bureau.jobs_act_cases a job with ⟨e₀, old, rfl⟩ | ⟨-, s, files, filed⟩
    · exact .inl ⟨e₀, old, (Bureau.nextTask_submitted _ a j e₀).symm⟩
    · exact .inr ⟨a, s, rfl, files, filed⟩

/-- After some deeds every job has a final record with a state that has been reported or is a
cancellation, or its task may still record one. -/
theorem promises_run (deeds : List (Deed Implementation)) (heed : empty.allHeed deeds = true)
    (job : (run deeds).bureau.jobs[j]? = some e) (readable : e.task.submitted.IsReadable) :
    (run deeds).bureau.Promises e (MayRecord deeds j e.submission.template.artifactSlot) := by
  induction deeds using List.reverseRecOn generalizing e with
  | nil => simp [run, empty, Bureau.empty] at job
  | append_singleton deeds d ih =>
    obtain ⟨heed, heeds⟩ := allHeed_concat.mp heed
    have orderly := isOrderly_run deeds
    have more (slot : String) (s : JobState) (may : MayRecord deeds j slot s) :
        MayRecord (deeds ++ [d]) j slot s := by
      rcases may with cancelled | ⟨report, told, state⟩
      · exact .inl cancelled
      · exact .inr ⟨report, hasReported_concat.mpr (.inl told), state⟩
    rw [run_concat] at job ⊢
    rcases jobs_perform_cases job with ⟨e₀, old, same⟩ | ⟨a, s, act, files, filed⟩
    -- If the task is told something now, that is among what it has been told after the deed.
    · rw [← same] at readable
      obtain ⟨e', job', -, submission, -, promises⟩ :=
        promises_perform orderly heeds old ((ih heed old readable).mono (more _)) readable (.inl rfl)
          (fun report told _ => .inr ⟨report, hasReported_concat.mpr (.inr told), rfl⟩)
      obtain rfl := Option.some.inj (job.symm.trans job')
      rw [submission]
      exact promises
    · rw [perform, act]
      exact Bureau.promises_of_filed files filed

/-! ### After the call -/

theorem isListed_run (deeds : List (Deed Implementation)) : (run deeds).bureau.IsListed :=
  of_bureau_run Bureau.isListed_run deeds

/-- A job stays where it is, and its task is not over again. -/
theorem job_run (before : List (Deed Implementation)) (job : (run before).bureau.jobs[j]? = some e)
    (more : List (Deed Implementation)) :
    ∃ e', (run (before ++ more)).bureau.jobs[j]? = some e' ∧ e'.manager = e.manager ∧
      e'.task.submitted = e.task.submitted ∧ (e.task.isEnded = true → e'.task.isEnded = true) := by
  induction more using List.reverseRecOn with
  | nil => exact ⟨e, by rwa [List.append_nil], rfl, rfl, id⟩
  | append_singleton more d ih =>
    obtain ⟨e', job', own, submitted, ended⟩ := ih
    rw [← List.append_assoc, run_concat, perform]
    cases (run (before ++ more)).act? d with
    | none => exact ⟨e', job', own, submitted, ended⟩
    | some a =>
      refine ⟨_, Bureau.getElem?_jobs_act job' a, own, ?_, fun past => ?_⟩
      · exact (Bureau.nextTask_submitted _ a j e').trans submitted
      · exact Bureau.isEnded_nextTask_of_isEnded (ended past) a

/-- A manager that has been shut down goes on so. -/
theorem isClosing_perform (orderly : w.bureau.IsOrderly) (manager : w.bureau.managers[i]? = some m)
    (closing : m.IsClosing) (d : Deed Implementation) :
    ∃ m', (w.perform d).bureau.managers[i]? = some m' ∧ m'.IsClosing := by
  rw [perform]
  cases w.act? d with
  | none => exact ⟨m, manager, closing⟩
  | some a =>
    obtain ⟨m', manager', serves⟩ := Bureau.serves_act orderly manager a
    exact ⟨m', manager', serves.isClosing closing⟩

theorem run_shutDown_concat (before : List (Deed Implementation)) (i : Nat)
    (after : List (Deed Implementation)) (d : Deed Implementation) :
    run (before ++ .act (.shutDown i) :: (after ++ [d])) =
      (run (before ++ .act (.shutDown i) :: after)).perform d := by
  rw [← run_concat]
  simp

theorem isClosing_run (manager : (run before).bureau.managers[i]? = some m)
    (after : List (Deed Implementation)) :
    ∃ m', (run (before ++ .act (.shutDown i) :: after)).bureau.managers[i]? = some m' ∧
      m'.IsClosing := by
  induction after using List.reverseRecOn with
  | nil =>
    rw [run_concat]
    refine ⟨m.shutDown, ?_, m.isClosing_shutDown⟩
    simp [perform, act?, Bureau.act, manager]
  | append_singleton after d ih =>
    obtain ⟨m', manager', closing⟩ := ih
    rw [run_shutDown_concat]
    exact isClosing_perform (isOrderly_run _) manager' closing d

/-- What the task of a job may record when its manager is called to shut down is all that it may record
from then on, cancellations apart. -/
theorem promises_after (manager : (run before).bureau.managers[i]? = some m)
    (job : (run before).bureau.jobs[j]? = some e) (own : e.manager = i)
    (promises : (run before).bureau.Promises e P) (readable : e.task.submitted.IsReadable)
    (cancelled : P .cancelled) (after : List (Deed Implementation))
    (heed : empty.allHeed (before ++ .act (.shutDown i) :: after) = true) :
    let w := run (before ++ .act (.shutDown i) :: after)
    ∃ e', w.bureau.jobs[j]? = some e' ∧ e'.manager = i ∧
      e'.task.submitted = e.task.submitted ∧ w.bureau.Promises e' P := by
  induction after using List.reverseRecOn with
  -- The call itself tells no task what its execution has come to.
  | nil =>
    rw [allHeed_concat] at heed
    obtain ⟨e', job', same, -, submitted, promises⟩ :=
      promises_perform (isOrderly_run before) heed.2 job promises readable cancelled
        (by rintro report ⟨⟩)
    rw [run_concat]
    exact ⟨e', job', same.trans own, submitted, promises⟩
  | append_singleton after d ih =>
    rw [← List.cons_append, ← List.append_assoc, allHeed_concat] at heed
    obtain ⟨e', job', own', submitted, promises⟩ := ih heed.1
    obtain ⟨m', manager', closing⟩ := isClosing_run manager after
    -- A task that is told now has been told to stop before, and its execution has noticed.
    have reported (report : ExecutionReport)
        (act : (run (before ++ .act (.shutDown i) :: after)).act? d = some (.report j report))
        (executing : e'.task.stance = .executing) :
        P (.ofReport e'.submission.template.artifactSlot report) := by
      have active : e'.task.isActive = true := by
        simp [Task.isActive, Task.isFiled, Task.isEnded, executing]
      have told := Bureau.tells_of_isClosing (isListed_run _) job' (own'.symm ▸ manager') closing active
      rw [JobState.ofReport, outcome_of_heeds heed.2 act told]
      exact cancelled
    obtain ⟨e'', job'', same, -, submitted', promises⟩ :=
      promises_perform (isOrderly_run _) heed.2 job' promises (submitted ▸ readable) cancelled reported
    rw [run_shutDown_concat]
    exact ⟨e'', job'', same.trans own', submitted'.trans submitted, promises⟩

/-! ### Calls to submit jobs -/

/-- What becomes of a call to submit a job in a deed. -/
theorem requests_perform_cases (d : Deed Implementation) {call : SubmitCall Implementation} {k : Nat}
    (there : (w.perform d).bureau.requests[k]? = some call) :
    w.bureau.requests[k]? = some call ∨ (w.bureau.requests.length = k ∧ call.progress = .checking) ∨
      ∃ call₀, w.bureau.requests[k]? = some call₀ ∧ call.manager = call₀.manager ∧
        ((∃ s, call₀.progress = .filing s ∧ call.progress = .filed) ∨
          ∃ m reference now, w.bureau.managers[call₀.manager]? = some m ∧
            Bureau.Advances m call₀ reference now call.progress) := by
  rw [perform] at there
  cases act : w.act? d with
  | none =>
    rw [act] at there
    exact .inl there
  | some a =>
    rw [act] at there
    exact Bureau.requests_act_cases a there

/-- A call that is made after its manager has been shut down never gets beyond its first step. -/
theorem late_run (manager : (run before).bureau.managers[i]? = some m)
    (after : List (Deed Implementation)) {k : Nat} {call : SubmitCall Implementation}
    (there : (run (before ++ .act (.shutDown i) :: after)).bureau.requests[k]? = some call)
    (own : call.manager = i) (late : (run before).bureau.requests.length ≤ k) :
    call.progress = .checking ∨ call.progress = .refused .shuttingDown := by
  induction after using List.reverseRecOn generalizing call with
  | nil =>
    rw [run_concat] at there
    have outside := List.getElem?_eq_none (l := (run before).bureau.requests) late
    cases outside.symm.trans there
  | append_singleton after d ih =>
    rw [run_shutDown_concat] at there
    rcases requests_perform_cases d there with old | ⟨-, checking⟩ | ⟨call₀, old, same, step⟩
    · exact ih old own
    · exact .inl checking
    · obtain ⟨m', manager', closing⟩ := isClosing_run manager after
      have before_ := ih old (same ▸ own)
      rcases step with ⟨s, filing, -⟩ | ⟨m₀, reference, now, manager₀, advances⟩
      · rw [filing] at before_
        rcases before_ with ⟨⟨⟩⟩ | ⟨⟨⟩⟩
      · rw [← same, own] at manager₀
        cases manager'.symm.trans manager₀
        generalize call.progress = progress at advances ⊢
        cases advances with
        | closed _ _ => exact .inr rfl
        | passed _ more =>
          rw [closing.closed] at more
          cases more
        | invalid drafting _ => simp [drafting] at before_
        | drafted drafting _ => simp [drafting] at before_
        | unfiled filing => simp [filing] at before_

end Workshop

/-- Whether a call to submit a job has found that its manager takes jobs, and has yet to write the
record of its job. -/
def Admission.isUnderWay {Implementation : Type u} (progress : Admission Implementation) : Bool :=
  match progress with
  | .drafting => true
  | .filing _ => true
  | _ => false

/-- Whether no submission is under way that a manager has not refused. -/
structure Bureau.IsQuiet {Implementation : Type u} (b : Bureau Implementation) (i : Nat) : Prop where
  requests : ∀ call ∈ b.requests, call.manager = i → call.progress.isUnderWay = false
  jobs : ∀ e ∈ b.jobs, e.manager = i → e.task.isFiled = false

namespace Workshop

variable {Implementation : Type u} {w : Workshop Implementation} {d : Deed Implementation}
  {e e' : Engagement Implementation} {i j : Nat} {m : Manager Implementation}
  {before after deeds : List (Deed Implementation)}

/-- If no submission is under way when a manager is shut down, then none gets under way, and the jobs
of the manager are those that it has had. -/
theorem quiet_run (manager : (run before).bureau.managers[i]? = some m)
    (quiet : (run before).bureau.IsQuiet i) (after : List (Deed Implementation)) :
    let w := run (before ++ .act (.shutDown i) :: after)
    (∀ call ∈ w.bureau.requests, call.manager = i → call.progress.isUnderWay = false) ∧
      ∀ (j : Nat) e, w.bureau.jobs[j]? = some e → e.manager = i →
        ∃ e₀, (run before).bureau.jobs[j]? = some e₀ := by
  induction after using List.reverseRecOn with
  | nil =>
    rw [run_concat]
    exact ⟨quiet.requests, fun j e job _ => ⟨e, job⟩⟩
  | append_singleton after d ih =>
    obtain ⟨requests, jobs⟩ := ih
    obtain ⟨m', manager', closing⟩ := isClosing_run manager after
    rw [run_shutDown_concat]
    refine ⟨fun call member own => ?_, fun j e job own => ?_⟩
    · obtain ⟨k, there⟩ := List.getElem?_of_mem member
      rcases requests_perform_cases d there with old | ⟨-, checking⟩ | ⟨call₀, old, same, step⟩
      · exact requests call (List.mem_of_getElem? old) own
      · rw [checking]
        rfl
      · have idle := requests call₀ (List.mem_of_getElem? old) (same ▸ own)
        rcases step with ⟨s, filing, -⟩ | ⟨m₀, reference, now, manager₀, advances⟩
        · simp [filing, Admission.isUnderWay] at idle
        · rw [← same, own] at manager₀
          cases manager'.symm.trans manager₀
          generalize call.progress = progress at advances ⊢
          cases advances with
          | closed _ _ => rfl
          | passed _ more =>
            rw [closing.closed] at more
            cases more
          | invalid _ _ => rfl
          | drafted drafting _ => simp [drafting, Admission.isUnderWay] at idle
          | unfiled _ => rfl
    · rw [perform] at job
      cases act : (run (before ++ .act (.shutDown i) :: after)).act? d with
      | none =>
        rw [act] at job
        exact jobs j e job own
      | some a =>
        rw [act] at job
        rcases Bureau.jobs_act_cases a job with ⟨e₀, old, rfl⟩ | ⟨last, s, files, -⟩
        · exact jobs j e₀ old own
        -- A job of the manager that is filed now has been asked for in a call that is under way.
        · obtain ⟨⟨call, asked, filing, -, grown⟩, -, -⟩ := Bureau.filed_spec files
          rw [Option.elim_some, grown, ← last, List.getElem?_concat_length] at job
          cases job
          have idle := requests call asked own
          simp [filing, Admission.isUnderWay] at idle

/-! ### When the call has returned -/

/-- Whether a call to shut a manager down that has been made in a workshop has returned: the tasks are
over of those jobs that the manager had in its table when it was called. -/
def HasReturned (i : Nat) (called w : Workshop Implementation) : Prop :=
  ∀ reference, called.bureau.Knows i reference →
    ∀ e ∈ w.bureau.jobs, e.task.reference = reference → e.task.isEnded = true

/-- When the call has returned the tasks are over that had been started before it. -/
theorem HasReturned.isEnded {more : List (Deed Implementation)}
    (returned : HasReturned i (run before) (run (before ++ more)))
    (job : (run before).bureau.jobs[j]? = some e) (own : e.manager = i)
    (entered : e.task.isFiled = false) (job' : (run (before ++ more)).bureau.jobs[j]? = some e') :
    e'.task.isEnded = true := by
  obtain ⟨e'', job'', -, submitted, stays⟩ := job_run before job more
  cases job'.symm.trans job''
  cases ended : e.task.isEnded with
  | true => exact stays ended
  | false =>
    have busy : (run before).bureau.IsBusy i e.task.reference :=
      ⟨e, List.mem_of_getElem? job, own, rfl, Task.isActive_iff.mpr ⟨entered, ended⟩⟩
    refine returned _ (((isListed_run before).knows_iff i _).mpr busy) e'
      (List.mem_of_getElem? job') ?_
    rw [Task.reference, submitted, Task.reference]

/-- A job in the table of a manager whose shutdown has returned had not been entered there when it was
called. -/
theorem HasReturned.late {more : List (Deed Implementation)}
    (returned : HasReturned i (run before) (run (before ++ more))) {reference : String}
    (busy : (run (before ++ more)).bureau.IsBusy i reference) :
    ∃ (j : Nat) (e : Engagement Implementation), (run (before ++ more)).bureau.jobs[j]? = some e ∧
      e.manager = i ∧ e.task.reference = reference ∧
      ∀ e₀, (run before).bureau.jobs[j]? = some e₀ → e₀.task.isFiled = true := by
  obtain ⟨e, member, own, same, active⟩ := busy
  obtain ⟨j, job⟩ := List.getElem?_of_mem member
  refine ⟨j, e, job, own, same, fun e₀ job₀ => ?_⟩
  rw [← Bool.not_eq_false]
  intro entered
  obtain ⟨e', job', own', -⟩ := job_run before job₀ more
  cases job.symm.trans job'
  have ended := returned.isEnded job₀ (own'.symm.trans own) entered job
  rw [(Task.isActive_iff.mp active).2] at ended
  cases ended

/-- A call to submit a job that is made after its manager has been shut down is refused in its first
step, and changes nothing else. The tasks of the manager and their executions can always go on until
the shutdown returns. When it has returned, the table of the manager has no jobs but those that had not
been entered there when it was called, which have been told to stop, and no jobs at all if no submission
was under way then; and every job that had been entered and whose record can be read has a final record:
it is that of a cancellation, unless the task had been told before the call what its execution has come
to. -/
theorem shutDown_drains (before : List (Deed Implementation)) (i : Nat) (m : Manager Implementation)
    (manager : (run before).bureau.managers[i]? = some m) (after : List (Deed Implementation))
    (heed : empty.allHeed (before ++ .act (.shutDown i) :: after) = true) :
    let deeds := before ++ .act (.shutDown i) :: after
    let called := (run before).bureau
    let b := (run deeds).bureau
    ∃ m', b.managers[i]? = some m' ∧
      (∀ (k : Nat) call, b.requests[k]? = some call → call.manager = i → called.requests.length ≤ k →
        call.progress = .refused .shuttingDown ∨ call.progress = .checking ∧
          ∀ reference now failure, b.act (.attend k reference now failure) =
            { b with requests := b.requests.set k { call with progress := .refused .shuttingDown } }) ∧
      CanReach deeds (HasReturned i (run before)) ∧
      (HasReturned i (run before) (run deeds) →
        (∀ reference, m'.jobs.contains reference = true → m'.isSignalled reference = true ∧
          ∃ (j : Nat) (e : Engagement Implementation), b.jobs[j]? = some e ∧ e.manager = i ∧
            e.task.reference = reference ∧
            ∀ e₀, called.jobs[j]? = some e₀ → e₀.task.isFiled = true) ∧
        (called.IsQuiet i → m'.jobs = ∅) ∧
        ∀ (j : Nat) e, called.jobs[j]? = some e → e.manager = i → e.task.isFiled = false →
          e.task.submitted.IsReadable →
          ∃ record, b.stored e.task.reference = some record ∧ IsFinal record ∧
            (storedState record = .ok .cancelled ∨
              ∃ report, HasReported before j report ∧ storedState record =
                .ok (.ofReport e.submission.template.artifactSlot report))) := by
  intro deeds called b
  obtain ⟨m', manager', closing⟩ := isClosing_run manager after
  have listed : b.IsListed := isListed_run deeds
  refine ⟨m', manager', ?_, ?_, fun returned => ?_⟩
  · intro k call there own late
    rcases late_run manager after there own late with checking | refused
    · refine .inr ⟨checking, ?_⟩
      exact Bureau.attend_closed there (own ▸ manager') checking closing.closed
    · exact .inl refused
  · refine (canReach_all_ended heed).trans ?_
    rintro more - heed' ended
    exact .here heed' (fun _ _ e member _ => ended e member)
  · have known (reference : String) (there : m'.jobs.contains reference = true) :=
      returned.late ((listed.contains_iff manager' reference).mp there)
    refine ⟨fun reference there => ⟨closing.told reference there, known reference there⟩, ?_, ?_⟩
    -- A job that came into the table late would have been filed, or been about to be.
    · intro quiet
      obtain ⟨-, jobs⟩ := quiet_run manager quiet after
      refine Dict.ext_get? (fun reference => ?_)
      have absent : ¬ m'.jobs.contains reference = true := by
        intro there
        obtain ⟨j, e, job, own, -, filed⟩ := known reference there
        obtain ⟨e₀, job₀⟩ := jobs j e job own
        obtain ⟨e₁, job₁, same, -⟩ := job_run before job₀ (.act (.shutDown i) :: after)
        cases job.symm.trans job₁
        have entered := quiet.jobs e₀ (List.mem_of_getElem? job₀) (same.symm.trans own)
        rw [filed e₀ job₀] at entered
        cases entered
      simpa [Dict.contains] using absent
    -- What the task of a job may record was settled at the call, and now it is over.
    · intro j e job own entered readable
      have heed₀ : empty.allHeed before = true := by
        rw [allHeed_append, Bool.and_eq_true] at heed
        exact heed.1
      have may := promises_run before heed₀ job readable
      obtain ⟨e', job', -, submitted, promises⟩ :=
        promises_after manager job own may readable (.inl rfl) after heed
      have same : e'.task.reference = e.task.reference := by
        rw [Task.reference, submitted, Task.reference]
      obtain ⟨record, there, final, s, allowed, state⟩ :=
        promises.final (returned.isEnded job own entered job')
      rw [same] at there
      refine ⟨record, there, final, ?_⟩
      rcases allowed with rfl | ⟨report, told, rfl⟩
      · exact .inl state
      · rw [JobState.recorded_ofReport] at state
        exact .inr ⟨report, told, state⟩

/-- Of two jobs one has been printed when the manager is shut down, and its task has been told so but
has not recorded it. The task of the other one has not begun. -/
theorem shutDown_drains_prints :
    let work (j : Nat) (signalled : Bool) : Deed Unit := .act (.work j signalled default none)
    let moves : List Move := [.look, .start default, .rest, .enter 0,
      .deliver 0 ⟨[("sheet", .string "sheet.pdf")], none⟩, .settle 0 default, .look, .rest]
    let before := (Bureau.opening .alwaysAllow).map .act ++
      [.act (.submit 0 "print" ∅ .alwaysAllow)] ++
      List.replicate 3 (.act (.attend 1 "next" default none)) ++ [.act (.enter 1), work 0 false,
        work 0 false, .launch 0 default "e" .numbered] ++ moves.map (.move 0) ++ [.conclude 0]
    let after := [.act (.submit 0 "print" ∅ .alwaysAllow), .act (.attend 2 "late" default none),
      work 0 true, work 1 true, work 1 true, work 0 true, work 1 true]
    let deeds := before ++ .act (.shutDown 0) :: after
    (run before).bureau.managers[0]?.isSome = true ∧ empty.allHeed deeds = true ∧
      HasReturned 0 (run before) (run deeds) ∧ (run before).bureau.IsQuiet 0 ∧
      ((run before).bureau.stored "ref").map storedState = some (.ok (.pending true)) ∧
      ((run deeds).bureau.stored "ref").map storedState =
        some (.ok (.success (.at "sheet.pdf"))) ∧
      ((run deeds).bureau.stored "next").map storedState = some (.ok .cancelled) ∧
      (run deeds).bureau.stored "late" = none ∧
      CanReach deeds (HasReturned 0 (run before)) ∧
      ∃ m, (run deeds).bureau.managers[0]? = some m ∧ m.jobs = ∅ := by
  intro work moves before after deeds
  have manager : (run before).bureau.managers[0]?.isSome = true := by decide +kernel
  have heed : empty.allHeed deeds = true := by decide +kernel
  have ended : (run deeds).bureau.jobs.all (·.task.isEnded) = true := by decide +kernel
  have returned : HasReturned 0 (run before) (run deeds) :=
    fun _ _ e member _ => List.all_eq_true.mp ended e member
  have answered : (run before).bureau.requests.all (fun call => !call.progress.isUnderWay) = true := by
    decide +kernel
  have entered : (run before).bureau.jobs.all (fun e => !e.task.isFiled) = true := by decide +kernel
  have quiet : (run before).bureau.IsQuiet 0 :=
    ⟨fun call member _ => by simpa using List.all_eq_true.mp answered call member,
      fun e member _ => by simpa using List.all_eq_true.mp entered e member⟩
  obtain ⟨m, there⟩ := Option.isSome_iff_exists.mp manager
  obtain ⟨m', manager', -, reach, drained⟩ := shutDown_drains before 0 m there after heed
  exact ⟨manager, heed, returned, quiet, by decide +kernel, by decide +kernel, by decide +kernel,
    by decide +kernel, reach, m', manager', (drained returned).2.1 quiet⟩

/-- The record of a job whose assertion is nested too deep is open when the shutdown has returned. A job
that has been filed before a shutdown and is entered after it is in the table when that has returned. -/
theorem shutDown_leaves_behind :
    (let before := (Bureau.opening (Bureau.nest 65)).map Deed.act
      ∃ after e record, empty.allHeed (before ++ .act (.shutDown 0) :: after) = true ∧
        HasReturned 0 (run before) (run (before ++ .act (.shutDown 0) :: after)) ∧
        (run before).bureau.jobs[0]? = some e ∧ e.manager = 0 ∧ e.task.isFiled = false ∧
        (run (before ++ .act (.shutDown 0) :: after)).bureau.stored e.task.reference = some record ∧
        ¬ IsFinal record) ∧
      let before := (Bureau.opening .alwaysAllow).dropLast.map Deed.act
      let deeds := before ++ [.act (.shutDown 0), .act (.enter 0)]
      empty.allHeed deeds = true ∧ HasReturned 0 (run before) (run deeds) ∧
        ((run deeds).bureau.managers[0]?).map (·.jobs.keys) = some ["ref"] := by
  refine ⟨?_, by decide +kernel, ?_, by decide +kernel⟩
  · intro before
    have heed : empty.allHeed (before ++ [.act (.shutDown 0)]) = true := by decide +kernel
    have filed : ((run before).bureau.jobs[0]?).map (fun e => (e.manager, e.task.isFiled,
        decide (Json.depthLimit < e.task.submitted.access.encode.nesting))) =
        some (0, false, true) := by decide +kernel
    obtain ⟨e, job, facts⟩ := Option.map_eq_some_iff.mp filed
    simp only [Prod.mk.injEq, decide_eq_true_eq] at facts
    obtain ⟨own, entered, deep⟩ := facts
    obtain ⟨after, -, heed', ended⟩ := canReach_all_ended heed
    rw [List.append_assoc, List.singleton_append] at heed' ended
    -- Nobody can read the record, and so nobody completes it.
    obtain ⟨e', job', -, submitted, -⟩ := job_run before job (.act (.shutDown 0) :: after)
    obtain ⟨acts, same⟩ := exists_run (before ++ .act (.shutDown 0) :: after)
    have illegible : ¬ e'.task.submitted.IsReadable := by
      rw [submitted]
      exact fun readable => absurd readable.nesting_le (Nat.not_le.mpr deep)
    obtain ⟨record, there, open_⟩ :=
      Bureau.isOpenForm_of_not_isReadable acts (same ▸ job') illegible
    have sound := (Bureau.isOrderly_run acts).jobs e' (List.mem_of_getElem? (same ▸ job'))
    rw [← same, Task.reference, submitted] at there
    exact ⟨after, e, record, heed', fun _ _ e member _ => ended e member, job, own, entered, there,
      open_.not_isFinal sound.waiting sound.settled⟩
  -- The manager knew no job when it was called.
  · rintro reference ⟨m, manager, there⟩
    have none : ((run ((Bureau.opening .alwaysAllow).dropLast.map Deed.act)).bureau.managers[0]?).map
        (·.jobs.keys) = some [] := by decide +kernel
    rw [manager] at none
    rw [Dict.contains_iff_mem_keys, show m.jobs.keys = [] from Option.some.inj none] at there
    cases there

end Workshop

end Printworks
