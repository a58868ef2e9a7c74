import Printworks.Proofs.Job.Standing
import Printworks.Proofs.List

/-!
# What a task does about failing writes

The registry may fail whenever the task of a job writes to it. When a result is recorded each failure
costs an attempt, and after the last one a failure is recorded instead, once. Nothing is attempted
again when the record is marked as running, nor when the result is a failure already: then the record
is left open for good.
-/

namespace Printworks

open Registry JobRecord

universe u

/-- Whether a state is a failure. -/
def JobState.isFailure (s : JobState) : Bool := s matches .failure _

/-- What is said of stages that failed begins with the first of them. -/
theorem ExecutionReport.head?_failures (s : StageReport) (rest : List StageReport) :
    ("; ".intercalate ((s :: rest).map failureText)).toList.head? = some 's' := by
  rw [String.toList_intercalate, List.map_cons]
  cases rest <;> simp [failureText, List.intercalate]

/-- What is said of the stages that failed or were skipped begins with one of two letters. -/
theorem ExecutionReport.head?_stageDetail (r : ExecutionReport) :
    r.stageDetail.toList.head? = none ∨ r.stageDetail.toList.head? = some 's' ∨
      r.stageDetail.toList.head? = some '(' := by
  rw [stageDetail]
  cases r.stages.filter (fun s => s.state == .failed) with
  | nil =>
    split
    next => exact .inl (by decide)
    next =>
      right
      right
      rw [List.map_nil, show "; ".intercalate [] = "" by decide]
      simp [String.toList_append]
  | cons s rest =>
    have begins := head?_failures s rest
    right
    left
    split
    next => exact begins
    next =>
      simp only [String.toList_append, List.head?_append, begins]
      rfl

/-- The failure of an execution is not taken for a cancellation. -/
theorem JobState.recorded_ofReport (slot : String) (report : ExecutionReport) :
    recorded (ofReport slot report) = ofReport slot report := by
  -- What is said of stages and artifacts never begins as the reserved error does.
  have detail : report.stageDetail ≠ cancelledError := by
    intro same
    rcases report.head?_stageDetail with letter | letter | letter <;>
      simp [same, cancelledError] at letter
  have artifact : s!"artifact '{slot}' was not produced" ≠ cancelledError := by
    intro same
    have same : "artifact '" ++ slot ++ "' was not produced" = cancelledError := same
    have letter := congrArg (fun text => text.toList.head?) same
    simp [cancelledError, String.toList_append] at letter
  unfold ofReport
  split
  next =>
    unfold ofArtifact
    split
    next => rfl
    next => rfl
    next => rw [recorded, if_neg artifact]
  next failed =>
    have summary : report.failureSummary = some report.stageDetail := by
      rw [ExecutionReport.failureSummary, failed]
    rw [summary, Option.getD_some, recorded, if_neg detail]
  next => rfl

namespace Task

/-- Whether the next step of a task writes to the registry. -/
def isWriting (t : Task) : Bool :=
  match t.stance with
  | .marking => true
  | .recording _ _ (.writing _ _) => true
  | .fallingBack _ (.writing _ _) => true
  | _ => false

/-- Whether a task waits for its execution. -/
def isExecuting (t : Task) : Bool := t.stance matches .executing

/-- Whether a task that records a state stands where it does when so many writes have failed and none
has worked. -/
def Tally (s : JobState) (failures : Nat) (t : Task) : Prop :=
  match t.stance with
  | .recording state attempt _ => state = s ∧ failures + 1 = attempt ∧ attempt ≤ attempts
  | .pausing state attempt => state = s ∧ failures = attempt ∧ attempt < attempts
  | .fallingBack cause _ =>
    s.isFailure = false ∧ failures = attempts ∧ ∃ error, cause = .store error
  | .ended (.error _) =>
    (s.isFailure = true ∧ failures = attempts) ∨ (s.isFailure = false ∧ failures = attempts + 1)
  | _ => False

/-- What a write that works leaves behind if so many have failed before. -/
def Result (s : JobState) (failures : Nat) (record : Record) : Prop :=
  (failures < attempts ∧ storedState record = .ok (recorded s)) ∨
    (s.isFailure = false ∧ failures = attempts ∧
      ∃ error, storedState record = .ok (fallbackState (.store error)))

variable {t : Task} {s : JobState} {n : Nat} {signalled : Bool} {now : Instant}
  {failure : Option StoreError} {record record' : Record} {stance : Stance}

theorem stance_of_isExecuting (executing : t.isExecuting = true) : t.stance = .executing := by
  unfold isExecuting at executing
  split at executing
  next stance => exact stance
  next => cases executing

theorem tally_afterFailure {submitted : JobRecord} {attempt : Nat} (count : n = attempt)
    (bound : attempt ≤ attempts) (error : StoreError) :
    Tally s n ⟨submitted, afterFailure s attempt (.store error)⟩ := by
  simp only [afterFailure]
  split
  next more => exact ⟨rfl, count, more⟩
  next last =>
    have all : n = attempts := by omega
    split
    next => exact .inl ⟨rfl, all⟩
    next other =>
      refine ⟨?_, all, error, rfl⟩
      cases s with
      | failure message => exact absurd rfl (other message)
      | _ => rfl

theorem Tally.enter (tally : t.Tally s n) : t.enter.Tally s n := by
  unfold Task.enter
  split
  next stance => simp [Tally, stance] at tally
  next => exact tally

theorem Tally.executed (tally : t.Tally s n) (state : JobState) : (t.executed state).Tally s n := by
  unfold Task.executed
  split
  next stance => simp [Tally, stance] at tally
  next => exact tally

theorem Tally.resume (tally : t.Tally s n) : t.resume.Tally s n := by
  unfold Task.resume
  split
  next state attempt stance =>
    simp only [Tally, stance] at tally
    obtain ⟨same, count, bound⟩ := tally
    exact ⟨same, by omega, by omega⟩
  next => exact tally

theorem isEarly_enter (early : t.isEarly = true) : t.enter.isEarly = true := by
  unfold Task.enter
  split
  next => rfl
  next => exact early

theorem executed_of_isEarly (early : t.isEarly = true) (state : JobState) :
    (t.executed state).isEarly = true ∨ (t.executed state).Tally state 0 := by
  unfold Task.executed
  split
  next => exact .inr ⟨rfl, rfl, by decide⟩
  next => exact .inl early

theorem resume_of_isEarly (early : t.isEarly = true) : t.resume = t := by
  unfold Task.resume
  split
  next stance => simp [isEarly, stance] at early
  next => rfl

theorem isEnded_of_isEarly (early : t.isEarly = true) : t.isEnded = false := by
  unfold isEarly at early
  unfold isEnded
  split at early <;> simp_all

theorem told_of_isEnded (ended : t.isEnded = true) :
    t.enter = t ∧ (∀ state, t.executed state = t) ∧ t.resume = t := by
  unfold isEnded at ended
  split at ended
  next result stance =>
    exact ⟨by simp [Task.enter, stance], fun state => by simp [Task.executed, stance],
      by simp [Task.resume, stance]⟩
  next => cases ended

theorem tally_of_isEnded (ended : t.isEnded = true) (tally : t.Tally s n) :
    (s.isFailure = true ∧ n = attempts) ∨ (s.isFailure = false ∧ n = attempts + 1) := by
  unfold isEnded at ended
  split at ended
  next result stance =>
    simp only [Tally, stance] at tally
    cases result with
    | ok _ => exact tally.elim
    | error cause => exact tally
  next => cases ended

/-- What becomes of the count of failed writes in a step, if nothing but writes fails. -/
inductive Counts (s : JobState) (n : Nat) (t : Task) (failure : Option StoreError)
    (record record' : Record) (t' : Task) : Prop
  | other (quiet : t.isWriting = false) (same : record' = record) (tally : Tally s n t')
  | fails (writing : t.isWriting = true) (fails : failure.isSome = true) (same : record' = record)
      (tally : Tally s (n + 1) t')
  | written (writing : t.isWriting = true) (works : failure.isSome = false)
      (final : IsFinal record') (result : Result s n record')

/-- The failure that is recorded instead of a result is not taken for a cancellation. -/
theorem recorded_fallbackState (cause : JobError) :
    recorded (fallbackState cause) = fallbackState cause := by
  have differ : "could not record job result: " ++ cause.message ≠ cancelledError := by
    intro same
    have letters := congrArg (fun text => text.toList[1]?) same
    rw [String.toList_append] at letters
    simp [cancelledError] at letters
  rw [fallbackState, recorded, if_neg differ]

theorem storedState_completed (job : JobRecord) {s : JobState} (final : s.isTerminal = true)
    (now : Instant) : storedState (job.completed s now).toRecord = .ok (recorded s) :=
  storedState_toRecord (job.isSettled_completed final now)

theorem isWriting_of_isWaiting (waits : t.isWaiting = true) : t.isWriting = false := by
  unfold isWaiting at waits
  unfold isWriting
  split at waits <;> simp_all

theorem Works.counts (sound : t.IsSound) (fits : t.Fits record) (tally : t.Tally s n)
    (readable : t.submitted.IsReadable) (only : failure.isSome = true → t.isWriting = true)
    (works : t.Works signalled now failure record stance record') :
    Counts s n t failure record record' ⟨t.submitted, stance⟩ := by
  have legible : ∃ job, ofRecord t.reference record = .ok job :=
    (fits.isOpenForm.readable_iff sound.waiting sound.settled).mpr readable
  have ok := sound.stance
  -- A record can be read unless the registry fails, and that it does not.
  have unread {cause : JobError} (idle : t.isWriting = false) :
      ¬ (failure.map JobError.store = some cause ∨
        failure = none ∧ ofRecord t.reference record = .error cause) := by
    rintro (reason | ⟨-, illegible⟩)
    · obtain ⟨error, fails, -⟩ := Option.map_eq_some_iff.mp reason
      have writing := only (by rw [fails]; rfl)
      rw [idle] at writing
      cases writing
    · obtain ⟨job, read⟩ := legible
      rw [illegible] at read
      cases read
  cases works with
  | begin stance => simp [Tally, stance] at tally
  | mark stance _ => simp [Tally, stance] at tally
  | unmarked stance _ => simp [Tally, stance] at tally
  | @record state attempt c c' record' stance works =>
    rw [stance] at ok
    simp only [Tally, stance] at tally
    obtain ⟨rfl, count, bound⟩ := tally
    cases works with
    | read _ _ => exact .other (by simp [isWriting, stance]) rfl ⟨rfl, count, bound⟩
    | unread reason => exact absurd reason (unread (by simp [isWriting, stance]))
    | @written job works =>
      refine .written (by simp [isWriting, stance]) (by simp [works]) ?_
        (.inl ⟨by omega, storedState_completed job ok.1 now⟩)
      exact isFinal_toRecord (job.isSettled_completed ok.1 now) ok.1
    | @refused job error fails =>
      exact .fails (by simp [isWriting, stance]) (by simp [fails]) rfl
        (tally_afterFailure count bound error)
  | @fallBack cause c c' record' stance works =>
    simp only [Tally, stance] at tally
    obtain ⟨other, count, error, rfl⟩ := tally
    cases works with
    | read _ _ => exact .other (by simp [isWriting, stance]) rfl ⟨other, count, error, rfl⟩
    | unread reason => exact absurd reason (unread (by simp [isWriting, stance]))
    | @written job works =>
      have stored := storedState_completed job (s := fallbackState (.store error)) rfl now
      rw [recorded_fallbackState] at stored
      refine .written (by simp [isWriting, stance]) (by simp [works]) ?_
        (.inr ⟨other, count, error, stored⟩)
      exact isFinal_toRecord (job.isSettled_completed rfl now) rfl
    | @refused job error' fails =>
      exact .fails (by simp [isWriting, stance]) (by simp [fails]) rfl (.inr ⟨other, by omega⟩)
  | idle waits =>
    exact .other (isWriting_of_isWaiting waits) rfl tally

end Task

namespace Bureau

variable {Implementation : Type u} {b : Bureau Implementation} {a : Act Implementation}
  {e : Engagement Implementation} {j n : Nat} {s : JobState}

/-! ### The writes of a task -/

/-- Whether the write of the task of a job in an act fails, if there is one. -/
def write? (b : Bureau Implementation) (j : Nat) (a : Act Implementation) : Option Bool :=
  match a with
  | .work k _ _ failure =>
    if k = j ∧ (b.jobs[j]?).any (·.task.isWriting) then some failure.isSome else none
  | _ => none

/-- For each write of the task of a job in some acts, whether it fails. -/
def writes (b : Bureau Implementation) (j : Nat) (acts : List (Act Implementation)) : List Bool :=
  match acts with
  | [] => []
  | a :: rest => (b.write? j a).toList ++ (b.act a).writes j rest

/-- Whether the task of a job asks something else of the registry in an act, and that fails. -/
def failsElsewhere (b : Bureau Implementation) (j : Nat) (a : Act Implementation) : Bool :=
  match a with
  | .work k _ _ failure => k == j && failure.isSome && !(b.jobs[j]?).any (·.task.isWriting)
  | _ => false

/-- Whether the registry fails the task of a job in some acts only when it writes. -/
def onlyWritesFail (b : Bureau Implementation) (j : Nat) (acts : List (Act Implementation)) : Bool :=
  match acts with
  | [] => true
  | a :: rest => !b.failsElsewhere j a && (b.act a).onlyWritesFail j rest

theorem writes_concat (b : Bureau Implementation) (j : Nat) (acts : List (Act Implementation))
    (a : Act Implementation) :
    b.writes j (acts ++ [a]) = b.writes j acts ++ ((acts.foldl act b).write? j a).toList := by
  induction acts generalizing b with
  | nil => simp [writes]
  | cons first rest ih => simp [writes, ih]

theorem writes_append (b : Bureau Implementation) (j : Nat) (acts more : List (Act Implementation)) :
    b.writes j (acts ++ more) = b.writes j acts ++ (acts.foldl act b).writes j more := by
  induction acts generalizing b with
  | nil => simp [writes]
  | cons first rest ih => simp [writes, ih]

theorem onlyWritesFail_concat (b : Bureau Implementation) (j : Nat)
    (acts : List (Act Implementation)) (a : Act Implementation) :
    b.onlyWritesFail j (acts ++ [a]) =
      (b.onlyWritesFail j acts && !(acts.foldl act b).failsElsewhere j a) := by
  induction acts generalizing b with
  | nil => simp [onlyWritesFail]
  | cons first rest ih => simp [onlyWritesFail, ih, Bool.and_assoc]

theorem write?_of_other (other : ¬ a.IsStepOf j) : b.write? j a = none := by
  unfold write?
  split
  next k signalled now failure =>
    refine if_neg ?_
    rintro ⟨rfl, -⟩
    exact other ⟨_, _, _, rfl⟩
  next => rfl

theorem write?_of_none (none : b.jobs[j]? = none) : b.write? j a = Option.none := by
  unfold write?
  split
  next => simp [none]
  next => rfl

theorem write?_of_step (job : b.jobs[j]? = some e) {signalled : Bool} {now : Instant}
    {failure : Option StoreError} : b.write? j (.work j signalled now failure) =
      if e.task.isWriting = true then some failure.isSome else none := by
  simp [write?, job]

theorem only_of_step (job : b.jobs[j]? = some e) {signalled : Bool} {now : Instant}
    {failure : Option StoreError}
    (only : b.failsElsewhere j (.work j signalled now failure) = false)
    (fails : failure.isSome = true) : e.task.isWriting = true := by
  simpa [failsElsewhere, job, fails] using only

theorem tally_nextTask (tally : e.task.Tally s n) (other : ¬ a.IsStepOf j) :
    (b.nextTask a j e).Tally s n :=
  nextTask_of_other (P := (Task.Tally s n)) other tally tally.enter tally.executed tally.resume

/-! ### Recording a result -/

/-- What becomes of a job whose result is being recorded in an act that finds its record open: the
record stays open and another write has failed or none has been tried, or it is final, by the task's
own write or by somebody else's. -/
theorem counts_act (h : b.IsOrderly) (job : b.jobs[j]? = some e) {record : Record}
    (there : b.stored e.task.reference = some record) (fits : e.task.Fits record)
    (tally : e.task.Tally s n) (readable : e.task.submitted.IsReadable)
    (only : b.failsElsewhere j a = false) :
    ((b.act a).stored e.task.reference = some record ∧ (b.nextTask a j e).Fits record ∧
        (b.write? j a = none ∧ (b.nextTask a j e).Tally s n ∨
          b.write? j a = some true ∧ (b.nextTask a j e).Tally s (n + 1))) ∨
      ∃ record', (b.act a).stored e.task.reference = some record' ∧ IsFinal record' ∧
        (b.write? j a = none ∨ b.write? j a = some false ∧ Task.Result s n record') := by
  have sound := h.jobs e (List.mem_of_getElem? job)
  -- As the record is open, the task still stands where it does unless it has completed it.
  have open_ : ¬ IsFinal record := fits.isOpenForm.not_isFinal sound.waiting sound.settled
  obtain ⟨record', after, passes⟩ := passes_act h job there fits a
  cases passes with
  | @works signalled now failure record' act works =>
    subst act
    have counts := works.counts sound fits tally readable (only_of_step job only)
    have next := works.fits sound fits
    rw [← nextTask_submitted b (.work j signalled now failure) j e] at counts next
    rw [write?_of_step job]
    cases counts with
    | other quiet same tally =>
      subst same
      exact .inl ⟨after, next.resolve_left open_, .inl ⟨by simp [quiet], tally⟩⟩
    | fails writing fails same tally =>
      subst same
      exact .inl ⟨after, next.resolve_left open_, .inr ⟨by simp [writing, fails], tally⟩⟩
    | written writing works final result =>
      exact .inr ⟨record', after, final, .inr ⟨by simp [writing, works], result⟩⟩
  | waits other =>
    exact .inl ⟨after, fits_nextTask fits other,
      .inl ⟨write?_of_other other, tally_nextTask tally other⟩⟩
  | finished other final => exact .inr ⟨record', after, final, .inl (write?_of_other other)⟩

/-- Whether a final record is there after some acts, and whence: somebody else has stored it, as far
as all writes of the task of the job have failed, or it is what the last one has left, which worked. -/
def Settles (b : Bureau Implementation) (j : Nat) (s : JobState) (reference : String)
    (acts : List (Act Implementation)) (record : Record) : Prop :=
  (acts.foldl act b).stored reference = some record ∧ IsFinal record ∧
    ((∀ fails ∈ b.writes j acts, fails = true) ∨
      ∃ n, b.writes j acts = List.replicate n true ++ [false] ∧ Task.Result s n record)

/-- The result of a job is recorded by and by: all writes have failed so far, as many as the task has
counted, or there is a final record. -/
theorem records_foldl (h : b.IsOrderly) (job : b.jobs[j]? = some e) {record : Record}
    (there : b.stored e.task.reference = some record) (fits : e.task.Fits record)
    (tally : e.task.Tally s 0) (readable : e.task.submitted.IsReadable)
    (acts : List (Act Implementation)) (only : b.onlyWritesFail j acts = true) :
    ∃ e', (acts.foldl act b).jobs[j]? = some e' ∧ e'.task.submitted = e.task.submitted ∧
      ((∃ n, b.writes j acts = List.replicate n true ∧ e'.task.Tally s n ∧
          (acts.foldl act b).stored e.task.reference = some record ∧ e'.task.Fits record) ∨
        ∃ earlier later record', acts = earlier ++ later ∧
          b.Settles j s e.task.reference earlier record') := by
  induction acts using List.reverseRecOn with
  | nil => exact ⟨e, job, rfl, .inl ⟨0, rfl, tally, there, fits⟩⟩
  | append_singleton acts a ih =>
    rw [onlyWritesFail_concat, Bool.and_eq_true, Bool.not_eq_true'] at only
    obtain ⟨e', job', same, state⟩ := ih only.1
    have reference : e'.task.reference = e.task.reference := by
      rw [Task.reference, same, Task.reference]
    refine ⟨{ e' with task := (acts.foldl act b).nextTask a j e' }, ?_,
      (nextTask_submitted _ a j e').trans same, ?_⟩
    · rw [List.foldl_append]
      exact getElem?_jobs_act job' a
    · rcases state with ⟨n, writes, tally', there', fits'⟩ | ⟨earlier, later, record', eq, settles⟩
      · rw [← reference] at there' ⊢
        have next := counts_act (isOrderly_foldl h acts) job' there' fits' tally' (same ▸ readable)
          only.2
        rw [List.foldl_append, List.foldl_cons, List.foldl_nil, writes_concat, writes]
        rcases next with ⟨after, fits, ⟨quiet, tally⟩ | ⟨fails, tally⟩⟩ | ⟨record', after, final, how⟩
        · exact .inl ⟨n, by simp [quiet], tally, after, fits⟩
        · exact .inl ⟨n + 1, by simp [fails, List.replicate_succ'], tally, after, fits⟩
        -- The record is final from here on, and so the rest of the acts does not matter.
        · refine .inr ⟨acts ++ [a], [], record', by simp, ?_, final, ?_⟩
          · rw [List.foldl_append]
            exact after
          · rw [writes_concat, writes]
            rcases how with quiet | ⟨works, result⟩
            · left
              simp [quiet]
            · exact .inr ⟨n, by simp [works], result⟩
      · exact .inr ⟨earlier, later ++ [a], record', by simp [eq], settles⟩

/-- Whether a final record that is there after some acts has been stored by somebody else, while all
writes of the task of the job failed. -/
def Forestalls (b : Bureau Implementation) (j : Nat) (reference : String)
    (acts : List (Act Implementation)) (record : Record) : Prop :=
  ∃ earlier later, acts = earlier ++ later ∧ (∀ fails ∈ b.writes j earlier, fails = true) ∧
    (earlier.foldl act b).stored reference = some record ∧ IsFinal record

theorem stored_foldl_of_isFinal (sound : b.IsSound) {reference : String} {record : Record}
    (there : b.stored reference = some record) (final : IsFinal record)
    (acts : List (Act Implementation)) : (acts.foldl act b).stored reference = some record := by
  induction acts generalizing b with
  | nil => exact there
  | cons a rest ih => exact ih (act_spec sound a).1 (stored_act_of_isFinal sound there final a)

/-- When writes fail until one works, as many have failed as are to fail. -/
theorem failures_eq {writes : List Bool} {n k : Nat} {rest : List Bool}
    (split : writes = List.replicate n true ++ false :: rest)
    (pattern : ∀ (m : Nat) fails, writes[m]? = some fails → m ≤ k → fails = decide (m < k)) :
    n = k := by
  -- The write that works comes right after those that fail.
  have last : writes[n]? = some false := by
    rw [split, List.getElem?_append_right (by simp)]
    simp
  have before (m : Nat) (lt : m < n) : writes[m]? = some true := by
    rw [split, List.getElem?_append_left (by simpa using lt)]
    simp [lt]
  rcases Nat.lt_trichotomy n k with lt | eq | gt
  · have fails := pattern n false last (Nat.le_of_lt lt)
    simp [lt] at fails
  · exact eq
  · have works := pattern k true (before k gt) (Nat.le_refl k)
    simp at works

theorem failures_le {n k : Nat} (pattern : ∀ (m : Nat) fails,
    (List.replicate n true)[m]? = some fails → m ≤ k → fails = decide (m < k)) : n ≤ k := by
  by_contra gt
  have works := pattern k true (by rw [List.getElem?_replicate, if_pos (by omega)]) (Nat.le_refl k)
  simp at works

/-- A final record that is there has been stored by somebody else, or holds the state or, after three
failures, the failure that is recorded instead. -/
theorem Settles.result {reference : String} {earlier : List (Act Implementation)} {record : Record}
    {k : Nat} (settles : b.Settles j s reference earlier record) (later : List (Act Implementation))
    (pattern : ∀ (m : Nat) fails,
      (b.writes j (earlier ++ later))[m]? = some fails → m ≤ k → fails = decide (m < k)) :
    b.Forestalls j reference (earlier ++ later) record ∨
      (k ≤ 2 ∧ storedState record = .ok (recorded s)) ∨
      (k = 3 ∧ s.isFailure = false ∧
        ∃ error, storedState record = .ok (Task.fallbackState (.store error))) := by
  obtain ⟨there, final, forestalled | ⟨n, fails, result⟩⟩ := settles
  · exact .inl ⟨earlier, later, rfl, forestalled, there, final⟩
  · have split : b.writes j (earlier ++ later) = List.replicate n true ++
        false :: (earlier.foldl act b).writes j later := by
      rw [writes_append, fails, List.append_assoc]
      rfl
    obtain rfl := failures_eq split pattern
    rcases result with ⟨few, state⟩ | ⟨other, all, fallback⟩
    · rw [Task.attempts] at few
      exact .inr (.inl ⟨by omega, state⟩)
    · exact .inr (.inr ⟨all, other, fallback⟩)

/-- The result of an execution is recorded although up to two writes fail in a row. After three
failures a failure is recorded instead, unless the result is one: then the record stays as it was
marked. In any case the record may have been completed by somebody else before. -/
theorem report_recorded (before after : List (Act Implementation)) (j k : Nat)
    (report : ExecutionReport) (e e' : Engagement Implementation)
    (job : (run before).jobs[j]? = some e) (executing : e.task.stance = .executing)
    (readable : e.task.submitted.IsReadable)
    (job' : (after.foldl act ((run before).act (.report j report))).jobs[j]? = some e')
    (ended : e'.task.isEnded = true)
    (only : ((run before).act (.report j report)).onlyWritesFail j after = true) (bound : k ≤ 3)
    (pattern : ∀ (m : Nat) fails,
      (((run before).act (.report j report)).writes j after)[m]? = some fails → m ≤ k →
        fails = decide (m < k)) :
    let b := (run before).act (.report j report)
    let s := JobState.ofReport e.submission.template.artifactSlot report
    ∃ record, (after.foldl act b).stored e.task.reference = some record ∧
      (b.Forestalls j e.task.reference after record ∨
        (k ≤ 2 ∧ IsFinal record ∧ storedState record = .ok s) ∨
        (k = 3 ∧ s.isFailure = false ∧ IsFinal record ∧
          ∃ error, storedState record = .ok (Task.fallbackState (.store error))) ∨
        (k = 3 ∧ s.isFailure = true ∧ record = e.task.submitted.started.toRecord)) := by
  intro b s
  have before_ : (run before).IsOrderly := isOrderly_run before
  have orderly : b.IsOrderly := isOrderly_act before_ _
  have other : ¬ (Act.report j report : Act Implementation).IsStepOf j := by
    rintro ⟨_, _, _, ⟨⟩⟩
  have told : b.jobs[j]? = some { e with task := (run before).nextTask (.report j report) j e } :=
    getElem?_jobs_act job _
  have next : (run before).nextTask (.report j report) j e =
      { e.task with stance := .recording s 1 .reading } := by
    simp only [nextTask, if_true, Task.executed, executing, s]
  obtain ⟨record, there, final | fits⟩ := before_.standing e (List.mem_of_getElem? job)
  -- Somebody has completed the record before the result was known.
  · refine ⟨record, stored_foldl_of_isFinal orderly.toIsSound there final after, .inl ?_⟩
    exact ⟨[], after, rfl, by simp [writes], there, final⟩
  · have marked : record = e.task.submitted.started.toRecord := by
      simpa only [Task.Fits, executing] using fits
    have there' : b.stored ((run before).nextTask (.report j report) j e).reference = some record := by
      rw [reference_nextTask]
      exact there
    have tally : ((run before).nextTask (.report j report) j e).Tally s 0 := by
      rw [next]
      exact ⟨rfl, rfl, by decide⟩
    have records := records_foldl orderly told there' (fits_nextTask fits other) tally
      (by rw [nextTask_submitted]; exact readable) after only
    rw [reference_nextTask] at records
    obtain ⟨e'', job'', -, ⟨n, fails, tally, there', -⟩ | ⟨earlier, later, record', eq, settles⟩⟩ :=
      records
    · cases job'.symm.trans job''
      rw [fails] at pattern
      have most := failures_le pattern
      rcases Task.tally_of_isEnded ended tally with ⟨failure, count⟩ | ⟨-, count⟩
      · rw [Task.attempts] at count
        exact ⟨record, there', .inr (.inr (.inr ⟨by omega, failure, marked⟩))⟩
      -- Then even the failure could not be recorded, which takes one more failing write.
      · rw [Task.attempts] at count
        omega
    · subst eq
      have result := settles.result later pattern
      obtain ⟨there', final, -⟩ := settles
      have sound := (isOrderly_foldl orderly earlier).toIsSound
      have stays := stored_foldl_of_isFinal sound there' final later
      rw [← List.foldl_append] at stays
      refine ⟨record', stays, ?_⟩
      rcases result with forestalled | ⟨few, state⟩ | ⟨all, other, fallback⟩
      · exact .inl forestalled
      · rw [JobState.recorded_ofReport] at state
        exact .inr (.inl ⟨few, final, state⟩)
      · exact .inr (.inr (.inl ⟨all, other, final, fallback⟩))

/-- Three writes of a result fail in a row, and the one of the failure that is recorded instead
works. -/
theorem report_recorded_thrice :
    let before := opening .alwaysAllow ++ [step false, step false]
    let report : ExecutionReport := ⟨"e", .completed, .ofList [("sheet", .string "sheet.pdf")], []⟩
    let after := [step false, step true, .resume 0, step false, step true, .resume 0, step false,
      step true, step false, step false]
    let k := 3
    let b := (run before).act (.report 0 report)
    ∃ e e', (run before).jobs[0]? = some e ∧ e.task.stance = .executing ∧
      e.task.submitted.IsReadable ∧ (after.foldl act b).jobs[0]? = some e' ∧
      e'.task.isEnded = true ∧ b.onlyWritesFail 0 after = true ∧
      b.writes 0 after = [true, true, true, false] ∧
      let s := JobState.ofReport e.submission.template.artifactSlot report
      ∃ record, (after.foldl act b).stored e.task.reference = some record ∧
        (b.Forestalls 0 e.task.reference after record ∨
          (k ≤ 2 ∧ IsFinal record ∧ storedState record = .ok s) ∨
          (k = 3 ∧ s.isFailure = false ∧ IsFinal record ∧
            ∃ error, storedState record = .ok (Task.fallbackState (.store error))) ∨
          (k = 3 ∧ s.isFailure = true ∧ record = e.task.submitted.started.toRecord)) := by
  intro before report after k b
  have starts : ((run before).jobs[0]?).map (fun e => (e.task.isExecuting,
      decide e.task.submitted.IsReadable)) = some (true, true) := by decide +kernel
  have ends : ((after.foldl act b).jobs[0]?).map (·.task.isEnded) = some true := by decide +kernel
  obtain ⟨e, job, facts⟩ := Option.map_eq_some_iff.mp starts
  obtain ⟨executing, readable⟩ := Prod.ext_iff.mp facts
  obtain ⟨e', job', ended⟩ := Option.map_eq_some_iff.mp ends
  have executing : e.task.stance = .executing := Task.stance_of_isExecuting executing
  have readable := of_decide_eq_true readable
  have only : b.onlyWritesFail 0 after = true := by decide +kernel
  have writes : b.writes 0 after = [true, true, true, false] := by decide +kernel
  have pattern : ∀ m ≤ 3, ∀ fails, [true, true, true, false][m]? = some fails →
      fails = decide (m < 3) := by decide
  exact ⟨e, e', job, executing, readable, job', ended, only, writes,
    report_recorded before after 0 k report e e' job executing readable job' ended only (by decide)
      (fun m fails write le => pattern m le fails (writes ▸ write))⟩

/-- A conjunction in a conjunction, and so on. -/
def nest (depth : Nat) : Access :=
  match depth with
  | 0 => .alwaysAllow
  | depth + 1 => .all [nest depth]

/-- When three writes of a failure have failed the task has ended and the record stays as it was
marked. The record of a job whose assertion is nested too deep is never completed, whether writes
fail or not. -/
theorem failure_stays_open :
    (let before := opening .alwaysAllow ++ [step false, step false]
      let report : ExecutionReport :=
        ⟨"e", .failed, ∅, [⟨"draw", .failed, none, none, some "no ink"⟩]⟩
      let after := [step false, step true, .resume 0, step false, step true, .resume 0, step false,
        step true]
      let b := (run before).act (.report 0 report)
      ((run before).jobs[0]?).map (fun e => (e.task.isExecuting,
          decide e.task.submitted.IsReadable)) = some (true, true) ∧
        ((after.foldl act b).jobs[0]?).map (·.task.isEnded) = some true ∧
        b.onlyWritesFail 0 after = true ∧ b.writes 0 after = [true, true, true] ∧
        ((after.foldl act b).stored "ref").map storedState = some (.ok (.pending true))) ∧
      ∀ acts, ∃ e record, (run (opening (nest 65) ++ acts)).jobs[0]? = some e ∧
        (run (opening (nest 65) ++ acts)).stored e.task.reference = some record ∧
        ¬ IsFinal record := by
  refine ⟨by decide +kernel, fun acts => ?_⟩
  have filed : ((run (opening (nest 65))).jobs[0]?).map
      (fun e => decide (Json.depthLimit < e.task.submitted.access.encode.nesting)) = some true := by
    decide +kernel
  obtain ⟨e, job, deep⟩ := Option.map_eq_some_iff.mp filed
  -- Whatever is done, what was submitted stays, and with it the assertion that cannot be read.
  obtain ⟨e', job', same⟩ := getElem?_jobs_foldl job acts
  have job' : (run (opening (nest 65) ++ acts)).jobs[0]? = some e' := by
    rw [run, List.foldl_append]
    exact job'
  have illegible : ¬ e'.task.submitted.IsReadable := by
    rw [same]
    exact fun readable => absurd readable.nesting_le (Nat.not_le.mpr (of_decide_eq_true deep))
  obtain ⟨record, there, open_⟩ := isOpenForm_of_not_isReadable _ job' illegible
  have sound := (isOrderly_run _).jobs e' (List.mem_of_getElem? job')
  exact ⟨e', record, job', there, open_.not_isFinal sound.waiting sound.settled⟩

/-! ### From the beginning -/

/-- A job that has not been filed has written nothing. -/
theorem writes_of_none {acts : List (Act Implementation)} (none : (run acts).jobs[j]? = none) :
    empty.writes j acts = [] := by
  induction acts using List.reverseRecOn with
  | nil => rfl
  | append_singleton acts a ih =>
    have before : (run acts).jobs[j]? = Option.none := by
      cases old : (run acts).jobs[j]? with
      | none => rfl
      | some e =>
        rw [run_concat, getElem?_jobs_act old] at none
        cases none
    have quiet : (acts.foldl act empty).write? j a = Option.none := write?_of_none before
    rw [writes_concat, ih before, quiet]
    rfl

/-- Whether the write with which a task marks its record as running has failed in some acts. -/
def FailsToStart (j : Nat) (acts : List (Act Implementation)) : Prop :=
  ∃ earlier a later, acts = earlier ++ a :: later ∧ (run earlier).write? j a = some true ∧
    ∃ e, (run earlier).jobs[j]? = some e ∧ e.task.stance = .marking

theorem failsToStart_concat {acts : List (Act Implementation)} :
    FailsToStart j (acts ++ [a]) ↔ FailsToStart j acts ∨ (run acts).write? j a = some true ∧
      ∃ e, (run acts).jobs[j]? = some e ∧ e.task.stance = .marking :=
  exists_split_concat

/-- How a job stands whose record is open: its task has not begun to record a result, and no write has
failed; or it has, and as many have failed as it has counted; or it has not been able to start. -/
inductive Stands (j : Nat) (acts : List (Act Implementation)) (t : Task) (record : Record) : Prop
  | early (early : t.isEarly = true) (count : (empty.writes j acts).count true = 0)
  | counted (s : JobState) (tally : t.Tally s ((empty.writes j acts).count true))
  | stopped (ended : t.isEnded = true) (same : record = t.submitted.toRecord)
      (fails : FailsToStart j acts)

/-- An act that the task of a job has no part in leaves the job as it stands. -/
theorem Stands.quiet {acts : List (Act Implementation)} {record : Record}
    (h : Stands j acts e.task record) (other : ¬ a.IsStepOf j) :
    Stands j (acts ++ [a]) ((run acts).nextTask a j e) record := by
  have writes : empty.writes j (acts ++ [a]) = empty.writes j acts := by
    rw [writes_concat, write?_of_other other, Option.toList_none, List.append_nil]
  cases h with
  | early early count =>
    rcases nextTask_cases other with same | entered | ⟨s, executed⟩ | resumed
    · exact .early (by rw [same]; exact early) (by rw [writes]; exact count)
    · exact .early (by rw [entered]; exact Task.isEarly_enter early) (by rw [writes]; exact count)
    · rw [executed]
      rcases Task.executed_of_isEarly early s with early | tally
      · exact .early early (by rw [writes]; exact count)
      · exact .counted s (by rw [writes, count]; exact tally)
    · rw [resumed, Task.resume_of_isEarly early]
      exact .early early (by rw [writes]; exact count)
  | counted s tally => exact .counted s (by rw [writes]; exact tally_nextTask tally other)
  | stopped ended same fails =>
    have stays : (run acts).nextTask a j e = e.task := by
      obtain ⟨enter, told, resume⟩ := Task.told_of_isEnded ended
      exact nextTask_of_other (P := (· = e.task)) other rfl enter told resume
    rw [stays]
    exact .stopped ended same (failsToStart_concat.mpr (.inl fails))

theorem count_writes_step {acts : List (Act Implementation)} (job : (run acts).jobs[j]? = some e)
    (signalled : Bool) (now : Instant) (failure : Option StoreError) :
    (empty.writes j (acts ++ [.work j signalled now failure])).count true =
      (empty.writes j acts).count true +
        if e.task.isWriting = true ∧ failure.isSome = true then 1 else 0 := by
  have write : (acts.foldl act empty).write? j (.work j signalled now failure) = _ :=
    write?_of_step job
  rw [writes_concat, List.count_append, write]
  by_cases writing : e.task.isWriting = true
  · cases failure <;> simp [writing]
  · simp [writing]

/-- A step of the task completes the record, or leaves the job as it stands. -/
theorem Stands.step {acts : List (Act Implementation)} {record record' : Record} {stance : Stance}
    {signalled : Bool} {now : Instant} {failure : Option StoreError}
    (h : Stands j acts e.task record) (job : (run acts).jobs[j]? = some e)
    (fits : e.task.Fits record) (readable : e.task.submitted.IsReadable)
    (only : failure.isSome = true → e.task.isWriting = true)
    (works : e.task.Works signalled now failure record stance record') :
    IsFinal record' ∨
      Stands j (acts ++ [.work j signalled now failure]) ⟨e.task.submitted, stance⟩ record' := by
  have sound := (isOrderly_run acts).jobs e (List.mem_of_getElem? job)
  have total := count_writes_step job signalled now failure
  cases h with
  | early early count =>
    right
    rw [count] at total
    -- No write has failed so far, and if the one that marks the record fails then that is the end.
    cases works with
    | begin created =>
      simp only [Task.isWriting, created, Bool.false_eq_true, false_and, if_false] at total
      cases signalled with
      | true => exact .counted .cancelled (by rw [total]; exact ⟨rfl, rfl, by decide⟩)
      | false => exact .early rfl total
    | mark _ works => exact .early rfl (by simpa [works] using total)
    | unmarked marking fails =>
      have same : record = e.task.submitted.toRecord := by
        simpa only [Task.Fits, marking] using fits
      refine .stopped rfl same (failsToStart_concat.mpr (.inr ⟨?_, e, job, marking⟩))
      rw [write?_of_step job]
      simp [Task.isWriting, marking, fails]
    | record stance _ => simp [Task.isEarly, stance] at early
    | fallBack stance _ => simp [Task.isEarly, stance] at early
    | idle waits =>
      exact .early early (by simpa [Task.isWriting_of_isWaiting waits] using total)
  | counted s tally =>
    cases works.counts sound fits tally readable only with
    | other quiet same tally => exact .inr (.counted s (by simpa [total, quiet] using tally))
    | fails writing fails same tally =>
      exact .inr (.counted s (by simpa [total, writing, fails] using tally))
    | written _ _ final _ => exact .inl final
  | stopped ended same fails =>
    right
    cases works with
    | idle waits => exact .stopped ended same (failsToStart_concat.mpr (.inl fails))
    | begin stance => simp [Task.isEnded, stance] at ended
    | mark stance _ => simp [Task.isEnded, stance] at ended
    | unmarked stance _ => simp [Task.isEnded, stance] at ended
    | record stance _ => simp [Task.isEnded, stance] at ended
    | fallBack stance _ => simp [Task.isEnded, stance] at ended

theorem stands_run (acts : List (Act Implementation)) (only : empty.onlyWritesFail j acts = true)
    (job : (run acts).jobs[j]? = some e) (readable : e.task.submitted.IsReadable) :
    ∃ record, (run acts).stored e.task.reference = some record ∧
      (IsFinal record ∨ e.task.Fits record ∧ Stands j acts e.task record) := by
  induction acts using List.reverseRecOn generalizing e with
  | nil => simp [run, empty] at job
  | append_singleton acts a ih =>
    rw [onlyWritesFail_concat, Bool.and_eq_true, Bool.not_eq_true'] at only
    have orderly := isOrderly_run acts
    rw [run_concat] at job ⊢
    rcases jobs_act_cases a job with ⟨before, old, rfl⟩ | ⟨last, s, files, start⟩
    · rw [nextTask_submitted] at readable
      rw [reference_nextTask]
      obtain ⟨record, there, final | ⟨fits, stands⟩⟩ := ih only.1 old readable
      · exact ⟨record, stored_act_of_isFinal orderly.toIsSound there final a, .inl final⟩
      · obtain ⟨record', after, passes⟩ := passes_act orderly old there fits a
        refine ⟨record', after, ?_⟩
        cases passes with
        | @works signalled now failure record' act works =>
          subst act
          have fits' := works.fits (orderly.jobs before (List.mem_of_getElem? old)) fits
          have next := stands.step old fits readable (only_of_step old only.2) works
          rw [← nextTask_submitted (run acts) (.work j signalled now failure) j before] at fits' next
          rcases next with final | stands
          · exact .inl final
          · exact fits'.imp_right (fun fits => ⟨fits, stands⟩)
        | waits other => exact .inr ⟨fits_nextTask fits other, stands.quiet other⟩
        | finished _ final => exact .inl final
    -- A job that has just been filed has its record as it was submitted.
    · rw [start]
      refine ⟨_, (filed_spec files).2.2, .inr ⟨rfl, .early rfl ?_⟩⟩
      have none : (run acts).jobs[j]? = Option.none := List.getElem?_eq_none (Nat.le_of_eq last)
      have quiet : (acts.foldl act empty).write? j a = Option.none := write?_of_none none
      rw [writes_concat, writes_of_none none, quiet]
      rfl

/-- When a task has ended, and its writes and nothing else have failed, at most twice in all, then
its record is final, unless the write that failed was the one that marks it as running: then the
record may still wait as it was submitted. -/
theorem run_ends_recorded (acts : List (Act Implementation)) (j : Nat)
    (e : Engagement Implementation) (job : (run acts).jobs[j]? = some e)
    (ended : e.task.isEnded = true) (readable : e.task.submitted.IsReadable)
    (only : empty.onlyWritesFail j acts = true) (few : (empty.writes j acts).count true ≤ 2) :
    ∃ record, (run acts).stored e.task.reference = some record ∧
      (IsFinal record ∨ FailsToStart j acts ∧ record = e.task.submitted.toRecord) := by
  obtain ⟨record, there, final | ⟨-, stands⟩⟩ := stands_run acts only job readable
  · exact ⟨record, there, .inl final⟩
  · refine ⟨record, there, ?_⟩
    cases stands with
    | early early _ =>
      rw [Task.isEnded_of_isEarly early] at ended
      cases ended
    | counted s tally =>
      rcases Task.tally_of_isEnded ended tally with ⟨-, count⟩ | ⟨-, count⟩
      · rw [Task.attempts] at count
        omega
      · rw [Task.attempts] at count
        omega
    | stopped _ same fails => exact .inr ⟨fails, same⟩

/-- Two writes of a result fail, and the third one works. -/
theorem run_ends_recorded_twice :
    let acts := opening .alwaysAllow ++ [step false, step false, .report 0 ⟨"e", .completed,
        .ofList [("sheet", .string "sheet.pdf")], []⟩, step false, step true, .resume 0, step false,
      step true, .resume 0, step false, step false]
    ∃ e, (run acts).jobs[0]? = some e ∧ e.task.isEnded = true ∧ e.task.submitted.IsReadable ∧
      empty.onlyWritesFail 0 acts = true ∧ (empty.writes 0 acts).count true ≤ 2 ∧
      ∃ record, (run acts).stored e.task.reference = some record ∧
        (IsFinal record ∨ FailsToStart 0 acts ∧ record = e.task.submitted.toRecord) := by
  intro acts
  have ends : ((run acts).jobs[0]?).map (fun e => (e.task.isEnded, decide e.task.submitted.IsReadable)) =
      some (true, true) := by decide +kernel
  obtain ⟨e, job, facts⟩ := Option.map_eq_some_iff.mp ends
  obtain ⟨ended, readable⟩ := Prod.ext_iff.mp facts
  have readable := of_decide_eq_true readable
  have only : empty.onlyWritesFail 0 acts = true := by decide +kernel
  have few : (empty.writes 0 acts).count true ≤ 2 := by decide +kernel
  exact ⟨e, job, ended, readable, only, few, run_ends_recorded acts 0 e job ended readable only few⟩

/-- The write fails with which the task marks its record as running. Nothing else does, and still the
record waits when the task has ended. -/
theorem waits_after_failed_start :
    let acts := opening .alwaysAllow ++ [step false, step true]
    ((run acts).jobs[0]?).map (fun e => (e.task.isEnded, decide e.task.submitted.IsReadable)) =
        some (true, true) ∧
      empty.onlyWritesFail 0 acts = true ∧ empty.writes 0 acts = [true] ∧
      ((run acts).stored "ref").map storedState = some (.ok (.pending false)) := by
  decide +kernel

end Bureau

end Printworks
