import Printworks.Proofs.Execution.Effort
import Printworks.Proofs.Job.Table
import Printworks.Proofs.Job.Workshop

/-!
# Tasks come to an end

Each step that a task takes brings it nearer to its end, whether the registry works or fails: only so
many attempts are made to record a result, and a recording that finds the record changed reads it
again. In between the task waits for its execution, which can come to an end too. So tasks and
executions can always go on until all tasks are over, whatever has happened before.
-/

namespace Printworks

open Registry JobRecord

universe u

/-! ### What is left to do -/

namespace Completion

/-- How many steps a recording has left if nobody else writes to the record. -/
def remaining (stored : Option Record) (c : Completion) : Nat :=
  match c with
  | reading => 2
  -- A write that expects another record is refused, and the record is read again.
  | writing found _ => if stored = some found then 1 else 3
  | ended _ => 0

variable {reference : String} {u u' : Unreliable Memory} {c c' : Completion}

theorem remaining_step {s : JobState} {now : Instant} (sound : c.IsSound reference)
    (next : c.step reference s now u = (c', u')) :
    c'.remaining (u'.store.records.get? (key reference)) <
      c.remaining (u.store.records.get? (key reference)) := by
  cases c with
  | reading =>
    simp only [step, read] at next
    split at next
    next =>
      cases next
      simp [remaining]
    next fetched =>
      obtain ⟨same, known⟩ := fetch_spec fetched
      obtain ⟨there, -⟩ := known _ _ rfl
      split at next
      next =>
        cases next
        simp [remaining]
      next =>
        cases next
        simp [remaining, same, there]
  | writing found job =>
    obtain ⟨⟨r, -, rfl⟩, -, -⟩ := sound
    simp only [step, write] at next
    split at next
    next =>
      cases next
      simp only [remaining]
      split <;> decide
    next =>
      cases next
      simp only [remaining]
      split <;> decide
    -- The write is refused, so that it has expected another record.
    next refused =>
      cases next
      have self := (isExact_toRecord r).agrees_iff.mpr rfl
      have other := Unreliable.compareAndPut_refused (isExact_toRecord _) self refused
      simp [remaining, other]
  | ended result => exact sound.elim

end Completion

/-- How many steps a task has left if nobody else writes to its record, the end of its execution and
those of its pauses among them. -/
def Stance.remaining (stored : Option Record) (stance : Stance) : Nat :=
  match stance with
  | .filed => 16
  | .created => 15
  | .marking => 14
  | .executing => 13
  | .recording _ attempt c => 4 + 3 * (Task.attempts - attempt) + c.remaining stored
  | .pausing _ attempt => 7 + 3 * (Task.attempts - (attempt + 1))
  | .fallingBack _ c => 1 + c.remaining stored
  | .ended _ => 0

namespace Task

variable {t t' : Task} {u u' : Unreliable Memory}

theorem remaining_afterFailure (s : JobState) (attempt : Nat) (cause : JobError)
    (stored : Option Record) :
    (afterFailure s attempt cause).remaining stored ≤ 4 + 3 * (attempts - attempt) := by
  unfold afterFailure
  split
  next =>
    split
    next more =>
      simp only [Stance.remaining]
      omega
    next =>
      split
      next => exact Nat.zero_le _
      next =>
        simp only [Stance.remaining, Completion.remaining]
        omega
  next => exact Nat.zero_le _
  next =>
    simp only [Stance.remaining, Completion.remaining]
    omega

theorem remaining_afterRecording (s : JobState) (attempt : Nat) (c : Completion)
    (stored : Option Record) : (afterRecording s attempt c).remaining stored ≤
      4 + 3 * (attempts - attempt) + c.remaining stored := by
  unfold afterRecording
  split
  next => exact Nat.zero_le _
  next => exact Nat.le_trans (remaining_afterFailure s attempt _ stored) (Nat.le_add_right _ _)
  next => exact Nat.le_refl _

theorem remaining_afterFallback (cause : JobError) (c : Completion) (stored : Option Record) :
    (afterFallback cause c).remaining stored ≤ 1 + c.remaining stored := by
  unfold afterFallback
  split
  next => exact Nat.zero_le _
  next => exact Nat.le_refl _

/-- A task that does not wait has less to do after a step. -/
theorem remaining_step (sound : t.IsSound) (busy : t.isWaiting = false) {signalled : Bool}
    {now : Instant} (next : t.step signalled now u = (t', u')) :
    t'.stance.remaining (u'.store.records.get? (key t.reference)) <
      t.stance.remaining (u.store.records.get? (key t.reference)) := by
  have ok := sound.stance
  cases stance : t.stance with
  | created =>
    simp only [step, stance] at next
    cases next
    cases signalled with
    | false => simp [Stance.remaining]
    | true => simp [Stance.remaining, Completion.remaining, attempts]
  | marking =>
    simp only [step, stance, markRunning] at next
    cases next
    split <;> simp [Stance.remaining]
  | recording s attempt c =>
    rw [stance] at ok
    obtain ⟨c', u₁, eq⟩ : ∃ c' u₁, c.step t.reference s now u = (c', u₁) := ⟨_, _, rfl⟩
    have less := Completion.remaining_step ok.2 eq
    simp only [step, stance, eq] at next
    cases next
    refine Nat.lt_of_le_of_lt (remaining_afterRecording s attempt c' _) ?_
    simp only [Stance.remaining]
    omega
  | fallingBack cause c =>
    rw [stance] at ok
    obtain ⟨c', u₁, eq⟩ : ∃ c' u₁, c.step t.reference (fallbackState cause) now u = (c', u₁) :=
      ⟨_, _, rfl⟩
    have less := Completion.remaining_step ok eq
    simp only [step, stance, eq] at next
    cases next
    refine Nat.lt_of_le_of_lt (remaining_afterFallback cause c' _) ?_
    simp only [Stance.remaining]
    omega
  | filed => simp [isWaiting, stance] at busy
  | executing => simp [isWaiting, stance] at busy
  | pausing s attempt => simp [isWaiting, stance] at busy
  | ended result => simp [isWaiting, stance] at busy

end Task

/-- Whether a deed starts a task, or is one of a task or one in an execution. -/
def Deed.isOwn {Implementation : Type u} (d : Deed Implementation) : Bool :=
  match d with
  | .act (.enter _) => true
  | .act (.work _ _ _ _) => true
  | .act (.resume _) => true
  | .act _ => false
  | _ => true

namespace Workshop

variable {Implementation : Type u} {w : Workshop Implementation} {d : Deed Implementation}
  {e : Engagement Implementation} {i j : Nat} {m : Manager Implementation}
  {deeds : List (Deed Implementation)} {P Q : Workshop Implementation → Prop}

/-! ### What is heeded -/

/-- Whether the registry does not fail a task in a deed, and a task or an execution that looks at
the signal finds it if its job has been told to stop. -/
def heeds (w : Workshop Implementation) (d : Deed Implementation) : Bool :=
  match d with
  | .act (.work j signalled _ failure) => failure.isNone && (!w.bureau.tells j || signalled)
  | .conclude j => !w.bureau.tells j || (w.shifts j).all (·.signalled)
  | _ => true

/-- Whether that is so in all of some deeds. -/
def allHeed (w : Workshop Implementation) (deeds : List (Deed Implementation)) : Bool :=
  match deeds with
  | [] => true
  | d :: rest => w.heeds d && (w.perform d).allHeed rest

theorem allHeed_append (w : Workshop Implementation) (deeds more : List (Deed Implementation)) :
    w.allHeed (deeds ++ more) = (w.allHeed deeds && (deeds.foldl perform w).allHeed more) := by
  induction deeds generalizing w with
  | nil => simp [allHeed]
  | cons d rest ih => simp [allHeed, ih, Bool.and_assoc]

theorem allHeed_concat : empty.allHeed (deeds ++ [d]) = true ↔
    empty.allHeed deeds = true ∧ (run deeds).heeds d = true := by
  rw [allHeed_append, Bool.and_eq_true, allHeed, allHeed, Bool.and_true, run]

/-! ### Executions -/

theorem isBuilt_run (deeds : List (Deed Implementation)) : (run deeds).bureau.IsBuilt :=
  of_bureau_run Bureau.isBuilt_run deeds

theorem isSteady_run (deeds : List (Deed Implementation)) {s : Shift}
    (shift : (run deeds).shifts j = some s) : s.IsSteady := by
  induction deeds using List.reverseRecOn generalizing s with
  | nil => cases shift
  | append_singleton deeds d ih =>
    rw [run_concat] at shift
    change (run deeds).nextShift d j = some s at shift
    unfold nextShift at shift
    split at shift
    -- The execution begins, on the graph that the template of the job has.
    next =>
      split at shift
      next =>
        obtain ⟨e, job, begun⟩ := Option.bind_eq_some_iff.mp shift
        split at begun
        next =>
          cases begun
          have sound := (isBuilt_run deeds).jobs e (List.mem_of_getElem? job)
          exact Shift.isSteady_start sound _ _ _ _
        next => cases begun
      next => cases shift
    next k m before there =>
      cases shift
      split
      next => exact (ih there).run [m]
      next => exact ih there
    next => exact ih shift

/-! ### Going on -/

/-- Whether tasks and executions can go on after some deeds until something holds, if the registry
works for them and they heed what they are told. -/
def CanReach (deeds : List (Deed Implementation)) (P : Workshop Implementation → Prop) : Prop :=
  ∃ more, (∀ d ∈ more, d.isOwn = true) ∧ empty.allHeed (deeds ++ more) = true ∧
    P (run (deeds ++ more))

theorem CanReach.here (heed : empty.allHeed deeds = true) (holds : P (run deeds)) :
    CanReach deeds P :=
  ⟨[], nofun, by rwa [List.append_nil], by rwa [List.append_nil]⟩

theorem CanReach.trans (reach : CanReach deeds P)
    (next : ∀ more, (∀ d ∈ more, d.isOwn = true) → empty.allHeed (deeds ++ more) = true →
      P (run (deeds ++ more)) → CanReach (deeds ++ more) Q) : CanReach deeds Q := by
  obtain ⟨more, own, heed, holds⟩ := reach
  obtain ⟨rest, own', heed', holds'⟩ := next more own heed holds
  rw [List.append_assoc] at heed' holds'
  refine ⟨more ++ rest, fun d member => ?_, heed', holds'⟩
  exact (List.mem_append.mp member).elim (own d) (own' d)

theorem CanReach.step (own : d.isOwn = true) (reach : CanReach (deeds ++ [d]) P) :
    CanReach deeds P := by
  obtain ⟨more, owns, heed, holds⟩ := reach
  rw [List.append_assoc] at heed holds
  refine ⟨d :: more, fun d' member => ?_, heed, holds⟩
  rcases List.mem_cons.mp member with rfl | there
  · exact own
  · exact owns d' there

/-- The moves of an execution change nothing else. -/
theorem run_moves (heed : empty.allHeed deeds = true) {s : Shift}
    (shift : (run deeds).shifts j = some s) (moves : List Move) :
    empty.allHeed (deeds ++ moves.map (.move j)) = true ∧
      (run (deeds ++ moves.map (.move j))).bureau = (run deeds).bureau ∧
      (run (deeds ++ moves.map (.move j))).shifts j = some (s.run moves) := by
  induction moves using List.reverseRecOn with
  | nil => simpa using ⟨heed, shift⟩
  | append_singleton moves m ih =>
    obtain ⟨heed, same, there⟩ := ih
    rw [List.map_append, ← List.append_assoc, List.map_singleton]
    refine ⟨allHeed_concat.mpr ⟨heed, rfl⟩, ?_, ?_⟩
    · rw [run_concat]
      exact same
    · rw [run_concat]
      change nextShift _ _ j = _
      simp only [nextShift, there, if_true, Shift.run, List.foldl_append, List.foldl_cons,
        List.foldl_nil]

/-- An execution can come to its end, and find itself told to stop. -/
theorem canReach_finished (heed : empty.allHeed deeds = true) {s : Shift}
    (shift : (run deeds).shifts j = some s) :
    CanReach deeds (fun w => w.bureau = (run deeds).bureau ∧
      ∃ s, w.shifts j = some s ∧ s.place = .finished ∧ s.signalled = true) := by
  obtain ⟨moves, finished⟩ := (isSteady_run deeds shift).exists_finished
  obtain ⟨heed', same, there⟩ := run_moves heed shift (moves ++ [.signal])
  refine ⟨(moves ++ [Move.signal]).map (.move j), ?_, heed', same, _, there, ?_, ?_⟩
  · intro d member
    obtain ⟨m, -, rfl⟩ := List.mem_map.mp member
    rfl
  · rw [Shift.run, List.foldl_append]
    exact finished
  · rw [Shift.run, List.foldl_append]
    rfl

/-- The execution that a task waits for can come to its end, and has begun then. -/
theorem canReach_concluded (heed : empty.allHeed deeds = true)
    (job : (run deeds).bureau.jobs[j]? = some e) (executing : e.task.stance = .executing) :
    CanReach deeds (fun w => w.bureau = (run deeds).bureau ∧
      ∃ s, w.shifts j = some s ∧ s.place = .finished ∧ s.signalled = true) := by
  cases shift : (run deeds).shifts j with
  | some s => exact canReach_finished heed shift
  | none =>
    -- Nothing depends on the settings, the name and the suffixes of the execution.
    let d : Deed Implementation := .launch j default "" .numbered
    have begun : (run (deeds ++ [d])).shifts j = some (.start default ""
        e.submission.template.pipeline.graph e.submission.seed .numbered) := by
      rw [run_concat]
      change nextShift _ d j = _
      simp [d, nextShift, shift, begun?, job, executing]
    have reach := canReach_finished (allHeed_concat.mpr ⟨heed, rfl⟩) begun
    rw [run_concat] at reach
    exact reach.step rfl

/-- Whether the task of a job is over. -/
def HasEnded (j : Nat) (w : Workshop Implementation) : Prop :=
  ∃ e, w.bureau.jobs[j]? = some e ∧ e.task.isEnded = true

/-- The task of a job can come to its end from wherever it stands. -/
theorem canReach_ended (heed : empty.allHeed deeds = true)
    (job : (run deeds).bureau.jobs[j]? = some e) : CanReach deeds (HasEnded j) := by
  generalize bound : e.task.stance.remaining ((run deeds).bureau.stored e.task.reference) = n
  induction n using Nat.strong_induction_on generalizing deeds e with
  | _ n ih =>
    have sound := (isOrderly_run deeds).jobs e (List.mem_of_getElem? job)
    -- It is enough to do something after which less is left to do.
    have nearer {deeds' : List (Deed Implementation)} (heed' : empty.allHeed deeds' = true)
        (same : (run deeds').bureau = (run deeds).bureau) {d : Deed Implementation}
        {a : Act Implementation} (own : d.isOwn = true) (heeds : (run deeds').heeds d = true)
        (act : (run deeds').act? d = some a)
        (less : ((run deeds).bureau.nextTask a j e).stance.remaining
          (((run deeds).bureau.act a).stored e.task.reference) < n) :
        CanReach deeds' (HasEnded j) := by
      have after : (run (deeds' ++ [d])).bureau = (run deeds).bureau.act a := by
        rw [run_concat, perform, act, ← same]
        rfl
      have job' := Bureau.getElem?_jobs_act job a
      rw [← after] at job' less
      refine .step own (ih _ less (allHeed_concat.mpr ⟨heed', heeds⟩) job' ?_)
      rw [Bureau.reference_nextTask]
    -- A task that waits goes on when it is started or its execution or pause is over, any other takes a
    -- step.
    by_cases busy : e.task.isWaiting = false
    · refine nearer heed rfl (d := .act (.work j true default none)) rfl (by simp [heeds]) rfl ?_
      rw [Bureau.stored_work job, ← bound]
      simp only [Bureau.nextTask, if_true]
      exact Task.remaining_step sound busy rfl
    · cases stance : e.task.stance with
      | ended result => exact .here heed ⟨e, job, by simp [Task.isEnded, stance]⟩
      | filed =>
        refine nearer heed rfl (d := .act (.enter j)) rfl rfl rfl ?_
        rw [← bound, stance]
        simp [Bureau.nextTask, Task.enter, Task.start, stance, Stance.remaining]
      | pausing s attempt =>
        refine nearer heed rfl (d := .act (.resume j)) rfl rfl rfl ?_
        rw [← bound, stance]
        simp only [Bureau.nextTask, if_true, Task.resume, stance, Stance.remaining,
          Completion.remaining]
        omega
      | executing =>
        refine (canReach_concluded heed job stance).trans ?_
        rintro more - heed' ⟨same, s, shift, finished, signalled⟩
        refine nearer heed' same (d := .conclude j) (a := .report j s.concluded.report) rfl ?_ ?_ ?_
        · simp [heeds, shift, signalled]
        · simp [act?, shift, finished]
        · rw [← bound, stance]
          simp only [Bureau.nextTask, if_true, Task.executed, stance, Stance.remaining,
            Completion.remaining]
          decide
      | _ => simp [Task.isWaiting, stance] at busy

/-- No job is filed in what a task or an execution does. -/
theorem filed_of_own (own : d.isOwn = true) {a : Act Implementation} (act : w.act? d = some a) :
    w.bureau.filed? a = none := by
  obtain ⟨rfl, -⟩ | ⟨_, _, -, -, -, rfl⟩ := act_cases act
  · unfold Deed.isOwn at own
    split at own <;> simp_all [Bureau.filed?]
  · rfl

/-- Whatever tasks and executions do, the jobs are those that have been there, and tasks that are over
stay so. -/
theorem jobs_run_own (deeds : List (Deed Implementation)) {more : List (Deed Implementation)}
    (own : ∀ d ∈ more, d.isOwn = true) (job : (run (deeds ++ more)).bureau.jobs[j]? = some e) :
    ∃ e₀, (run deeds).bureau.jobs[j]? = some e₀ ∧
      (e₀.task.isEnded = true → e.task.isEnded = true) := by
  induction more using List.reverseRecOn generalizing e with
  | nil =>
    rw [List.append_nil] at job
    exact ⟨e, job, id⟩
  | append_singleton more d ih =>
    have before {e : Engagement Implementation} := ih (e := e)
      (fun d' member => own d' (List.mem_append_left _ member))
    rw [← List.append_assoc, run_concat, perform] at job
    cases act : (run (deeds ++ more)).act? d with
    | none =>
      rw [act] at job
      exact before job
    | some a =>
      rw [act] at job
      rcases Bureau.jobs_act_cases a job with ⟨e₁, job₁, rfl⟩ | ⟨-, s, files, -⟩
      · obtain ⟨e₀, job₀, ended⟩ := before job₁
        exact ⟨e₀, job₀, fun past => Bureau.isEnded_nextTask_of_isEnded (ended past) a⟩
      · rw [filed_of_own (own d (by simp)) act] at files
        cases files

/-- All tasks can come to their ends, whatever has happened. -/
theorem canReach_all_ended (heed : empty.allHeed deeds = true) :
    CanReach deeds (fun w => ∀ e ∈ w.bureau.jobs, e.task.isEnded = true) := by
  -- One job after the other is brought to its end.
  have some_ (k : Nat) : CanReach deeds (fun w => ∀ j < k, ∀ e, w.bureau.jobs[j]? = some e →
      e.task.isEnded = true) := by
    induction k with
    | zero => exact .here heed nofun
    | succ k ih =>
      refine ih.trans ?_
      rintro more - heed' ended
      cases job : (run (deeds ++ more)).bureau.jobs[k]? with
      | none =>
        refine .here heed' (fun j le e job' => ?_)
        rcases Nat.lt_succ_iff_lt_or_eq.mp le with lt | rfl
        · exact ended j lt e job'
        · cases job.symm.trans job'
      | some e =>
        obtain ⟨rest, own, heed'', e', job', ended'⟩ := canReach_ended heed' job
        refine ⟨rest, own, heed'', fun j le e'' job'' => ?_⟩
        rcases Nat.lt_succ_iff_lt_or_eq.mp le with lt | rfl
        · obtain ⟨e₀, job₀, stays⟩ := jobs_run_own (deeds ++ more) own job''
          exact stays (ended j lt e₀ job₀)
        · cases job'.symm.trans job''
          exact ended'
  refine (some_ (run deeds).bureau.jobs.length).trans ?_
  rintro more own heed' ended
  refine .here heed' (fun e member => ?_)
  obtain ⟨j, job⟩ := List.getElem?_of_mem member
  obtain ⟨e₀, job₀, -⟩ := jobs_run_own deeds own job
  exact ended j (List.getElem?_eq_some_iff.mp job₀).1 e job

end Workshop

end Printworks
