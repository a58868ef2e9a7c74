import Printworks.Proofs.Job.Standing
import Printworks.Proofs.Job.Template

/-!
# The jobs that a manager knows

A manager has a table of the jobs whose tasks it has started and that are not over: it has all of them
there, and nothing else. When it is shut down it tells all of them to stop. From then on no job is
taken that the manager has not been about to take already, and what still comes into the table has been
told to stop before it begins.
-/

namespace Printworks

open Registry JobRecord

universe u

/-! ### What becomes of a manager -/

namespace Manager

variable {Implementation : Type u}

/-- Whether the graphs in the cache of a manager were built for calls, and those of its templates are
sound. -/
structure IsBuilt (m : Manager Implementation) : Prop where
  cache : ∃ calls, GraphCache.IsFilled calls m.graphs
  templates : ∀ appId t, m.templates.get? appId = some t → t.pipeline.graph.IsSound

theorem isBuilt_start (config : JobConfig) : (start config : Manager Implementation).IsBuilt :=
  ⟨⟨[], GraphCache.isFilled_after []⟩, nofun⟩

theorem IsBuilt.register {m : Manager Implementation} (built : m.IsBuilt) (d : TemplateDefinition)
    (catalog : Catalog Implementation) (suffixes : Suffixes) :
    (m.register d catalog suffixes).2.1.IsBuilt := by
  obtain ⟨calls, filled⟩ := built.cache
  obtain ⟨calls, filled, sound⟩ := Template.isFilled_resolve filled d catalog suffixes
  unfold Manager.register
  split
  next resolved =>
    rw [resolved] at filled
    exact ⟨⟨calls, filled⟩, built.templates⟩
  next template _ _ resolved =>
    rw [resolved] at filled sound
    refine ⟨⟨calls, filled⟩, fun appId t found => ?_⟩
    rw [Dict.get?_insert] at found
    split at found
    next =>
      cases found
      exact sound template rfl
    next => exact built.templates appId t found

/-- Whether a manager has the same jobs in its table as before and has taken back nothing that it
has told, and its graphs are as good as before. -/
structure Rests (m m' : Manager Implementation) : Prop where
  table : ∀ reference, m'.jobs.contains reference = m.jobs.contains reference
  told : ∀ reference, m.isSignalled reference = true → m'.isSignalled reference = true
  closed : m.shuttingDown = true → m'.shuttingDown = true
  built : m.IsBuilt → m'.IsBuilt

theorem Rests.refl (m : Manager Implementation) : m.Rests m := ⟨fun _ => rfl, fun _ => id, id, id⟩

theorem rests_register (m : Manager Implementation) (d : TemplateDefinition)
    (catalog : Catalog Implementation) (suffixes : Suffixes) :
    m.Rests (m.register d catalog suffixes).2.1 := by
  have built (built : m.IsBuilt) := built.register d catalog suffixes
  unfold register at built ⊢
  split
  next resolved =>
    rw [resolved] at built
    exact ⟨fun _ => rfl, fun _ => id, id, built⟩
  next resolved =>
    rw [resolved] at built
    exact ⟨fun _ => rfl, fun _ => id, id, built⟩

theorem rests_signal (m : Manager Implementation) (reference : String) :
    m.Rests (m.signal reference) := by
  unfold signal
  split
  next known =>
    refine ⟨fun other => ?_, fun other told => ?_, id, fun built => ⟨built.cache, built.templates⟩⟩
    · rw [Dict.contains, Dict.get?_insert]
      split
      next same => rw [← same, known]; rfl
      next => rfl
    · rw [isSignalled, Dict.get?_insert]
      split
      next => rfl
      next => exact told
  next => exact .refl m

theorem get?_shutDown (m : Manager Implementation) (reference : String) :
    m.shutDown.jobs.get? reference = (m.jobs.get? reference).map (fun _ => true) :=
  Dict.get?_map _ _ _

theorem rests_shutDown (m : Manager Implementation) : m.Rests m.shutDown := by
  refine ⟨fun reference => ?_, fun reference told => ?_, fun _ => rfl,
    fun built => ⟨built.cache, built.templates⟩⟩
  · rw [Dict.contains, get?_shutDown, Option.isSome_map, Dict.contains]
  · rw [isSignalled, get?_shutDown]
    unfold isSignalled at told
    cases there : m.jobs.get? reference with
    | none => simp [there] at told
    | some flag => rfl

theorem contains_finish (m : Manager Implementation) (reference other : String) :
    (m.finish reference).jobs.contains other = true ↔
      other ≠ reference ∧ m.jobs.contains other = true := by
  rw [finish, Dict.contains, Dict.erase, Dict.get?_filter, Dict.contains]
  cases m.jobs.get? other with
  | none => simp
  | some flag => simp [Option.isSome_filter]

theorem isSignalled_finish {m : Manager Implementation} {reference other : String}
    (ne : other ≠ reference) : (m.finish reference).isSignalled other = m.isSignalled other := by
  rw [finish, isSignalled, Dict.erase, Dict.get?_filter, isSignalled]
  cases m.jobs.get? other with
  | none => rfl
  | some told => simp [Option.filter, ne]

theorem isSignalled_enter {m : Manager Implementation} {reference other : String} :
    (m.enter reference).isSignalled other =
      if other = reference then m.shuttingDown else m.isSignalled other := by
  rw [enter, isSignalled, Dict.get?_insert, isSignalled]
  by_cases same : other = reference
  · simp [same]
  · simp [same, Ne.symm same]

end Manager

theorem Cancellation.rests_step {Store : Type} [Registry Store] {Implementation : Type u}
    (reference : String) (capability : Capability) (now : Instant) (c : Cancellation)
    (m : Manager Implementation) (store : Store) :
    m.Rests (c.step reference capability now m store).2.1 := by
  unfold step
  split
  next =>
    split
    next => exact .refl m
    next =>
      split
      next => exact .refl m
      next => exact m.rests_signal reference
  next => exact .refl m
  next => exact .refl m

/-! ### Which tasks have been started and are not over -/

namespace Task

/-- Whether a task has been started and is not over. -/
def isActive (t : Task) : Bool := !t.isFiled && !t.isEnded

variable {t : Task}

theorem isActive_iff : t.isActive = true ↔ t.isFiled = false ∧ t.isEnded = false := by
  simp [isActive]

theorem isEnded_enter (t : Task) : t.enter.isEnded = t.isEnded := by
  unfold enter
  split
  next stance => simp [isEnded, start, stance]
  next => rfl

theorem isActive_enter (filed : t.isFiled = true) : t.enter.isActive = true := by
  unfold isFiled at filed
  split at filed
  next stance => simp [enter, stance, isActive, isFiled, isEnded, start]
  next => cases filed

theorem isActive_executed (t : Task) (s : JobState) : (t.executed s).isActive = t.isActive := by
  unfold executed
  split
  next stance => simp [isActive, isFiled, isEnded, stance]
  next => rfl

theorem isActive_resume (t : Task) : t.resume.isActive = t.isActive := by
  unfold resume
  split
  next stance => simp [isActive, isFiled, isEnded, stance]
  next => rfl

theorem isEnded_executed (t : Task) (s : JobState) : (t.executed s).isEnded = t.isEnded := by
  unfold executed
  split
  next stance => simp [isEnded, stance]
  next => rfl

theorem isEnded_resume (t : Task) : t.resume.isEnded = t.isEnded := by
  unfold resume
  split
  next stance => simp [isEnded, stance]
  next => rfl

theorem isFiled_of_isEarly (late : t.isEarly = false) : t.isFiled = false := by
  unfold isFiled
  split
  next stance => simp [isEarly, stance] at late
  next => rfl

variable {Store : Type} [Registry Store]

theorem step_of_isEnded (ended : t.isEnded = true) (signalled : Bool) (now : Instant)
    (store : Store) : (t.step signalled now store).1 = t := by
  unfold isEnded at ended
  split at ended
  next stance => simp [step, stance]
  next => cases ended

/-- A step neither starts a task nor takes that back. -/
theorem isFiled_step (t : Task) (signalled : Bool) (now : Instant) (store : Store) :
    (t.step signalled now store).1.isFiled = t.isFiled := by
  cases stance : t.stance with
  | created => cases signalled <;> simp [step, stance, isFiled]
  | marking =>
    obtain ⟨result, store', put⟩ : ∃ result store', Registry.compareAndPut (key t.reference)
        t.submitted.toRecord t.submitted.started.toRecord store = (result, store') := ⟨_, _, rfl⟩
    simp only [step, stance, isFiled, markRunning, put]
    rcases result with _ | _ | _ <;> rfl
  | recording s attempt c =>
    simp only [step, stance]
    rw [isFiled_of_isEarly (isEarly_afterRecording _ _ _ _), isFiled, stance]
  | fallingBack cause c =>
    simp only [step, stance]
    rw [isFiled_of_isEarly (isEarly_afterFallback _ _ _), isFiled, stance]
  | _ => simp [step, stance]

end Task

/-- The job whose task is started or takes a step in an act. -/
def Act.worker? {Implementation : Type u} (a : Act Implementation) : Option Nat :=
  match a with
  | .enter j => some j
  | .work j _ _ _ => some j
  | _ => none

namespace Bureau

variable {Implementation : Type u} {b : Bureau Implementation} {a : Act Implementation}
  {e : Engagement Implementation} {i j : Nat} {m : Manager Implementation}

theorem isEnded_nextTask (other : ¬ a.IsStepOf j) :
    (b.nextTask a j e).isEnded = e.task.isEnded :=
  nextTask_of_other (P := (·.isEnded = e.task.isEnded)) other rfl e.task.isEnded_enter
    e.task.isEnded_executed e.task.isEnded_resume

/-- A task that is over stays so. -/
theorem isEnded_nextTask_of_isEnded (ended : e.task.isEnded = true) (a : Act Implementation) :
    (b.nextTask a j e).isEnded = true := by
  by_cases own : a.IsStepOf j
  · obtain ⟨signalled, now, failure, rfl⟩ := own
    simp only [nextTask, if_true, Task.step_of_isEnded ended]
    exact ended
  · rw [isEnded_nextTask own, ended]

/-- A task goes on as before in an act in which another one is started or takes a step, or none. -/
theorem isActive_nextTask (other : a.worker? ≠ some j) :
    (b.nextTask a j e).isActive = e.task.isActive := by
  unfold nextTask
  split
  next k =>
    have ne : k ≠ j := by
      rintro rfl
      exact other rfl
    rw [if_neg ne]
  next k signalled now failure =>
    have ne : k ≠ j := by
      rintro rfl
      exact other rfl
    rw [if_neg ne]
  next =>
    split
    next => exact e.task.isActive_executed _
    next => rfl
  next =>
    split
    next => exact e.task.isActive_resume
    next => rfl
  next => rfl

/-- Whether a manager has a job with a certain reference whose task has been started and is not
over. -/
def IsBusy (b : Bureau Implementation) (i : Nat) (reference : String) : Prop :=
  ∃ e ∈ b.jobs, e.manager = i ∧ e.task.reference = reference ∧ e.task.isActive = true

/-- As long as none of a manager's tasks is started and none ends, it has the same jobs. -/
theorem isBusy_act (stays : ∀ (j : Nat) e, b.jobs[j]? = some e → e.manager = i →
      (b.nextTask a j e).isActive = e.task.isActive) (reference : String) :
    (b.act a).IsBusy i reference ↔ b.IsBusy i reference := by
  constructor
  · rintro ⟨e, member, own, same, active⟩
    obtain ⟨j, job⟩ := List.getElem?_of_mem member
    rcases jobs_act_cases a job with ⟨before, old, rfl⟩ | ⟨-, s, -, filed⟩
    · rw [stays j before old own] at active
      rw [reference_nextTask] at same
      exact ⟨before, List.mem_of_getElem? old, own, same, active⟩
    · rw [filed] at active
      cases active
  · rintro ⟨e, member, own, same, active⟩
    obtain ⟨j, job⟩ := List.getElem?_of_mem member
    refine ⟨_, List.mem_of_getElem? (getElem?_jobs_act job a), own, ?_, ?_⟩
    · rw [reference_nextTask]
      exact same
    · rw [stays j e job own]
      exact active

/-- What becomes of a manager in an act, along with the tasks that have been started and are not
over. -/
inductive Serves (b : Bureau Implementation) (a : Act Implementation) (i : Nat)
    (m : Manager Implementation) : Manager Implementation → Prop
  | rests {m' : Manager Implementation} (rests : m.Rests m')
      (busy : ∀ reference, (b.act a).IsBusy i reference ↔ b.IsBusy i reference) : Serves b a i m m'
  | enters {k : Nat} {e : Engagement Implementation} (job : b.jobs[k]? = some e)
      (own : e.manager = i) (filed : e.task.isFiled = true)
      (busy : ∀ other, (b.act a).IsBusy i other ↔ b.IsBusy i other ∨ other = e.task.reference) :
      Serves b a i m (m.enter e.task.reference)
  | forgets (reference : String)
      (busy : ∀ other, (b.act a).IsBusy i other ↔ other ≠ reference ∧ b.IsBusy i other) :
      Serves b a i m (m.finish reference)

theorem serves_quiet (quiet : a.worker? = none) {m' : Manager Implementation} (rests : m.Rests m') :
    b.Serves a i m m' :=
  .rests rests (isBusy_act (fun j _ _ _ => isActive_nextTask (by simp [quiet])))

/-- A task that is started comes to those that are not over. -/
theorem isBusy_of_entered {k : Nat} (job : b.jobs[k]? = some e) (filed : e.task.isFiled = true)
    (own : e.manager = i) (other : String) : (b.act (.enter k)).IsBusy i other ↔
      b.IsBusy i other ∨ other = e.task.reference := by
  have stays {j : Nat} (ne : j ≠ k) (e' : Engagement Implementation) :
      b.nextTask (.enter k) j e' = e'.task := if_neg (Ne.symm ne)
  constructor
  · rintro ⟨e', member, own', same, active⟩
    obtain ⟨j, job'⟩ := List.getElem?_of_mem member
    rcases jobs_act_cases _ job' with ⟨before, old, rfl⟩ | ⟨-, s, files, -⟩
    · rw [reference_nextTask] at same
      by_cases eq : j = k
      · subst eq
        cases old.symm.trans job
        exact .inr same.symm
      · rw [stays eq] at active
        exact .inl ⟨before, List.mem_of_getElem? old, own', same, active⟩
    · cases files
  · rintro (⟨e', member, own', same, active⟩ | rfl)
    · obtain ⟨j, job'⟩ := List.getElem?_of_mem member
      have ne : j ≠ k := by
        rintro rfl
        cases job'.symm.trans job
        simp [Task.isActive, filed] at active
      refine ⟨_, List.mem_of_getElem? (getElem?_jobs_act job' _), own', ?_, ?_⟩
      · rw [reference_nextTask]
        exact same
      · rw [stays ne]
        exact active
    · refine ⟨_, List.mem_of_getElem? (getElem?_jobs_act job _), own, reference_nextTask _ _ _ _, ?_⟩
      simp only [nextTask, if_true]
      exact Task.isActive_enter filed

theorem serves_enter (manager : b.managers[i]? = some m) (k : Nat) :
    ∃ m', (b.act (.enter k)).managers[i]? = some m' ∧ b.Serves (.enter k) i m m' := by
  have idle (same : b.act (.enter k) = b) :
      ∃ m', (b.act (.enter k)).managers[i]? = some m' ∧ b.Serves (.enter k) i m m' :=
    ⟨m, by rw [same, manager], .rests (.refl m) (fun r => by rw [same])⟩
  cases job : b.jobs[k]? with
  | none => exact idle (by simp [act, job])
  | some e =>
    by_cases filed : e.task.isFiled = true
    · have managers : (b.act (.enter k)).managers =
          b.managers.modify e.manager (fun m => m.enter e.task.reference) := by
        simp [act, job, enter, filed]
      rw [managers]
      by_cases own : e.manager = i
      · exact ⟨_, by simp [own, manager], .enters job own filed (isBusy_of_entered job filed own)⟩
      · refine ⟨m, by simp [own, manager], .rests (.refl m) (isBusy_act (fun j e' job' own' => ?_))⟩
        have ne : k ≠ j := by
          rintro rfl
          cases job.symm.trans job'
          exact own own'
        rw [show b.nextTask (.enter k) j e' = e'.task from if_neg ne]
    · exact idle (by simp [act, job, enter, filed])

/-- A task that ends is no longer among those that are not over, and the others stay. -/
theorem isBusy_of_ended (h : b.IsOrderly) {k : Nat} (job : b.jobs[k]? = some e) {signalled : Bool}
    {now : Instant} {failure : Option StoreError}
    (ended : (b.nextTask (.work k signalled now failure) k e).isEnded = true) (other : String) :
    (b.act (.work k signalled now failure)).IsBusy i other ↔
      other ≠ e.task.reference ∧ b.IsBusy i other := by
  constructor
  · rintro ⟨e', member, own, same, active⟩
    obtain ⟨j, job'⟩ := List.getElem?_of_mem member
    rcases jobs_act_cases _ job' with ⟨before, old, rfl⟩ | ⟨-, s, new, -⟩
    · have ne : j ≠ k := by
        rintro rfl
        cases old.symm.trans job
        simp [Task.isActive, ended] at active
      rw [reference_nextTask] at same
      rw [isActive_nextTask (by simpa [Act.worker?] using ne.symm)] at active
      refine ⟨?_, before, List.mem_of_getElem? old, own, same, active⟩
      -- Another job has another reference.
      rintro rfl
      exact ne (h.distinct j k before e old job same)
    · cases new
  · rintro ⟨ne, e', member, own, same, active⟩
    obtain ⟨j, job'⟩ := List.getElem?_of_mem member
    have apart : j ≠ k := by
      rintro rfl
      cases job'.symm.trans job
      exact ne same.symm
    refine ⟨_, List.mem_of_getElem? (getElem?_jobs_act job' _), own, ?_, ?_⟩
    · rw [reference_nextTask]
      exact same
    · rw [isActive_nextTask (by simpa [Act.worker?] using apart.symm)]
      exact active

theorem serves_work (h : b.IsOrderly) (manager : b.managers[i]? = some m) (k : Nat)
    (signalled : Bool) (now : Instant) (failure : Option StoreError) :
    let a : Act Implementation := .work k signalled now failure
    ∃ m', (b.act a).managers[i]? = some m' ∧ b.Serves a i m m' := by
  intro a
  cases job : b.jobs[k]? with
  | none =>
    have same : b.act a = b := by simp [a, act, job]
    exact ⟨m, by rw [same, manager], .rests (.refl m) (fun r => by rw [same])⟩
  | some e =>
    have managers : (b.act a).managers = if (b.nextTask a k e).isEnded then
        b.managers.modify e.manager (fun m => m.finish e.task.reference) else b.managers := by
      simp [a, act, job, work, nextTask]
    by_cases ends : (b.nextTask a k e).isEnded = true ∧ e.manager = i
    · obtain ⟨ended, own⟩ := ends
      refine ⟨_, ?_, .forgets e.task.reference (isBusy_of_ended h job ended)⟩
      rw [managers, if_pos ended]
      simp [own, manager]
    -- The task of another manager may end, but none of this one does.
    · refine ⟨m, ?_, .rests (.refl m) (isBusy_act (fun j e' job' own => ?_))⟩
      · rw [managers]
        split
        next ended =>
          have ne : e.manager ≠ i := fun own => ends ⟨ended, own⟩
          simp [ne, manager]
        next => exact manager
      · by_cases same : j = k
        · subst same
          cases job'.symm.trans job
          have open_ : (b.nextTask a j e).isEnded = false := by
            rw [← Bool.not_eq_true]
            exact fun ended => ends ⟨ended, own⟩
          have before : e.task.isEnded = false := by
            rw [← Bool.not_eq_true] at open_ ⊢
            exact fun ended => open_ (isEnded_nextTask_of_isEnded ended a)
          have filed : (b.nextTask a j e).isFiled = e.task.isFiled := by
            simp only [nextTask, a, if_true, Task.isFiled_step]
          rw [Task.isActive, Task.isActive, open_, before, filed]
        · exact isActive_nextTask (fun own => same (Option.some.inj own).symm)

theorem rests_proceed (manager : b.managers[i]? = some m) (k : Nat) (now : Instant)
    (failure : Option StoreError) :
    ∃ m', (b.act (.proceed k now failure)).managers[i]? = some m' ∧ m.Rests m' := by
  cases there : b.calls[k]? with
  | none => exact ⟨m, by simpa [act, there] using manager, .refl m⟩
  | some call =>
    cases called : b.managers[call.manager]? with
    | none => exact ⟨m, by simpa [act, there, called] using manager, .refl m⟩
    | some m₀ =>
      have inside := (List.getElem?_eq_some_iff.mp called).1
      by_cases own : call.manager = i
      · cases (own ▸ called).symm.trans manager
        refine ⟨_, ?_, Cancellation.rests_step call.reference call.capability now call.progress m
          (b.unreliable failure)⟩
        subst own
        have known : b.managers[call.manager] = m := (List.getElem?_eq_some_iff.mp manager).2
        simp [act, there, proceed, inside, known]
      · exact ⟨m, by simpa [act, there, called, proceed, own] using manager, .refl m⟩

theorem rests_modify (manager : b.managers[i]? = some m) (k : Nat)
    {change : Manager Implementation → Manager Implementation}
    (rests : ∀ m : Manager Implementation, m.Rests (change m)) :
    ∃ m', (b.managers.modify k change)[i]? = some m' ∧ m.Rests m' := by
  by_cases own : k = i
  · exact ⟨change m, by simp [own, manager], rests m⟩
  · exact ⟨m, by simp [own, manager], .refl m⟩

theorem managers_attend (b : Bureau Implementation) (k : Nat) (reference : String) (now : Instant)
    (failure : Option StoreError) :
    (b.act (.attend k reference now failure)).managers = b.managers := by
  have attends := attends_act b k reference now failure
  generalize b.filed? (.attend k reference now failure) = s at attends
  generalize b.act (.attend k reference now failure) = after at attends
  cases attends <;> rfl

/-- A manager stays in a bureau, and an act makes one of three things of it. -/
theorem serves_act (h : b.IsOrderly) (manager : b.managers[i]? = some m) (a : Act Implementation) :
    ∃ m', (b.act a).managers[i]? = some m' ∧ b.Serves a i m m' := by
  -- Where no task is started and none takes a step it is enough to look at the manager.
  have quiet {a : Act Implementation} (quiet : a.worker? = none)
      (after : ∃ m', (b.act a).managers[i]? = some m' ∧ m.Rests m') :
      ∃ m', (b.act a).managers[i]? = some m' ∧ b.Serves a i m m' := by
    obtain ⟨m', after, rests⟩ := after
    exact ⟨m', after, serves_quiet quiet rests⟩
  cases a with
  | enter k => exact serves_enter manager k
  | work k signalled now failure => exact serves_work h manager k signalled now failure
  | submit k appId request access => exact quiet rfl ⟨m, manager, .refl m⟩
  | attend k reference now failure =>
    exact quiet rfl ⟨m, by rw [managers_attend, manager], .refl m⟩
  | register k d catalog suffixes =>
    exact quiet rfl (rests_modify manager k (fun m => m.rests_register d catalog suffixes))
  | shutDown k => exact quiet rfl (rests_modify manager k Manager.rests_shutDown)
  | proceed k now failure => exact quiet rfl (rests_proceed manager k now failure)
  | join config =>
    have inside : i < b.managers.length := (List.getElem?_eq_some_iff.mp manager).1
    refine quiet rfl ⟨m, ?_, .refl m⟩
    simp only [act, List.getElem?_append_left inside, manager]
  | report k report => exact quiet rfl ⟨m, manager, .refl m⟩
  | resume k => exact quiet rfl ⟨m, manager, .refl m⟩
  | cancel k reference capability => exact quiet rfl ⟨m, manager, .refl m⟩

/-! ### Tables and tasks -/

/-- Whether a manager has a reference in its table. -/
def Knows (b : Bureau Implementation) (i : Nat) (reference : String) : Prop :=
  ∃ m, b.managers[i]? = some m ∧ m.jobs.contains reference = true

/-- Whether the managers of all jobs are there, and have those jobs in their tables whose tasks have
been started and are not over, and no others. -/
structure IsListed (b : Bureau Implementation) : Prop where
  managed : ∀ e ∈ b.jobs, ∃ m, b.managers[e.manager]? = some m
  knows_iff : ∀ i reference, b.Knows i reference ↔ b.IsBusy i reference

theorem IsListed.contains_iff (listed : b.IsListed) (manager : b.managers[i]? = some m)
    (reference : String) : m.jobs.contains reference = true ↔ b.IsBusy i reference := by
  rw [← listed.knows_iff i reference]
  constructor
  · exact fun there => ⟨m, manager, there⟩
  · rintro ⟨m', manager', there⟩
    cases manager.symm.trans manager'
    exact there

/-- A manager that has not been there has just joined. -/
theorem start_of_new (none : b.managers[i]? = none) (manager : (b.act a).managers[i]? = some m) :
    ∃ config, m = .start config := by
  have outside : b.managers.length ≤ i := List.getElem?_eq_none_iff.mp none
  have inside := (List.getElem?_eq_some_iff.mp manager).1
  cases a with
  | join config =>
    simp only [act, List.getElem?_append_right outside, List.getElem?_singleton] at manager
    split at manager
    next => exact ⟨config, (Option.some.inj manager).symm⟩
    next => cases manager
  | attend k reference now failure =>
    rw [managers_attend] at inside
    omega
  | enter k =>
    obtain ⟨_, _, frame, managers, -⟩ := b.enter_frame k
    rw [frame, managers] at inside
    omega
  | work k signalled now failure =>
    obtain ⟨_, _, _, frame, managers, -⟩ := b.work_frame k signalled now failure
    rw [frame, managers] at inside
    omega
  | proceed k now failure =>
    obtain ⟨_, _, _, frame, managers⟩ := b.proceed_frame k now failure
    rw [frame, managers] at inside
    omega
  | _ => exact absurd inside (by simpa [act, updateTask] using outside)

/-- The managers of all jobs are there after an act if they have been before. -/
theorem managed_act (h : b.IsOrderly) (managed : ∀ e ∈ b.jobs, ∃ m, b.managers[e.manager]? = some m)
    (a : Act Implementation) : ∀ e ∈ (b.act a).jobs, ∃ m, (b.act a).managers[e.manager]? = some m := by
  have stays {i : Nat} (there : ∃ m, b.managers[i]? = some m) :
      ∃ m, (b.act a).managers[i]? = some m := by
    obtain ⟨m, manager⟩ := there
    obtain ⟨m', manager', -⟩ := serves_act h manager a
    exact ⟨m', manager'⟩
  intro e member
  obtain ⟨j, job⟩ := List.getElem?_of_mem member
  rcases jobs_act_cases a job with ⟨before, old, rfl⟩ | ⟨last, s, files, -⟩
  · exact stays (managed before (List.mem_of_getElem? old))
  · obtain ⟨⟨call, -, -, manager, jobs⟩, -, -⟩ := filed_spec files
    rw [jobs, ← last, List.getElem?_concat_length] at job
    cases job
    exact stays manager

/-- The tables are right after an act if they have been before. -/
theorem isListed_act (h : b.IsOrderly) (listed : b.IsListed) (a : Act Implementation) :
    (b.act a).IsListed := by
  have managed := managed_act h listed.managed a
  refine ⟨managed, fun i reference => ?_⟩
  cases manager : b.managers[i]? with
  -- The table changes as the tasks do that have been started and are not over.
  | some m =>
    obtain ⟨m', manager', serves⟩ := serves_act h manager a
    have before (other : String) := listed.contains_iff manager other
    have known : (b.act a).Knows i reference ↔ m'.jobs.contains reference = true := by
      simp [Knows, manager']
    rw [known]
    cases serves with
    | rests rests busy => rw [rests.table, before, busy]
    | enters job own filed busy =>
      rw [busy, ← before, Manager.enter, Dict.contains, Dict.get?_insert, Dict.contains]
      split
      next same => simp [same]
      next other => simp [Ne.symm other]
    | forgets old busy => rw [Manager.contains_finish, before, busy]
  -- A manager that is not there knows nobody, and has no jobs.
  | none =>
    constructor
    · rintro ⟨m, manager', there⟩
      obtain ⟨config, rfl⟩ := start_of_new manager manager'
      cases there
    · rintro ⟨e, member, rfl, -, active⟩
      obtain ⟨j, job⟩ := List.getElem?_of_mem member
      rcases jobs_act_cases a job with ⟨before, old, rfl⟩ | ⟨-, s, -, filed⟩
      · obtain ⟨m, there⟩ := listed.managed before (List.mem_of_getElem? old)
        cases manager.symm.trans there
      · rw [filed] at active
        cases active

theorem isListed_run (acts : List (Act Implementation)) : (run acts).IsListed := by
  induction acts using List.reverseRecOn with
  | nil => exact ⟨by simp [run, empty], by simp [Knows, IsBusy, run, empty]⟩
  | append_singleton acts a ih =>
    rw [run_concat]
    exact isListed_act (isOrderly_run acts) ih a

/-! ### Graphs -/

/-- Whether the graphs of all managers were built for calls, and those of all jobs are sound. -/
structure IsBuilt (b : Bureau Implementation) : Prop where
  managers : ∀ (i : Nat) m, b.managers[i]? = some m → m.IsBuilt
  requests : ∀ call ∈ b.requests, ∀ s, call.progress = .filing s →
    s.template.pipeline.graph.IsSound
  jobs : ∀ e ∈ b.jobs, e.submission.template.pipeline.graph.IsSound

theorem Serves.isBuilt {m' : Manager Implementation} (serves : b.Serves a i m m')
    (built : m.IsBuilt) : m'.IsBuilt := by
  cases serves with
  | rests rests _ => exact rests.built built
  | enters _ _ _ _ => exact ⟨built.cache, built.templates⟩
  | forgets _ _ => exact ⟨built.cache, built.templates⟩

/-- A call to submit a job after an act has been there before, or has just been made, or has taken a
step. -/
theorem requests_act_cases (a : Act Implementation) {call' : SubmitCall Implementation} {k : Nat}
    (there' : (b.act a).requests[k]? = some call') :
    b.requests[k]? = some call' ∨ (b.requests.length = k ∧ call'.progress = .checking) ∨
      ∃ call, b.requests[k]? = some call ∧ call'.manager = call.manager ∧
        ((∃ s, call.progress = .filing s ∧ call'.progress = .filed) ∨
          ∃ m reference now, b.managers[call.manager]? = some m ∧
            Advances m call reference now call'.progress) := by
  cases a with
  | submit i appId request access =>
    change (b.requests ++ [_])[k]? = some call' at there'
    rw [List.getElem?_append] at there'
    split at there'
    next => exact .inl there'
    next outside =>
      rw [List.getElem?_singleton] at there'
      split at there'
      next last =>
        cases there'
        exact .inr (.inl ⟨by omega, rfl⟩)
      next => cases there'
  | attend k' reference now failure =>
    have attends := attends_act b k' reference now failure
    generalize b.filed? (.attend k' reference now failure) = s at attends
    generalize b.act (.attend k' reference now failure) = after at attends there'
    cases attends with
    | kept => exact .inl there'
    | @stands call m progress there manager advances =>
      rcases getElem?_set_cases there there' with old | ⟨rfl, rfl⟩
      · exact .inl old
      · exact .inr (.inr ⟨call, there, rfl, .inr ⟨m, reference, now, manager, advances⟩⟩)
    | @files call m s there manager filing absent =>
      rcases getElem?_set_cases there there' with old | ⟨rfl, rfl⟩
      · exact .inl old
      · exact .inr (.inr ⟨call, there, rfl, .inl ⟨s, filing, rfl⟩⟩)
  | enter j =>
    obtain ⟨_, _, frame, -⟩ := b.enter_frame j
    exact .inl (by rwa [frame] at there')
  | work j signalled now failure =>
    obtain ⟨_, _, _, frame, -⟩ := b.work_frame j signalled now failure
    exact .inl (by rwa [frame] at there')
  | proceed k' now failure =>
    obtain ⟨_, _, _, frame, -⟩ := b.proceed_frame k' now failure
    exact .inl (by rwa [frame] at there')
  | _ => exact .inl there'

theorem isBuilt_act (h : b.IsOrderly) (built : b.IsBuilt) (a : Act Implementation) :
    (b.act a).IsBuilt := by
  refine ⟨?_, ?_, ?_⟩
  · intro i m' manager'
    cases manager : b.managers[i]? with
    | some m =>
      obtain ⟨m'', manager'', serves⟩ := serves_act h manager a
      cases manager'.symm.trans manager''
      exact serves.isBuilt (built.managers i m manager)
    | none =>
      obtain ⟨config, rfl⟩ := start_of_new manager manager'
      exact Manager.isBuilt_start config
  · intro call' member s filing
    obtain ⟨k, there'⟩ := List.getElem?_of_mem member
    rcases requests_act_cases a there' with old | ⟨-, checking⟩ | ⟨call, there, -, step⟩
    · exact built.requests call' (List.mem_of_getElem? old) s filing
    · rw [filing] at checking
      cases checking
    · rcases step with ⟨_, -, filed⟩ | ⟨m, reference, now, manager, advances⟩
      · rw [filing] at filed
        cases filed
      -- The job has just been made from a template that is registered with the manager.
      · rw [filing] at advances
        cases advances with
        | drafted _ drafts =>
          exact (built.managers _ m manager).templates _ _ (Manager.drafts_of_draft drafts).registered
  · intro e member
    obtain ⟨j, job⟩ := List.getElem?_of_mem member
    rcases jobs_act_cases a job with ⟨before, old, rfl⟩ | ⟨last, s, files, -⟩
    · exact built.jobs before (List.mem_of_getElem? old)
    · obtain ⟨⟨call, asked, filing, -, jobs⟩, -, -⟩ := filed_spec files
      rw [jobs, ← last, List.getElem?_concat_length] at job
      cases job
      exact built.requests call asked s filing

theorem isBuilt_run (acts : List (Act Implementation)) : (run acts).IsBuilt := by
  induction acts using List.reverseRecOn with
  | nil => exact ⟨by simp [run, empty], by simp [run, empty], by simp [run, empty]⟩
  | append_singleton acts a ih =>
    rw [run_concat]
    exact isBuilt_act (isOrderly_run acts) ih a

/-! ### Managers that have been shut down -/

end Bureau

namespace Manager

variable {Implementation : Type u}

/-- Whether a manager takes no more jobs and has told all its jobs to stop. -/
structure IsClosing (m : Manager Implementation) : Prop where
  closed : m.shuttingDown = true
  told : ∀ reference, m.jobs.contains reference = true → m.isSignalled reference = true

theorem isClosing_shutDown (m : Manager Implementation) : m.shutDown.IsClosing := by
  refine ⟨rfl, fun reference there => ?_⟩
  rw [Dict.contains, get?_shutDown, Option.isSome_map] at there
  obtain ⟨told, there⟩ := Option.isSome_iff_exists.mp there
  rw [isSignalled, get?_shutDown, there]
  rfl

end Manager

namespace Bureau

variable {Implementation : Type u} {b : Bureau Implementation} {a : Act Implementation}
  {e : Engagement Implementation} {i j : Nat} {m m' : Manager Implementation}

/-- A call to submit a job finds that its manager has been shut down, and nothing else changes. -/
theorem attend_closed {k : Nat} {call : SubmitCall Implementation} (there : b.requests[k]? = some call)
    (manager : b.managers[call.manager]? = some m) (checking : call.progress = .checking)
    (closed : m.shuttingDown = true) (reference : String) (now : Instant)
    (failure : Option StoreError) : b.act (.attend k reference now failure) =
      { b with requests := b.requests.set k { call with progress := .refused .shuttingDown } } := by
  simp [act, there, manager, attend, checking, closed]

/-- A manager that has been shut down goes on so. -/
theorem Serves.isClosing (serves : b.Serves a i m m') (closing : m.IsClosing) : m'.IsClosing := by
  cases serves with
  | rests rests busy =>
    refine ⟨rests.closed closing.closed, fun reference there => ?_⟩
    rw [rests.table] at there
    exact rests.told reference (closing.told reference there)
  -- What still comes into the table is told to stop at once.
  | enters job own filed busy =>
    refine ⟨closing.closed, fun other there => ?_⟩
    rw [Manager.isSignalled_enter]
    split
    next => exact closing.closed
    next ne =>
      rw [Manager.enter, Dict.contains, Dict.get?_insert, if_neg (Ne.symm ne)] at there
      exact closing.told other there
  | forgets reference busy =>
    refine ⟨closing.closed, fun other there => ?_⟩
    obtain ⟨ne, there⟩ := (m.contains_finish reference other).mp there
    rw [Manager.isSignalled_finish ne]
    exact closing.told other there

/-- Whether a job has been told to stop by its manager. -/
def tells (b : Bureau Implementation) (j : Nat) : Bool :=
  (b.jobs[j]?).any (fun e =>
    (b.managers[e.manager]?).any (fun m => m.isSignalled e.task.reference))

/-- A manager that has been shut down has told every job to stop whose task has been started and is not
over. -/
theorem tells_of_isClosing (listed : b.IsListed) (job : b.jobs[j]? = some e)
    (manager : b.managers[e.manager]? = some m) (closing : m.IsClosing)
    (active : e.task.isActive = true) : b.tells j = true := by
  have busy : b.IsBusy e.manager e.task.reference := ⟨e, List.mem_of_getElem? job, rfl, rfl, active⟩
  have told := closing.told _ ((listed.contains_iff manager _).mpr busy)
  simp [tells, job, manager, told]

end Bureau

end Printworks
