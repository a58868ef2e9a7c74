import Printworks.Proofs.Job.Bureau

/-!
# The history of a record

Whatever the managers of a bureau do, and in whichever order, the record of a job is filed once as
waiting, may be marked as running, and reaches a final state at most once, which then stays. What was
written of the job at its submission never changes, and of all attempts to record a final state at
most one is told that it has succeeded.

Each act has one of four effects on the registry, and the invariant names what the tasks and calls
know about it.
-/

namespace Printworks

open Registry JobRecord

universe u

/-- Whether the job that a call to submit one has yet to file is the one that it asks for. -/
def Admission.IsSound {Implementation : Type u} (call : SubmitCall Implementation)
    (progress : Admission Implementation) : Prop :=
  ∀ s, progress = .filing s → ∃ reference fileName now, s.record =
    .pending reference call.appId fileName (s.template.access.and call.access) call.request.size now

namespace Bureau

variable {Implementation : Type u} {b : Bureau Implementation} {a : Act Implementation}

/-- Whether all records are stored forms and all tasks and calls are sound. -/
structure IsSound (b : Bureau Implementation) : Prop where
  registry : AllStored b.registry
  jobs : ∀ e ∈ b.jobs, e.task.IsSound
  requests : ∀ call ∈ b.requests, call.progress.IsSound call
  calls : ∀ call ∈ b.calls, call.progress.IsSound call.reference

/-- What an act does to the registry. -/
inductive Effect (b : Bureau Implementation) (a : Act Implementation) (after : Memory) : Prop where
  | quiet (same : after = b.registry) (answer : ∀ r, b.answer? a ≠ some (r, .ok true))
  | file (s : Submission Implementation) (files : b.filed? a = some s)
      (waiting : s.record.state = .pending false) (settled : s.record.IsSettled)
      (absent : b.stored s.record.reference = none)
      (written : after = b.registry.write (key s.record.reference) s.record.toRecord)
      (answer : ∀ r, b.answer? a ≠ some (r, .ok true))
  | start (reference : String) (replaced : Replaces Starts reference b.registry after)
      (answer : ∀ r, b.answer? a ≠ some (r, .ok true))
  | finish (reference : String) (replaced : Replaces Finishes reference b.registry after)
      (answer : b.answer? a = some (reference, .ok true))

/-! ### The effect of an act -/

theorem Effect.allStored {after : Memory} (effect : Effect b a after)
    (stored : AllStored b.registry) : AllStored after := by
  cases effect with
  | quiet same => exact same ▸ stored
  | file s files waiting settled absent written =>
    exact written ▸ stored.write ⟨_, settled, rfl⟩
  | start reference replaced =>
    obtain ⟨_, _, -, -, new, rfl⟩ := replaced
    exact stored.write new
  | finish reference replaced =>
    obtain ⟨_, _, -, -, new, rfl⟩ := replaced
    exact stored.write new

/-- An act that makes a task or a call record something tells what the recording answers. -/
theorem answer_ne {own : String} {result : Option (Except JobError Bool)}
    (answer : b.answer? a = result.map (own, ·)) (quiet : result ≠ some (.ok true)) (r : String) :
    b.answer? a ≠ some (r, .ok true) := by
  rw [answer]
  intro told
  obtain ⟨_, wrote, same⟩ := Option.map_eq_some_iff.mp told
  cases same
  exact quiet wrote

/-- Where a call to submit a job comes to stand in a step that writes no record. -/
inductive Advances (m : Manager Implementation) (call : SubmitCall Implementation)
    (reference : String) (now : Instant) : Admission Implementation → Prop
  | closed (checking : call.progress = .checking) (closed : m.shuttingDown = true) :
      Advances m call reference now (.refused .shuttingDown)
  | passed (checking : call.progress = .checking) (more : m.shuttingDown = false) :
      Advances m call reference now .drafting
  | invalid {e : SubmitError} (drafting : call.progress = .drafting)
      (refuses : m.draft call.appId call.request call.access reference now = .error e) :
      Advances m call reference now (.refused e)
  | drafted {s : Submission Implementation} (drafting : call.progress = .drafting)
      (drafts : m.draft call.appId call.request call.access reference now = .ok s) :
      Advances m call reference now (.filing s)
  | unfiled {s : Submission Implementation} {e : SubmitError} (filing : call.progress = .filing s) :
      Advances m call reference now (.refused e)

/-- What becomes of a bureau in a step of a call to submit a job, which may write a record. -/
inductive Attends (b : Bureau Implementation) (k : Nat) (reference : String) (now : Instant) :
    Option (Submission Implementation) → Bureau Implementation → Prop
  | kept : Attends b k reference now none b
  /-- Nothing changes but how far the call has come. -/
  | stands {call : SubmitCall Implementation} {m : Manager Implementation}
      {progress : Admission Implementation} (there : b.requests[k]? = some call)
      (manager : b.managers[call.manager]? = some m)
      (advances : Advances m call reference now progress) :
      Attends b k reference now none
        { b with requests := b.requests.set k { call with progress := progress } }
  | files {call : SubmitCall Implementation} {m : Manager Implementation}
      {s : Submission Implementation} (there : b.requests[k]? = some call)
      (manager : b.managers[call.manager]? = some m) (filing : call.progress = .filing s)
      (absent : b.stored s.record.reference = none) :
      Attends b k reference now (some s) { b with
        requests := b.requests.set k { call with progress := .filed }
        registry := b.registry.write (key s.record.reference) s.record.toRecord
        jobs := b.jobs ++ [⟨call.manager, s, .file s.record⟩] }

theorem attends_act (b : Bureau Implementation) (k : Nat) (reference : String) (now : Instant)
    (failure : Option StoreError) : b.Attends k reference now
      (b.filed? (.attend k reference now failure)) (b.act (.attend k reference now failure)) := by
  simp only [act, filed?]
  cases there : b.requests[k]? with
  | none => exact .kept
  | some call =>
    cases manager : b.managers[call.manager]? with
    | none =>
      simp only [Option.elim_some, Option.bind_some, manager]
      exact .kept
    | some m =>
      simp only [Option.elim_some, Option.bind_some, manager, attend]
      cases progress : call.progress with
      | checking =>
        cases more : m.shuttingDown with
        | true => exact .stands there manager (.closed progress more)
        | false => exact .stands there manager (.passed progress more)
      | drafting =>
        cases drafted : m.draft call.appId call.request call.access reference now with
        | error e => exact .stands there manager (.invalid progress drafted)
        | ok s => exact .stands there manager (.drafted progress drafted)
      | filing s =>
        obtain ⟨result, u, filed⟩ :
            ∃ result u, Manager.file s (b.unreliable failure) = (result, u) := ⟨_, _, rfl⟩
        simp only [filed]
        rcases Manager.file_spec filed with ⟨refused, rfl⟩ | ⟨rfl, absent, written⟩
        · cases result with
          | error e => exact .stands there manager (.unfiled progress)
          | ok _ => exact absurd rfl refused
        · have files : b.Attends k reference now _ _ := .files there manager progress absent
          rw [← show u.store = b.registry.write _ _ from written] at files
          exact files
      | filed => exact .kept
      | refused e => exact .kept

theorem attend_act (sound : b.IsSound) (k : Nat) (reference : String) (now : Instant)
    (failure : Option StoreError) :
    let a : Act Implementation := .attend k reference now failure
    (b.act a).IsSound ∧ Effect b a (b.act a).registry := by
  intro a
  have quiet (r : String) : b.answer? a ≠ some (r, .ok true) := by simp [a, answer?]
  have requests {call : SubmitCall Implementation} {progress : Admission Implementation}
      (there : b.requests[k]? = some call) (ok : progress.IsSound call) :
      ∀ call' ∈ b.requests.set k { call with progress := progress },
        call'.progress.IsSound call' := by
    intro call' member
    rcases List.mem_or_eq_of_mem_set member with old | rfl
    · exact sound.requests call' old
    · exact ok
  have attends := attends_act b k reference now failure
  generalize filed : b.filed? (.attend k reference now failure) = s at attends
  generalize b.act (.attend k reference now failure) = after at attends
  cases attends with
  | kept => exact ⟨sound, .quiet rfl quiet⟩
  | stands there manager advances =>
    refine ⟨⟨sound.registry, sound.jobs, requests there ?_, sound.calls⟩, .quiet rfl quiet⟩
    cases advances with
    | drafted drafting drafts =>
      rintro s ⟨⟩
      exact ⟨_, _, _, (Manager.drafts_of_draft drafts).record⟩
    | _ => rintro s ⟨⟩
  | @files call m s there manager filing absent =>
    obtain ⟨given, fileName, drafted, record⟩ :=
      sound.requests call (List.mem_of_getElem? there) s filing
    have waiting : s.record.state = .pending false := by
      rw [record]
      rfl
    have settled : s.record.IsSettled := by
      rw [record]
      rfl
    have effect : Effect b a _ := .file s filed waiting settled absent rfl quiet
    refine ⟨⟨effect.allStored sound.registry, ?_, requests there (by rintro s ⟨⟩), sound.calls⟩,
      effect⟩
    intro e member
    rcases List.mem_append.mp member with old | new
    · exact sound.jobs e old
    · rw [List.mem_singleton.mp new]
      exact Task.isSound_file waiting settled

theorem work_act (sound : b.IsSound) {j : Nat} {e : Engagement Implementation}
    (job : b.jobs[j]? = some e) (signalled : Bool) (now : Instant) (failure : Option StoreError) :
    let a : Act Implementation := .work j signalled now failure
    (b.act a).IsSound ∧ Effect b a (b.act a).registry := by
  intro a
  have after : b.act a = b.work j e signalled now failure := by simp [a, act, job]
  have answer : b.answer? a =
      (e.task.answer? now (b.unreliable failure)).map (e.task.reference, ·) := by
    simp [a, answer?, job]
  have member := List.mem_of_getElem? job
  obtain ⟨task, u, eq⟩ : ∃ task u, e.task.step signalled now (b.unreliable failure) = (task, u) :=
    ⟨_, _, rfl⟩
  obtain ⟨ok, -, effect⟩ := Task.step_spec (sound.jobs e member) sound.registry eq
  rw [after]
  simp only [work, eq]
  have effect : Effect b a u.store := by
    rcases effect with ⟨quiet, same | replaced⟩ | ⟨wrote, replaced⟩
    · exact .quiet (congrArg Unreliable.store same) (answer_ne answer quiet)
    · exact .start _ replaced (answer_ne answer quiet)
    · refine .finish _ replaced ?_
      rw [answer, wrote]
      rfl
  refine ⟨⟨effect.allStored sound.registry, ?_, sound.requests, sound.calls⟩, effect⟩
  intro e' member
  rcases List.mem_or_eq_of_mem_set member with old | rfl
  · exact sound.jobs e' old
  · exact ok

theorem proceed_act (sound : b.IsSound) {k : Nat} {call : CancelCall} {m : Manager Implementation}
    (there : b.calls[k]? = some call) (manager : b.managers[call.manager]? = some m)
    (now : Instant) (failure : Option StoreError) :
    let a : Act Implementation := .proceed k now failure
    (b.act a).IsSound ∧ Effect b a (b.act a).registry := by
  intro a
  have after : b.act a = b.proceed k call m now failure := by simp [a, act, there, manager]
  have answer : b.answer? a =
      (call.progress.answer? call.reference now (b.unreliable failure)).map
        (call.reference, ·) := by
    simp [a, answer?, there, manager]
  have member := List.mem_of_getElem? there
  obtain ⟨progress, m', u, eq⟩ : ∃ progress m' u, call.progress.step call.reference
      call.capability now m (b.unreliable failure) = (progress, m', u) := ⟨_, _, _, rfl⟩
  obtain ⟨ok, effect⟩ := Cancellation.step_spec (sound.calls call member) sound.registry eq
  rw [after]
  simp only [proceed, eq]
  have effect : Effect b a u.store := by
    rcases effect with ⟨quiet, same⟩ | ⟨wrote, replaced⟩
    · exact .quiet (congrArg Unreliable.store same) (answer_ne answer quiet)
    · refine .finish _ replaced ?_
      rw [answer, wrote]
      rfl
  refine ⟨⟨effect.allStored sound.registry, sound.jobs, sound.requests, ?_⟩, effect⟩
  intro call' member
  rcases List.mem_or_eq_of_mem_set member with old | rfl
  · exact sound.calls call' old
  · exact ok

theorem isSound_updateTask (sound : b.IsSound) (j : Nat) {change : Engagement Implementation → Task}
    (keeps : ∀ e, e.task.IsSound → (change e).IsSound) : (b.updateTask j change).IsSound := by
  refine ⟨sound.registry, ?_, sound.requests, sound.calls⟩
  intro e member
  obtain ⟨i, there⟩ := List.getElem?_of_mem member
  simp only [updateTask, List.getElem?_modify, Option.map_eq_map, Option.map_eq_some_iff] at there
  obtain ⟨old, found, eq⟩ := there
  have ok := sound.jobs old (List.mem_of_getElem? found)
  split at eq
  next => subst eq; exact keeps old ok
  next => subst eq; exact ok

theorem enter_act (sound : b.IsSound) (j : Nat) :
    (b.act (.enter j)).IsSound ∧ Effect b (.enter j) (b.act (.enter j)).registry := by
  have quiet (r : String) : b.answer? (.enter j) ≠ some (r, .ok true) := by simp [answer?]
  cases job : b.jobs[j]? with
  | none =>
    simp only [act, job]
    exact ⟨sound, .quiet rfl quiet⟩
  | some e =>
    simp only [act, job, Option.elim_some, enter]
    split
    next =>
      refine ⟨⟨sound.registry, ?_, sound.requests, sound.calls⟩, .quiet rfl quiet⟩
      intro e' member
      rcases List.mem_or_eq_of_mem_set member with old | rfl
      · exact sound.jobs e' old
      · exact Task.isSound_enter (sound.jobs e (List.mem_of_getElem? job))
    next => exact ⟨sound, .quiet rfl quiet⟩

/-- Every act keeps the bureau sound and has one of the four effects on the registry. -/
theorem act_spec (sound : b.IsSound) (a : Act Implementation) :
    (b.act a).IsSound ∧ Effect b a (b.act a).registry := by
  cases a with
  | join config =>
    exact ⟨⟨sound.registry, sound.jobs, sound.requests, sound.calls⟩, .quiet rfl (by simp [answer?])⟩
  | register i definition catalog suffixes =>
    exact ⟨⟨sound.registry, sound.jobs, sound.requests, sound.calls⟩, .quiet rfl (by simp [answer?])⟩
  | shutDown i =>
    exact ⟨⟨sound.registry, sound.jobs, sound.requests, sound.calls⟩, .quiet rfl (by simp [answer?])⟩
  | submit i appId request access =>
    refine ⟨⟨sound.registry, sound.jobs, ?_, sound.calls⟩, .quiet rfl (by simp [answer?])⟩
    intro call member
    rcases List.mem_append.mp member with old | new
    · exact sound.requests call old
    · rw [List.mem_singleton.mp new]
      rintro s ⟨⟩
  | attend k reference now failure => exact attend_act sound k reference now failure
  | enter j => exact enter_act sound j
  | work j signalled now failure =>
    cases job : b.jobs[j]? with
    | none =>
      simp only [act, job]
      exact ⟨sound, .quiet rfl (by simp [answer?, job])⟩
    | some e => exact work_act sound job signalled now failure
  | report j report =>
    refine ⟨isSound_updateTask sound j ?_, .quiet rfl (by simp [answer?])⟩
    exact fun e ok => Task.isSound_executed ok (JobState.isTerminal_ofReport _ _)
  | resume j =>
    refine ⟨isSound_updateTask sound j ?_, .quiet rfl (by simp [answer?])⟩
    exact fun e ok => Task.isSound_resume ok
  | cancel i reference capability =>
    refine ⟨⟨sound.registry, sound.jobs, sound.requests, ?_⟩, .quiet rfl (by simp [answer?])⟩
    intro call member
    rcases List.mem_append.mp member with old | new
    · exact sound.calls call old
    · rw [List.mem_singleton.mp new]
      trivial
  | proceed k now failure =>
    cases there : b.calls[k]? with
    | none =>
      simp only [act, there]
      exact ⟨sound, .quiet rfl (by simp [answer?, there])⟩
    | some call =>
      cases manager : b.managers[call.manager]? with
      | none =>
        simp only [act, there, manager, Option.elim_some, Option.elim_none]
        exact ⟨sound, .quiet rfl (by simp [answer?, there, manager])⟩
      | some m => exact proceed_act sound there manager now failure

/-! ### The history of one record -/

/-- How the record of a reference changes in an act. -/
inductive Moves (b : Bureau Implementation) (a : Act Implementation) (reference : String) :
    Option Record → Option Record → Prop where
  | kept (record : Option Record) : Moves b a reference record record
  /-- The record of a job is filed as its submission has it. -/
  | filed (s : Submission Implementation) (files : b.filed? a = some s)
      (own : s.record.reference = reference)
      (waiting : storedState s.record.toRecord = .ok (.pending false)) :
      Moves b a reference none (some s.record.toRecord)
  | started {old new : Record} (later : Starts old new) : Moves b a reference (some old) (some new)
  | finished {old new : Record} (later : Finishes old new)
      (answer : b.answer? a = some (reference, .ok true)) :
      Moves b a reference (some old) (some new)

/-- Every act moves every record as it may be moved. -/
theorem moves_act (sound : b.IsSound) (a : Act Implementation) (reference : String) :
    Moves b a reference (b.stored reference) ((b.act a).stored reference) := by
  have effect := (act_spec sound a).2
  unfold stored
  cases effect with
  | quiet same => rw [same]; exact .kept _
  | file s files waiting settled absent written =>
    by_cases own : s.record.reference = reference
    · subst own
      have state := storedState_toRecord settled
      rw [waiting] at state
      rw [show b.registry.records.get? _ = none from absent, written, Memory.write,
        Dict.get?_insert_self]
      exact .filed s files rfl state
    -- Records are kept under keys, and no two references have the same.
    · rw [written, Memory.write, Dict.get?_insert_ne _ _ (fun eq => own (key_injective eq))]
      exact .kept _
  | start r replaced =>
    by_cases own : r = reference
    · subst own
      obtain ⟨old, new, before, later, after⟩ := replaced.own
      rw [before, after]
      exact .started later
    · rw [replaced.other own]
      exact .kept _
  | finish r replaced answer =>
    by_cases own : r = reference
    · subst own
      obtain ⟨old, new, before, later, after⟩ := replaced.own
      rw [before, after]
      exact .finished later answer
    · rw [replaced.other own]
      exact .kept _

/-- A recording that is told that it has succeeded has replaced an open record by a final one. -/
theorem finishes_of_answer (sound : b.IsSound) {a : Act Implementation} {reference : String}
    (answer : b.answer? a = some (reference, .ok true)) :
    ∃ old new, b.stored reference = some old ∧ Finishes old new ∧
      (b.act a).stored reference = some new := by
  have effect := (act_spec sound a).2
  cases effect with
  | quiet same quiet => exact absurd answer (quiet _)
  | file s files waiting settled absent written quiet => exact absurd answer (quiet _)
  | start r replaced quiet => exact absurd answer (quiet _)
  | finish r replaced own =>
    rw [answer] at own
    cases own
    exact replaced.own

theorem isSound_foldl (sound : b.IsSound) (acts : List (Act Implementation)) :
    (acts.foldl act b).IsSound := by
  induction acts generalizing b with
  | nil => exact sound
  | cons a rest ih => exact ih (act_spec sound a).1

theorem isSound_empty : (empty : Bureau Implementation).IsSound := by
  refine ⟨?_, by simp [empty], by simp [empty], by simp [empty]⟩
  intro key record there
  cases there

theorem isSound_run (acts : List (Act Implementation)) : (run acts).IsSound :=
  isSound_foldl isSound_empty acts

/-- What becomes of a record over any time: its terms stay, and a final record stays as it is. -/
inductive Persists : Option Record → Option Record → Prop where
  | absent (after : Option Record) : Persists none after
  | stored {old new : Record} (terms : SameTerms old new) (final : IsFinal old → new = old) :
      Persists (some old) (some new)

theorem Persists.refl (record : Option Record) : Persists record record := by
  cases record with
  | none => exact .absent _
  | some record => exact .stored (fun _ _ => rfl) (fun _ => rfl)

theorem Persists.trans {first second third : Option Record} (h : Persists first second)
    (h' : Persists second third) : Persists first third := by
  cases h with
  | absent => exact .absent _
  | stored terms final =>
    cases h' with
    | stored terms' final' =>
      refine .stored (terms.trans terms') (fun h => ?_)
      have same := final h
      subst same
      exact final' h

theorem Moves.persists {reference : String} {old new : Option Record}
    (h : Moves b a reference old new) : Persists old new := by
  cases h with
  | kept => exact .refl _
  | filed => exact .absent _
  | started later => exact .stored later.2.2 (fun final => absurd later final.not_starts)
  | finished later => exact .stored later.2.2 (fun final => absurd later final.not_finishes)

/-- A final record stays. -/
theorem stored_act_of_isFinal (sound : b.IsSound) {reference : String} {record : Record}
    (there : b.stored reference = some record) (final : IsFinal record) (a : Act Implementation) :
    (b.act a).stored reference = some record := by
  have persists := (moves_act sound a reference).persists
  rw [there] at persists
  generalize (b.act a).stored reference = new at persists
  cases persists with
  | stored terms same => rw [same final]

theorem persists_foldl (sound : b.IsSound) (acts : List (Act Implementation)) (reference : String) :
    Persists (b.stored reference) ((acts.foldl act b).stored reference) := by
  induction acts generalizing b with
  | nil => exact .refl _
  | cons a rest ih => exact (moves_act sound a reference).persists.trans (ih (act_spec sound a).1)

theorem answers_cons (b : Bureau Implementation) (a : Act Implementation)
    (rest : List (Act Implementation)) (reference : String) :
    (answers b (a :: rest)).countP (wroteState reference) =
      (if (b.answer? a).any (wroteState reference) then 1 else 0) +
        (answers (b.act a) rest).countP (wroteState reference) := by
  rw [answers, List.countP_append]
  cases b.answer? a with
  | none => simp
  | some answer => simp [List.countP_cons]

/-- An answer that a final state has been written comes from a record that was not final. -/
theorem finishes_of_wroteState (sound : b.IsSound) {a : Act Implementation} {reference : String}
    (h : (b.answer? a).any (wroteState reference) = true) :
    ∃ old new, b.stored reference = some old ∧ Finishes old new ∧
      (b.act a).stored reference = some new := by
  obtain ⟨⟨r, result⟩, answer, wrote⟩ := (Option.any_eq_true _ _).mp h
  unfold wroteState at wrote
  split at wrote
  next eq =>
    cases eq
    cases beq_iff_eq.mp wrote
    exact finishes_of_answer sound answer
  next => cases wrote

/-- No recording is told that it has written a final state if there is one. -/
theorem answers_of_isFinal (sound : b.IsSound) (acts : List (Act Implementation))
    {reference : String} {record : Record} (there : b.stored reference = some record)
    (final : IsFinal record) : (answers b acts).countP (wroteState reference) = 0 := by
  induction acts generalizing b with
  | nil => rfl
  | cons a rest ih =>
    -- A final record persists, so it is still there for the rest of the acts.
    rw [answers_cons, ih (act_spec sound a).1 (stored_act_of_isFinal sound there final a)]
    split
    next wrote =>
      obtain ⟨old, _, before, later, -⟩ := finishes_of_wroteState sound wrote
      rw [there] at before
      cases before
      exact absurd later final.not_finishes
    next => rfl

/-- At most one recording is told that it has written a final state. -/
theorem answers_le_one (sound : b.IsSound) (acts : List (Act Implementation)) (reference : String) :
    (answers b acts).countP (wroteState reference) ≤ 1 := by
  induction acts generalizing b with
  | nil => simp [answers]
  | cons a rest ih =>
    rw [answers_cons]
    split
    next wrote =>
      obtain ⟨_, new, -, later, after⟩ := finishes_of_wroteState sound wrote
      -- The record is final from here on, so nobody else is told the same.
      have others := answers_of_isFinal (act_spec sound a).1 rest after later.2.1
      omega
    next =>
      rw [Nat.zero_add]
      exact ih (act_spec sound a).1

/-- The record of a reference is filed as waiting, may be marked as running and then reaches a final
state, or reaches it at once; the terms of the submission stay, and so does a final record; and at
most one recording of a final state is told that it has succeeded. -/
theorem record_history (before after : List (Act Implementation)) (a : Act Implementation)
    (reference : String) :
    Moves (run before) a reference ((run before).stored reference)
        ((run (before ++ [a])).stored reference) ∧
      Persists ((run before).stored reference) ((run (before ++ after)).stored reference) ∧
      (answers empty before).countP (wroteState reference) ≤ 1 := by
  have sound : (run before).IsSound := isSound_run before
  refine ⟨?_, ?_, answers_le_one isSound_empty before reference⟩
  · rw [run, run, List.foldl_append, List.foldl_cons, List.foldl_nil]
    exact moves_act sound a reference
  · rw [run, run, List.foldl_append]
    exact persists_foldl sound after reference

end Bureau

end Printworks
