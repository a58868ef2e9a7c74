import Printworks.Job.Inquiry
import Printworks.Proofs.Job.Record
import Printworks.Proofs.Job.Submission
import Printworks.Proofs.Registry.Unreliable

/-!
# What one step does to a stored record

The recording of a final state, the task of a job and the cancellation of a job use the registry
once in each step at most. A step leaves all records alone, or it replaces the one of its own job by
a later one: a waiting record by a running one, or an open record by a final one. The latter is the
step in which the recording answers that it has written its state.

The invariant is that whatever record a recording is about to replace is the stored form of an open
job.
-/

namespace Printworks

open Registry

namespace JobRecord

/-- Whether a record is the stored form of a job. -/
def IsStored (record : Record) : Prop := ∃ r : JobRecord, r.IsSettled ∧ record = r.toRecord

/-- A waiting record gives way to a running one. -/
def Starts (old new : Record) : Prop :=
  storedState old = .ok (.pending false) ∧ storedState new = .ok (.pending true) ∧
    SameTerms old new

/-- An open record gives way to a final one. -/
def Finishes (old new : Record) : Prop :=
  (∃ running, storedState old = .ok (.pending running)) ∧ IsFinal new ∧ SameTerms old new

/-- The record of a reference is replaced by a later one. -/
def Replaces (later : Record → Record → Prop) (reference : String) (before after : Memory) : Prop :=
  ∃ old new, before.records.get? (key reference) = some old ∧ later old new ∧ IsStored new ∧
    after = before.write (key reference) new

/-- Every record is the stored form of a job. -/
def AllStored (m : Memory) : Prop := ∀ key record, m.records.get? key = some record → IsStored record

theorem key_injective {r r' : String} (h : key r = key r') : r = r' := by
  have eq := congrArg String.toList h
  simp only [key, String.toList_append] at eq
  exact String.toList_inj.mp (List.append_cancel_left eq)

theorem Replaces.other {later : Record → Record → Prop} {r r' : String} {before after : Memory}
    (h : Replaces later r before after) (ne : r ≠ r') :
    after.records.get? (key r') = before.records.get? (key r') := by
  obtain ⟨_, _, -, -, -, rfl⟩ := h
  exact Dict.get?_insert_ne _ _ (fun eq => ne (key_injective eq))

theorem Replaces.own {later : Record → Record → Prop} {r : String} {before after : Memory}
    (h : Replaces later r before after) :
    ∃ old new, before.records.get? (key r) = some old ∧ later old new ∧
      after.records.get? (key r) = some new := by
  obtain ⟨old, new, there, later, -, rfl⟩ := h
  exact ⟨old, new, there, later, Dict.get?_insert_self _ _ _⟩

theorem AllStored.write {m : Memory} (stored : AllStored m) {k : String} {record : Record}
    (new : IsStored record) : AllStored (m.write k record) := by
  intro k' record' there
  simp only [Memory.write, Dict.get?_insert] at there
  split at there
  next => cases there; exact new
  next => exact stored k' record' there

theorem IsStored.isExact {record : Record} (h : IsStored record) : record.IsExact := by
  obtain ⟨r, -, rfl⟩ := h
  exact r.isExact_toRecord

theorem sameTerms_toRecord {a b : JobRecord} (h : a.terms = b.terms) :
    SameTerms a.toRecord b.toRecord := by
  intro name member
  obtain ⟨⟨_, j⟩, term, rfl⟩ := List.mem_map.mp (show name ∈ a.terms.map (·.1) from member)
  rw [get?_of_mem_fields (List.mem_append_left _ (List.mem_append_left _ term)),
    get?_of_mem_fields (List.mem_append_left _ (List.mem_append_left _ (h ▸ term)))]

theorem SameTerms.trans {a b c : Record} (ab : SameTerms a b) (bc : SameTerms b c) :
    SameTerms a c :=
  fun name member => (ab name member).trans (bc name member)

theorem isFinal_toRecord {r : JobRecord} (settled : r.IsSettled) (final : r.isTerminal = true) :
    IsFinal r.toRecord :=
  ⟨_, storedState_toRecord settled, (isTerminal_recorded r.state).trans final⟩

theorem isSettled_completed (r : JobRecord) {s : JobState} (final : s.isTerminal = true)
    (now : Instant) : (r.completed s now).IsSettled :=
  final.symm

theorem pending_of_not_isTerminal {s : JobState} (h : s.isTerminal = false) :
    ∃ running, s = .pending running := by
  cases s with
  | pending running => exact ⟨running, rfl⟩
  | success artifact => cases h
  | failure error => cases h
  | cancelled => cases h

theorem IsFinal.not_starts {old new : Record} (final : IsFinal old) : ¬ Starts old new :=
  fun later => final.not_pending false later.1

theorem IsFinal.not_finishes {old new : Record} (final : IsFinal old) : ¬ Finishes old new := by
  rintro ⟨⟨running, open_⟩, -⟩
  exact final.not_pending running open_

/-- An open job that is read from its stored form, and then completed, has a stored form that is
later than the one that was read. -/
theorem finishes_completed {reference : String} {r job : JobRecord} {s : JobState} (now : Instant)
    (open_ : job.isTerminal = false) (final : s.isTerminal = true)
    (read : ofRecord reference r.toRecord = .ok job) :
    Finishes r.toRecord (job.completed s now).toRecord := by
  have state := storedState_of_ofRecord read
  obtain ⟨running, pending⟩ := pending_of_not_isTerminal open_
  refine ⟨⟨running, pending ▸ state⟩, ?_, ?_⟩
  · exact isFinal_toRecord (job.isSettled_completed final now) final
  · exact sameTerms_toRecord (terms_of_ofRecord read).symm

end JobRecord

open JobRecord

/-! ### Reading a record -/

namespace JobRecord

variable {reference : String} {u u' : Unreliable Memory}

theorem fetch_spec {result : Except JobError (Record × JobRecord)}
    (h : fetch reference u = (result, u')) :
    u' = u ∧ ∀ found job, result = .ok (found, job) →
      u.store.records.get? (key reference) = some found ∧ ofRecord reference found = .ok job := by
  simp only [fetch] at h
  split at h
  next got => cases h; exact ⟨(Unreliable.get_spec got).1, by simp⟩
  next got => cases h; exact ⟨(Unreliable.get_spec got).1, by simp⟩
  next got =>
    obtain ⟨same, lookup⟩ := Unreliable.get_spec got
    split at h
    next => cases h; exact ⟨same, by simp⟩
    next read =>
      cases h
      refine ⟨same, ?_⟩
      rintro found job ⟨rfl⟩
      exact ⟨lookup _ rfl, read⟩

theorem load_store {result : Except JobError JobRecord} (h : load reference u = (result, u')) :
    u' = u := by
  simp only [load] at h
  split at h
  next fetched => cases h; exact (fetch_spec fetched).1
  next fetched => cases h; exact (fetch_spec fetched).1

theorem authorized_store {capability : Capability} {result : Except JobError JobRecord}
    (h : authorized reference capability u = (result, u')) : u' = u := by
  simp only [authorized] at h
  split at h
  next loaded => cases h; exact load_store loaded
  next loaded =>
    split at h
    next => cases h; exact load_store loaded
    next => cases h; exact load_store loaded

end JobRecord

/-! ### Recording a final state -/

namespace Completion

/-- Whether what is known of the record lets it be replaced. -/
def IsSound (reference : String) (c : Completion) : Prop :=
  match c with
  | .reading => True
  | .writing found job =>
    (∃ r : JobRecord, r.IsSettled ∧ found = r.toRecord) ∧ ofRecord reference found = .ok job ∧
      job.isTerminal = false
  | .ended _ => False

/-- The answer of a recording that is over. -/
def answer? (c : Completion) : Option (Except JobError Bool) :=
  match c with
  | .ended result => some result
  | _ => none

variable {reference : String} {s : JobState} {now : Instant} {u u' : Unreliable Memory}
  {c' : Completion}

/-- Reading a record changes nothing, and an open one is known afterwards. -/
theorem read_spec (stored : AllStored u.store) (h : read reference u = (c', u')) :
    u' = u ∧ c'.answer? ≠ some (.ok true) ∧ (c'.answer? = none → c'.IsSound reference) := by
  simp only [read] at h
  split at h
  next fetched => cases h; exact ⟨(fetch_spec fetched).1, by simp [answer?], by simp [answer?]⟩
  next fetched =>
    obtain ⟨same, found⟩ := fetch_spec fetched
    obtain ⟨there, read⟩ := found _ _ rfl
    split at h
    next => cases h; exact ⟨same, by simp [answer?], by simp [answer?]⟩
    next open_ =>
      cases h
      exact ⟨same, by simp [answer?], fun _ => ⟨stored _ _ there, read, by simpa using open_⟩⟩

/-- A record is replaced by a final one exactly if the answer says so. -/
theorem write_spec (stored : AllStored u.store) (final : s.isTerminal = true) {found : Record}
    {job : JobRecord} (sound : (writing found job).IsSound reference)
    (h : write reference s now found job u = (c', u')) :
    (c'.answer? = none → c'.IsSound reference) ∧
      ((c'.answer? ≠ some (.ok true) ∧ u' = u) ∨
        (c'.answer? = some (.ok true) ∧ Replaces Finishes reference u.store u'.store)) := by
  obtain ⟨⟨r, settled, rfl⟩, read, open_⟩ := sound
  simp only [write] at h
  -- The record that is expected need not be there any more; the write says whether it was.
  have spec {result : Except StoreError Bool} {u₁ : Unreliable Memory}
      (put : Registry.compareAndPut (key reference) r.toRecord (job.completed s now).toRecord u =
        (result, u₁)) :=
    Unreliable.compareAndPut_spec (isExact_toRecord _) (fun _ there => (stored _ _ there).isExact) put
  split at h
  next error u₁ put =>
    cases h
    exact ⟨by simp [answer?], .inl ⟨by simp [answer?], (spec put).unchanged (by simp)⟩⟩
  next u₁ put =>
    cases h
    obtain ⟨there, written⟩ := (spec put).written rfl
    refine ⟨by simp [answer?], .inr ⟨rfl, _, _, there, ?_, ?_, written⟩⟩
    · exact finishes_completed now open_ final read
    · exact ⟨_, job.isSettled_completed final now, rfl⟩
  next u₁ put =>
    -- Somebody else was faster: the record is read again.
    cases h
    exact ⟨fun _ => trivial, .inl ⟨by simp [answer?], (spec put).unchanged (by simp)⟩⟩

/-- A step of recording a final state leaves the registry alone, or replaces an open record by a
final one and says so. -/
theorem step_spec (now : Instant) (stored : AllStored u.store) (final : s.isTerminal = true)
    {c : Completion} (sound : c.IsSound reference) (h : c.step reference s now u = (c', u')) :
    (c'.answer? = none → c'.IsSound reference) ∧
      ((c'.answer? ≠ some (.ok true) ∧ u' = u) ∨
        (c'.answer? = some (.ok true) ∧ Replaces Finishes reference u.store u'.store)) := by
  cases c with
  | reading =>
    obtain ⟨same, answer, sound⟩ := read_spec stored h
    exact ⟨sound, .inl ⟨answer, same⟩⟩
  | writing found job => exact write_spec stored final sound h
  | ended result => exact sound.elim

end Completion

/-! ### The task of a job -/

namespace Task

/-- The state that is being recorded, and how far that has come. -/
def recording? (t : Task) : Option (JobState × Completion) :=
  match t.stance with
  | .recording state _ c => some (state, c)
  | .fallingBack cause c => some (fallbackState cause, c)
  | _ => none

/-- Whether all that is recorded from a stance, now or after a pause, is final and can be. -/
def SoundStance (reference : String) (stance : Stance) : Prop :=
  match stance with
  | .recording s _ c => s.isTerminal = true ∧ c.IsSound reference
  | .fallingBack _ c => c.IsSound reference
  | .pausing s _ => s.isTerminal = true
  | _ => True

/-- Whether the record is one of a job that has just been submitted, and the stance is sound. -/
structure IsSound (t : Task) : Prop where
  waiting : t.submitted.state = .pending false
  settled : t.submitted.IsSettled
  stance : SoundStance t.reference t.stance

/-- The answer that the recording of a state gives in the next step of the task. -/
def answer? {Store : Type} [Registry Store] (now : Instant) (t : Task) (store : Store) :
    Option (Except JobError Bool) :=
  t.recording?.bind (fun r => (r.2.step t.reference r.1 now store).1.answer?)

variable {t t' : Task} {signalled : Bool} {now : Instant} {u u' : Unreliable Memory}

theorem isSound_file {submitted : JobRecord} (waiting : submitted.state = .pending false)
    (settled : submitted.IsSettled) : (file submitted).IsSound :=
  ⟨waiting, settled, trivial⟩

theorem isSound_enter (sound : t.IsSound) : t.enter.IsSound := by
  obtain ⟨submitted, stance⟩ := t
  cases stance with
  | filed => exact ⟨sound.waiting, sound.settled, trivial⟩
  | _ => exact sound

theorem isSound_executed (sound : t.IsSound) {s : JobState} (final : s.isTerminal = true) :
    (t.executed s).IsSound := by
  obtain ⟨submitted, stance⟩ := t
  cases stance with
  | executing => exact ⟨sound.waiting, sound.settled, final, trivial⟩
  | _ => exact sound

theorem isSound_resume (sound : t.IsSound) : t.resume.IsSound := by
  obtain ⟨submitted, stance⟩ := t
  cases stance with
  | pausing s attempt => exact ⟨sound.waiting, sound.settled, sound.stance, trivial⟩
  | _ => exact sound

theorem soundStance_afterFailure {reference : String} {s : JobState} (final : s.isTerminal = true)
    (attempt : Nat) (cause : JobError) : SoundStance reference (afterFailure s attempt cause) := by
  unfold afterFailure
  split
  next =>
    split
    next => exact final
    next => split <;> trivial
  next => trivial
  next => trivial

theorem soundStance_afterRecording {reference : String} {s : JobState} {c : Completion}
    (final : s.isTerminal = true) (sound : c.answer? = none → c.IsSound reference)
    (attempt : Nat) : SoundStance reference (afterRecording s attempt c) := by
  cases c with
  | reading => exact ⟨final, trivial⟩
  | writing found job => exact ⟨final, sound rfl⟩
  | ended result =>
    cases result with
    | ok _ => trivial
    | error cause => exact soundStance_afterFailure final attempt cause

theorem soundStance_afterFallback {reference : String} {c : Completion}
    (sound : c.answer? = none → c.IsSound reference) (cause : JobError) :
    SoundStance reference (afterFallback cause c) := by
  cases c with
  | reading => trivial
  | writing found job => exact sound rfl
  | ended result => trivial

/-- The record of a job is marked as running exactly if it is as it was submitted. -/
theorem markRunning_spec (sound : t.IsSound) (stored : AllStored u.store) {stance : Stance}
    (h : t.markRunning u = (stance, u')) :
    SoundStance t.reference stance ∧
      (u' = u ∨ Replaces Starts t.reference u.store u'.store) := by
  have pendingState : t.submitted.started.IsSettled := by
    have settled := sound.settled
    rw [IsSettled, isTerminal, sound.waiting] at settled
    exact settled
  -- What is expected is the very record that was filed, so its state and terms are known.
  have starts : Starts t.submitted.toRecord t.submitted.started.toRecord := by
    have before := storedState_toRecord sound.settled
    rw [sound.waiting] at before
    exact ⟨before, storedState_toRecord pendingState, sameTerms_toRecord rfl⟩
  simp only [markRunning] at h
  have spec {result : Except StoreError Bool} {u₁ : Unreliable Memory}
      (put : Registry.compareAndPut (key t.reference) t.submitted.toRecord
        t.submitted.started.toRecord u = (result, u₁)) :=
    Unreliable.compareAndPut_spec (isExact_toRecord _) (fun _ there => (stored _ _ there).isExact) put
  split at h
  next put =>
    cases h
    exact ⟨trivial, .inl ((spec put).unchanged (by simp))⟩
  next put =>
    cases h
    exact ⟨trivial, .inl ((spec put).unchanged (by simp))⟩
  next put =>
    cases h
    obtain ⟨there, written⟩ := (spec put).written rfl
    exact ⟨trivial, .inr ⟨_, _, there, starts, ⟨_, pendingState, rfl⟩, written⟩⟩

/-- A step of a task leaves the registry alone, or marks its record as running, or replaces it by a
final one and says so. -/
theorem step_spec (sound : t.IsSound) (stored : AllStored u.store)
    (h : t.step signalled now u = (t', u')) :
    t'.IsSound ∧ t'.submitted = t.submitted ∧
      ((t.answer? now u ≠ some (.ok true) ∧
          (u' = u ∨ Replaces Starts t.reference u.store u'.store)) ∨
        (t.answer? now u = some (.ok true) ∧ Replaces Finishes t.reference u.store u'.store)) := by
  obtain ⟨submitted, stance⟩ := t
  obtain ⟨waiting, settled, ok⟩ := sound
  cases stance with
  -- Only a stance that records something has an answer; the others touch no final record.
  | created =>
    cases h
    refine ⟨⟨waiting, settled, ?_⟩, rfl, .inl ⟨by simp [answer?, recording?], .inl rfl⟩⟩
    cases signalled with
    | true => exact ⟨rfl, trivial⟩
    | false => trivial
  | marking =>
    obtain ⟨ok, effect⟩ := markRunning_spec ⟨waiting, settled, ok⟩ stored rfl
    cases h
    exact ⟨⟨waiting, settled, ok⟩, rfl, .inl ⟨by simp [answer?, recording?], effect⟩⟩
  | recording s attempt c =>
    obtain ⟨final, ok⟩ := ok
    obtain ⟨ok, effect⟩ := Completion.step_spec now stored final ok rfl
    cases h
    refine ⟨⟨waiting, settled, soundStance_afterRecording final ok attempt⟩, rfl, ?_⟩
    rcases effect with ⟨answer, same⟩ | finishes
    · exact .inl ⟨answer, .inl same⟩
    · exact .inr finishes
  | fallingBack cause c =>
    obtain ⟨ok, effect⟩ :=
      Completion.step_spec (s := fallbackState cause) now stored rfl ok rfl
    cases h
    refine ⟨⟨waiting, settled, soundStance_afterFallback ok cause⟩, rfl, ?_⟩
    rcases effect with ⟨answer, same⟩ | finishes
    · exact .inl ⟨answer, .inl same⟩
    · exact .inr finishes
  | filed =>
    cases h
    exact ⟨⟨waiting, settled, ok⟩, rfl, .inl ⟨by simp [answer?, recording?], .inl rfl⟩⟩
  | executing =>
    cases h
    exact ⟨⟨waiting, settled, ok⟩, rfl, .inl ⟨by simp [answer?, recording?], .inl rfl⟩⟩
  | pausing s attempt =>
    cases h
    exact ⟨⟨waiting, settled, ok⟩, rfl, .inl ⟨by simp [answer?, recording?], .inl rfl⟩⟩
  | ended result =>
    cases h
    exact ⟨⟨waiting, settled, ok⟩, rfl, .inl ⟨by simp [answer?, recording?], .inl rfl⟩⟩

end Task

/-! ### Cancelling a job -/

namespace Cancellation

universe v

/-- Whether what is being recorded can be. -/
def IsSound (reference : String) (c : Cancellation) : Prop :=
  match c with
  | .recording completion => completion.IsSound reference
  | _ => True

/-- The answer that the recording of the state gives in the next step of the cancellation. -/
def answer? {Store : Type} [Registry Store] (reference : String) (now : Instant) (c : Cancellation)
    (store : Store) : Option (Except JobError Bool) :=
  match c with
  | .recording completion => (completion.step reference .cancelled now store).1.answer?
  | _ => none

variable {Implementation : Type v} {reference : String} {capability : Capability} {now : Instant}
  {c c' : Cancellation} {m m' : Manager Implementation} {u u' : Unreliable Memory}

theorem isSound_afterRecording {completion : Completion}
    (sound : completion.answer? = none → completion.IsSound reference) :
    (afterRecording completion).IsSound reference := by
  cases completion with
  | reading => trivial
  | writing found job => exact sound rfl
  | ended result => cases result <;> trivial

/-- A step of a cancellation leaves the registry alone, or replaces an open record by a final one
and says so. -/
theorem step_spec (sound : c.IsSound reference) (stored : AllStored u.store)
    (h : c.step reference capability now m u = (c', m', u')) :
    c'.IsSound reference ∧
      ((c.answer? reference now u ≠ some (.ok true) ∧ u' = u) ∨
        (c.answer? reference now u = some (.ok true) ∧
          Replaces Finishes reference u.store u'.store)) := by
  cases c with
  | checking =>
    simp only [step] at h
    split at h
    next checked => cases h; exact ⟨trivial, .inl ⟨by simp [answer?], authorized_store checked⟩⟩
    next checked =>
      split at h
      next => cases h; exact ⟨trivial, .inl ⟨by simp [answer?], authorized_store checked⟩⟩
      next => cases h; exact ⟨trivial, .inl ⟨by simp [answer?], authorized_store checked⟩⟩
  | recording completion =>
    obtain ⟨ok, effect⟩ :=
      Completion.step_spec (s := .cancelled) now stored rfl sound rfl
    cases h
    exact ⟨isSound_afterRecording ok, effect⟩
  | ended result =>
    cases h
    exact ⟨trivial, .inl ⟨by simp [answer?], rfl⟩⟩

end Cancellation

/-! ### Filing a job -/

namespace Manager

universe v

variable {Implementation : Type v}

/-- The record of a job is written, or the registry is left alone. -/
theorem file_spec {s : Submission Implementation} {u u' : Unreliable Memory}
    {result : Except SubmitError Unit} (h : file s u = (result, u')) :
    (result ≠ .ok () ∧ u' = u) ∨
      (result = .ok () ∧ u.store.records.get? (key s.record.reference) = none ∧
        u'.store = u.store.write (key s.record.reference) s.record.toRecord) := by
  have spec {result : Except StoreError Bool} {u₁ : Unreliable Memory}
      (put : Registry.putIfAbsent (key s.record.reference) s.record.toRecord u = (result, u₁)) :=
    Unreliable.putIfAbsent_spec (isExact_toRecord _) put
  simp only [file] at h
  split at h
  next put =>
    cases h
    exact .inl ⟨by simp, (spec put).unchanged (by simp)⟩
  next put =>
    cases h
    exact .inl ⟨by simp, (spec put).unchanged (by simp)⟩
  next put =>
    cases h
    exact .inr ⟨rfl, (spec put).written rfl⟩

end Manager

theorem JobState.isTerminal_ofReport (slot : String) (report : ExecutionReport) :
    (JobState.ofReport slot report).isTerminal = true := by
  unfold JobState.ofReport
  split
  next =>
    unfold JobState.ofArtifact
    split <;> rfl
  next => rfl
  next => rfl

end Printworks
