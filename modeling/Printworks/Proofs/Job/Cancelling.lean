import Printworks.Proofs.Job.Standing

/-!
# What a call to cancel a job leaves behind

When such a call succeeds the record is final: it is the one that the call has written, which says
that the job has been cancelled, or one that has been final before. From then on nobody who calls to
cancel the job, or has called before, changes anything by it.
-/

namespace Printworks

open Registry JobRecord

universe u

namespace JobRecord

variable {reference : String} {capability : Capability} {job : JobRecord} {u u' : Unreliable Memory}

/-- Who passes the assertion of a job has read its record. -/
theorem authorized_ok (h : authorized reference capability u = (.ok job, u')) :
    ∃ found, u.store.records.get? (key reference) = some found ∧
      ofRecord reference found = .ok job := by
  simp only [authorized, load] at h
  split at h
  next => cases h
  next loaded =>
    split at loaded
    next => cases loaded
    next found _ _ fetched =>
      cases loaded
      split at h
      next =>
        cases h
        exact ⟨found, (fetch_spec fetched).2 _ _ rfl⟩
      next => cases h

end JobRecord

namespace Completion

variable {reference : String} {s : JobState} {now : Instant} {u : Unreliable Memory}
  {c : Completion}

/-- A recording that answers that there is a final state already has found it. -/
theorem step_found (sound : c.IsSound reference)
    (answer : (c.step reference s now u).1.answer? = some (.ok false)) :
    ∃ found, u.store.records.get? (key reference) = some found ∧ IsFinal found ∧
      (c.step reference s now u).2 = u := by
  cases c with
  | reading =>
    simp only [step, read] at answer ⊢
    split at answer
    next => simp [answer?] at answer
    next found job _ fetched =>
      obtain ⟨same, known⟩ := fetch_spec fetched
      obtain ⟨there, read⟩ := known _ _ rfl
      split at answer
      next closed =>
        simp only [closed, if_true]
        exact ⟨found, there, ⟨_, storedState_of_ofRecord read, closed⟩, same⟩
      next => simp [answer?] at answer
  | writing found job =>
    simp only [step, write] at answer
    split at answer <;> simp [answer?] at answer
  | ended result => exact sound.elim

end Completion

namespace Cancellation

universe v

variable {Implementation : Type v} {reference : String} {capability : Capability} {now : Instant}
  {c : Cancellation} {m : Manager Implementation} {u : Unreliable Memory}

/-- A call that succeeds leaves a final record, which says that the job has been cancelled or has been
there before. -/
theorem step_succeeded (sound : c.IsSound reference) (stored : AllStored u.store)
    (more : c.isEnded = false)
    (ends : (c.step reference capability now m u).1 = .ended (.ok ())) :
    ∃ record, (c.step reference capability now m u).2.2.store.records.get? (key reference) =
        some record ∧ IsFinal record ∧
      (storedState record = .ok .cancelled ∨
        u.store.records.get? (key reference) = some record) := by
  cases c with
  | checking =>
    simp only [step] at ends ⊢
    split at ends
    next => cases ends
    next job u' checked =>
      obtain ⟨found, there, read⟩ := authorized_ok checked
      obtain rfl := authorized_store checked
      split at ends
      next closed =>
        simp only [closed, if_true]
        exact ⟨found, there, ⟨_, storedState_of_ofRecord read, closed⟩, .inr there⟩
      next => cases ends
  | recording completion =>
    -- A call that has told the job to stop ends with what the recording answers.
    obtain ⟨wrote, answer⟩ :
        ∃ wrote, (completion.step reference .cancelled now u).1.answer? = some (.ok wrote) := by
      simp only [step, afterRecording] at ends
      split at ends
      next wrote ended => exact ⟨wrote, by rw [ended]; rfl⟩
      next => cases ends
      next => cases ends
    simp only [step]
    cases wrote with
    | true =>
      obtain ⟨found, job, -, -, written⟩ := Completion.step_wrote stored sound answer
      have final := job.isSettled_completed (s := .cancelled) rfl now
      rw [written]
      exact ⟨_, Dict.get?_insert_self _ _ _, isFinal_toRecord final rfl,
        .inl (storedState_toRecord final)⟩
    | false =>
      obtain ⟨found, there, final, same⟩ := Completion.step_found sound answer
      rw [same]
      exact ⟨found, there, final, .inr there⟩
  | ended result => cases more

/-- A call finds nothing to do about a final record. -/
theorem step_of_isFinal (capability : Capability) (now : Instant) (m : Manager Implementation)
    (sound : c.IsSound reference) (stored : AllStored u.store) {record : Record}
    (there : u.store.records.get? (key reference) = some record)
    (final : IsFinal record) : (c.step reference capability now m u).2 = (m, u) := by
  cases c with
  | checking =>
    simp only [step]
    split
    next checked => rw [authorized_store checked]
    next job u' checked =>
      obtain ⟨found, there', read⟩ := authorized_ok checked
      obtain rfl := authorized_store checked
      cases there.symm.trans there'
      have closed : job.isTerminal = true := by
        obtain ⟨s, state, terminal⟩ := final
        rw [storedState_of_ofRecord read] at state
        cases state
        exact terminal
      simp only [closed, if_true]
  | recording completion =>
    -- What it is about to write may be an open record's, but that is not there any more.
    obtain ⟨-, effect⟩ := Completion.step_spec (s := .cancelled) now stored rfl sound rfl
    rcases effect with ⟨-, same⟩ | ⟨-, replaced⟩
    · exact Prod.ext rfl same
    · obtain ⟨old, _, there', finishes, -⟩ := replaced.own
      cases there.symm.trans there'
      exact absurd finishes final.not_finishes
  | ended result => rfl

end Cancellation

namespace Bureau

variable {Implementation : Type u} {b : Bureau Implementation} {a : Act Implementation}

/-- The reference of a job, if a call to cancel it ends in an act and succeeds. -/
def cancelled? (b : Bureau Implementation) (a : Act Implementation) : Option String :=
  match a with
  | .proceed k now failure =>
    (b.calls[k]?).bind (fun call =>
      (b.managers[call.manager]?).bind (fun m =>
        if call.progress.isEnded then none
        else match (call.progress.step call.reference call.capability now m
            (b.unreliable failure)).1 with
          | .ended (.ok _) => some call.reference
          | _ => none))
  | _ => none

/-- Whether no step of a call to cancel a certain job changes anything but how far that call has
come. -/
def IgnoresCalls (b : Bureau Implementation) (reference : String) : Prop :=
  ∀ k call now failure, b.calls[k]? = some call → call.reference = reference →
    ∃ progress, b.act (.proceed k now failure) =
      { b with calls := b.calls.set k { call with progress := progress } }

theorem stored_of_cancelled (sound : b.IsSound) {reference : String}
    (cancelled : b.cancelled? a = some reference) :
    ∃ record, (b.act a).stored reference = some record ∧ IsFinal record ∧
      (storedState record = .ok .cancelled ∨ b.stored reference = some record) := by
  unfold cancelled? at cancelled
  split at cancelled
  next k now failure =>
    obtain ⟨call, there, cancelled⟩ := Option.bind_eq_some_iff.mp cancelled
    obtain ⟨m, manager, cancelled⟩ := Option.bind_eq_some_iff.mp cancelled
    split at cancelled
    next => cases cancelled
    next more =>
      split at cancelled
      next ends =>
        cases cancelled
        have ok := sound.calls call (List.mem_of_getElem? there)
        have after : b.act (.proceed k now failure) = b.proceed k call m now failure := by
          simp [act, there, manager]
        rw [after]
        exact Cancellation.step_succeeded ok sound.registry (Bool.not_eq_true _ ▸ more) ends
      next => cases cancelled
  next => cases cancelled

theorem ignoresCalls_of_isFinal (sound : b.IsSound) {reference : String} {record : Record}
    (there : b.stored reference = some record) (final : IsFinal record) :
    b.IgnoresCalls reference := by
  rintro k call now failure found rfl
  have inside := List.getElem?_eq_some_iff.mp found
  cases manager : b.managers[call.manager]? with
  | none =>
    refine ⟨call.progress, ?_⟩
    have same : b.calls.set k call = b.calls := by
      rw [← inside.2, List.set_getElem_self]
    simp [act, found, manager, same]
  | some m =>
    have ok := sound.calls call (List.mem_of_getElem? found)
    have idle := Cancellation.step_of_isFinal (u := b.unreliable failure) call.capability now m ok
      sound.registry there final
    have same : b.managers.set call.manager m = b.managers := by
      rw [← (List.getElem?_eq_some_iff.mp manager).2, List.set_getElem_self]
    obtain ⟨progress, step⟩ : ∃ progress, call.progress.step call.reference call.capability now m
        (b.unreliable failure) = (progress, m, b.unreliable failure) := ⟨_, Prod.ext rfl idle⟩
    refine ⟨progress, ?_⟩
    simp only [act, found, manager, Option.elim_some, proceed, step, same]
    rfl

end Bureau

end Printworks
