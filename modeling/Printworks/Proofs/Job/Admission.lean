import Printworks.Proofs.Job.Standing

/-!
# Who is told about a job

Whoever asks for the status or the artifact of a job, or wants to cancel it, has to pass the assertion
that is read from the text in its record. Whatever has happened to the job since its submission, that
is the conjunction of the template's assertion and the one submitted. Whoever fails one of the two is
told that access is denied, which does not depend on anything else in the record, and changes nothing.
-/

namespace Printworks

open Registry JobRecord

universe u

/-- Whether the milliseconds of an instant can be read back. -/
def Instant.IsLegible (t : Instant) : Prop := minMillis ≤ t.millis ∧ t.millis ≤ maxMillis

instance (t : Instant) : Decidable t.IsLegible :=
  inferInstanceAs (Decidable (Instant.minMillis ≤ t.millis ∧ t.millis ≤ Instant.maxMillis))

namespace JobRecord

/-! ### Records that can be read -/

theorem readMillis?_of_isLegible {t : Instant} (legible : t.IsLegible) :
    readMillis? (.int t.millis) = some (.ofMillis t.millis) := by
  obtain ⟨low, high⟩ := legible
  have bounds : Int64.minValue.toInt ≤ Instant.minMillis ∧
      Instant.maxMillis ≤ Int64.maxValue.toInt := by decide
  have fits : Int64.minValue.toInt ≤ t.millis ∧ t.millis ≤ Int64.maxValue.toInt :=
    ⟨Int.le_trans bounds.1 low, Int.le_trans high bounds.2⟩
  have exact_ : (Int64.ofInt t.millis).toInt = t.millis :=
    Int64.toInt_ofInt_of_le fits.1 (Int.lt_of_le_of_lt fits.2 (by decide))
  simp only [readMillis?, Json.int, Json.int?, Json.word?, fits, and_self, if_true,
    Option.bind_some, exact_, Instant.ofMillis?, low, high]

/-- Whether a job can be read from a record, with a certain assertion. -/
def IsGuarded (reference : String) (access : Access) (record : Record) : Prop :=
  ∃ job, ofRecord reference record = .ok job ∧ job.access = access

variable {reference : String} {access : Access} {old new : Record}

/-- A record without a completion date is all that can be read as pending. -/
theorem present?_of_pending {running : Bool} {record : Record}
    (pending : storedState record = .ok (.pending running)) :
    present? record "completionDate" = none := by
  cases date : present? record "completionDate" with
  | none => rfl
  | some j =>
    rw [storedState, date, Option.isSome_some, readState, if_pos rfl] at pending
    obtain ⟨success, -, pending⟩ := bind_ok pending
    split at pending
    · obtain ⟨location, -, pending⟩ := bind_ok pending
      obtain ⟨kind, -, pending⟩ := bind_ok pending
      cases pending
    · obtain ⟨error, -, pending⟩ := bind_ok pending
      simp only [pure, Except.pure, Except.ok.injEq] at pending
      split at pending <;> cases pending

theorem IsGuarded.starts (guarded : IsGuarded reference access old) (later : Starts old new) :
    IsGuarded reference access new := by
  obtain ⟨job, read, own⟩ := guarded
  have dated : optional new "completionDate" readMillis? "a timestamp" = .ok none := by
    rw [optional, present?_of_pending later.2.1]
  exact ⟨_, ofRecord_of_sameTerms later.2.2 read dated later.2.1, own⟩

/-- A job that has been read and completed at a legible time can be read again. -/
theorem IsGuarded.completed {job : JobRecord} {s : JobState} {now : Instant}
    (read : ofRecord reference old = .ok job) (own : job.access = access)
    (terms : SameTerms old (job.completed s now).toRecord) (final : s.isTerminal = true)
    (legible : now.IsLegible) : IsGuarded reference access (job.completed s now).toRecord := by
  have dated : optional (job.completed s now).toRecord "completionDate" readMillis? "a timestamp" =
      .ok (some (.ofMillis now.millis)) := by
    exact optional_of_read (present?_completionDate _) (readMillis?_of_isLegible legible)
  have state := storedState_toRecord (job.isSettled_completed final now)
  exact ⟨_, ofRecord_of_sameTerms terms read dated state, own⟩

/-- The record of a submission can be read if its assertion, its time and its count can. -/
theorem isGuarded_pending {appId fileName : String} {count : Nat} {now : Instant}
    (printed : (Json.read? access.encode.compact).bind Access.decode? = some access)
    (counted : count < UInt64.size) (legible : now.IsLegible) :
    IsGuarded reference access
      (pending reference appId fileName access count now).toRecord := by
  generalize submitted : pending reference appId fileName access count now = r
  have found {name : String} {j : Json} (term : (name, j) ∈ r.terms) :
      present? r.toRecord name = some j := present?_of_mem_terms term
  have state : storedState r.toRecord = .ok (.pending false) := by
    rw [storedState_toRecord (by rw [← submitted]; rfl), ← submitted]
    rfl
  have number : Json.nat? (.int count) = some count := by
    simp only [Json.nat?, Json.int]
    rw [if_pos ⟨Int.natCast_nonneg count, Int.ofNat_lt.mpr counted⟩, Int.toNat_natCast]
  have app : present? r.toRecord "appId" = some (.text appId) :=
    found (by simp [← submitted, terms, pending])
  have file : present? r.toRecord "fileName" = some (.text fileName) :=
    found (by simp [← submitted, terms, pending])
  have start : present? r.toRecord "startDate" = some (.int now.millis) :=
    found (by simp [← submitted, terms, pending])
  have total : present? r.toRecord "requestCount" = some (.int count) :=
    found (by simp [← submitted, terms, pending])
  have assertion : present? r.toRecord "access" = some (.text access.encode.compact) :=
    found (by simp [← submitted, terms, pending])
  refine ⟨⟨reference, appId, fileName, .ofMillis now.millis, none, count, access, .pending false⟩,
    ofRecord_of_isRead ⟨rfl, ?_, ?_, ?_, ?_, ?_, ?_, some count, ?_, rfl⟩, rfl⟩
  · have text : requiredText r.toRecord "access" = .ok access.encode.compact :=
      required_of_read assertion rfl
    simp only [readAccess, text, bind, Except.bind, printed]
    rfl
  · rw [optional, present?_of_pending state]
  · rw [storedState, present?_of_pending state] at state
    exact state
  · exact required_of_read app rfl
  · exact required_of_read file rfl
  · exact required_of_read start (readMillis?_of_isLegible legible)
  · exact optional_of_read total number

/-! ### Inquiries -/

section

variable (Implementation : Type u) {Store : Type} [Registry Store]

/-- What a requester is told who asks for the status of a job and for its artifact, and who wants to
cancel it. -/
def told {Implementation : Type u} (reference : String) (capability : Capability) (now : Instant)
    (m : Manager Implementation) (store : Store) :
    Except JobError JobStatus × Except JobError Artifact × Cancellation :=
  ((poll reference capability now store).1, (artifact reference capability store).1,
    (Cancellation.step reference capability now .checking m store).1)

/-- Whether a requester gets what is asked for, whichever manager is asked. -/
structure Serves (reference : String) (capability : Capability) (store : Store) (job : JobRecord) :
    Prop where
  poll : ∀ now, JobRecord.poll reference capability now store = (.ok (.ofRecord job now), store)
  artifact : JobRecord.artifact reference capability store = (artifactOf job, store)
  cancel : ∀ now (m : Manager Implementation),
    Cancellation.step reference capability now .checking m store =
      if job.isTerminal then (.ended (.ok ()), m, store)
      else (.recording .reading, m.signal reference, store)

/-- Whether a requester is told that access is denied and changes nothing, whichever manager is
asked. -/
structure Refuses (reference : String) (capability : Capability) (store : Store) : Prop where
  poll : ∀ now, JobRecord.poll reference capability now store = (.error .accessDenied, store)
  artifact : JobRecord.artifact reference capability store = (.error .accessDenied, store)
  cancel : ∀ now (m : Manager Implementation),
    Cancellation.step reference capability now .checking m store =
      (.ended (.error .accessDenied), m, store)

variable {Implementation} {capability : Capability} {store : Store} {job : JobRecord}
  {record : Record}

theorem Refuses.told_eq (refused : Refuses Implementation reference capability store) (now : Instant)
    (m : Manager Implementation) : told reference capability now m store =
      (.error .accessDenied, .error .accessDenied, .ended (.error .accessDenied)) := by
  rw [told, refused.poll, refused.artifact, refused.cancel]

theorem Serves.not_refuses (served : Serves Implementation reference capability store job) :
    ¬ Refuses Implementation reference capability store := by
  intro refused
  have status := (served.poll default).symm.trans (refused.poll default)
  cases status

/-- Where a record can be read, its assertion decides. -/
theorem authorized_of_read (got : Registry.get (key reference) store = (.ok (some record), store))
    (read : ofRecord reference record = .ok job) (capability : Capability) :
    authorized reference capability store =
      if job.access.check capability then (.ok job, store) else (.error .accessDenied, store) := by
  simp only [authorized, load, fetch, got, read]

theorem serves_of_check (got : Registry.get (key reference) store = (.ok (some record), store))
    (read : ofRecord reference record = .ok job) (passes : job.access.check capability = true) :
    Serves Implementation reference capability store job := by
  have admitted : authorized reference capability store = (.ok job, store) := by
    rw [authorized_of_read got read, if_pos passes]
  refine ⟨fun now => ?_, ?_, fun now m => ?_⟩
  · rw [JobRecord.poll, admitted]
  · rw [JobRecord.artifact, admitted]
  · rw [Cancellation.step, admitted]

theorem refuses_of_check (got : Registry.get (key reference) store = (.ok (some record), store))
    (read : ofRecord reference record = .ok job) (fails : job.access.check capability = false) :
    Refuses Implementation reference capability store := by
  have denied : authorized reference capability store = (.error .accessDenied, store) := by
    rw [authorized_of_read got read, fails]
    rfl
  refine ⟨fun now => ?_, ?_, fun now m => ?_⟩
  · rw [JobRecord.poll, denied]
  · rw [JobRecord.artifact, denied]
  · rw [Cancellation.step, denied]

end

end JobRecord

namespace Bureau

variable {Implementation : Type u} {b : Bureau Implementation}

/-- The record of a job that is filed carries both assertions. -/
theorem pending_of_filed (sound : b.IsSound) {k : Nat} {call : SubmitCall Implementation}
    (asked : b.requests[k]? = some call) {given : String} {time : Instant}
    {failure : Option StoreError} {s : Submission Implementation}
    (files : b.filed? (.attend k given time failure) = some s) :
    ∃ reference fileName now, s.record = .pending reference call.appId fileName
      (s.template.access.and call.access) call.request.size now := by
  have attends := attends_act b k given time failure
  rw [files] at attends
  generalize b.act (.attend k given time failure) = after at attends
  cases attends with
  | files there manager filing absent =>
    cases asked.symm.trans there
    exact sound.requests call (List.mem_of_getElem? asked) s filing

/-- An act at a legible time leaves a record readable, with the assertion that it has. -/
theorem isGuarded_act (sound : b.IsSound) {a : Act Implementation}
    (timely : ∀ t, a.now? = some t → t.IsLegible) {reference : String} {access : Access}
    {record : Record} (there : b.stored reference = some record)
    (guarded : IsGuarded reference access record) :
    ∃ record', (b.act a).stored reference = some record' ∧
      IsGuarded reference access record' := by
  have moves := moves_act sound a reference
  rw [there] at moves
  cases after : (b.act a).stored reference with
  | none => rw [after] at moves; cases moves
  | some record' =>
    rw [after] at moves
    refine ⟨record', rfl, ?_⟩
    cases moves with
    | kept => exact guarded
    | started later => exact guarded.starts later
    | finished later answer =>
      -- Whoever has completed the record has read it just as anybody else would.
      obtain ⟨found, job, s, now, there', read, final, time, written, -⟩ :=
        completes_of_answer sound answer
      cases there.symm.trans there'
      cases after.symm.trans written
      obtain ⟨job', read', own⟩ := guarded
      cases read.symm.trans read'
      exact IsGuarded.completed read own later.2.2 final (timely now time)

theorem isGuarded_run (acts after : List (Act Implementation))
    (timely : ∀ a ∈ after, ∀ t, a.now? = some t → t.IsLegible) {reference : String}
    {access : Access} {record : Record} (there : (run acts).stored reference = some record)
    (guarded : IsGuarded reference access record) :
    ∃ record', (run (acts ++ after)).stored reference = some record' ∧
      IsGuarded reference access record' := by
  induction after using List.reverseRecOn with
  | nil => exact ⟨record, by rwa [List.append_nil], guarded⟩
  | append_singleton after a ih =>
    obtain ⟨record', there', guarded'⟩ :=
      ih (fun a' member => timely a' (List.mem_append_left _ member))
    rw [← List.append_assoc, run_concat]
    exact isGuarded_act (isSound_run _) (timely a (by simp)) there' guarded'

/-- At any time after the record of a job has been written, in whichever state it is, a requester who
passes both the assertion of the template and the one submitted is served from its record, and any other
one is told that access is denied and changes nothing. What the latter is told is the same wherever the
record has this assertion, whatever else is in the record or the registry, and whichever manager is
asked. -/
theorem run_admits (before after : List (Act Implementation)) {k : Nat}
    {call : SubmitCall Implementation} {given : String} {time : Instant}
    {failure : Option StoreError} {s : Submission Implementation}
    (asked : (run before).requests[k]? = some call)
    (files : (run before).filed? (.attend k given time failure) = some s)
    (printed : (Json.read? s.record.access.encode.compact).bind Access.decode? =
      some s.record.access)
    (counted : call.request.size < UInt64.size) (legible : s.record.submittedAt.IsLegible)
    (timely : ∀ a ∈ after, ∀ t, a.now? = some t → t.IsLegible) :
    let b := run (before ++ .attend k given time failure :: after)
    let reference := s.record.reference
    ∃ record job, b.stored reference = some record ∧ ofRecord reference record = .ok job ∧
      ∀ capability : Capability,
        let passes := s.template.access.check capability && call.access.check capability
        (Serves Implementation reference capability b.registry job ↔ passes = true) ∧
        (Refuses Implementation reference capability b.registry ↔ passes = false) ∧
        (passes = false → ∀ (other : Memory) record' job',
          other.records.get? (key reference) = some record' →
          ofRecord reference record' = .ok job' → job'.access = job.access →
          ∀ time time' (m m' : Manager Implementation),
            told reference capability time' m' other =
              told reference capability time m b.registry) := by
  intro b reference
  obtain ⟨_, fileName, now, submitted⟩ := pending_of_filed (isSound_run before) asked files
  have filed := (filed_spec files).2.2
  have both : s.record.access = s.template.access.and call.access := by rw [submitted]; rfl
  have guarded : IsGuarded reference s.record.access s.record.toRecord := by
    rw [both] at printed ⊢
    simp only [reference]
    rw [submitted] at legible ⊢
    exact isGuarded_pending printed counted legible
  -- From the submission on the record stays readable, and its assertion is what it was.
  obtain ⟨record, there, job, read, own⟩ : ∃ record, b.stored reference = some record ∧
      IsGuarded reference s.record.access record := by
    rw [← run_concat] at filed
    have later := isGuarded_run (before ++ [_]) after timely filed guarded
    rwa [List.append_assoc, List.singleton_append] at later
  refine ⟨record, job, there, read, fun capability => ?_⟩
  intro passes
  have check : job.access.check capability = passes := by
    rw [own, both, Access.check_and]
  have got {m : Memory} {found : Record} (there : m.records.get? (key reference) = some found) :
      Registry.get (key reference) m = (.ok (some found), m) := by
    rw [← there]
    rfl
  have serves (true_ : passes = true) : Serves Implementation reference capability b.registry job :=
    serves_of_check (got there) read (check.trans true_)
  have refuses (false_ : passes = false) : Refuses Implementation reference capability b.registry :=
    refuses_of_check (got there) read (check.trans false_)
  refine ⟨⟨fun served => ?_, serves⟩, ⟨fun refused => ?_, refuses⟩, ?_⟩
  · by_contra fails
    exact served.not_refuses (refuses (Bool.not_eq_true _ ▸ fails))
  · by_contra holds
    exact (serves (Bool.not_eq_false _ ▸ holds)).not_refuses refused
  · intro fails other record' job' there' read' same time time' m m'
    have elsewhere : Refuses Implementation reference capability other :=
      refuses_of_check (got there') read' (by rw [same, check, fails])
    rw [elsewhere.told_eq, (refuses fails).told_eq]

/-- A job for the city, made from a template for planners, whose execution has been cancelled: only
who is both may ask for it. -/
theorem run_admits_planners :
    let access := Access.all [.all [.roles (.ofList ["city"])], .alwaysAllow]
    let next : Act Unit := .attend 0 "ref" default none
    let before : List (Act Unit) := [.join .default,
      .register 0 { sheetDefinition with access := ["planner"] } (.ofList [("draw", ())]) .numbered,
      .submit 0 "print" ∅ access, next, next]
    let after := [.enter 0, step false, step false, .report 0 ⟨"e", .cancelled, ∅, []⟩, step false,
      step false]
    let b := run (before ++ next :: after)
    ∃ job, (Serves Unit "ref" (.user "ada" ["city", "planner"]) b.registry job) ∧
      Refuses Unit "ref" (.user "bob" ["planner"]) b.registry ∧
      Refuses Unit "ref" (.user "eve" ["city"]) b.registry := by
  intro access next before after b
  have called : ((run before).requests[0]?).map (fun call => (call.request, call.access)) =
      some (∅, access) := by decide +kernel
  have accepted : (((run before).filed? next).map
      (fun s => (s.template.access, s.record.access, s.record.reference, s.record.submittedAt))) =
      some (.roles (.ofList ["planner"]), (Access.roles (.ofList ["planner"])).and access, "ref",
        default) := by
    decide +kernel
  obtain ⟨call, asked, parts⟩ := Option.map_eq_some_iff.mp called
  obtain ⟨request, given⟩ := Prod.ext_iff.mp parts
  obtain ⟨s, files, facts⟩ := Option.map_eq_some_iff.mp accepted
  simp only [Prod.mk.injEq] at facts request given
  obtain ⟨own, both, named, begun⟩ := facts
  have printed : (Json.read? s.record.access.encode.compact).bind Access.decode? =
      some s.record.access := by
    rw [both, Access.readBack, if_pos (by decide +kernel)]
  have legible : (default : Instant).IsLegible := by decide
  have timely : ∀ a ∈ after, ∀ t, a.now? = some t → t.IsLegible := by
    simp [after, step, Act.now?, legible]
  obtain ⟨record, job, -, -, admits⟩ := run_admits before after asked files printed
    (by rw [request]; decide) (begun ▸ legible) timely
  rw [named, own, given] at admits
  refine ⟨job, (admits _).1.mpr ?_, (admits _).2.1.mpr ?_, (admits _).2.1.mpr ?_⟩ <;>
    decide +kernel

end Bureau

end Printworks
