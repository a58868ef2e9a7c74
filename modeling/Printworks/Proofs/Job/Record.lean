import Printworks.Job.Record
import Printworks.Proofs.Access
import Printworks.Proofs.Registry.Record

/-!
# Records of jobs and their stored forms

A job that is read from the stored form of a record has the terms of that record, and its state as
far as the form can tell. Nothing is said about whether it can be read: an assertion that is nested
too deep, an instant outside of the calendar and a count of more than 64 bits cannot.
-/

namespace Printworks.JobRecord

/-- The names of the fields that are written once. -/
def termNames : List String := ["appId", "fileName", "startDate", "requestCount", "access"]

/-- Whether two stored records have the same terms. -/
def SameTerms (a b : Record) : Prop := ∀ name ∈ termNames, a.get? name = b.get? name

/-- The state that a stored record is in, whatever its other fields hold. -/
def storedState (record : Record) : Except String JobState :=
  readState record (present? record "completionDate").isSome

/-- Whether a stored record is in a final state. -/
def IsFinal (record : Record) : Prop := ∃ s, storedState record = .ok s ∧ s.isTerminal = true

theorem IsFinal.not_pending {record : Record} (final : IsFinal record) (running : Bool) :
    storedState record ≠ .ok (.pending running) := by
  obtain ⟨s, state, terminal⟩ := final
  intro pending
  rw [state] at pending
  cases pending
  cases terminal

/-- Whether a record has a completion date exactly if its state is final. -/
def IsSettled (r : JobRecord) : Prop := r.completedAt.isSome = r.isTerminal

theorem fields_distinct (r : JobRecord) : (r.fields.map (·.1)).Nodup := by
  obtain ⟨_, _, _, _, completedAt, _, _, state⟩ := r
  rcases completedAt with - | t <;> rcases state with running | ⟨location, - | kind⟩ | error | - <;>
    simp [fields, terms, stateFields]

theorem get?_toRecord (r : JobRecord) (name : String) :
    r.toRecord.get? name = Entries.find? r.fields name :=
  Dict.get?_ofList r.fields_distinct name

theorem get?_of_mem_fields {r : JobRecord} {name : String} {j : Json} (h : (name, j) ∈ r.fields) :
    r.toRecord.get? name = some j := by
  rw [get?_toRecord]
  exact Entries.find?_of_mem r.fields_distinct h

private theorem isExact_stateFields (s : JobState) : ∀ e ∈ stateFields s, e.2.IsExact := by
  cases s with
  | pending running => simp [stateFields, Json.IsExact]
  | success artifact => cases eq : artifact.contentType <;> simp [stateFields, eq, Json.IsExact]
  | failure error => simp [stateFields, Json.IsExact]
  | cancelled => simp [stateFields, Json.IsExact]

private theorem isExact_fields (r : JobRecord) : ∀ e ∈ r.fields, e.2.IsExact := by
  intro e member
  rcases List.mem_append.mp member with member | state
  · rcases List.mem_append.mp member with term | completion
    · simp only [terms, List.mem_cons, List.not_mem_nil, or_false] at term
      rcases term with rfl | rfl | rfl | rfl | rfl <;> trivial
    · simp only [Option.mem_toList, Option.map_eq_some_iff] at completion
      obtain ⟨_, _, rfl⟩ := completion
      trivial
  · exact isExact_stateFields r.state e state

theorem isExact_toRecord (r : JobRecord) : r.toRecord.IsExact := by
  intro e member
  have found := (r.get?_toRecord e.1).symm.trans (Dict.mem_toList.mp member)
  exact r.isExact_fields e (Entries.mem_of_find? found)

/-! ### States -/

/-- What the stored form keeps of a state. -/
def recorded (s : JobState) : JobState :=
  match s with
  | .failure error => if error = cancelledError then .cancelled else .failure error
  | s => s

theorem isTerminal_recorded (s : JobState) : (recorded s).isTerminal = s.isTerminal := by
  cases s with
  | failure error =>
    simp only [recorded]
    split <;> rfl
  | _ => rfl

private theorem find?_terms {r : JobRecord} {name : String} (other : name ∉ termNames) :
    Entries.find? r.terms name = none := by
  refine Entries.find?_eq_none.mpr ?_
  rintro e member rfl
  exact other (List.mem_map_of_mem (f := Prod.fst) member)

private theorem find?_stateFields (s : JobState) :
    Entries.find? (stateFields s) "completionDate" = none := by
  cases s with
  | pending running => simp [stateFields, Entries.find?]
  | success artifact => cases eq : artifact.contentType <;> simp [stateFields, eq, Entries.find?]
  | failure error => simp [stateFields, Entries.find?]
  | cancelled => simp [stateFields, Entries.find?]

/-- No field of a stored record is null. -/
theorem present?_toRecord (r : JobRecord) (name : String) :
    present? r.toRecord name = Entries.find? r.fields name := by
  rw [present?, get?_toRecord]
  split
  -- An exact value is not null.
  next null => exact (r.isExact_fields _ (Entries.mem_of_find? null)).elim
  next => rfl

theorem present?_completionDate (r : JobRecord) :
    present? r.toRecord "completionDate" = r.completedAt.map (fun t => Json.int t.millis) := by
  rw [present?_toRecord, fields, Entries.find?_append, Entries.find?_append,
    find?_terms (by decide), find?_stateFields]
  cases r.completedAt with
  | none => rfl
  | some t => rfl

theorem present?_state (r : JobRecord) (name : String) (noTerm : name ∉ termNames)
    (noDate : "completionDate" ≠ name) :
    present? r.toRecord name = Entries.find? (stateFields r.state) name := by
  have date : Entries.find?
      (r.completedAt.map (fun t => ("completionDate", Json.int t.millis))).toList name = none := by
    cases r.completedAt with
    | none => rfl
    | some t => simp [Entries.find?, noDate]
  rw [present?_toRecord, fields, Entries.find?_append, Entries.find?_append, find?_terms noTerm,
    date, Option.none_or, Option.none_or]

/-- The state of a stored record is the one of the job, but for a failure with the reserved
error. -/
theorem storedState_toRecord {r : JobRecord} (settled : r.IsSettled) :
    storedState r.toRecord = .ok (recorded r.state) := by
  rw [storedState, present?_completionDate, Option.isSome_map, settled, isTerminal]
  -- Of the fields that the reader asks for, none is a term, so the state alone decides which are
  -- there.
  have success := r.present?_state "success" (by decide) (by decide)
  have artifact := r.present?_state "artifact" (by decide) (by decide)
  have kind := r.present?_state "contentType" (by decide) (by decide)
  have error := r.present?_state "error" (by decide) (by decide)
  have running := r.present?_state "running" (by decide) (by decide)
  cases eq : r.state with
  | pending b =>
    simp [eq, stateFields, Entries.find?] at running
    simp [readState, JobState.isTerminal, optional, running, recorded, Json.bool?]
  | success a =>
    obtain ⟨location, contentType⟩ := a
    cases contentType with
    | none =>
      simp [eq, stateFields, Entries.find?] at success artifact kind
      simp [readState, JobState.isTerminal, optional, required, requiredText, success, artifact, kind,
        recorded, Json.bool?, Json.text?]
      rfl
    | some t =>
      simp [eq, stateFields, Entries.find?] at success artifact kind
      simp [readState, JobState.isTerminal, optional, required, requiredText, success, artifact, kind,
        recorded, Json.bool?, Json.text?]
      rfl
  | failure e =>
    simp [eq, stateFields, Entries.find?] at success error
    simp [readState, JobState.isTerminal, optional, success, error, recorded, Json.bool?, Json.text?]
    rfl
  | cancelled =>
    simp [eq, stateFields, Entries.find?] at success error
    simp [readState, JobState.isTerminal, optional, success, error, recorded, Json.bool?, Json.text?]
    rfl

/-! ### Reading -/

theorem bind_ok {α β : Type} {x : Except String α} {f : α → Except String β} {b : β}
    (h : (x >>= f) = .ok b) : ∃ a, x = .ok a ∧ f a = .ok b := by
  cases x with
  | error e => cases h
  | ok a => exact ⟨a, rfl, h⟩

/-- What has been read from a record, field by field. -/
structure IsRead (reference : String) (record : Record) (job : JobRecord) : Prop where
  reference : job.reference = reference
  access : readAccess record = .ok job.access
  completedAt : optional record "completionDate" readMillis? "a timestamp" = .ok job.completedAt
  state : readState record job.completedAt.isSome = .ok job.state
  appId : requiredText record "appId" = .ok job.appId
  fileName : requiredText record "fileName" = .ok job.fileName
  submittedAt : required record "startDate" readMillis? "a timestamp" = .ok job.submittedAt
  requestCount : ∃ count, optional record "requestCount" Json.nat? "a count" = .ok count ∧
    count.getD 0 = job.requestCount

theorem isRead_of_ofRecord {reference : String} {record : Record} {job : JobRecord}
    (h : ofRecord reference record = .ok job) : IsRead reference record job := by
  have fields : readFields reference record = .ok job := by
    rw [ofRecord] at h
    split at h
    next job' fields => cases h; exact fields
    next => cases h
  -- The fields are read in this order, and the first error would have ended the reading.
  obtain ⟨access, hAccess, fields⟩ := bind_ok fields
  obtain ⟨completedAt, hCompletedAt, fields⟩ := bind_ok fields
  obtain ⟨state, hState, fields⟩ := bind_ok fields
  obtain ⟨appId, hAppId, fields⟩ := bind_ok fields
  obtain ⟨fileName, hFileName, fields⟩ := bind_ok fields
  obtain ⟨submittedAt, hSubmittedAt, fields⟩ := bind_ok fields
  obtain ⟨requestCount, hRequestCount, fields⟩ := bind_ok fields
  cases fields
  exact ⟨rfl, hAccess, hCompletedAt, hState, hAppId, hFileName, hSubmittedAt, _, hRequestCount, rfl⟩

theorem optional_some {α : Type} {record : Record} {name : String} {read : Json → Option α}
    {what : String} {j : Json} {a : Option α} (found : present? record name = some j)
    (h : optional record name read what = .ok a) : ∃ b, a = some b ∧ read j = some b := by
  simp only [optional, found] at h
  cases eq : read j with
  | none => simp [eq] at h
  | some b =>
    simp only [eq, Except.ok.injEq] at h
    exact ⟨b, h.symm, rfl⟩

theorem required_some {α : Type} {record : Record} {name : String} {read : Json → Option α}
    {what : String} {j : Json} {a : α} (found : present? record name = some j)
    (h : required record name read what = .ok a) : read j = some a := by
  rw [required] at h
  split at h
  next => cases h
  next => cases h
  next b eq =>
    cases h
    obtain ⟨c, eq, read⟩ := optional_some found eq
    cases eq
    exact read

theorem optional_of_read {α : Type} {record : Record} {name : String} {read : Json → Option α}
    {what : String} {j : Json} {a : α} (found : present? record name = some j)
    (h : read j = some a) : optional record name read what = .ok (some a) := by
  simp only [optional, found, h]

theorem required_of_read {α : Type} {record : Record} {name : String} {read : Json → Option α}
    {what : String} {j : Json} {a : α} (found : present? record name = some j)
    (h : read j = some a) : required record name read what = .ok a := by
  simp only [required, optional_of_read found h]

theorem millis_of_readMillis? {n : Int} {t : Instant} (h : readMillis? (.int n) = some t) :
    t.millis = n := by
  simp only [readMillis?, Json.int, Json.int?, Json.word?] at h
  split at h
  next range =>
    simp only [Option.bind_some, Instant.ofMillis?] at h
    have low : -2 ^ 63 ≤ n := range.1
    have high : n ≤ 2 ^ 63 - 1 := range.2
    -- The number fits in 64 bits, so the conversion loses nothing.
    rw [Int64.toInt_ofInt_of_le low (by omega)] at h
    split at h
    next =>
      cases h
      simp only [Instant.millis, Instant.ofMillis, Instant.milliNanos]
      omega
    next => cases h
  next => cases h

theorem count_of_nat? {n m : Nat} (h : Json.nat? (.int n) = some m) : m = n := by
  simp only [Json.nat?, Json.int] at h
  split at h
  next =>
    cases h
    simp
  next => cases h

theorem present?_of_mem_terms {r : JobRecord} {name : String} {j : Json} (h : (name, j) ∈ r.terms) :
    present? r.toRecord name = some j := by
  rw [present?_toRecord]
  exact Entries.find?_of_mem r.fields_distinct
    (List.mem_append_left _ (List.mem_append_left _ h))

/-- The assertion in a stored record reads back unless it is nested too deep. -/
theorem readAccess_toRecord (r : JobRecord) : readAccess r.toRecord =
    if r.access.encode.nesting ≤ Json.depthLimit then .ok r.access
    else .error "field 'access': not an assertion" := by
  have found : present? r.toRecord "access" = some (.text r.access.encode.compact) :=
    present?_of_mem_terms (by simp [terms])
  have text : requiredText r.toRecord "access" = .ok r.access.encode.compact := by
    simp only [requiredText, required, optional, found, Json.text?]
  simp only [readAccess, text, bind, Except.bind]
  rw [Access.readBack]
  by_cases room : r.access.encode.nesting ≤ Json.depthLimit
  · simp only [if_pos room]
    rfl
  · simp only [if_neg room]

theorem access_of_readAccess {r : JobRecord} {a : Access} (h : readAccess r.toRecord = .ok a) :
    a = r.access := by
  rw [readAccess_toRecord] at h
  split at h
  next => exact (Except.ok.inj h).symm
  next => cases h

/-- A job that is read from a stored record has the terms of that record. -/
theorem terms_of_ofRecord {reference : String} {r job : JobRecord}
    (h : ofRecord reference r.toRecord = .ok job) : job.terms = r.terms := by
  have read := isRead_of_ofRecord h
  have appId := required_some
    (present?_of_mem_terms (r := r) (j := .text r.appId) (by simp [terms])) read.appId
  have fileName := required_some
    (present?_of_mem_terms (r := r) (j := .text r.fileName) (by simp [terms])) read.fileName
  have submittedAt := required_some
    (present?_of_mem_terms (r := r) (j := .int r.submittedAt.millis) (by simp [terms]))
    read.submittedAt
  obtain ⟨count, given, same⟩ := read.requestCount
  obtain ⟨n, rfl, requestCount⟩ := optional_some
    (present?_of_mem_terms (r := r) (j := .int r.requestCount) (by simp [terms])) given
  have sameApp : r.appId = job.appId := by simpa [Json.text?] using appId
  have sameName : r.fileName = job.fileName := by simpa [Json.text?] using fileName
  have sameCount : n = r.requestCount := count_of_nat? requestCount
  rw [Option.getD_some] at same
  simp only [terms, sameApp, sameName, ← same, sameCount, millis_of_readMillis? submittedAt,
    access_of_readAccess read.access]

/-- A job that is read from a stored record has its state. -/
theorem storedState_of_ofRecord {reference : String} {record : Record} {job : JobRecord}
    (h : ofRecord reference record = .ok job) : storedState record = .ok job.state := by
  have read := isRead_of_ofRecord h
  have completed : (present? record "completionDate").isSome = job.completedAt.isSome := by
    have completedAt := read.completedAt
    cases eq : present? record "completionDate" with
    | none => simp [optional, eq] at completedAt; simp [← completedAt]
    | some j =>
      obtain ⟨t, some_, -⟩ := optional_some eq completedAt
      simp [some_]
  rw [storedState, completed, read.state]

/-- A job can be read if each of its fields can. -/
theorem ofRecord_of_isRead {reference : String} {record : Record} {job : JobRecord}
    (h : IsRead reference record job) : ofRecord reference record = .ok job := by
  obtain ⟨count, given, same⟩ := h.requestCount
  have fields : readFields reference record = .ok job := by
    obtain ⟨reference', appId, fileName, submittedAt, completedAt, requestCount, access, state⟩ := job
    obtain rfl : reference' = reference := h.reference
    obtain rfl : count.getD 0 = requestCount := same
    have read : readState record completedAt.isSome = .ok state := h.state
    simp only [readFields, h.access, h.completedAt, h.appId, h.fileName, h.submittedAt, given]
    change (readState record completedAt.isSome >>= _) = _
    rw [read]
    rfl
  rw [ofRecord, fields]

end Printworks.JobRecord
