import Printworks.Job.Manager
import Printworks.Proofs.Contract.Violations
import Printworks.Proofs.Job.Record
import Printworks.Registry.Memory
import Printworks.Registry.Table

/-!
# Submitting a job

Before anything is written a submission may be refused, for the first of four reasons that holds:
the manager takes no more jobs, it has no such template, the request breaks the contract of the
template, or the job gets no file name. A job that is not refused gets one record and one entry in
the table of jobs, where no other has its reference. In any other case nothing is changed.
-/

namespace Printworks

open Registry JobRecord

universe u

/-! ### Registries that work -/

namespace Registry

/-- The rows of a registry that works: a flat record is written under a key that has no row. -/
structure Ledger (Store : Type) [Registry Store] (Row : Type) where
  rows : Store → Dict Row
  row : Record → Row
  write : String → Record → Store → Store
  rows_write (key : String) (record : Record) (store : Store) :
    rows (write key record store) = (rows store).insert key (row record)
  putIfAbsent_eq (key : String) {record : Record} (flat : record.ensureFlat = .ok ())
    (store : Store) : putIfAbsent key record store =
      if (rows store).contains key then (.ok false, store) else (.ok true, write key record store)

def Memory.ledger : Ledger Memory Record where
  rows := Memory.records
  row := id
  write := Memory.write
  rows_write _ _ _ := rfl
  putIfAbsent_eq _ _ flat _ := by simp only [putIfAbsent, Record.ifFlat, flat]

def Table.ledger : Ledger Table String where
  rows := Table.rows
  row := recordText
  write := Table.write
  rows_write _ _ _ := rfl
  putIfAbsent_eq _ _ flat _ := by simp only [putIfAbsent, Record.ifFlat, flat]

end Registry

/-! ### Refusals -/

namespace Manager

variable {Implementation : Type u} {m : Manager Implementation} {appId reference : String}
  {request : Dict Json} {access : Access} {now : Instant}

/-- Why a submission is refused. Each reason comes after those before it. -/
inductive Refuses (m : Manager Implementation) (appId : String) (request : Dict Json)
    (reference : String) (now : Instant) : SubmitError → Prop where
  | shuttingDown (closed : m.shuttingDown = true) :
    Refuses m appId request reference now .shuttingDown
  | unknownApp (more : m.shuttingDown = false) (unknown : m.templates.get? appId = none) :
    Refuses m appId request reference now (.unknownApp appId)
  /-- All that is wrong with the request is reported. Parameters that are not declared are wrong if
  both the manager and the template say so. -/
  | contract {template : Template Implementation} (more : m.shuttingDown = false)
    (registered : m.templates.get? appId = some template)
    (invalid : (template.attributes.bind request (m.extraParameters template)).isValid = false) :
    Refuses m appId request reference now
      (.contract (template.attributes.bind request (m.extraParameters template)).violations)
  | fileName {template : Template Implementation} {cause : FileName.Error}
    (more : m.shuttingDown = false) (registered : m.templates.get? appId = some template)
    (valid : (template.attributes.bind request (m.extraParameters template)).isValid = true)
    (unnamed : FileName.render template.fileName appId reference now = .error cause) :
    Refuses m appId request reference now (.fileName cause)

/-- The job that a request makes, if it is not refused. -/
structure Drafts (m : Manager Implementation) (appId : String) (request : Dict Json)
    (access : Access) (reference : String) (now : Instant) (s : Submission Implementation) :
    Prop where
  registered : m.templates.get? appId = some s.template
  valid : (s.template.attributes.bind request (m.extraParameters s.template)).isValid = true
  named : FileName.render s.template.fileName appId reference now = .ok s.record.fileName
  record : s.record = .pending reference appId s.record.fileName (s.template.access.and access)
    request.size now

/-- What a submission that is not refused comes to. -/
structure Prepares (m : Manager Implementation) (appId : String) (request : Dict Json)
    (access : Access) (reference : String) (now : Instant) (s : Submission Implementation) :
    Prop extends m.Drafts appId request access reference now s where
  more : m.shuttingDown = false

theorem drafts_of_draft {s : Submission Implementation}
    (drafted : m.draft appId request access reference now = .ok s) :
    m.Drafts appId request access reference now s := by
  unfold draft at drafted
  split at drafted
  next => cases drafted
  next template registered =>
    rw [Binding.toExcept] at drafted
    cases valid : (template.attributes.bind request (m.extraParameters template)).isValid with
    | false => simp [valid] at drafted
    | true =>
      simp only [valid, if_true] at drafted
      split at drafted
      next => cases drafted
      next named =>
        cases drafted
        exact ⟨registered, valid, named, rfl⟩

/-- A submission is refused for a reason, or it comes to a job. -/
theorem prepare_cases (m : Manager Implementation) (appId : String) (request : Dict Json)
    (access : Access) (reference : String) (now : Instant) :
    (∃ e, m.prepare appId request access reference now = .error e ∧
      m.Refuses appId request reference now e) ∨
    ∃ s, m.prepare appId request access reference now = .ok s ∧
      m.Prepares appId request access reference now s := by
  unfold prepare
  -- The checks are made in the order of the reasons, so that each finds those before it passed.
  split
  next closed => exact .inl ⟨_, rfl, .shuttingDown closed⟩
  next more =>
    rw [Bool.not_eq_true] at more
    unfold draft
    split
    next unknown => exact .inl ⟨_, rfl, .unknownApp more unknown⟩
    next template registered =>
      rw [Binding.toExcept]
      cases valid : (template.attributes.bind request (m.extraParameters template)).isValid with
      | false => exact .inl ⟨_, rfl, .contract more registered valid⟩
      | true =>
        cases named : FileName.render template.fileName appId reference now with
        | error cause => exact .inl ⟨_, rfl, .fileName more registered valid named⟩
        | ok fileName => exact .inr ⟨_, rfl, ⟨registered, valid, named, rfl⟩, more⟩

theorem prepare_of_refuses {e : SubmitError} (refuses : m.Refuses appId request reference now e) :
    m.prepare appId request access reference now = .error e := by
  cases refuses with
  | shuttingDown closed => simp [prepare, closed]
  | unknownApp more unknown => simp [prepare, draft, more, unknown]
  | contract more registered invalid =>
    simp [prepare, draft, more, registered, Binding.toExcept, invalid]
  | fileName more registered valid unnamed =>
    simp [prepare, draft, more, registered, Binding.toExcept, valid, unnamed]

theorem prepares_of_prepare {s : Submission Implementation}
    (prepared : m.prepare appId request access reference now = .ok s) :
    m.Prepares appId request access reference now s := by
  unfold prepare at prepared
  split at prepared
  next => cases prepared
  next more => exact ⟨drafts_of_draft prepared, Bool.not_eq_true _ ▸ more⟩

/-! ### Acceptance -/

section

variable {Store Row : Type} [Registry Store]

/-- A job is taken if there is no record of its reference, and only then. -/
theorem accept_eq (ledger : Ledger Store Row) (m : Manager Implementation)
    (s : Submission Implementation) (store : Store) : m.accept s store =
      if (ledger.rows store).contains (key s.record.reference) then
        (.error (.duplicateReference s.record.reference), m, store)
      else (.ok (), m.enter s.record.reference,
        ledger.write (key s.record.reference) s.record.toRecord store) := by
  -- The record of a job is flat, so that the registry has no reason to fail.
  have flat := s.record.isExact_toRecord.ensureFlat
  simp only [accept, file, ledger.putIfAbsent_eq _ flat]
  cases (ledger.rows store).contains (key s.record.reference) <;> rfl

theorem Prepares.submit_eq {s : Submission Implementation}
    (prepares : m.Prepares appId request access reference now s)
    (prepared : m.prepare appId request access reference now = .ok s) (ledger : Ledger Store Row)
    (store : Store) : m.submit appId request access reference now store =
      if (ledger.rows store).contains (key reference) then
        (.error (.duplicateReference reference), m, store)
      else (.ok s, { m with jobs := m.jobs.insert reference false },
        ledger.write (key reference) s.record.toRecord store) := by
  have own : s.record.reference = reference := by rw [prepares.record, pending]
  simp only [submit, prepared, accept_eq ledger, own, enter, prepares.more]
  cases (ledger.rows store).contains (key reference) <;> rfl

/-- The record of a job that has just been taken is that of a waiting job, and holds the number of
all parameters. -/
theorem Prepares.fields {s : Submission Implementation}
    (prepares : m.Prepares appId request access reference now s) :
    s.record.toRecord.get? "running" = some (.bool false) ∧
      s.record.toRecord.get? "requestCount" = some (.int request.size) ∧
      s.record.toRecord.get? "completionDate" = none := by
  rw [prepares.record]
  refine ⟨get?_of_mem_fields ?_, get?_of_mem_fields ?_, ?_⟩
  · simp [JobRecord.fields, pending, stateFields]
  · simp [JobRecord.fields, pending, terms]
  · rw [get?_toRecord, Entries.find?_eq_none]
    simp [JobRecord.fields, pending, terms, stateFields]

/-- A submission is refused for the first reason there is, with all that is wrong with the request if
it is that, and changes nothing then. Otherwise it writes the record of a waiting job and adds the job
to the table, unless there is a record of the reference, in which case it changes nothing either. -/
theorem submit_all_or_nothing (ledger : Ledger Store Row) (m : Manager Implementation)
    (appId : String) (request : Dict Json) (access : Access) (reference : String) (now : Instant)
    (store : Store) :
    let submitted := m.submit appId request access reference now store
    (∀ e, m.Refuses appId request reference now e → submitted = (.error e, m, store)) ∧
    (∀ template violations, m.Refuses appId request reference now (.contract violations) →
      m.templates.get? appId = some template → template.attributes.Distinct →
      ∀ v, v ∈ violations ↔ template.attributes.Breaks request (m.extraParameters template) v) ∧
    ((¬ ∃ e, m.Refuses appId request reference now e) →
      ((ledger.rows store).contains (key reference) = true →
        submitted = (.error (.duplicateReference reference), m, store)) ∧
      ((ledger.rows store).contains (key reference) = false → ∃ s store',
        submitted = (.ok s, { m with jobs := m.jobs.insert reference false }, store') ∧
        ledger.rows store' =
          (ledger.rows store).insert (key reference) (ledger.row s.record.toRecord) ∧
        m.Prepares appId request access reference now s ∧
        s.record.toRecord.get? "running" = some (.bool false) ∧
        s.record.toRecord.get? "requestCount" = some (.int request.size) ∧
        s.record.toRecord.get? "completionDate" = none)) := by
  intro submitted
  refine ⟨?_, ?_, ?_⟩
  · intro e refuses
    simp only [submitted, submit, prepare_of_refuses refuses]
  · intro template violations refuses registered distinct v
    cases refuses with
    | contract more there invalid =>
      cases there.symm.trans registered
      exact Contract.mem_violations_iff distinct
  · intro none
    rcases m.prepare_cases appId request access reference now with
      ⟨e, -, refuses⟩ | ⟨s, prepared, prepares⟩
    · exact absurd ⟨e, refuses⟩ none
    · have answer : submitted = _ := prepares.submit_eq prepared ledger store
      refine ⟨fun known => ?_, fun new => ?_⟩
      · rw [answer, if_pos known]
      · refine ⟨s, ledger.write (key reference) s.record.toRecord store, ?_, ?_, prepares,
          prepares.fields⟩
        · rw [answer, new]
          rfl
        · exact ledger.rows_write _ _ _

/-- A request with two parameters that are not declared, one of which is null: a strict manager refuses
both, and a lenient one counts them. -/
theorem submit_all_or_nothing_extra :
    let template : Template Unit := ⟨"print", .ofSlots [.plain "title" .string .required],
      ⟨default, [], rfl⟩, 0, "sheet", "plan", .alwaysAllow, none, .reject⟩
    let strict : Manager Unit := ⟨.default, .ofList [("print", template)], ∅, ∅, false⟩
    let lenient : Manager Unit := { strict with config := ⟨none, false⟩ }
    let request : Dict Json := .ofList [("title", .text "Alps"), ("note", .null), ("scale", .int 3)]
    strict.submit "print" request .alwaysAllow "ref" default Table.empty =
        (.error (.contract [.unexpected "note", .unexpected "scale"]), strict, Table.empty) ∧
      ∃ s table, lenient.submit "print" request .alwaysAllow "ref" default Table.empty =
          (.ok s, { lenient with jobs := .ofList [("ref", false)] }, table) ∧
        s.record.requestCount = 3 ∧ table.rows.keys = [key "ref"] := by
  intro template strict lenient request
  have registered : strict.templates.get? "print" = some template := rfl
  have violations : (template.attributes.bind request .reject).violations =
      [.unexpected "note", .unexpected "scale"] := by decide +kernel
  have invalid : (template.attributes.bind request .reject).isValid = false := by
    rw [Binding.isValid, violations]
    rfl
  obtain ⟨refused, -, -⟩ :=
    submit_all_or_nothing Table.ledger strict "print" request .alwaysAllow "ref" default Table.empty
  obtain ⟨-, -, taken⟩ :=
    submit_all_or_nothing Table.ledger lenient "print" request .alwaysAllow "ref" default Table.empty
  refine ⟨?_, ?_⟩
  · rw [← violations]
    exact refused _ (.contract rfl registered invalid)
  · have prepared : ((lenient.prepare "print" request .alwaysAllow "ref" default).toOption.map
        (·.record.fileName)) = some "plan" := by decide +kernel
    have none : ¬ ∃ e, lenient.Refuses "print" request "ref" default e := by
      rintro ⟨e, refuses⟩
      rw [prepare_of_refuses refuses] at prepared
      cases prepared
    obtain ⟨s, table, answer, rows, prepares, -⟩ := (taken none).2 rfl
    refine ⟨s, table, answer, ?_, ?_⟩
    · rw [prepares.record]
      rfl
    · have rows : table.rows = _ := rows
      rw [rows]
      rfl

end

end Manager

end Printworks
