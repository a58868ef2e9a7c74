import Printworks.Proofs.Execution.Cancellation
import Printworks.Proofs.Execution.Ending
import Printworks.Proofs.Job.Persistence
import Printworks.Proofs.Job.RoundTrip

/-!
# What is read of a job that has ended

The stored form has no place for a failure with the reserved error, which would be read as a
cancellation. No result of a job is such a failure, so that whatever the task of a job writes, those
who poll the job read the same. An execution that says that it has failed has not been cancelled, and
one that nobody has cancelled fails only if one of its stages does: the error begins with that stage.
-/

namespace Printworks

open Registry JobRecord

/-! ### What is said of a failure -/

namespace ExecutionReport

/-- The stages that failed. -/
def failed (r : ExecutionReport) : List StageReport := r.stages.filter (fun s => s.state == .failed)

/-- A sentence for each stage that failed, with its error, and the names of the stages that were
skipped. -/
def failureSentence (r : ExecutionReport) : String :=
  "; ".intercalate (r.failed.map (fun s => "stage '" ++ s.stage ++ "' failed: " ++ s.error.getD "")) ++
    if r.stagesIn .skipped = [] then ""
    else " (skipped: " ++ ", ".intercalate (r.stagesIn .skipped) ++ ")"

/-- Whether a report tells of a stage that failed, and of each one that did, why. -/
structure TellsFailure (r : ExecutionReport) : Prop where
  nonempty : r.failed ≠ []
  errors : ∀ s ∈ r.failed, ∃ error : StageError, s.error = some error.message

/-- There is something said of the failures, so that a blank stands before the stages that were
skipped. -/
theorem TellsFailure.stageDetail_eq {r : ExecutionReport} (tells : r.TellsFailure) :
    r.stageDetail = r.failureSentence := by
  have said : ("; ".intercalate (r.failed.map failureText)).isEmpty = false := by
    obtain ⟨s, rest, first⟩ := List.exists_cons_of_ne_nil tells.nonempty
    have begins := head?_failures s rest
    rw [← first] at begins
    rw [← Bool.not_eq_true, String.isEmpty_iff]
    intro empty
    rw [empty] at begins
    cases begins
  -- No stage fails without an error, so that nothing is put in its place.
  have sentences : r.failed.map failureText =
      r.failed.map (fun s => "stage '" ++ s.stage ++ "' failed: " ++ s.error.getD "") := by
    refine List.map_congr_left (fun s member => ?_)
    obtain ⟨error, reason⟩ := tells.errors s member
    rw [failureText, reason, Option.getD_some, Option.getD_some]
  have gap : " " ++ "(skipped: " = " (skipped: " := by decide
  rw [failureSentence, ← sentences]
  rw [failed] at said ⊢
  simp only [stageDetail, said, List.isEmpty_iff]
  split
  next => rw [String.append_empty]
  next => rw [← gap]; simp only [Bool.false_eq_true, if_false, String.append_assoc]

end ExecutionReport

/-! ### How executions fail -/

/-- An execution that has ended by itself and is not completed has a stage to blame for it. -/
theorem Execution.EndsByItself.tellsFailure {graph : Graph} {before after : Execution}
    (ends : EndsByItself graph before after) (incomplete : after.report.outcome ≠ .completed) :
    after.report.TellsFailure := by
  constructor
  · obtain ⟨-, r, member, state⟩ := ends.failed incomplete
    exact List.ne_nil_of_mem (List.mem_filter.mpr ⟨member, by simp [state]⟩)
  · intro r member
    obtain ⟨inside, state⟩ := List.mem_filter.mp member
    obtain ⟨error, reason, -⟩ := ends.errors r inside (by simpa using state)
    exact ⟨error, reason⟩

namespace Shift

variable {stages : List StageSpec} {attributes : Contract} {given : Suffixes} {graph : Graph}

/-- An execution that says that it has failed has not been told to stop, and so has ended by itself. -/
theorem endsByItself_of_failed (accepted : graph.Accepts stages attributes given)
    (config : ExecutorConfig) (id : String) (seed : Dict Value) (suffixes : Suffixes)
    (moves : List Move)
    (finished : ((start config id graph seed suffixes).run moves).place = .finished)
    (failed : ((start config id graph seed suffixes).run moves).concluded.report.outcome = .failed) :
    let s := (start config id graph seed suffixes).run moves
    s.execution.EndsByItself graph s.concluded := by
  intro s
  have begins := isSteady_start accepted.isSound config id seed suffixes
  have steady : s.IsSteady := begins.run moves
  have told : s.execution.IsTold := isTold_run accepted.isSound config id seed suffixes moves
  have sameGraph : s.execution.graph = graph := graph_run accepted.isSound config id seed suffixes moves
  -- A signal would have made it a cancelled one, be it heard in time or at the very end.
  have quiet : s.execution.cancelled = false ∧ s.signalled = false := by
    rw [← Bool.or_eq_false_iff, ← Bool.not_eq_true, ← Execution.outcome_conclude]
    intro cancelled
    cases failed.symm.trans cancelled
  obtain ⟨none, idle⟩ : s.execution.inFlight = [] ∧ s.execution.ready = [] := by
    simpa [Execution.isOver, Execution.canDispatch, quiet.1] using steady.finished finished
  rw [concluded, quiet.2, ← sameGraph]
  exact Execution.conclude_endsByItself steady.consistent told quiet.1 none idle

end Shift

/-! ### What is read -/

namespace JobRecord

variable {reference : String} {raw : Record} {current : JobRecord} {s : JobState} {now : Instant}

/-- A job that has been read and completed is read with the state that it was completed with, unless
that is the reserved failure. Of the time the milliseconds are left. -/
theorem ofRecord_completed (read : ofRecord reference raw = .ok current) (legible : now.IsLegible)
    (final : s.isTerminal = true) (kept : recorded s = s) :
    ofRecord reference (current.completed s now).toRecord =
      .ok (current.completed s (.ofMillis now.millis)) := by
  have storable := isStorable_of_ofRecord read
  have named : current.reference = reference := (isRead_of_ofRecord read).reference
  -- The stored form is that of the same job at a whole number of milliseconds.
  have same : (current.completed s now).toRecord =
      (current.completed s (.ofMillis now.millis)).toRecord := by
    simp only [toRecord, fields, terms, completed, Option.map_some, Instant.millis_ofMillis]
  have again : (current.completed s (.ofMillis now.millis)).IsStorable := by
    refine ⟨final.symm, storable.submitted, ?_, ?_⟩
    · rintro t completed
      cases completed
      exact ⟨now.millis, if_pos legible⟩
    · rintro reserved
      have reserved : s = .failure cancelledError := reserved
      rw [reserved, recorded, if_pos rfl] at kept
      cases kept
  have counted : current.requestCount < UInt64.size := requestCount_of_ofRecord read
  have printed : (Json.read? current.access.encode.compact).bind Access.decode? =
      some current.access := access_of_ofRecord read
  rw [same, ← named]
  exact again.ofRecord_toRecord counted printed

end JobRecord

namespace JobState

/-- The states that are recorded for a job whose execution has ended: what the report says, or that it
could not be recorded. -/
inductive IsResult (slot : String) (report : ExecutionReport) : JobState → Prop where
  | reported : IsResult slot report (ofReport slot report)
  | unrecorded (cause : JobError) : IsResult slot report (Task.fallbackState cause)

variable {slot : String} {report : ExecutionReport} {s : JobState}

theorem IsResult.isTerminal (result : s.IsResult slot report) : s.isTerminal = true := by
  cases result with
  | reported => exact isTerminal_ofReport slot report
  | unrecorded cause => rfl

theorem IsResult.recorded (result : s.IsResult slot report) : JobRecord.recorded s = s := by
  cases result with
  | reported => exact recorded_ofReport slot report
  | unrecorded cause => exact Task.recorded_fallbackState cause

theorem ofReport_of_failed (outcome : report.outcome = .failed) (tells : report.TellsFailure) :
    ofReport slot report = .failure report.failureSentence := by
  have summary : report.failureSummary = some report.failureSentence := by
    rw [ExecutionReport.failureSummary, outcome, ← tells.stageDetail_eq]
  simp only [ofReport, outcome, summary, Option.getD_some]

/-- Whatever the task of a job writes when the execution of its graph is over, the record of the job is
read with that very state, by whoever asks for it. If the execution says that it has failed, some stage
has, and the error names each stage that has with its error and each that has been skipped, in the
order in which they were declared. -/
theorem result_reads_back {stages : List StageSpec} {attributes : Contract} {given : Suffixes}
    {graph : Graph} (accepted : graph.Accepts stages attributes given) (config : ExecutorConfig)
    (id : String) (seed : Dict Value) (suffixes : Suffixes) (moves : List Move)
    (finished : ((Shift.start config id graph seed suffixes).run moves).place = .finished)
    (slot : String) :
    let report := ((Shift.start config id graph seed suffixes).run moves).concluded.report
    (∀ s, s.IsResult slot report → ∀ reference raw current now,
      ofRecord reference raw = .ok current → now.IsLegible →
      let written := (current.completed s now).toRecord
      ofRecord reference written = .ok (current.completed s (.ofMillis now.millis)) ∧
      ∀ (Store : Type) [Registry Store] (store : Store),
        Registry.get (key reference) store = (.ok (some written), store) →
        ∀ capability time, current.access.check capability = true → ∃ status,
          JobRecord.poll reference capability time store = (.ok status, store) ∧ status.state = s) ∧
    report.stages.map (·.stage) = stages.map (·.name) ∧
    (report.outcome = .failed → report.TellsFailure ∧
      ofReport slot report = .failure report.failureSentence) := by
  intro report
  refine ⟨?_, ?_, ?_⟩
  · intro s result reference raw current now read legible written
    have again := ofRecord_completed read legible result.isTerminal result.recorded
    refine ⟨again, fun Store _ store got capability time passes => ?_⟩
    have served : JobRecord.Serves Unit reference capability store _ :=
      serves_of_check got again passes
    exact ⟨_, served.poll time, rfl⟩
  · have names := (Shift.comesToRest_run accepted config id seed suffixes moves finished).stages
    rw [← accepted.checked.map_stages (·.name) (fun _ _ => rfl)]
    exact names
  · intro outcome
    have ends := Shift.endsByItself_of_failed accepted config id seed suffixes moves finished outcome
    have tells : report.TellsFailure := ends.tellsFailure (by rw [outcome]; nofun)
    exact ⟨tells, ofReport_of_failed outcome tells⟩

/-- The first of two stages fails with an error that is reserved, and the second is skipped. -/
theorem result_reads_back_pair :
    let moves : List Move := [.look, .start default, .rest, .enter 0, .enter 0,
      .deliver 0 ⟨[], some (.failed "cancelled")⟩, .settle 0 default, .look, .rest]
    let s := (Shift.start ⟨1⟩ "e" .pair (.ofList [("title", .string "Map")]) .numbered).run moves
    let state := ofReport "sheet" s.concluded.report
    let submitted := JobRecord.pending "ref" "print" "print" .alwaysAllow 0 default
    Graph.pair.Accepts Graph.pairStages Graph.pairAttributes .numbered ∧ s.place = .finished ∧
      state = .failure "stage 'draw' failed: cancelled (skipped: bind)" ∧
      ofRecord "ref" submitted.toRecord = .ok submitted ∧ (default : Instant).IsLegible ∧
      ofRecord "ref" (submitted.completed state default).toRecord =
        .ok (submitted.completed state (.ofMillis 0)) := by
  intro moves s state submitted
  have finished : s.place = .finished := by decide
  obtain ⟨readsBack, -, failure⟩ := result_reads_back Graph.pair_accepted ⟨1⟩ "e"
    (.ofList [("title", .string "Map")]) .numbered moves finished "sheet"
  obtain ⟨-, error⟩ := failure (by decide)
  have read : ofRecord "ref" submitted.toRecord = .ok submitted := by decide +kernel
  have legible : (default : Instant).IsLegible := by decide
  obtain ⟨again, -⟩ :=
    readsBack state .reported "ref" submitted.toRecord submitted default read legible
  have text : s.concluded.report.failureSentence =
      "stage 'draw' failed: cancelled (skipped: bind)" := by decide +kernel
  rw [text] at error
  exact ⟨Graph.pair_accepted, finished, error, read, legible, again⟩

end JobState

end Printworks
