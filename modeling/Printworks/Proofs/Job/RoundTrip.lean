import Printworks.Proofs.Access
import Printworks.Proofs.Job.Admission
import Printworks.Proofs.Json.Nesting

/-!
# Storing records of jobs and reading them back

The stored form of a record tells its state by which fields are there, its dates in milliseconds and its
assertion by a text. What has been read from such a form, even from one that others have written, can be
stored and read again without loss: brackets in the text of an assertion are nested no deeper than in
the text that it has been read from.
-/

namespace Printworks

/-! ### Assertions -/

namespace Access

open Json

theorem nestingItems_texts (items : List String) : nestingItems (items.map text) = 0 := by
  induction items with
  | nil => rfl
  | cons item rest ih => rw [List.map_cons, nestingItems, ih]; rfl

theorem nesting_roles (names : Names) : (roles names).encode.nesting = 2 := by
  simp [encode, texts, nesting, nestingEntries, nestingItems_texts]

theorem nesting_all (assertions : List Access) :
    (all assertions).encode.nesting = nestingItems (encodeAll assertions) + 2 := by
  simp [encode, nesting, nestingEntries]

/-- Roles are listed by an array. -/
theorem nesting_of_ofNames? {kind : String} {part : Option Json} {a : Access}
    (read : ofNames? kind part = some a) :
    a.encode.nesting = 2 ∧ ∃ j, part = some j ∧ 1 ≤ j.nesting := by
  unfold ofNames? at read
  split at read
  next j =>
    obtain ⟨names, list, rfl⟩ := Option.map_eq_some_iff.mp read
    refine ⟨nesting_roles _, j, rfl, ?_⟩
    cases j with
    | array items => exact Nat.succ_le_succ (Nat.zero_le _)
    | _ => cases list
  next => cases read

mutual

/-- The document of an assertion is nested no deeper than the one that it has been read from. -/
theorem nesting_encode_le (nested : Bool) (j : Json) {a : Access}
    (read : decodeIn? nested j = some a) : a.encode.nesting ≤ j.nesting := by
  match j with
  | .object entries =>
    rw [decodeIn?] at read
    rw [nesting]
    split at read
    next =>
      split at read
      next =>
        cases read
        exact Nat.succ_le_succ (Nat.zero_le _)
      next =>
        obtain ⟨part, found, names⟩ := Option.bind_eq_some_iff.mp read
        obtain ⟨two, j, rfl, deep⟩ := nesting_of_ofNames? names
        have inside := nesting_of_part? found
        omega
      next =>
        split at read
        next => exact nesting_of_decodeMembers? entries read
        next => cases read
      next => cases read
    next => cases read
  | .array [kind] =>
    rw [decodeIn?] at read
    split at read
    next =>
      cases read
      exact Nat.succ_le_succ (Nat.zero_le _)
    next => cases read
  | .array [kind, part] =>
    rw [decodeIn?] at read
    simp only [nesting, nestingItems]
    split at read
    next =>
      obtain ⟨two, j, eq, deep⟩ := nesting_of_ofNames? read
      cases eq
      omega
    next =>
      have inside := nesting_of_decodeMember? part read
      omega
    next => cases read
  | .array [] => cases read
  | .array (_ :: _ :: _ :: _) => cases read
  | .null => cases read
  | .bool _ => cases read
  | .number _ => cases read
  | .text _ => cases read

theorem nesting_of_decodeMembers? (entries : List (String × Json)) {a : Access}
    (read : decodeMembers? entries = some a) : a.encode.nesting ≤ nestingEntries entries + 1 := by
  match entries with
  | [] => cases read
  | (key, part) :: rest =>
    rw [decodeMembers?] at read
    rw [nestingEntries]
    split at read
    next =>
      have inside := nesting_of_decodeMember? part read
      omega
    next =>
      have inside := nesting_of_decodeMembers? rest read
      omega

theorem nesting_of_decodeMember? (j : Json) {a : Access} (read : decodeMember? j = some a) :
    a.encode.nesting ≤ j.nesting + 1 := by
  match j with
  | .array items =>
    rw [decodeMember?] at read
    obtain ⟨assertions, members, rfl⟩ := Option.map_eq_some_iff.mp read
    have inside := nestingItems_encodeAll_le items members
    rw [nesting_all, nesting]
    omega
  | .null => cases read
  | .bool _ => cases read
  | .number _ => cases read
  | .text _ => cases read
  | .object _ => cases read

theorem nestingItems_encodeAll_le (items : List Json) {assertions : List Access}
    (read : decodeList? items = some assertions) :
    nestingItems (encodeAll assertions) ≤ nestingItems items := by
  match items with
  | [] =>
    cases read
    exact Nat.le_refl _
  | item :: rest =>
    rw [decodeList?] at read
    split at read
    next a others first more =>
      cases read
      have own := nesting_encode_le true item first
      have tail := nestingItems_encodeAll_le rest more
      rw [encodeAll, nestingItems, nestingItems]
      omega
    next => cases read

end

/-- What has been read from a text is read back from its own text. -/
theorem readBack_of_read {s : String} {a : Access} (read : (Json.read? s).bind decode? = some a) :
    (Json.read? a.encode.compact).bind decode? = some a := by
  obtain ⟨j, document, decoded⟩ := Option.bind_eq_some_iff.mp read
  have room : a.encode.nesting ≤ Json.depthLimit :=
    Nat.le_trans (nesting_encode_le false j decoded) (nesting_of_read? document)
  rw [readBack, if_pos room]

end Access

/-! ### Points in time -/

namespace Instant

/-- Whether an instant is a whole number of milliseconds, counted without inserted seconds and within the
calendar. -/
def IsWhole (t : Instant) : Prop := ∃ ms, ofMillis? ms = some t

theorem millis_ofMillis (ms : Int) : (ofMillis ms).millis = ms := by
  simp only [ofMillis, millis, milliNanos]
  omega

end Instant

namespace JobRecord

/-- Nothing of a whole number of milliseconds is lost. -/
theorem readMillis?_of_isWhole {t : Instant} (whole : t.IsWhole) :
    readMillis? (.int t.millis) = some t := by
  obtain ⟨ms, made⟩ := whole
  unfold Instant.ofMillis? at made
  split at made
  next range =>
    cases made
    have legible : (Instant.ofMillis ms).IsLegible := by
      rwa [Instant.IsLegible, Instant.millis_ofMillis]
    rw [readMillis?_of_isLegible legible, Instant.millis_ofMillis]
  next => cases made

theorem isWhole_of_readMillis? {j : Json} {t : Instant} (read : readMillis? j = some t) :
    t.IsWhole := by
  obtain ⟨ms, -, instant⟩ := Option.bind_eq_some_iff.mp read
  exact ⟨ms.toInt, instant⟩

/-! ### Records -/

/-- Whether the stored form tells everything of a record: it has a completion date exactly if its state
is final, its dates are whole milliseconds, and its error is not the reserved one. -/
structure IsStorable (r : JobRecord) : Prop where
  settled : r.IsSettled
  submitted : r.submittedAt.IsWhole
  completed : ∀ t, r.completedAt = some t → t.IsWhole
  unreserved : r.state ≠ .failure cancelledError

theorem recorded_of_ne {s : JobState} (unreserved : s ≠ .failure cancelledError) : recorded s = s := by
  cases s with
  | failure error =>
    rw [recorded, if_neg]
    rintro rfl
    exact unreserved rfl
  | _ => rfl

variable {reference : String} {raw : Record} {r : JobRecord}

/-- A record that can be stored is read back from its stored form. -/
theorem IsStorable.ofRecord_toRecord (storable : r.IsStorable)
    (counted : r.requestCount < UInt64.size)
    (legible : (Json.read? r.access.encode.compact).bind Access.decode? = some r.access) :
    ofRecord r.reference r.toRecord = .ok r := by
  apply ofRecord_of_isRead
  have stored {name : String} {j : Json} (term : (name, j) ∈ r.terms) := present?_of_mem_terms term
  refine ⟨rfl, ?_, ?_, ?_, ?_, ?_, ?_, some r.requestCount, ?_, rfl⟩
  · have room : r.access.encode.nesting ≤ Json.depthLimit := by
      rw [Access.readBack] at legible
      by_contra deep
      rw [if_neg deep] at legible
      cases legible
    rw [readAccess_toRecord, if_pos room]
  · have date := r.present?_completionDate
    cases completed : r.completedAt with
    | none =>
      rw [completed] at date
      simp only [optional, date, Option.map_none]
    | some t =>
      rw [completed] at date
      exact optional_of_read date (readMillis?_of_isWhole (storable.completed t completed))
  · have state := storedState_toRecord storable.settled
    rwa [storedState, present?_completionDate, Option.isSome_map,
      recorded_of_ne storable.unreserved] at state
  · exact required_of_read (stored (j := .text r.appId) (by simp [terms])) rfl
  · exact required_of_read (stored (j := .text r.fileName) (by simp [terms])) rfl
  · exact required_of_read (stored (j := .int r.submittedAt.millis) (by simp [terms]))
      (readMillis?_of_isWhole storable.submitted)
  · have count : Json.nat? (.int r.requestCount) = some r.requestCount := by
      have bound : (r.requestCount : Int) < UInt64.size := Int.ofNat_lt.mpr counted
      simp only [Json.nat?, Json.int, Int.natCast_nonneg, bound, and_self, if_true,
        Int.toNat_natCast]
    exact optional_of_read (stored (j := .int r.requestCount) (by simp [terms])) count

/-! ### What has been read -/

theorem exists_of_optional {α : Type} {name : String} {read : Json → Option α} {what : String} {a : α}
    (found : optional raw name read what = .ok (some a)) : ∃ j, read j = some a := by
  unfold optional at found
  split at found
  next => cases found
  next j _ =>
    split at found
    next b own =>
      cases found
      exact ⟨j, own⟩
    next => cases found

theorem exists_of_required {α : Type} {name : String} {read : Json → Option α} {what : String} {a : α}
    (found : required raw name read what = .ok a) : ∃ j, read j = some a := by
  unfold required at found
  split at found
  next => cases found
  next => cases found
  next b own =>
    cases found
    exact exists_of_optional own

/-- A state that is read is final exactly if there is a completion date, and no failure with the
reserved error. -/
theorem state_of_readState {completed : Bool} {s : JobState}
    (read : readState raw completed = .ok s) :
    s.isTerminal = completed ∧ s ≠ .failure cancelledError := by
  unfold readState at read
  split at read
  next final =>
    rw [final]
    obtain ⟨success, -, read⟩ := bind_ok read
    split at read
    next =>
      obtain ⟨location, -, read⟩ := bind_ok read
      obtain ⟨contentType, -, read⟩ := bind_ok read
      cases read
      exact ⟨rfl, nofun⟩
    next =>
      obtain ⟨error, -, read⟩ := bind_ok read
      simp only [pure, Except.pure, Except.ok.injEq] at read
      split at read
      next =>
        cases read
        exact ⟨rfl, nofun⟩
      next other =>
        cases read
        exact ⟨rfl, fun same => other (JobState.failure.inj same)⟩
  next open_ =>
    obtain ⟨running, -, read⟩ := bind_ok read
    cases read
    exact ⟨(Bool.eq_false_iff.mpr open_).symm, nofun⟩

theorem isStorable_of_ofRecord (read : ofRecord reference raw = .ok r) : r.IsStorable := by
  have fields := isRead_of_ofRecord read
  obtain ⟨final, unreserved⟩ := state_of_readState fields.state
  refine ⟨final.symm, ?_, ?_, unreserved⟩
  · obtain ⟨j, start⟩ := exists_of_required fields.submittedAt
    exact isWhole_of_readMillis? start
  · intro t completed
    have date := fields.completedAt
    rw [completed] at date
    obtain ⟨j, stop⟩ := exists_of_optional date
    exact isWhole_of_readMillis? stop

theorem requestCount_of_ofRecord (read : ofRecord reference raw = .ok r) :
    r.requestCount < UInt64.size := by
  obtain ⟨count, given, same⟩ := (isRead_of_ofRecord read).requestCount
  rw [← same]
  cases count with
  | none => decide
  | some n =>
    obtain ⟨j, number⟩ := exists_of_optional given
    unfold Json.nat? at number
    split at number
    next =>
      split at number
      next bound =>
        cases number
        rw [Option.getD_some]
        omega
      next => cases number
    next => cases number

theorem access_of_ofRecord (read : ofRecord reference raw = .ok r) :
    (Json.read? r.access.encode.compact).bind Access.decode? = some r.access := by
  obtain ⟨text, -, access⟩ := bind_ok (isRead_of_ofRecord read).access
  split at access
  next a own =>
    cases access
    exact Access.readBack_of_read own
  next => cases access

/-- A record that is settled, with dates of whole milliseconds and without the reserved error, is read
back from its stored form, which is flat, and no other record is. Whatever is read of any stored record
is of that kind, and is read once more if it is stored. -/
theorem record_round_trip :
    (∀ r : JobRecord, r.requestCount < UInt64.size →
      (Json.read? r.access.encode.compact).bind Access.decode? = some r.access →
        r.toRecord.ensureFlat = .ok () ∧
          (ofRecord r.reference r.toRecord = .ok r ↔ r.IsStorable)) ∧
    (∀ (reference : String) (raw : Record) (r : JobRecord), ofRecord reference raw = .ok r →
      r.reference = reference ∧ r.IsStorable ∧ ofRecord reference r.toRecord = .ok r) := by
  constructor
  · intro r counted legible
    exact ⟨r.isExact_toRecord.ensureFlat, isStorable_of_ofRecord,
      fun storable => storable.ofRecord_toRecord counted legible⟩
  · intro reference raw r read
    have storable := isStorable_of_ofRecord read
    have again := storable.ofRecord_toRecord (requestCount_of_ofRecord read) (access_of_ofRecord read)
    have same : r.reference = reference := (isRead_of_ofRecord read).reference
    rw [same] at again
    exact ⟨same, storable, again⟩

/-- A failed job, and a successful one from a record with nulls and fields that mean nothing. -/
theorem record_round_trip_maps :
    let failed : JobRecord := ⟨"4f1c", "plan", "plan-4f1c", .ofMillis 1717200000000,
      some (.ofMillis 1717200004500), 3, .roles (.ofList ["planner"]), .failure "no ink"⟩
    let raw : Record := .ofList [("access", .text "[\"and\", [[0], [\"roles\", [\"b\", \"a\"]]]]"),
      ("appId", .text "plan"), ("fileName", .text "map"), ("startDate", .int 0),
      ("completionDate", .int 1), ("success", .bool true), ("artifact", .text "/map.pdf"),
      ("contentType", .null), ("error", .text "cancelled"), ("running", .int 7)]
    let read : JobRecord := ⟨"4f1d", "plan", "map", .ofMillis 0, some (.ofMillis 1), 0,
      .all [.alwaysAllow, .roles (.ofList ["a", "b"])], .success (.at "/map.pdf")⟩
    failed.toRecord.ensureFlat = .ok () ∧ ofRecord "4f1c" failed.toRecord = .ok failed ∧
      ofRecord "4f1d" raw = .ok read ∧ ofRecord "4f1d" read.toRecord = .ok read := by
  intro failed raw read
  obtain ⟨records, raws⟩ := record_round_trip
  have legible : (Json.read? failed.access.encode.compact).bind Access.decode? =
      some failed.access := by
    decide +kernel
  have storable : failed.IsStorable := by
    refine ⟨rfl, ⟨1717200000000, by decide⟩, ?_, by decide⟩
    rintro t completed
    cases completed
    exact ⟨1717200004500, by decide⟩
  obtain ⟨flat, again⟩ := records failed (by decide) legible
  have found : ofRecord "4f1d" raw = .ok read := by decide +kernel
  exact ⟨flat, again.mpr storable, found, (raws "4f1d" raw read found).2.2⟩

end JobRecord

end Printworks
