import Printworks.Proofs.Context.History
import Printworks.Proofs.Stage.Delivery

/-!
# What a stage commits

A stage sets outputs in any order, and what it may not set is refused and forgotten. When it has
succeeded, and nothing is missing that is required by itself, all that has been set goes to one
commit, with the defaults of what has not. In any other case nothing is stored.
-/

namespace Printworks

namespace StageSpec

variable {spec : StageSpec} {before settings : List (String × Value)} {call : String × Value}
  {slot : String}

/-- Whether a value may be set for a slot: the slot is declared, and the value is of its type. -/
def admits (spec : StageSpec) (call : String × Value) : Bool :=
  (spec.outputs.get? call.1).any (fun declared => call.2.type.satisfies declared.type)

/-- Why a setting is refused that comes after others. -/
inductive Refuses (spec : StageSpec) (before : List (String × Value)) :
    String × Value → StageError → Prop where
  | undeclared {slot : String} {value : Value} (undeclared : slot ∉ spec.outputs.names) :
    Refuses spec before (slot, value) (.undeclaredOutput slot)
  | wrongType {slot : String} {value : Value} {declared : Slot}
    (found : spec.outputs.get? slot = some declared)
    (unfit : value.type.satisfies declared.type = false) :
    Refuses spec before (slot, value) (.wrongType slot declared.type value.type)
  /-- An earlier setting of the slot has been accepted. -/
  | again {slot : String} {value : Value} (admitted : spec.admits (slot, value) = true)
    (earlier : ∃ old, (slot, old) ∈ before ∧ spec.admits (slot, old) = true) :
    Refuses spec before (slot, value) (.duplicateOutput slot)

/-- The value of the first setting of a slot that is admitted. -/
def firstSet? (spec : StageSpec) (settings : List (String × Value)) (slot : String) : Option Value :=
  (settings.find? (fun call => call.1 == slot && spec.admits call)).map (·.2)

/-- The first output that is required by itself and has not been set. -/
def firstMissing? (spec : StageSpec) (settings : List (String × Value)) : Option Slot :=
  spec.outputs.slots.find? (fun slot =>
    slot.isRequired && (spec.firstSet? settings slot.name).isNone)

/-- What is to be stored for a slot: what has been set, or else its default. -/
def due? (spec : StageSpec) (settings : List (String × Value)) (slot : Slot) : Option Value :=
  (spec.firstSet? settings slot.name).or slot.default?

/-- What is to be stored after some settings, in the order of the slots. -/
def due (spec : StageSpec) (settings : List (String × Value)) : List Write :=
  spec.outputs.slots.filterMap (fun slot => (spec.due? settings slot).map
    (fun value => ⟨spec.outputName slot.name, value, slot.isInternal⟩))

theorem admits_iff : spec.admits call = true ↔
    ∃ declared, spec.outputs.get? call.1 = some declared ∧
      call.2.type.satisfies declared.type = true := by
  simp [admits, Option.any_eq_true]

theorem declared_of_admits (admitted : spec.admits call = true) : call.1 ∈ spec.outputs.names := by
  obtain ⟨declared, found, -⟩ := admits_iff.mp admitted
  rw [← Contract.contains_iff, Contract.contains, found]
  rfl

theorem isSome_firstSet? : (spec.firstSet? settings slot).isSome = true ↔
    ∃ old, (slot, old) ∈ settings ∧ spec.admits (slot, old) = true := by
  rw [firstSet?, Option.isSome_map, List.find?_isSome]
  constructor
  · rintro ⟨⟨key, old⟩, member, suits⟩
    obtain ⟨rfl, admitted⟩ : key = slot ∧ spec.admits (key, old) = true := by simpa using suits
    exact ⟨old, member, admitted⟩
  · rintro ⟨old, member, admitted⟩
    exact ⟨(slot, old), member, by simp [admitted]⟩

theorem firstSet?_eq_none : spec.firstSet? settings slot = none ↔
    ¬ ∃ old, (slot, old) ∈ settings ∧ spec.admits (slot, old) = true := by
  rw [← isSome_firstSet?, Option.not_isSome_iff_eq_none]

/-- A setting counts if it is admitted and none before it has been. -/
theorem firstSet?_concat : spec.firstSet? (before ++ [call]) slot =
    (spec.firstSet? before slot).or
      (if call.1 = slot ∧ spec.admits call = true then some call.2 else none) := by
  rw [firstSet?, firstSet?, List.find?_append, List.find?_singleton, Option.map_or]
  congr 1
  by_cases mine : call.1 = slot <;> cases admitted : spec.admits call <;> simp [mine]

theorem declared_of_firstSet? {value : Value} (set : spec.firstSet? settings slot = some value) :
    slot ∈ spec.outputs.names := by
  obtain ⟨call, found, -⟩ := Option.map_eq_some_iff.mp set
  have suits := List.find?_some found
  rw [Bool.and_eq_true, beq_iff_eq] at suits
  rw [← suits.1]
  exact declared_of_admits suits.2

/-- A refused setting is not the first of its slot that is admitted. -/
theorem Refuses.firstSet?_concat {e : StageError} (refuses : spec.Refuses before call e) :
    spec.firstSet? (before ++ [call]) slot = spec.firstSet? before slot := by
  rw [StageSpec.firstSet?_concat]
  split
  next counts =>
    obtain ⟨rfl, admitted⟩ := counts
    cases refuses with
    | undeclared undeclared => exact absurd (declared_of_admits admitted) undeclared
    | wrongType found unfit =>
      obtain ⟨declared, same, fits⟩ := admits_iff.mp admitted
      rw [found] at same
      cases same
      rw [unfit] at fits
      cases fits
    | again _ earlier =>
      cases set : spec.firstSet? before _ with
      | none => exact absurd earlier (firstSet?_eq_none.mp set)
      | some value => rfl
  next => rw [Option.or_none]

end StageSpec

/-! ### Settings -/

namespace Workspace

variable {w : Workspace} {spec : StageSpec} {before settings : List (String × Value)}
  {call : String × Value}

/-- Whether a workspace is that of a stage after some settings. -/
structure Reflects (w : Workspace) (spec : StageSpec) (settings : List (String × Value)) : Prop where
  stage : w.spec = spec
  outputs : ∀ slot, w.outputs.get? slot = spec.firstSet? settings slot

theorem reflects_start (id : String) (spec : StageSpec) (inputs : Dict Value) :
    (start id spec inputs).Reflects spec [] := ⟨rfl, fun _ => rfl⟩

theorem Reflects.setOutput_eq_error_iff (h : w.Reflects spec before) {e : StageError} :
    w.setOutput call.1 call.2 = .error e ↔ spec.Refuses before call e := by
  obtain ⟨rfl, outputs⟩ := h
  obtain ⟨slot, value⟩ := call
  constructor
  -- Each of the three checks that may fail has a reason of its own.
  · intro refused
    unfold setOutput at refused
    split at refused
    next none =>
      cases refused
      refine .undeclared ?_
      rw [← Contract.contains_iff, Contract.contains, none]
      simp
    next declared found =>
      split at refused
      next unfit =>
        cases refused
        exact .wrongType found (by simpa using unfit)
      next fits =>
        split at refused
        next set =>
          cases refused
          rw [Dict.contains, outputs, StageSpec.isSome_firstSet?] at set
          exact .again (StageSpec.admits_iff.mpr ⟨declared, found, by simpa using fits⟩) set
        next => cases refused
  · intro refuses
    cases refuses with
    | undeclared undeclared =>
      rw [← Contract.contains_iff, Contract.contains, Option.not_isSome_iff_eq_none] at undeclared
      simp [setOutput, undeclared]
    | wrongType found unfit => simp [setOutput, found, unfit]
    | again admitted earlier =>
      obtain ⟨declared, found, fits⟩ := StageSpec.admits_iff.mp admitted
      have set : w.outputs.contains slot = true := by
        rw [Dict.contains, outputs, StageSpec.isSome_firstSet?]
        exact earlier
      simp [setOutput, found, fits, set]

theorem Reflects.set_of_refuses (h : w.Reflects spec before) {e : StageError}
    (refuses : spec.Refuses before call e) : Conduct.set w call = w := by
  rw [Conduct.set, h.setOutput_eq_error_iff.mpr refuses]

/-- One more setting is accepted or refused, and is reflected either way. -/
theorem Reflects.set (h : w.Reflects spec before) (call : String × Value) :
    (Conduct.set w call).Reflects spec (before ++ [call]) := by
  cases answer : w.setOutput call.1 call.2 with
  | error e =>
    have refuses := h.setOutput_eq_error_iff.mp answer
    rw [h.set_of_refuses refuses]
    refine ⟨h.stage, fun slot => ?_⟩
    rw [refuses.firstSet?_concat]
    exact h.outputs slot
  | ok w' =>
    obtain ⟨fits, rfl⟩ := setOutput_eq_ok answer
    rw [h.stage] at fits
    have admitted : spec.admits call = true := StageSpec.admits_iff.mpr fits
    -- Were there an earlier one, this one would be refused.
    have first : spec.firstSet? before call.1 = none := by
      rw [StageSpec.firstSet?_eq_none]
      intro earlier
      rw [h.setOutput_eq_error_iff.mpr (.again admitted earlier)] at answer
      cases answer
    rw [Conduct.set, answer]
    refine ⟨h.stage, fun slot => ?_⟩
    simp only
    rw [Dict.get?_insert, StageSpec.firstSet?_concat, h.outputs]
    by_cases mine : call.1 = slot
    · subst mine
      simp [first, admitted]
    · simp [mine]

theorem Reflects.foldl_set (h : w.Reflects spec before) (settings : List (String × Value)) :
    (settings.foldl Conduct.set w).Reflects spec (before ++ settings) := by
  induction settings generalizing w before with
  | nil => rwa [List.append_nil]
  | cons call rest ih =>
    rw [List.foldl_cons, List.append_cons]
    exact ih (h.set call)

/-! ### Completion -/

variable {slots rest : List Slot} {slot first : Slot} {outputs : Dict Value}
  {set? : String → Option Value}

private theorem default?_of_isRequired (required : slot.isRequired = true) :
    slot.default? = none := by
  rw [Slot.isRequired, Bool.and_eq_true, beq_iff_eq] at required
  rw [Slot.default?, required.1]

/-- A slot that is not missing gets its default, if it has one and has not been set. -/
private theorem exists_completed_cons (rest : List Slot)
    (present : (first.isRequired && (outputs.get? first.name).isNone) = false) :
    ∃ grown, completed (first :: rest) outputs = completed rest grown ∧
      ∀ key, grown.get? key =
        (outputs.get? key).or (if first.name = key then first.default? else none) := by
  rw [completed, Dict.contains]
  cases set : outputs.get? first.name with
  | some value =>
    refine ⟨outputs, rfl, fun key => ?_⟩
    split
    next mine => rw [← mine, set, Option.some_or]
    next => rw [Option.or_none]
  | none =>
    cases default : first.default? with
    | some value =>
      refine ⟨outputs.insert first.name value, rfl, fun key => ?_⟩
      rw [Dict.get?_insert]
      split
      next mine => rw [← mine, set, Option.none_or]
      next => rw [Option.or_none]
    | none =>
      have optional : first.isRequired = false := by simpa [set] using present
      exact ⟨outputs, by simp [optional], fun key => by rw [ite_self, Option.or_none]⟩

/-- What has been set of the other slots stays known. -/
private theorem known_of_grown {grown : Dict Value} (new : first.name ∉ rest.map (·.name))
    (known : ∀ s ∈ first :: rest, outputs.get? s.name = set? s.name)
    (grows : ∀ key, grown.get? key =
      (outputs.get? key).or (if first.name = key then first.default? else none)) :
    ∀ s ∈ rest, grown.get? s.name = set? s.name := by
  intro s member
  have other : first.name ≠ s.name := fun same => new (List.mem_map.mpr ⟨s, member, same.symm⟩)
  rw [grows, if_neg other, Option.or_none]
  exact known s (List.mem_cons_of_mem _ member)

theorem completed_of_missing (distinct : (slots.map (·.name)).Nodup)
    (known : ∀ s ∈ slots, outputs.get? s.name = set? s.name)
    (missing : slots.find? (fun s => s.isRequired && (set? s.name).isNone) = some slot) :
    completed slots outputs = .error (.missingOutput slot.name) := by
  induction slots generalizing outputs with
  | nil => cases missing
  | cons first rest ih =>
    obtain ⟨new, distinct⟩ := List.nodup_cons.mp distinct
    rw [List.find?_cons, ← known first List.mem_cons_self] at missing
    split at missing
    -- Either the search ends with the first slot, or that one is left behind with its default.
    next absent =>
      cases missing
      rw [Bool.and_eq_true, Option.isNone_iff_eq_none] at absent
      rw [completed, Dict.contains, absent.2, default?_of_isRequired absent.1]
      exact if_pos absent.1
    next present =>
      obtain ⟨grown, same, grows⟩ := exists_completed_cons rest present
      rw [same]
      exact ih distinct (known_of_grown new known grows) missing

/-- Where nothing is missing, each slot has what has been set, or else its default. -/
theorem completed_of_complete (distinct : (slots.map (·.name)).Nodup)
    (known : ∀ s ∈ slots, outputs.get? s.name = set? s.name)
    (complete : slots.find? (fun s => s.isRequired && (set? s.name).isNone) = none) :
    ∃ all, completed slots outputs = .ok all ∧ ∀ key, all.get? key =
      (outputs.get? key).or ((slots.find? (fun s => s.name == key)).bind Slot.default?) := by
  induction slots generalizing outputs with
  | nil => exact ⟨outputs, rfl, fun key => Option.or_none.symm⟩
  | cons first rest ih =>
    obtain ⟨new, distinct⟩ := List.nodup_cons.mp distinct
    rw [List.find?_cons, ← known first List.mem_cons_self] at complete
    split at complete
    next => cases complete
    next present =>
      obtain ⟨grown, same, grows⟩ := exists_completed_cons rest present
      obtain ⟨all, done, values⟩ := ih distinct (known_of_grown new known grows) complete
      refine ⟨all, same.trans done, fun key => ?_⟩
      rw [values, grows, Option.or_assoc, List.find?_cons]
      by_cases mine : first.name = key
      -- Behind the slot there is none of its name.
      · have alone : rest.find? (fun s => s.name == first.name) = none := by
          rw [List.find?_eq_none]
          intro s member named
          exact new (List.mem_map.mpr ⟨s, member, by simpa using named⟩)
        subst mine
        simp [alone]
      · rw [if_neg mine, Option.none_or, beq_false_of_ne mine]

end Workspace

/-! ### What is due -/

namespace StageSpec

variable {spec : StageSpec} {settings : List (String × Value)}

/-- What is due, by slot. -/
private def dueEntries (spec : StageSpec) (settings : List (String × Value)) :
    List (String × Value) :=
  spec.outputs.slots.filterMap (fun slot => (spec.due? settings slot).map (slot.name, ·))

private theorem mem_dueEntries {e : String × Value} : e ∈ spec.dueEntries settings ↔
    ∃ slot ∈ spec.outputs.slots, slot.name = e.1 ∧ spec.due? settings slot = some e.2 := by
  rw [dueEntries, List.mem_filterMap]
  refine exists_congr (fun slot => and_congr_right (fun _ => ?_))
  rw [Option.map_eq_some_iff]
  constructor
  · rintro ⟨value, due, rfl⟩
    exact ⟨rfl, due⟩
  · rintro ⟨named, due⟩
    exact ⟨e.2, due, by rw [named]⟩

/-- A slot has what is due for the one of its name. -/
private theorem mem_dueEntries_iff (distinct : spec.outputs.Distinct) {key : String} {value : Value} :
    (key, value) ∈ spec.dueEntries settings ↔
      (spec.firstSet? settings key).or ((spec.outputs.get? key).bind Slot.default?) = some value := by
  rw [mem_dueEntries]
  constructor
  · rintro ⟨slot, member, rfl, due⟩
    rw [Contract.get?_of_mem distinct member]
    exact due
  · intro due
    cases found : spec.outputs.get? key with
    | some slot =>
      have named : slot.name = key := by simpa using List.find?_some found
      subst named
      rw [found] at due
      exact ⟨slot, List.mem_of_find?_eq_some found, rfl, due⟩
    | none =>
      rw [found, Option.bind_none, Option.or_none] at due
      have declared := declared_of_firstSet? due
      rw [← Contract.contains_iff, Contract.contains, found] at declared
      cases declared

private theorem nodup_dueEntries (distinct : spec.outputs.Distinct) :
    (spec.dueEntries settings).Nodup := by
  rw [dueEntries, List.nodup_iff_pairwise_ne, List.pairwise_filterMap]
  -- Two slots with something due have two names, and so have their entries.
  refine (List.pairwise_map.mp distinct).imp ?_
  rintro a b other x first y second rfl
  obtain ⟨value, -, rfl⟩ := Option.map_eq_some_iff.mp first
  obtain ⟨value', -, same⟩ := Option.map_eq_some_iff.mp second
  exact other (congrArg Prod.fst same).symm

private theorem due_eq (distinct : spec.outputs.Distinct) : spec.due settings =
    (spec.dueEntries settings).map (fun e => Workspace.write spec e.1 e.2) := by
  rw [due, dueEntries, List.map_filterMap]
  refine List.filterMap_congr (fun slot member => ?_)
  rw [Option.map_map]
  congr 1
  funext value
  rw [Function.comp_apply, Workspace.write, Contract.get?_of_mem distinct member, Option.any_some]

end StageSpec

/-- A stage that has set all that is required by itself delivers what is due, each of it once. -/
theorem Workspace.Reflects.delivery_perm {w : Workspace} {spec : StageSpec}
    {settings : List (String × Value)} (h : w.Reflects spec settings)
    (distinct : spec.outputs.Distinct) (complete : spec.firstMissing? settings = none) :
    ∃ writes, w.delivery = .ok writes ∧ writes.Perm (spec.due settings) := by
  obtain ⟨all, done, values⟩ :=
    completed_of_complete distinct (fun s _ => h.outputs s.name) complete
  have nodup : all.toList.Nodup := List.Nodup.of_map Prod.fst all.keys_nodup
  have same : all.toList.Perm (spec.dueEntries settings) := by
    rw [List.perm_ext_iff_of_nodup nodup (StageSpec.nodup_dueEntries distinct)]
    rintro ⟨key, value⟩
    rw [Dict.mem_toList, values, h.outputs, StageSpec.mem_dueEntries_iff distinct]
    rfl
  refine ⟨_, by rw [delivery, h.stage, done], ?_⟩
  rw [StageSpec.due_eq distinct]
  exact same.map _

namespace Conduct

open Execution (stored)

/-- A setting is refused if its slot is not declared, its value not of the type, or the slot has been
set before, and changes nothing then. A stage that fails, or that has not set an output which is
required by itself, stores nothing. Otherwise what is due goes to one commit, which stores all of it
or, if a name is taken, nothing. -/
theorem commits_due_or_nothing (id : String) (spec : StageSpec) (inputs : Dict Value)
    (distinct : spec.outputs.Distinct) (settings : List (String × Value)) (context : Context) :
    let after (settings : List (String × Value)) := settings.foldl set (.start id spec inputs)
    let ends (error : Option StageError) :=
      stored context (play ⟨settings, error⟩ (.start id spec inputs))
    (∀ before call, (∀ e, (after before).setOutput call.1 call.2 = .error e ↔
        spec.Refuses before call e) ∧
      ((∃ e, spec.Refuses before call e) → after (before ++ [call]) = after before)) ∧
    (∀ slot, (after settings).outputs.get? slot = spec.firstSet? settings slot) ∧
    (∀ e, ends (some e) = (.error e, context)) ∧
    (∀ slot, spec.firstMissing? settings = some slot →
      ends none = (.error (.missingOutput slot.name), context)) ∧
    (spec.firstMissing? settings = none → ∃ writes, (after settings).delivery = .ok writes ∧
      writes.Perm (spec.due settings) ∧
      ((∃ refusal, context.commit writes = .error refusal) ↔
        ∃ w ∈ spec.due settings, w.internal = false ∧ context.contains w.name = true) ∧
      (∀ refusal, context.commit writes = .error refusal →
        refusal.context = context ∧ ends none = (.error (.context refusal.error), context)) ∧
      ∀ names stored, context.commit writes = .ok (names, stored) →
        ends none = (.ok names, stored) ∧ names.length = writes.length ∧
          stored.values = (names.zip (writes.map (·.value))).foldl (fun d e => d.insert e.1 e.2)
            context.values) := by
  intro after ends
  have reflects (settings : List (String × Value)) : (after settings).Reflects spec settings :=
    (Workspace.reflects_start id spec inputs).foldl_set settings
  refine ⟨fun before call => ?_, (reflects settings).outputs, fun e => rfl, ?_, ?_⟩
  · constructor
    · intro e
      exact (reflects before).setOutput_eq_error_iff
    · rintro ⟨e, refuses⟩
      simp only [after, List.foldl_append, List.foldl_cons, List.foldl_nil]
      exact (reflects before).set_of_refuses refuses
  · intro slot missing
    have fails : (settings.foldl set (.start id spec inputs)).delivery =
        .error (.missingOutput slot.name) := by
      rw [Workspace.delivery, (reflects settings).stage,
        Workspace.completed_of_missing distinct
          (fun s _ => (reflects settings).outputs s.name) missing]
    simp only [ends, play, stored, fails]
  · intro complete
    obtain ⟨writes, delivers, perm⟩ := (reflects settings).delivery_perm distinct complete
    have handed : (settings.foldl set (.start id spec inputs)).delivery = .ok writes := delivers
    refine ⟨writes, delivers, perm, ?_, ?_, ?_⟩
    · rw [Context.commit_fails_iff]
      exact exists_congr (fun w => and_congr_left (fun _ => perm.mem_iff))
    · intro refusal fails
      have kept := (Context.commit_refused fails).1
      refine ⟨kept, ?_⟩
      simp only [ends, play, stored, handed, fails, kept]
    · intro names after succeeds
      refine ⟨?_, Context.values_of_commit succeeds⟩
      simp only [ends, play, stored, handed, succeeds]

/-- A stage that is refused three times, and leaves a form, a trace and the resolution unset. -/
theorem commits_due_or_nothing_plate :
    let spec : StageSpec := ⟨"plate", ∅, .ofSlots [.plain "sheet" .string .required,
      .plain "dpi" .integer (.hasDefault (.integer 300)), .plain "trace" .any .internal,
      ⟨"png", .any, .required, [], some "form"⟩, ⟨"pdf", .any, .required, [], some "form"⟩],
      ∅, .ofList [("sheet", "page")]⟩
    let settings : List (String × Value) := [("page", .string "a"), ("sheet", .integer 1),
      ("sheet", .string "b"), ("sheet", .string "c"), ("png", .bool true)]
    let due : List Write := [⟨"page", .string "b", false⟩, ⟨"dpi", .integer 300, false⟩,
      ⟨"png", .bool true, false⟩]
    spec.outputs.Distinct ∧
      (∃ writes, writes.Perm due ∧
        ((settings.foldl set (.start "run" spec ∅)).delivery = .ok writes)) ∧
      stored default (play ⟨[("png", .bool true)], none⟩ (.start "run" spec ∅)) =
        (.error (.missingOutput "sheet"), default) := by
  intro spec settings due
  have distinct : spec.outputs.Distinct := by decide +kernel
  obtain ⟨-, -, -, -, whole⟩ := commits_due_or_nothing "run" spec ∅ distinct settings default
  obtain ⟨-, -, -, missing, -⟩ :=
    commits_due_or_nothing "run" spec ∅ distinct [("png", .bool true)] default
  obtain ⟨writes, delivers, perm, -⟩ := whole (by decide +kernel)
  have all : spec.due settings = due := by decide +kernel
  rw [all] at perm
  exact ⟨distinct, ⟨writes, perm, delivers⟩,
    missing (.plain "sheet" .string .required) (by decide +kernel)⟩

end Conduct

end Printworks
