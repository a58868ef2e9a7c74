import Printworks.Proofs.Execution.Solution

/-!
# One stage after the other

The plainest way to run a graph visits its stages in order, skips those that wait for one that has
failed or been skipped, and runs every other one on the values so far. It solves the equations of the
graph.
-/

namespace Printworks

/-- Stages that are visited one after the other: the values so far, and a report for each stage. -/
structure Sequential where
  context : Context
  reports : List StageReport

/-- Whether a report is that of a stage that is done, has failed or has been skipped. One that has
failed tells why. -/
def StageReport.IsFinal (r : StageReport) : Prop :=
  r.state = .done ∨ (r.state = .failed ∧ r.error.isSome = true) ∨ r.state = .skipped

/-- How a stage ends, as its report tells. -/
def fateOf (reports : List StageReport) (i : Nat) : Fate :=
  (reports[i]?.map Fate.ofReport).getD .skipped

namespace Sequential

def start (g : Graph) (seed : Dict Value) (suffixes : Suffixes) : Sequential :=
  ⟨⟨seed, suffixes⟩, g.stages.map (fun spec => .waiting spec.name)⟩

/-- Whether a stage waits for one that has failed or been skipped. -/
def isBlocked (g : Graph) (s : Sequential) (i : Nat) : Bool :=
  (g.predecessors i).any (fun p =>
    s.reports[p]?.any (fun r => r.state == .failed || r.state == .skipped))

/-- Run a stage on the values so far. -/
def attempt (id : String) (crew : Crew) (c : Context) (i : Nat) (spec : StageSpec) :
    Except StageError (List String) × Context :=
  match spec.bindInputs c.values with
  | .ok inputs => Execution.stored c ((crew i inputs).play (Workspace.start id spec inputs))
  | .error error => (.error error, c)

/-- Write into a report how its stage has ended. -/
def conclude (result : Except StageError (List String)) (r : StageReport) : StageReport :=
  match result with
  | .ok _ => { r with state := .done }
  | .error error => { r with state := .failed, error := some error.message }

/-- Visit a stage. -/
def visit (g : Graph) (id : String) (crew : Crew) (s : Sequential) (i : Nat) : Sequential :=
  match g.stages[i]? with
  | none => s
  | some spec =>
    if s.isBlocked g i then
      { s with reports := s.reports.modify i (fun r => { r with state := .skipped }) }
    else
      let (result, context) := attempt id crew s.context i spec
      ⟨context, s.reports.modify i (conclude result)⟩

/-- Visit all stages in order. -/
def run (g : Graph) (id : String) (crew : Crew) (seed : Dict Value) (suffixes : Suffixes) :
    Sequential :=
  g.order.foldl (visit g id crew) (start g seed suffixes)

/-- The report at the end. -/
def report (id : String) (s : Sequential) : ExecutionReport :=
  ⟨id, if s.reports.all (fun r => r.state == .done) then .completed else .failed,
    s.context.values, s.reports⟩

/-! ### A solution -/

variable {g : Graph} {id : String} {crew : Crew} {seed : Dict Value} {s : Sequential}
  {visited : List Nat}

/-- What holds when some stages have been visited. -/
structure HasVisited (g : Graph) (id : String) (crew : Crew) (seed : Dict Value)
    (visited : List Nat) (s : Sequential) : Prop where
  names : s.reports.map (·.stage) = g.stageNames
  unowned : ∀ name, g.producer? name = none → s.context.values.get? name = seed.get? name
  spared : ∀ i, i ∉ visited → g.Spares i s.context.values
  final : ∀ i ∈ visited, ∀ r, s.reports[i]? = some r → r.IsFinal
  blocked : ∀ i ∈ visited, ∀ p ∈ g.predecessors i, fateOf s.reports p ≠ .done →
    fateOf s.reports i = .skipped ∧ g.Spares i s.context.values
  free : ∀ i ∈ visited, ∀ spec, g.stages[i]? = some spec →
    (∀ p ∈ g.predecessors i, fateOf s.reports p = .done) →
      fateOf s.reports i = .ofVerdict (verdict id crew i spec s.context.values) ∧
        g.Leaves i (verdict id crew i spec s.context.values) s.context.values

theorem fateOf_modify {reports : List StageReport} {i j : Nat} (ne : j ≠ i)
    (change : StageReport → StageReport) : fateOf (reports.modify i change) j = fateOf reports j := by
  rw [fateOf, List.getElem?_modify, fateOf]
  cases reports[j]? with
  | none => rfl
  | some r => simp [Ne.symm ne]

theorem fateOf_modify_self {reports : List StageReport} {i : Nat} {r : StageReport}
    (found : reports[i]? = some r) (change : StageReport → StageReport) :
    fateOf (reports.modify i change) i = .ofReport (change r) := by
  rw [fateOf, List.getElem?_modify, found]
  simp

theorem ofReport_conclude {α : Type} (result : Except StageError (List String))
    (v : Except StageError α) (same : ∀ error, result = .error error ↔ v = .error error)
    (r : StageReport) : Fate.ofReport (conclude result r) = .ofVerdict v := by
  cases v with
  | error error => rw [(same error).mpr rfl]; rfl
  | ok a =>
    cases result with
    | error error => cases (same error).mp rfl
    | ok names => rfl

/-- A stage that is run on the values so far leaves what it delivers, and sees the same afterwards. -/
theorem attempt_spec (id : String) (crew : Crew) (plain : g.IsPlain) {i : Nat} {spec : StageSpec}
    (place : g.stages[i]? = some spec) {c : Context} (spared : g.Spares i c.values) :
    let after := (attempt id crew c i spec).2.values
    (∀ name, g.producer? name ≠ some i → after.get? name = c.values.get? name) ∧
    (∀ error, (attempt id crew c i spec).1 = .error error ↔
      verdict id crew i spec after = .error error) ∧
    g.Leaves i (verdict id crew i spec after) after := by
  intro after
  have apart : i ∉ g.predecessors i := fun edge => plain.sound.not_leads_self i (.single edge)
  cases bound : spec.bindInputs c.values with
  | error error =>
    have kept : attempt id crew c i spec = (.error error, c) := by simp only [attempt, bound]
    have made : verdict id crew i spec c.values = .error error := by simp only [verdict, bound]
    have same : after = c.values := congrArg (fun ended => ended.2.values) kept
    rw [same, made, kept]
    exact ⟨fun _ _ => rfl, fun _ => by simp, spared⟩
  | ok inputs =>
    have ran : attempt id crew c i spec =
        Execution.stored c ((crew i inputs).play (Workspace.start id spec inputs)) := by
      simp only [attempt, bound]
    obtain ⟨others, ends, leaves⟩ := plain.stored place (c := c)
      (fun w played => Conduct.play_spec (Workspace.isDeclared_start id spec inputs) played) spared
    rw [← ran] at others ends leaves
    -- It does not read what it has stored itself.
    have made : verdict id crew i spec after =
        delivered ((crew i inputs).play (Workspace.start id spec inputs)) := by
      rw [Graph.verdict_congr (plain.reads_apart place apart others)]
      simp only [verdict, bound]
    rw [made]
    exact ⟨others, ends, leaves⟩

theorem HasVisited.length (good : HasVisited g id crew seed visited s) :
    s.reports.length = g.size := by
  have lengths := congrArg List.length good.names
  rwa [List.length_map, Graph.stageNames, List.length_map] at lengths

/-- Whether a stage is blocked shows in how those ended that it waits for. -/
theorem HasVisited.isBlocked_iff (good : HasVisited g id crew seed visited s) {i : Nat}
    (before : ∀ p ∈ g.predecessors i, p ∈ visited ∧ p < g.size) :
    s.isBlocked g i = true ↔ ∃ p ∈ g.predecessors i, fateOf s.reports p ≠ .done := by
  rw [isBlocked, List.any_eq_true]
  refine exists_congr (fun p => and_congr_right (fun edge => ?_))
  obtain ⟨member, lt⟩ := before p edge
  obtain ⟨r, found⟩ : ∃ r, s.reports[p]? = some r := ⟨_, List.getElem?_eq_getElem (good.length ▸ lt)⟩
  have final := good.final p member r found
  rw [fateOf, found]
  rcases final with state | ⟨state, -⟩ | state <;> simp [Fate.ofReport, state]

theorem names_modify (reports : List StageReport) (i : Nat) {change : StageReport → StageReport}
    (keeps : ∀ r, (change r).stage = r.stage) :
    (reports.modify i change).map (·.stage) = reports.map (·.stage) := by
  refine List.ext_getElem? (fun j => ?_)
  rw [List.getElem?_map, List.getElem?_map, List.getElem?_modify]
  cases reports[j]? with
  | none => rfl
  | some r =>
    by_cases eq : i = j
    · simp [eq, keeps]
    · simp [eq]

/-- When a stage has been settled, those that have been visited before are as they were: neither what
they read nor what they own is what the stage stores. -/
theorem HasVisited.extend (plain : g.IsPlain) (good : HasVisited g id crew seed visited s) {i : Nat}
    (new : i ∉ visited) (before : ∀ p ∈ g.predecessors i, p ∈ visited)
    (closed : ∀ j ∈ visited, ∀ p ∈ g.predecessors j, p ∈ visited) {spec : StageSpec}
    (place : g.stages[i]? = some spec) {after : Context} {change : StageReport → StageReport}
    (keeps : ∀ r, (change r).stage = r.stage) (final : ∀ r, (change r).IsFinal)
    (others : ∀ name, g.producer? name ≠ some i →
      after.values.get? name = s.context.values.get? name)
    (blocked : ∀ p ∈ g.predecessors i, fateOf s.reports p ≠ .done →
      (∀ r, .ofReport (change r) = Fate.skipped) ∧ g.Spares i after.values)
    (free : (∀ p ∈ g.predecessors i, fateOf s.reports p = .done) →
      (∀ r, .ofReport (change r) = Fate.ofVerdict (verdict id crew i spec after.values)) ∧
        g.Leaves i (verdict id crew i spec after.values) after.values) :
    HasVisited g id crew seed (visited ++ [i]) ⟨after, s.reports.modify i change⟩ := by
  have lt : i < s.reports.length := good.length ▸ (List.getElem?_eq_some_iff.mp place).1
  have here := fateOf_modify_self (List.getElem?_eq_getElem lt) change
  have apart (j : Nat) (member : j ∈ visited) : j ≠ i := fun eq => new (eq ▸ member)
  have fate (j : Nat) (member : j ∈ visited) :
      fateOf (s.reports.modify i change) j = fateOf s.reports j :=
    fateOf_modify (apart j member) change
  refine ⟨?_, ?_, ?_, ?_, ?_, ?_⟩
  · rw [names_modify _ _ keeps]
    exact good.names
  · intro name none
    rw [others name (by rw [none]; simp)]
    exact good.unowned name none
  · intro j unvisited
    obtain ⟨old, ne⟩ : j ∉ visited ∧ j ≠ i := by simpa using unvisited
    exact (good.spared j old).of_ne ne others
  · intro j member r found
    rw [List.getElem?_modify] at found
    obtain ⟨r', there, rfl⟩ := Option.map_eq_some_iff.mp found
    by_cases eq : i = j
    · rw [if_pos eq]
      exact final r'
    · rw [if_neg eq]
      rcases List.mem_append.mp member with old | last
      · exact good.final j old r' there
      · exact absurd (List.mem_singleton.mp last).symm eq
  -- Stages that have been visited wait for others that have been, so nothing changes for them.
  · intro j member p edge undone
    rcases List.mem_append.mp member with old | last
    · rw [fate p (closed j old p edge)] at undone
      obtain ⟨ends, spares⟩ := good.blocked j old p edge undone
      exact ⟨(fate j old).trans ends, spares.of_ne (apart j old) others⟩
    · cases List.mem_singleton.mp last
      rw [fate p (before p edge)] at undone
      obtain ⟨ends, spares⟩ := blocked p edge undone
      exact ⟨here.trans (ends _), spares⟩
  · intro j member spec' there clear
    rcases List.mem_append.mp member with old | last
    · have clear' : ∀ p ∈ g.predecessors j, fateOf s.reports p = .done :=
        fun p edge => (fate p (closed j old p edge)).symm.trans (clear p edge)
      obtain ⟨ends, leaves⟩ := good.free j old spec' there clear'
      have reads := plain.reads_apart there (fun edge => new (closed j old i edge)) others
      rw [Graph.verdict_congr reads]
      exact ⟨(fate j old).trans ends, leaves.of_ne (apart j old) others⟩
    · cases List.mem_singleton.mp last
      cases place.symm.trans there
      have clear' : ∀ p ∈ g.predecessors i, fateOf s.reports p = .done :=
        fun p edge => (fate p (before p edge)).symm.trans (clear p edge)
      obtain ⟨ends, leaves⟩ := free clear'
      exact ⟨here.trans (ends _), leaves⟩

/-- Visiting a stage settles it. -/
theorem HasVisited.visit (plain : g.IsPlain) (good : HasVisited g id crew seed visited s) {i : Nat}
    (lt : i < g.size) (new : i ∉ visited) (before : ∀ p ∈ g.predecessors i, p ∈ visited)
    (closed : ∀ j ∈ visited, ∀ p ∈ g.predecessors j, p ∈ visited) :
    HasVisited g id crew seed (visited ++ [i]) (s.visit g id crew i) := by
  have place : g.stages[i]? = some g.stages[i] := List.getElem?_eq_getElem lt
  have shows := good.isBlocked_iff (i := i)
    (fun p edge => ⟨before p edge, (plain.sound.lt_of_mem_predecessors edge).1⟩)
  by_cases blocked : s.isBlocked g i = true
  -- A stage that is skipped stores nothing.
  · have visits : s.visit g id crew i =
        ⟨s.context, s.reports.modify i (fun r => { r with state := .skipped })⟩ := by
      simp only [Sequential.visit, place, blocked, if_true]
    obtain ⟨p, edge, undone⟩ := shows.mp blocked
    rw [visits]
    exact good.extend plain new before closed place (fun _ => rfl) (fun _ => .inr (.inr rfl))
      (fun _ _ => rfl) (fun _ _ _ => ⟨fun _ => rfl, good.spared i new⟩)
      (fun clear => absurd (clear p edge) undone)
  · have visits : s.visit g id crew i = ⟨(attempt id crew s.context i g.stages[i]).2,
        s.reports.modify i (conclude (attempt id crew s.context i g.stages[i]).1)⟩ := by
      simp only [Sequential.visit, place, blocked, if_false, Bool.false_eq_true]
    obtain ⟨others, ends, leaves⟩ := attempt_spec id crew plain place
      (good.spared i new)
    rw [visits]
    refine good.extend plain new before closed place ?_ ?_ others ?_ ?_
    · intro r
      unfold conclude
      split <;> rfl
    · intro r
      unfold conclude
      split
      next => exact .inl rfl
      next => exact .inr (.inl ⟨rfl, rfl⟩)
    · intro p edge undone
      exact absurd (shows.mpr ⟨p, edge, undone⟩) blocked
    · intro _
      exact ⟨fun r => ofReport_conclude _ _ ends r, leaves⟩

theorem hasVisited_start (plain : g.IsPlain) (id : String) (crew : Crew)
    (attributes : ∀ name, seed.contains name = true → g.attributes.contains name = true)
    (suffixes : Suffixes) : HasVisited g id crew seed [] (start g seed suffixes) := by
  refine ⟨?_, fun _ _ => rfl, fun i _ => plain.spares_seed attributes i, ?_, ?_, ?_⟩
  · rw [start, List.map_map]
    rfl
  all_goals
    intro i member
    cases member

/-- Along the order, what has been visited holds with each stage those that it waits for. -/
theorem hasVisited_prefix (plain : g.IsPlain) (id : String) (crew : Crew)
    (attributes : ∀ name, seed.contains name = true → g.attributes.contains name = true)
    (suffixes : Suffixes) (l : List Nat) : ∀ r, g.order = l ++ r →
      HasVisited g id crew seed l (l.foldl (visit g id crew) (start g seed suffixes)) ∧
        ∀ j ∈ l, ∀ p ∈ g.predecessors j, p ∈ l := by
  have sound := plain.sound
  -- From the end, because a visit comes after those before it.
  induction l using List.reverseRecOn with
  | nil =>
    intro _ _
    exact ⟨hasVisited_start plain id crew attributes suffixes, by simp⟩
  | append_singleton l i ih =>
    intro r eq
    have eq' : g.order = l ++ i :: r := by simpa using eq
    obtain ⟨good, closed⟩ := ih (i :: r) eq'
    have lt : i < g.size := (sound.mem_order i).mp (by simp [eq'])
    have new : i ∉ l := fun member =>
      (List.nodup_append.mp (eq' ▸ sound.order_nodup)).2.2 i member i List.mem_cons_self rfl
    have before := sound.before l i r eq'
    rw [List.foldl_append, List.foldl_cons, List.foldl_nil]
    refine ⟨good.visit plain lt new before closed, fun j member p edge => ?_⟩
    rcases List.mem_append.mp member with old | last
    · exact List.mem_append_left _ (closed j old p edge)
    · cases List.mem_singleton.mp last
      exact List.mem_append_left _ (before p edge)

/-- Visiting the stages in order solves the equations of the graph. -/
theorem run_isSolution (plain : g.IsPlain) (id : String) (crew : Crew)
    (attributes : ∀ name, seed.contains name = true → g.attributes.contains name = true)
    (suffixes : Suffixes) :
    g.IsSolution id crew seed (run g id crew seed suffixes).context.values
      (fateOf (run g id crew seed suffixes).reports) ∧
    (run g id crew seed suffixes).reports.map (·.stage) = g.stageNames ∧
    ∀ r ∈ (run g id crew seed suffixes).reports, r.IsFinal := by
  obtain ⟨good, -⟩ := hasVisited_prefix plain id crew attributes suffixes g.order [] (by simp)
  have all (i : Nat) (lt : i < g.size) : i ∈ g.order := (plain.sound.mem_order i).mpr lt
  refine ⟨⟨good.unowned, fun i lt => good.blocked i (all i lt), fun i spec place => ?_⟩,
    good.names, fun r member => ?_⟩
  · exact good.free i (all i (List.getElem?_eq_some_iff.mp place).1) spec place
  · obtain ⟨i, found⟩ := List.getElem?_of_mem member
    have lt : i < g.size := good.length ▸ (List.getElem?_eq_some_iff.mp found).1
    exact good.final i (all i lt) r found

end Sequential

end Printworks
