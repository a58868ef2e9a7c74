import Printworks.Rehearsal.Trial

/-!
# Floors make moves

Whatever happens on a floor, the executions on it change by moves only: each of them is what some
moves have made of it since it was put there, and it has ended where moves have finished it. So what
holds after any moves holds of every execution that is rehearsed.
-/

namespace Printworks.Rehearsal

/-- Whether moves have made an execution what it is now. -/
structure Run.IsFrom (first : Shift) (r : Run) : Prop where
  moved : ∃ moves, r.shift = first.run moves
  concluded : ∀ e, r.conclusion = some e →
    ∃ moves, (first.run moves).place = .finished ∧ e = (first.run moves).concluded

namespace Run.IsFrom

variable {first : Shift} {r : Run}

theorem play (h : r.IsFrom first) (moves : List Move) : (r.play moves).IsFrom first := by
  obtain ⟨before, same⟩ := h.moved
  refine ⟨⟨before ++ moves, ?_⟩, h.concluded⟩
  change r.shift.run moves = first.run (before ++ moves)
  rw [same, Shift.run, Shift.run, Shift.run, List.foldl_append]

theorem watch (h : r.IsFrom first) (p : Party) : (r.watch p).IsFrom first := ⟨h.moved, h.concluded⟩

theorem conclude (h : r.IsFrom first) : r.conclude.IsFrom first := by
  rw [Run.conclude]
  split
  next finished =>
    obtain ⟨moves, same⟩ := h.moved
    refine ⟨⟨moves, same⟩, fun e ends => ⟨moves, same ▸ finished, ?_⟩⟩
    rw [← same]
    exact (Option.some.inj ends).symm
  next => exact h

end Run.IsFrom

namespace Floor

/-- Whether moves have made all executions on a floor what they are now. -/
def Follows (firsts : Nat → Shift) (f : Floor) : Prop :=
  ∀ (i : Nat) (r : Run), f.runs[i]? = some r → r.IsFrom (firsts i)

variable {firsts : Nat → Shift} {f f' : Floor}

/-! ### What leaves the executions alone -/

@[simp] theorem runs_wake (f : Floor) (p : Party) : (f.wake p).runs = f.runs := by
  rw [wake]
  split <;> rfl

theorem runs_foldl_wake {α : Type} (party : α → Party) (l : List α) (f : Floor) :
    (l.foldl (fun f a => f.wake (party a)) f).runs = f.runs := by
  induction l generalizing f with
  | nil => rfl
  | cons a rest ih => rw [List.foldl_cons, ih, runs_wake]

@[simp] theorem runs_returnPermit (f : Floor) : f.returnPermit.runs = f.runs := by
  unfold returnPermit
  split
  next => rfl
  next run line _ =>
    dsimp only
    cases f.runs[run]? with
    | none => rfl
    | some r => exact runs_wake _ _

@[simp] theorem runs_note (f : Floor) (stage : String) (notes : List Note) :
    (f.note stage notes).runs = f.runs := by
  rw [note]
  split <;> rfl

theorem Follows.of_runs (h : f.Follows firsts) (same : f'.runs = f.runs) : f'.Follows firsts := by
  intro i r found
  exact h i r (same ▸ found)

/-! ### What changes one execution -/

theorem Follows.updateRun (h : f.Follows firsts) {run : Nat} {change : Run → Run}
    (keeps : ∀ r, f.runs[run]? = some r → r.IsFrom (firsts run) → (change r).IsFrom (firsts run)) :
    (f.updateRun run change).Follows firsts := by
  intro i r found
  rw [Floor.updateRun, List.getElem?_modify] at found
  obtain ⟨before, there, rfl⟩ := Option.map_eq_some_iff.mp found
  split
  next eq =>
    subst eq
    exact keeps before there (h _ before there)
  next => exact h i before there

theorem Follows.signal (h : f.Follows firsts) (run : Nat) : (f.signal run).Follows firsts := by
  unfold Floor.signal
  split
  next => exact h
  next =>
    split
    next => exact h
    next =>
      refine Follows.of_runs (f := f.updateRun run _) ?_ (runs_foldl_wake id _ _)
      refine h.updateRun (fun r _ from_ => ?_)
      exact ⟨(from_.play [.signal]).moved, from_.concluded⟩

theorem Follows.round (h : f.Follows firsts) (moves : List Move) (run : Nat) :
    (f.round moves run).Follows firsts := by
  unfold Floor.round
  split
  next => exact h
  next r found =>
    refine Follows.of_runs (f := f.updateRun run _) ?_ (runs_foldl_wake _ _ _)
    exact h.updateRun (fun _ _ _ => (h run r found).play _)

theorem Follows.settleAll (h : f.Follows firsts) (run : Nat) (stages : List Nat) :
    (stages.foldl (settle run) f).Follows firsts := by
  induction stages generalizing f with
  | nil => exact h
  | cons stage rest ih => exact ih (h.round _ run)

theorem Follows.rest (h : f.Follows firsts) (run : Nat) : (f.rest run).Follows firsts := by
  unfold Floor.rest
  split
  next => exact h
  next r _ =>
    split
    next => exact h.updateRun (fun _ _ from_ => from_.conclude)
    next =>
      dsimp only
      -- Whether it lines up for a permit or not, the executions stay the same.
      have queued : (if r.shift.place = .queueing then { f with line := f.line ++ [run] }
          else f).Follows firsts := by
        split
        next => exact h
        next => exact h
      split
      next => exact queued
      next => exact queued.updateRun (fun _ _ from_ => from_.watch _)

theorem Follows.proceed (h : f.Follows firsts) (run : Nat) : (f.proceed run).Follows firsts := by
  have without (granted line : List Nat) : Follows firsts { f with granted, line } := h
  unfold Floor.proceed
  split
  next => exact h
  next r _ =>
    split
    next => exact h
    next =>
      split
      next => exact ((without _ _).round _ run).rest run
      next =>
        split
        next =>
          split
          next => exact ((without _ _).round _ run).rest run
          next => exact h
        next =>
          split
          next => exact (h.round _ run).rest run
          next =>
            -- The ends are taken off the list before they are taken note of, one by one.
            have told : (f.updateRun run (fun r => { r with ended := [] })).Follows firsts :=
              h.updateRun (fun _ _ from_ => ⟨from_.moved, from_.concluded⟩)
            exact (told.settleAll run _).rest run

theorem Follows.launch (h : f.Follows firsts) {client : Nat} {id : String}
    {pipeline : Pipeline Script} {seed : Dict Value} {signalled : Bool}
    (first : firsts f.runs.length = Shift.start ⟨f.limit⟩ id pipeline.graph seed f.suffixes) :
    (f.launch client id pipeline seed signalled).2.Follows firsts := by
  refine Follows.proceed (fun i r found => ?_) f.runs.length
  rcases Nat.lt_or_ge i f.runs.length with before | new
  -- The others stay as they are.
  · rw [List.getElem?_append_left before] at found
    exact h i r found
  · rw [List.getElem?_append_right new] at found
    obtain ⟨here, rfl⟩ := List.getElem?_eq_some_iff.mp found
    rw [List.length_singleton] at here
    -- The new execution stands behind all others; it has made no move, or has been told to stop.
    have last : i = f.runs.length := by omega
    subst last
    refine ⟨?_, fun e ends => by simp at ends⟩
    cases signalled with
    | false => exact ⟨[], by simp [first, Shift.run]⟩
    | true => exact ⟨[.signal], by simp [first, Shift.run]⟩

theorem Follows.leave (h : f.Follows firsts) (a : Actor) (client : Nat) :
    (f.leave a client).Follows firsts := by
  refine Follows.of_runs (f := f.updateRun a.run _) ?_ ((runs_wake _ _).trans (runs_returnPermit _))
  exact h.updateRun (fun _ _ from_ => ⟨from_.moved, from_.concluded⟩)

theorem Follows.deliver (h : f.Follows firsts) (a : Actor) (r : Run)
    (result : Except StageError Workspace) : (f.deliver a r result).Follows firsts := by
  have played : (f.updateRun a.run
      (Run.play [.supply f.suffixes, .deliver a.stage (.ofResult result)])).Follows firsts :=
    h.updateRun (fun _ _ from_ => from_.play _)
  have supplied (suffixes : Suffixes) : Follows firsts { f.updateRun a.run
      (Run.play [.supply f.suffixes, .deliver a.stage (.ofResult result)]) with suffixes } := played
  exact (supplied _).leave a r.client

theorem Follows.pauseActor (h : f.Follows firsts) (a : Actor) (r : Run) (pause : Pause) :
    (f.pauseActor a r pause).Follows firsts := by
  cases pause with
  | ended result => exact h.deliver a r result
  | sleeping ms w rest => exact h
  | awaiting w rest =>
    exact Follows.updateRun (h.of_runs rfl) (fun _ _ from_ => from_.watch _)

theorem Follows.perform (h : f.Follows firsts) (a : Actor) (r : Run) (w : Workspace) :
    (f.perform a r w).Follows firsts := by
  refine Follows.pauseActor ?_ a r _
  have noted (notes : List Note) (spoiled : Option Nat) :
      Follows firsts { f.note w.spec.name notes with spoiled := spoiled } :=
    h.of_runs (runs_note f _ _)
  split
  next => exact (noted _ _).signal a.run
  next => exact noted _ _

theorem Follows.enter (h : f.Follows firsts) (a : Actor) {r : Run} (found : f.runs[a.run]? = some r) :
    (f.enter a r).Follows firsts := by
  have entered (moves : List Move) : (f.updateRun a.run (fun _ => r.play moves)).Follows firsts :=
    h.updateRun (fun _ _ _ => (h a.run r found).play moves)
  unfold Floor.enter
  dsimp only
  split
  next => exact (entered _).leave a r.client
  next => exact Follows.perform ((entered _).of_runs (runs_note _ _ _)) a _ _

theorem Follows.act (h : f.Follows firsts) (run stage : Nat) : (f.act run stage).Follows firsts := by
  unfold Floor.act
  split
  next a r present found =>
    -- The actor that was found is one of the execution that is asked for.
    have here : a.run = run := by
      have at_ := List.find?_some present
      simp only [Actor.isAt, Bool.and_eq_true, beq_iff_eq] at at_
      exact at_.1
    split
    next => exact h.enter a (here ▸ found)
    next w _ => exact h.perform a r w
  next => exact h

theorem Follows.take (h : f.Follows firsts) (p : Party) : (f.take p).Follows firsts := by
  cases p with
  | stage run stage => exact h.act run stage
  | client n =>
    rw [Floor.take, serve]
    cases f.runs.findIdx? (fun r => r.client == n) with
    | none => exact h
    | some run => exact h.proceed run
  | deadline n => exact h

theorem Follows.advance (h : f.Follows firsts) (time : Nat) : (f.advance time).Follows firsts :=
  h.of_runs (runs_foldl_wake Alarm.party _ _)

theorem Follows.step? (h : f.Follows firsts) (next : f.step? = some f') : f'.Follows firsts := by
  unfold Floor.step? at next
  split at next
  next => cases next
  next p rest _ =>
    cases next
    have others : Follows firsts { f with queue := rest } := h
    exact others.take p

end Floor

/-! ### Time -/

namespace Clockwork

variable {State : Type} [Clockwork State] {P : State → Prop}

theorem settleWithin_keeps (step : ∀ s s', P s → step? s = some s' → P s') (fuel : Nat) {s : State}
    (h : P s) : P (settleWithin fuel s) := by
  induction fuel generalizing s with
  | zero => exact h
  | succ fuel ih =>
    rw [settleWithin]
    split
    next => exact h
    next s' next => exact ih (step s s' h next)

/-- What each step keeps, and what the clock keeps, holds whatever time passes. -/
theorem passWithin_keeps (step : ∀ s s', P s → step? s = some s' → P s')
    (advance : ∀ (time : Nat) s, P s → P (Clockwork.advance time s)) (fuel : Nat)
    (last : Option Nat) (stop : State → Bool) {s : State} (h : P s) :
    P (passWithin fuel last stop s) := by
  induction fuel generalizing s with
  | zero => exact h
  | succ fuel ih =>
    have settled : P (settle s) := settleWithin_keeps step _ h
    rw [passWithin]
    split
    next => exact settled
    next =>
      split
      next => exact settled
      next =>
        split
        next => exact settled
        next => exact ih (advance _ _ settled)

end Clockwork

/-! ### Trials -/

namespace Trial

def first (t : Trial) (suffixes : Suffixes) : Shift :=
  .start ⟨t.permits⟩ t.executionId t.pipeline.graph t.seed suffixes

theorem conduct_follows (t : Trial) (suffixes : Suffixes) :
    (t.conduct suffixes).Follows (fun _ => t.first suffixes) := by
  let Kept (f : Floor) : Prop := f.Follows (fun _ => t.first suffixes)
  have step (f f' : Floor) (h : Kept f) (next : Clockwork.step? f = some f') : Kept f' :=
    h.step? next
  have advance (time : Nat) (f : Floor) (h : Kept f) : Kept (Clockwork.advance time f) :=
    h.advance time
  -- There is nothing on the floor before the launch.
  have empty : Kept (Floor.start (.ofMillis 0) t.permits suffixes) := by
    intro i r found
    cases found
  have launched : Kept ((Floor.start (.ofMillis 0) t.permits suffixes).launch 0 t.executionId
      t.pipeline t.seed t.cancelled).2 := empty.launch rfl
  unfold conduct
  refine Clockwork.passWithin_keeps step advance _ _ _ ?_
  cases t.cancelAt with
  | none => exact launched
  | some time =>
    refine Floor.Follows.signal ?_ _
    exact advance _ _ (Clockwork.passWithin_keeps step advance _ _ _ launched)

/-- The result of a trial is that of an execution that some moves have finished. -/
theorem result_of_moves {t : Trial} {suffixes : Suffixes} {result : Result}
    (h : t.result? suffixes = some result) :
    ∃ moves, let s := (t.first suffixes).run moves
      s.place = .finished ∧ result.report = s.concluded.report ∧
        result.events = s.concluded.events := by
  have follows := t.conduct_follows suffixes
  unfold result? at h
  dsimp only at h
  split at h
  next r only =>
    obtain ⟨e, ends, rfl⟩ := Option.map_eq_some_iff.mp h
    have found : (t.conduct suffixes).runs[0]? = some r := by rw [only]; rfl
    obtain ⟨moves, finished, rfl⟩ := (follows 0 r found).concluded e ends
    exact ⟨moves, finished, rfl, rfl⟩
  next => cases h

end Trial

end Printworks.Rehearsal
