/-
Runs of the rebuild queue.

A run is any sequence of requests, of workers that begin a rebuild, and of rebuilds that end, for
any scopes in any order; `RebuildQueue.run?` gives the queue after it, if every step can be taken.
What a step does is said once here: to the worker of its own scope by `worker?_step?_self`, to the
others by `worker?_step?_of_ne`.  Restarts of the runtime are no steps.
-/
import StaticSite.Watch.Queue

namespace StaticSite.Watch

/-- One thing that happens to the queue. -/
inductive Step where
  | request (scope : Scope)
  /-- The worker takes what waits and begins a rebuild. -/
  | start (scope : Scope)
  | finish (scope : Scope) (ending : Ending)
  deriving Repr, DecidableEq

/-- The scope that the step concerns. -/
def Step.scope : Step → Scope
  | .request s => s
  | .start s => s
  | .finish s _ => s

namespace RebuildQueue

/-- The queue after a step, if it can be taken. -/
def step? (q : RebuildQueue) : Step → Option RebuildQueue
  | .request s => some (q.request s).1
  | .start s => q.start? s
  | .finish s e => (q.finish? s e).map (·.1)

/-- The queue after steps in order, if all of them can be taken. -/
def run? (q : RebuildQueue) (steps : List Step) : Option RebuildQueue := steps.foldlM step? q

theorem run?_concat {q q' : RebuildQueue} {steps : List Step} {step : Step} :
    q.run? (steps ++ [step]) = some q' ↔
      ∃ mid, q.run? steps = some mid ∧ mid.step? step = some q' := by
  unfold run?
  rw [List.foldlM_append]
  simp [Option.bind_eq_some_iff]

/-! ## The operations -/

/-- A request leaves its scope with a live worker for which a rebuild waits. -/
theorem worker?_request_self (q : RebuildQueue) (s : Scope) :
    (q.request s).1.worker? s = some ⟨true, true, (q.liveWorker s).running⟩ := by
  have halive : (q.liveWorker s).alive = true := by
    unfold liveWorker
    cases q.worker? s with
    | none => rfl
    | some w => cases ha : w.alive <;> simp [ha, Worker.fresh]
  unfold request
  dsimp only
  split
  · rename_i hwaiting
    -- the live worker is the one in the queue: a fresh one has nothing waiting
    have hself : q.worker? s = some (q.liveWorker s) := by
      unfold liveWorker at hwaiting ⊢
      cases hw : q.worker? s with
      | none => simp [hw, Worker.fresh] at hwaiting
      | some w =>
          cases ha : w.alive with
          | false => simp [hw, ha, Worker.fresh] at hwaiting
          | true => simp [ha]
    rw [hself]
    cases hl : q.liveWorker s
    simp_all
  · rw [worker?_setWorker_self]
    cases hl : q.liveWorker s
    simp_all

theorem worker?_request_of_ne (q : RebuildQueue) {s other : Scope} (h : other ≠ s) :
    (q.request s).1.worker? other = q.worker? other := by
  unfold request
  dsimp only
  split
  · rfl
  · exact worker?_setWorker_of_ne q h _

/-- A worker begins just if it lives, is idle and something waits for it. -/
theorem start?_eq_some {q q' : RebuildQueue} {s : Scope} :
    q.start? s = some q' ↔
      q.worker? s = some ⟨true, true, false⟩ ∧ q' = q.setWorker s ⟨true, false, true⟩ := by
  unfold start?
  constructor
  · intro h
    split at h
    · rename_i hw
      cases h
      exact ⟨hw, rfl⟩
    · cases h
  · rintro ⟨hw, rfl⟩
    rw [hw]

/-- A rebuild ends just if one runs; how it ends does not matter to its worker. -/
theorem finish?_eq_some {q q' : RebuildQueue} {s : Scope} {e : Ending} {event : RebuildEvent} :
    q.finish? s e = some (q', event) ↔
      ∃ alive waiting, q.worker? s = some ⟨alive, waiting, true⟩ ∧
        q' = q.setWorker s ⟨alive, waiting, false⟩ ∧ event = ⟨s, e == .success⟩ := by
  unfold finish?
  constructor
  · intro h
    split at h
    · rename_i alive waiting hw
      cases h
      exact ⟨alive, waiting, hw, rfl, rfl⟩
    · cases h
  · rintro ⟨alive, waiting, hw, rfl, rfl⟩
    rw [hw]

/-- What a step does to the worker of its scope. -/
theorem worker?_step?_self {q q' : RebuildQueue} {step : Step} (h : q.step? step = some q') :
    (∃ s, step = .request s ∧ q'.worker? s = some ⟨true, true, (q.liveWorker s).running⟩) ∨
    (∃ s, step = .start s ∧ q.worker? s = some ⟨true, true, false⟩ ∧
      q'.worker? s = some ⟨true, false, true⟩) ∨
    ∃ s e alive waiting, step = .finish s e ∧ q.worker? s = some ⟨alive, waiting, true⟩ ∧
      q'.worker? s = some ⟨alive, waiting, false⟩ := by
  cases step with
  | request s =>
      cases h
      exact .inl ⟨s, rfl, worker?_request_self q s⟩
  | start s =>
      obtain ⟨hw, rfl⟩ := start?_eq_some.mp h
      exact .inr (.inl ⟨s, rfl, hw, worker?_setWorker_self q s _⟩)
  | finish s e =>
      obtain ⟨⟨next, event⟩, hfinish, rfl⟩ := Option.map_eq_some_iff.mp h
      obtain ⟨alive, waiting, hw, rfl, -⟩ := finish?_eq_some.mp hfinish
      exact .inr (.inr ⟨s, e, alive, waiting, rfl, hw, worker?_setWorker_self q s _⟩)

/-- A step leaves the workers of other scopes as they are. -/
theorem worker?_step?_of_ne {q q' : RebuildQueue} {step : Step} {other : Scope}
    (hne : other ≠ step.scope) (h : q.step? step = some q') :
    q'.worker? other = q.worker? other := by
  cases step with
  | request s =>
      cases h
      exact worker?_request_of_ne q hne
  | start s =>
      obtain ⟨-, rfl⟩ := start?_eq_some.mp h
      exact worker?_setWorker_of_ne q hne _
  | finish s e =>
      obtain ⟨⟨next, event⟩, hfinish, rfl⟩ := Option.map_eq_some_iff.mp h
      obtain ⟨alive, waiting, -, rfl, -⟩ := finish?_eq_some.mp hfinish
      exact worker?_setWorker_of_ne q hne _

/-- A worker after a step lives, or it was there before and had no less to do. -/
theorem alive_or_worker?_of_step? {q q' : RebuildQueue} {step : Step} {s : Scope} {w : Worker}
    (h : q.step? step = some q') (hw : q'.worker? s = some w) :
    w.alive = true ∨ ∃ old, q.worker? s = some old ∧ old.alive = w.alive ∧
      (w.waiting = true ∨ w.running = true → old.waiting = true ∨ old.running = true) := by
  by_cases hs : s = step.scope
  · subst hs
    rcases worker?_step?_self h with
      ⟨t, rfl, hnew⟩ | ⟨t, rfl, -, hnew⟩ | ⟨t, e, alive, waiting, rfl, hold, hnew⟩
    · cases hnew.symm.trans hw
      exact .inl rfl
    · cases hnew.symm.trans hw
      exact .inl rfl
    · cases hnew.symm.trans hw
      exact .inr ⟨_, hold, rfl, fun _ => .inr rfl⟩
  · rw [worker?_step?_of_ne hs h] at hw
    exact .inr ⟨w, hw, rfl, id⟩

end RebuildQueue

end StaticSite.Watch
