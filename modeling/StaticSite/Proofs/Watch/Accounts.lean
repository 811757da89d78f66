/-
Rebuilds of one scope come one at a time and are accounted for.

A record is a queue with what it has shown: the answers to requests and the events of rebuilds that
have ended.  Main statement (`rebuilds_accounted`): along every run, each rebuild of a scope that
has begun has ended or is the one that runs, each request that was answered as queued has begun its
rebuild or is the one that waits, and the events are the endings in their order.  However a rebuild
ends, its worker goes on, and a new runtime serves every scope again.

Restarts are no steps, so the states that a queue can reach (`Reachable`) are more than those of
runs.
-/
import Mathlib.Data.List.Induction
import StaticSite.Proofs.Watch.Run

namespace StaticSite.Watch

/-! ## Records -/

/-- The scope that a step is a request for. -/
def Step.requested? : Step → Option Scope
  | .request s => some s
  | _ => none

/-- The event that tells of a step. -/
def Step.event? : Step → Option RebuildEvent
  | .finish s e => some ⟨s, e == .success⟩
  | _ => none

/-- Does a rebuild of the scope end in the step? -/
def Step.ends (s : Scope) : Step → Bool
  | .finish t _ => t == s
  | _ => false

/-- A queue with what it has shown so far. -/
structure Record where
  queue : RebuildQueue
  /-- The answers to requests, each with its scope. -/
  answers : List (Scope × Admission)
  /-- The events that were sent. -/
  events : List RebuildEvent
  deriving Repr, DecidableEq

namespace Record

/-- The queue without workers, which has shown nothing. -/
def initial : Record := ⟨.empty, [], []⟩

/-- The record after a step, if it can be taken. -/
def step? (r : Record) : Step → Option Record
  | .request s =>
    let (q, answer) := r.queue.request s
    some ⟨q, r.answers ++ [(s, answer)], r.events⟩
  | .start s => (r.queue.start? s).map fun q => ⟨q, r.answers, r.events⟩
  | .finish s e =>
    (r.queue.finish? s e).map fun (q, event) => ⟨q, r.answers, r.events ++ [event]⟩

/-- The record after steps in order, if all of them can be taken. -/
def run? (r : Record) (steps : List Step) : Option Record := steps.foldlM step? r

theorem run?_concat {r r' : Record} {steps : List Step} {step : Step} :
    r.run? (steps ++ [step]) = some r' ↔
      ∃ mid, r.run? steps = some mid ∧ mid.step? step = some r' := by
  unfold run?
  rw [List.foldlM_append]
  simp [Option.bind_eq_some_iff]

theorem step?_request (r : Record) (s : Scope) :
    r.step? (.request s) =
      some ⟨(r.queue.request s).1, r.answers ++ [(s, (r.queue.request s).2)], r.events⟩ := rfl

theorem step?_start {r r' : Record} {s : Scope} :
    r.step? (.start s) = some r' ↔
      ∃ q, r.queue.start? s = some q ∧ r' = ⟨q, r.answers, r.events⟩ := by
  constructor
  · intro h
    obtain ⟨q, hq, rfl⟩ := Option.map_eq_some_iff.mp h
    exact ⟨q, hq, rfl⟩
  · rintro ⟨q, hq, rfl⟩
    exact Option.map_eq_some_iff.mpr ⟨q, hq, rfl⟩

theorem step?_finish {r r' : Record} {s : Scope} {e : Ending} :
    r.step? (.finish s e) = some r' ↔
      ∃ q event, r.queue.finish? s e = some (q, event) ∧
        r' = ⟨q, r.answers, r.events ++ [event]⟩ := by
  constructor
  · intro h
    obtain ⟨⟨q, event⟩, hq, rfl⟩ := Option.map_eq_some_iff.mp h
    exact ⟨q, event, hq, rfl⟩
  · rintro ⟨q, event, hq, rfl⟩
    exact Option.map_eq_some_iff.mpr ⟨(q, event), hq, rfl⟩

/-- Recording changes nothing about the steps of a queue. -/
theorem queue_step? (r : Record) (step : Step) :
    (r.step? step).map queue = r.queue.step? step := by
  cases step with
  | request s => rfl
  | start s => simp [step?, RebuildQueue.step?, Function.comp_def]
  | finish s e => simp [step?, RebuildQueue.step?, Function.comp_def]

theorem queue_run? (r : Record) (steps : List Step) :
    (r.run? steps).map queue = r.queue.run? steps := by
  induction steps generalizing r with
  | nil => rfl
  | cons step steps ih =>
      unfold run? RebuildQueue.run? at *
      rw [List.foldlM_cons, List.foldlM_cons, ← queue_step?]
      cases r.step? step with
      | none => rfl
      | some next => exact ih next

end Record

namespace RebuildQueue

/-! ## The states of a queue -/

/-- A queue that requests, rebuilds and restarts of the runtime lead to. -/
inductive Reachable : RebuildQueue → Prop
  | empty : Reachable empty
  | step {q q' : RebuildQueue} {step : Step} :
      Reachable q → q.step? step = some q' → Reachable q'
  | restart {q q' : RebuildQueue} : Reachable q → q.restart? = some q' → Reachable q'

/-- Does a rebuild of the scope wait? -/
def waits (q : RebuildQueue) (s : Scope) : Bool := (q.worker? s).any (·.waiting)

/-- Does a rebuild of the scope run? -/
def runs (q : RebuildQueue) (s : Scope) : Bool := (q.worker? s).any (·.running)

/-- There is one worker for each scope, and one that has something to do lives. -/
structure Sound (q : RebuildQueue) : Prop where
  nodup : q.workers.keys.Nodup
  alive : ∀ {s w}, q.worker? s = some w → w.waiting = true ∨ w.running = true → w.alive = true

variable {q q' : RebuildQueue}

theorem sound_empty : Sound empty where
  nodup := List.nodup_nil
  alive := fun h => by cases h

theorem Sound.nodup_setWorker (hq : q.Sound) (s : Scope) (w : Worker) :
    (q.setWorker s w).workers.keys.Nodup :=
  OrderedMap.nodup_keys_insert hq.nodup s w

theorem Sound.step {step : Step} (hq : q.Sound) (h : q.step? step = some q') : q'.Sound where
  nodup := by
    cases step with
    | request s =>
        cases h
        unfold request
        dsimp only
        split
        · exact hq.nodup
        · exact hq.nodup_setWorker s _
    | start s =>
        obtain ⟨-, rfl⟩ := start?_eq_some.mp h
        exact hq.nodup_setWorker s _
    | finish s e =>
        obtain ⟨⟨next, event⟩, hfinish, rfl⟩ := Option.map_eq_some_iff.mp h
        obtain ⟨alive, waiting, -, rfl, -⟩ := finish?_eq_some.mp hfinish
        exact hq.nodup_setWorker s _
  alive := by
    intro s w hw hbusy
    rcases alive_or_worker?_of_step? h hw with halive | ⟨old, hold, halive, hless⟩
    · exact halive
    · rw [← halive]
      exact hq.alive hold (hless hbusy)

/-- The workers of a new runtime: each scope has an ended one, if it had one before. -/
theorem worker?_restart? (h : q.restart? = some q') (s : Scope) :
    q'.worker? s = (q.worker? s).map fun _ => ⟨false, false, false⟩ := by
  unfold restart? at h
  split at h
  · cases h
    unfold worker? OrderedMap.get?
    induction q.workers.entries with
    | nil => rfl
    | cons entry rest ih =>
        obtain ⟨t, w⟩ := entry
        by_cases ht : t = s
        · simp [OrderedMap.find?, ht]
        · simpa [OrderedMap.find?, ht] using ih
  · cases h

theorem Sound.restart (hq : q.Sound) (h : q.restart? = some q') : q'.Sound where
  nodup := by
    unfold restart? at h
    split at h
    · cases h
      rw [OrderedMap.keys, List.map_map]
      exact hq.nodup
    · cases h
  alive := by
    intro s w hw hbusy
    rw [worker?_restart? h] at hw
    obtain ⟨-, -, rfl⟩ := Option.map_eq_some_iff.mp hw
    simp at hbusy

theorem Reachable.sound (h : Reachable q) : q.Sound := by
  induction h with
  | empty => exact sound_empty
  | step _ hstep ih => exact ih.step hstep
  | restart _ hrestart ih => exact ih.restart hrestart

theorem reachable_of_run? {steps : List Step} (h : empty.run? steps = some q) : Reachable q := by
  induction steps using List.reverseRecOn generalizing q with
  | nil =>
      cases h
      exact .empty
  | append_singleton init last ih =>
      obtain ⟨mid, hmid, hlast⟩ := run?_concat.mp h
      exact .step (ih hmid) hlast

/-! ## What a step does to a scope -/

theorem waits_step?_of_ne {step : Step} {other : Scope} (hne : other ≠ step.scope)
    (h : q.step? step = some q') : q'.waits other = q.waits other := by
  rw [waits, waits, worker?_step?_of_ne hne h]

theorem runs_step?_of_ne {step : Step} {other : Scope} (hne : other ≠ step.scope)
    (h : q.step? step = some q') : q'.runs other = q.runs other := by
  rw [runs, runs, worker?_step?_of_ne hne h]

/-- An ended worker has nothing to do, so that the worker in its place is like it. -/
theorem Sound.liveWorker (hq : q.Sound) (s : Scope) :
    (q.liveWorker s).waiting = q.waits s ∧ (q.liveWorker s).running = q.runs s := by
  unfold RebuildQueue.liveWorker waits runs
  cases hw : q.worker? s with
  | none => exact ⟨rfl, rfl⟩
  | some w =>
      cases halive : w.alive with
      | true => simp [halive]
      | false =>
          have hidle := mt (hq.alive hw) (by simp [halive])
          simp_all [Worker.fresh]

theorem Sound.request (hq : q.Sound) (s : Scope) :
    (q.request s).2 = (if q.waits s then .absorbed else .queued) ∧
      (q.request s).1.waits s = true ∧ (q.request s).1.runs s = q.runs s := by
  obtain ⟨hwaiting, hrunning⟩ := hq.liveWorker s
  refine ⟨?_, ?_, ?_⟩
  · rw [← hwaiting]
    unfold RebuildQueue.request
    dsimp only
    split <;> rfl
  · rw [waits, worker?_request_self]
    rfl
  · rw [runs, worker?_request_self, ← hrunning]
    rfl

theorem waits_start? {s : Scope} (h : q.start? s = some q') :
    q.waits s = true ∧ q.runs s = false ∧ q'.waits s = false ∧ q'.runs s = true := by
  obtain ⟨hw, rfl⟩ := start?_eq_some.mp h
  simp [waits, runs, hw]

theorem waits_finish? {s : Scope} {e : Ending} {event : RebuildEvent}
    (h : q.finish? s e = some (q', event)) :
    q.runs s = true ∧ q'.runs s = false ∧ q'.waits s = q.waits s ∧ event = ⟨s, e == .success⟩ := by
  obtain ⟨alive, waiting, hw, rfl, rfl⟩ := finish?_eq_some.mp h
  simp [waits, runs, hw]

/-- A rebuild that waits can begin as soon as none runs. -/
theorem Sound.exists_start? (hq : q.Sound) {s : Scope} (hwaits : q.waits s = true)
    (hruns : q.runs s = false) : ∃ next, q.start? s = some next := by
  unfold waits runs at *
  cases hw : q.worker? s with
  | none => simp [hw] at hwaits
  | some w =>
      obtain ⟨alive, waiting, running⟩ := w
      simp only [hw, Option.any_some] at hwaits hruns
      obtain rfl : alive = true := hq.alive hw (.inl hwaits)
      subst hwaits hruns
      exact ⟨_, start?_eq_some.mpr ⟨hw, rfl⟩⟩

/-- A request is answered as queued while nothing waits, and its rebuild can begin if none runs. -/
theorem Sound.request_of_idle (hq : q.Sound) {s : Scope} (hwaits : q.waits s = false)
    (hruns : q.runs s = false) :
    (q.request s).2 = .queued ∧ ∃ next, (q.request s).1.start? s = some next := by
  obtain ⟨hanswer, hnew, hsame⟩ := hq.request s
  have hstep : q.step? (.request s) = some (q.request s).1 := rfl
  exact ⟨by simpa [hwaits] using hanswer,
    (hq.step hstep).exists_start? hnew (hsame.trans hruns)⟩

theorem runs_of_isIdle (h : q.isIdle = true) (s : Scope) : q.runs s = false := by
  unfold runs
  cases hw : q.worker? s with
  | none => rfl
  | some w =>
      have hidle := List.all_eq_true.mp h _ (OrderedMap.mem_of_find?_eq_some hw)
      simpa using hidle

/-- The runtime can be replaced when no rebuild runs. -/
theorem Sound.exists_restart? (hq : q.Sound) (h : ∀ s, q.runs s = false) :
    ∃ next, q.restart? = some next := by
  have hidle : q.isIdle = true := by
    refine List.all_eq_true.mpr fun entry hentry => ?_
    have hw : q.worker? entry.1 = some entry.2 := OrderedMap.find?_of_mem hq.nodup hentry
    simpa [runs, hw] using h entry.1
  unfold restart?
  exact ⟨_, if_pos hidle⟩

theorem Sound.nodup_running (hq : q.Sound) : q.running.Nodup :=
  hq.nodup.sublist (List.filter_sublist.map _)

end RebuildQueue

/-! ## Accounts -/

/-- The account of a scope in a record after steps: what was answered as queued has begun or waits,
and what has begun has ended or runs. -/
structure Record.Balances (r : Record) (steps : List Step) (s : Scope) : Prop where
  queued : r.answers.count (s, .queued) = steps.count (.start s) + (r.queue.waits s).toNat
  begun : steps.count (.start s) = steps.countP (Step.ends s) + (r.queue.runs s).toNat

/-- The accounts of all scopes, and what was shown for the steps in their order. -/
structure Record.Accounts (r : Record) (steps : List Step) : Prop where
  sound : r.queue.Sound
  balances : ∀ s, r.Balances steps s
  answers : r.answers.map (·.1) = steps.filterMap Step.requested?
  events : r.events = steps.filterMap Step.event?

namespace Record

variable {r r' : Record} {steps : List Step}

theorem queue_of_step? {step : Step} (h : r.step? step = some r') :
    r.queue.step? step = some r'.queue := by
  rw [← queue_step?, h]
  rfl

/-- A step leaves the accounts of other scopes as they are. -/
theorem Balances.step_of_ne {step : Step} {s : Scope} (hs : r.Balances steps s)
    (hne : s ≠ step.scope) (h : r.step? step = some r') : r'.Balances (steps ++ [step]) s := by
  have hwaits := RebuildQueue.waits_step?_of_ne hne (queue_of_step? h)
  have hruns := RebuildQueue.runs_step?_of_ne hne (queue_of_step? h)
  cases step with
  | request t =>
      have hts : t ≠ s := Ne.symm hne
      rw [step?_request, Option.some.injEq] at h
      subst h
      constructor
      · rw [hwaits]
        simpa [hts] using hs.queued
      · rw [hruns]
        simpa [Step.ends] using hs.begun
  | start t =>
      have hts : t ≠ s := Ne.symm hne
      obtain ⟨q, -, rfl⟩ := step?_start.mp h
      constructor
      · rw [hwaits]
        simpa [hts] using hs.queued
      · rw [hruns]
        simpa [hts, Step.ends] using hs.begun
  | finish t e =>
      have hts : t ≠ s := Ne.symm hne
      obtain ⟨q, event, -, rfl⟩ := step?_finish.mp h
      constructor
      · rw [hwaits]
        simpa using hs.queued
      · rw [hruns]
        simpa [hts, Step.ends] using hs.begun

/-- An answer as queued comes with a rebuild that begins to wait, a start takes one from waiting to
running, and an end takes away one that runs. -/
theorem Balances.step_self {step : Step} {s : Scope} (hs : r.Balances steps s)
    (hsound : r.queue.Sound) (hscope : step.scope = s) (h : r.step? step = some r') :
    r'.Balances (steps ++ [step]) s := by
  obtain ⟨hqueued, hbegun⟩ := hs
  cases step with
  | request t =>
      obtain rfl : t = s := hscope
      obtain ⟨hanswer, hwaits, hruns⟩ := hsound.request t
      rw [step?_request, Option.some.injEq] at h
      subst h
      constructor
      · rw [hwaits, List.count_append, List.count_append, hqueued, hanswer]
        cases r.queue.waits t <;> simp
      · rw [hruns, List.count_append, List.countP_append, hbegun]
        simp [Step.ends]
  | start t =>
      obtain rfl : t = s := hscope
      obtain ⟨q, hstart, rfl⟩ := step?_start.mp h
      obtain ⟨hwaits, hruns, hwaits', hruns'⟩ := RebuildQueue.waits_start? hstart
      constructor
      · rw [hwaits', List.count_append, hqueued, hwaits]
        simp
      · rw [hruns', List.count_append, List.countP_append, hbegun, hruns]
        simp [Step.ends]
  | finish t e =>
      obtain rfl : t = s := hscope
      obtain ⟨q, event, hfinish, rfl⟩ := step?_finish.mp h
      obtain ⟨hruns, hruns', hwaits', -⟩ := RebuildQueue.waits_finish? hfinish
      constructor
      · rw [hwaits', List.count_append, hqueued]
        simp
      · rw [hruns', List.count_append, List.countP_append, hbegun, hruns]
        simp [Step.ends]

/-- One step keeps the accounts. -/
theorem Accounts.step {step : Step} (hr : r.Accounts steps) (h : r.step? step = some r') :
    r'.Accounts (steps ++ [step]) where
  sound := hr.sound.step (queue_of_step? h)
  balances := by
    intro s
    by_cases hs : step.scope = s
    · exact (hr.balances s).step_self hr.sound hs h
    · exact (hr.balances s).step_of_ne (Ne.symm hs) h
  answers := by
    rw [List.filterMap_append, ← hr.answers]
    cases step with
    | request s =>
        rw [step?_request, Option.some.injEq] at h
        subst h
        simp [Step.requested?]
    | start s =>
        obtain ⟨q, -, rfl⟩ := step?_start.mp h
        simp [Step.requested?]
    | finish s e =>
        obtain ⟨q, event, -, rfl⟩ := step?_finish.mp h
        simp [Step.requested?]
  events := by
    rw [List.filterMap_append, ← hr.events]
    cases step with
    | request s =>
        rw [step?_request, Option.some.injEq] at h
        subst h
        simp [Step.event?]
    | start s =>
        obtain ⟨q, -, rfl⟩ := step?_start.mp h
        simp [Step.event?]
    | finish s e =>
        obtain ⟨q, event, hfinish, rfl⟩ := step?_finish.mp h
        obtain ⟨-, -, -, rfl⟩ := RebuildQueue.waits_finish? hfinish
        simp [Step.event?]

theorem accounts_initial : initial.Accounts [] where
  sound := RebuildQueue.sound_empty
  balances := fun _ => ⟨rfl, rfl⟩
  answers := rfl
  events := rfl

theorem accounts_of_run? (h : initial.run? steps = some r) : r.Accounts steps := by
  induction steps using List.reverseRecOn generalizing r with
  | nil =>
      cases h
      exact accounts_initial
  | append_singleton init last ih =>
      obtain ⟨mid, hmid, hlast⟩ := run?_concat.mp h
      exact (ih hmid).step hlast

/-- As many rebuilds of a scope have ended as events of it were sent. -/
theorem countP_ends (steps : List Step) (s : Scope) :
    steps.countP (Step.ends s) =
      (steps.filterMap Step.event?).countP fun event => event.scope == s := by
  rw [List.countP_filterMap]
  congr 1
  funext step
  cases step <;> rfl

theorem reachable_queue (h : initial.run? steps = some r) :
    RebuildQueue.Reachable r.queue := by
  have hqueue := queue_run? initial steps
  rw [h] at hqueue
  exact RebuildQueue.reachable_of_run? hqueue.symm

end Record

namespace RebuildQueue

/-- After a rebuild, however it has ended, its worker begins the next one: the one that waits, or
else that of the next request. -/
theorem Sound.serves_after_finish? {q q' : RebuildQueue} (hq : q.Sound) {s : Scope} {e : Ending}
    {event : RebuildEvent} (h : q.finish? s e = some (q', event)) :
    (q'.waits s = true → ∃ next, q'.start? s = some next) ∧
      (q'.waits s = false →
        (q'.request s).2 = .queued ∧ ∃ next, (q'.request s).1.start? s = some next) := by
  have hstep : q.step? (.finish s e) = some q' := by simp [step?, h]
  have hq' : q'.Sound := hq.step hstep
  obtain ⟨-, hidle, -, -⟩ := waits_finish? h
  exact ⟨fun hwaits => hq'.exists_start? hwaits hidle,
    fun hwaits => hq'.request_of_idle hwaits hidle⟩

/-- A new runtime serves every scope. -/
theorem Sound.serves_after_restart? {q q' : RebuildQueue} (hq : q.Sound)
    (h : q.restart? = some q') (s : Scope) :
    (q'.request s).2 = .queued ∧ ∃ next, (q'.request s).1.start? s = some next := by
  have hw := worker?_restart? h s
  have hwaits : q'.waits s = false := by
    rw [waits, hw]
    cases q.worker? s <;> rfl
  have hidle : q'.runs s = false := by
    rw [runs, hw]
    cases q.worker? s <;> rfl
  exact (hq.restart h).request_of_idle hwaits hidle

end RebuildQueue

/-- Along every run, what was answered as queued has begun or waits, one at most, and what has begun
has ended or runs, one at most; the events are the endings in order.  In every state that can be
reached, a scope has one worker, which goes on after every ending, and when nothing runs the runtime
can be replaced and serves every scope again. -/
theorem rebuilds_accounted :
    (∀ steps r, Record.initial.run? steps = some r →
      RebuildQueue.Reachable r.queue ∧
      (∀ s, r.answers.count (s, .queued) = steps.count (.start s) + (r.queue.waits s).toNat ∧
        steps.count (.start s) = steps.countP (Step.ends s) + (r.queue.runs s).toNat ∧
        steps.countP (Step.ends s) = r.events.countP fun event => event.scope == s) ∧
      r.answers.map (·.1) = steps.filterMap Step.requested? ∧
      r.events = steps.filterMap Step.event?) ∧
    ∀ q, RebuildQueue.Reachable q →
      q.workers.keys.Nodup ∧ q.running.Nodup ∧
      (∀ s e q' event, q.finish? s e = some (q', event) →
        event = ⟨s, e == .success⟩ ∧
        (q'.waits s = true → ∃ next, q'.start? s = some next) ∧
        (q'.waits s = false →
          (q'.request s).2 = .queued ∧ ∃ next, (q'.request s).1.start? s = some next)) ∧
      ((∀ s, q.runs s = false) → ∃ q', q.restart? = some q' ∧
        ∀ s, (q'.request s).2 = .queued ∧ ∃ next, (q'.request s).1.start? s = some next) := by
  constructor
  · intro steps r hrun
    have hr := Record.accounts_of_run? hrun
    refine ⟨Record.reachable_queue hrun, fun s => ?_, hr.answers, hr.events⟩
    refine ⟨(hr.balances s).queued, (hr.balances s).begun, ?_⟩
    rw [hr.events]
    exact Record.countP_ends steps s
  · intro q hq
    have hsound := hq.sound
    refine ⟨hsound.nodup, hsound.nodup_running, fun s e q' event h => ?_, fun hidle => ?_⟩
    · obtain ⟨-, -, -, hevent⟩ := RebuildQueue.waits_finish? h
      exact ⟨hevent, hsound.serves_after_finish? h⟩
    · obtain ⟨q', hrestart⟩ := hsound.exists_restart? hidle
      exact ⟨q', hrestart, hsound.serves_after_restart? hrestart⟩

/-- Two rebuilds of one scope, the first of which breaks off, with a request that is absorbed. -/
def crashRun : List Step :=
  [.request .content, .start .content, .request .content, .request (.compiler "css"),
    .request .content, .finish .content .crash, .start .content, .finish .content .success]

theorem rebuilds_accounted_crashRun :
    ∃ r, Record.initial.run? crashRun = some r ∧
      r.events = [⟨.content, false⟩, ⟨.content, true⟩] ∧
      r.answers.count (.content, .queued) = 2 ∧
      r.answers.count (.content, .queued) =
        crashRun.count (.start .content) + (r.queue.waits .content).toNat ∧
      RebuildQueue.Reachable r.queue ∧ r.queue.running.Nodup ∧
      (∃ fresh, r.queue.restart? = some fresh ∧ (fresh.request .content).2 = .queued ∧
        ∃ next, (fresh.request .content).1.start? .content = some next) ∧
      ∃ before after, Record.initial.run? (crashRun.take 5) = some before ∧
        before.queue.finish? .content .crash = some (after, ⟨.content, false⟩) ∧
        ∃ next, after.start? .content = some next := by
  obtain ⟨hreachable, hcounts, -, -⟩ := rebuilds_accounted.1 crashRun _ rfl
  obtain ⟨-, hrunning, -, hrestart⟩ := rebuilds_accounted.2 _ hreachable
  obtain ⟨fresh, hfresh, hserves⟩ := hrestart (RebuildQueue.runs_of_isIdle (by decide))
  -- the rebuild that breaks off, with one more that waits
  obtain ⟨hbefore, -⟩ := rebuilds_accounted.1 (crashRun.take 5) _ rfl
  obtain ⟨-, -, hfinish, -⟩ := rebuilds_accounted.2 _ hbefore
  obtain ⟨-, hwaiting, -⟩ := hfinish .content .crash _ _ rfl
  exact ⟨_, rfl, by decide, by decide, (hcounts .content).1, hreachable, hrunning,
    ⟨fresh, hfresh, hserves .content⟩, _, _, rfl, rfl, hwaiting (by decide)⟩

end StaticSite.Watch
