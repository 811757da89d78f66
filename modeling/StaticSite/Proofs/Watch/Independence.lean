/-
Scopes do not affect one another.

What a scope sees of a record (`View`) is its worker, the answers to its requests and its events.  A
step changes what its own scope sees, in a way that depends on nothing else
(`exists_step?_of_view_eq`), and leaves what other scopes see as it is (`view_step?_of_ne`).  Main
statement (`scopes_independent`): a run without the steps of other scopes shows its scope the same,
and neighbouring steps of different scopes can be exchanged.

The order in which workers came to be is all that an exchange changes, and no scope sees it.
-/
import StaticSite.Proofs.Watch.Accounts

namespace StaticSite.Watch

/-- What a scope sees of a record. -/
structure View where
  worker? : Option Worker
  /-- The answers to its requests, in order. -/
  answers : List Admission
  /-- Which of its rebuilds that have ended did so with success, in order. -/
  successes : List Bool
  deriving Repr, DecidableEq

namespace Record

/-- What a scope sees of the record. -/
def view (r : Record) (s : Scope) : View :=
  { worker? := r.queue.worker? s
    answers := (r.answers.filter fun (t, _) => t = s).map (·.2)
    successes := (r.events.filter fun event => event.scope = s).map (·.ok) }

variable {r r' next next' : Record} {step : Step} {s : Scope}

/-! ## Steps -/

/-- A step leaves what other scopes see as it is. -/
theorem view_step?_of_ne (hne : s ≠ step.scope) (h : r.step? step = some next) :
    next.view s = r.view s := by
  have hworker := RebuildQueue.worker?_step?_of_ne hne (queue_of_step? h)
  unfold view
  rw [hworker]
  cases step with
  | request t =>
      rw [step?_request, Option.some.injEq] at h
      subst h
      have hts : t ≠ s := Ne.symm hne
      simp [hts]
  | start t =>
      obtain ⟨q, -, rfl⟩ := step?_start.mp h
      rfl
  | finish t e =>
      obtain ⟨q, event, hfinish, rfl⟩ := step?_finish.mp h
      obtain ⟨-, -, -, rfl⟩ := RebuildQueue.waits_finish? hfinish
      have hts : t ≠ s := Ne.symm hne
      simp [hts]

theorem view_request (r : Record) (s : Scope) :
    (⟨(r.queue.request s).1, r.answers ++ [(s, (r.queue.request s).2)], r.events⟩ : Record).view s =
      { worker? := some ⟨true, true, (r.queue.liveWorker s).running⟩
        answers := (r.view s).answers ++ [(r.queue.request s).2]
        successes := (r.view s).successes } := by
  simp [view, RebuildQueue.worker?_request_self]

theorem view_start (r : Record) (s : Scope) (w : Worker) :
    (⟨r.queue.setWorker s w, r.answers, r.events⟩ : Record).view s =
      { r.view s with worker? := some w } := by
  simp [view]

theorem view_finish (r : Record) (s : Scope) (w : Worker) (ok : Bool) :
    (⟨r.queue.setWorker s w, r.answers, r.events ++ [⟨s, ok⟩]⟩ : Record).view s =
      { worker? := some w
        answers := (r.view s).answers
        successes := (r.view s).successes ++ [ok] } := by
  simp [view]

/-- The worker that requests go to is told by what the scope sees. -/
theorem liveWorker_of_view_eq (h : r.view s = r'.view s) :
    r.queue.liveWorker s = r'.queue.liveWorker s := by
  have hworker : r.queue.worker? s = r'.queue.worker? s := congrArg View.worker? h
  rw [RebuildQueue.liveWorker, RebuildQueue.liveWorker, hworker]

theorem answer_of_view_eq (h : r.view s = r'.view s) :
    (r.queue.request s).2 = (r'.queue.request s).2 := by
  unfold RebuildQueue.request
  dsimp only
  rw [liveWorker_of_view_eq h]
  split <;> rfl

/-- What a step does for its scope depends on what the scope sees, and on nothing else. -/
theorem exists_step?_of_view_eq (hview : r.view step.scope = r'.view step.scope)
    (h : r.step? step = some next) :
    ∃ next', r'.step? step = some next' ∧ next'.view step.scope = next.view step.scope := by
  have hworker : r.queue.worker? step.scope = r'.queue.worker? step.scope :=
    congrArg View.worker? hview
  cases step with
  | request t =>
      rw [step?_request, Option.some.injEq] at h
      subst h
      refine ⟨_, step?_request r' t, ?_⟩
      have hlive := liveWorker_of_view_eq hview
      have hanswer := answer_of_view_eq hview
      dsimp only [Step.scope] at hview hlive hanswer ⊢
      rw [view_request, view_request, hview, hlive, hanswer]
  | start t =>
      obtain ⟨q, hstart, rfl⟩ := step?_start.mp h
      obtain ⟨hw, rfl⟩ := RebuildQueue.start?_eq_some.mp hstart
      have hstart' := RebuildQueue.start?_eq_some.mpr ⟨hworker.symm.trans hw, rfl⟩
      refine ⟨_, step?_start.mpr ⟨_, hstart', rfl⟩, ?_⟩
      dsimp only [Step.scope] at hview ⊢
      rw [view_start, view_start, hview]
  | finish t e =>
      obtain ⟨q, event, hfinish, rfl⟩ := step?_finish.mp h
      obtain ⟨alive, waiting, hw, rfl, rfl⟩ := RebuildQueue.finish?_eq_some.mp hfinish
      have hfinish' : r'.queue.finish? t e =
          some (r'.queue.setWorker t ⟨alive, waiting, false⟩, ⟨t, e == .success⟩) :=
        RebuildQueue.finish?_eq_some.mpr ⟨alive, waiting, hworker.symm.trans hw, rfl, rfl⟩
      refine ⟨_, step?_finish.mpr ⟨_, _, hfinish', rfl⟩, ?_⟩
      dsimp only [Step.scope] at hview ⊢
      rw [view_finish, view_finish, hview]

/-! ## Runs -/

/-- Every scope sees the same of both records. -/
def SameViews (r r' : Record) : Prop := ∀ s, r.view s = r'.view s

/-- Records that look the same to every scope go on looking the same. -/
theorem SameViews.step? (hsame : r.SameViews r') (h : r.step? step = some next) :
    ∃ next', r'.step? step = some next' ∧ next.SameViews next' := by
  obtain ⟨next', hnext', hview⟩ := exists_step?_of_view_eq (hsame step.scope) h
  refine ⟨next', hnext', fun s => ?_⟩
  by_cases hs : s = step.scope
  · rw [hs, hview]
  · rw [view_step?_of_ne hs h, view_step?_of_ne hs hnext', hsame s]

theorem run?_cons {steps : List Step} :
    r.run? (step :: steps) = some next ↔
      ∃ mid, r.step? step = some mid ∧ mid.run? steps = some next := by
  unfold run?
  rw [List.foldlM_cons]
  exact Option.bind_eq_some_iff

theorem SameViews.run? {steps : List Step} (hsame : r.SameViews r')
    (h : r.run? steps = some next) : ∃ next', r'.run? steps = some next' ∧ next.SameViews next' := by
  induction steps generalizing r r' with
  | nil =>
      cases h
      exact ⟨r', rfl, hsame⟩
  | cons step steps ih =>
      obtain ⟨mid, hmid, hrest⟩ := run?_cons.mp h
      obtain ⟨mid', hmid', hsame'⟩ := hsame.step? hmid
      obtain ⟨next', hnext', hviews⟩ := ih hsame' hrest
      exact ⟨next', run?_cons.mpr ⟨mid', hmid', hnext'⟩, hviews⟩

/-- A run goes on for a scope if the steps of the other scopes are left out, from any record of
which the scope sees the same. -/
theorem exists_run?_filter {steps : List Step} (hview : r.view s = r'.view s)
    (h : r.run? steps = some next) :
    ∃ next', r'.run? (steps.filter fun step => step.scope = s) = some next' ∧
      next'.view s = next.view s := by
  induction steps generalizing r r' with
  | nil =>
      cases h
      exact ⟨r', rfl, hview.symm⟩
  | cons step steps ih =>
      obtain ⟨mid, hmid, hrest⟩ := run?_cons.mp h
      by_cases hs : step.scope = s
      · subst hs
        obtain ⟨mid', hmid', hview'⟩ := exists_step?_of_view_eq hview hmid
        obtain ⟨next', hnext', hlast⟩ := ih hview'.symm hrest
        refine ⟨next', ?_, hlast⟩
        rw [List.filter_cons_of_pos (by simp)]
        exact run?_cons.mpr ⟨mid', hmid', hnext'⟩
      · -- a step of another scope changes nothing that this one sees
        rw [List.filter_cons_of_neg (by simp [hs])]
        exact ih ((view_step?_of_ne (Ne.symm hs) hmid).trans hview) hrest

/-- Two steps of different scopes can be taken in either order, with the same result for every
scope. -/
theorem exists_step?_swap {a b : Step} (hne : a.scope ≠ b.scope) (ha : r.step? a = some next)
    (hb : next.step? b = some next') :
    ∃ mid last, r.step? b = some mid ∧ mid.step? a = some last ∧ next'.SameViews last := by
  obtain ⟨mid, hmid, hbview⟩ := exists_step?_of_view_eq (view_step?_of_ne (Ne.symm hne) ha) hb
  obtain ⟨last, hlast, haview⟩ := exists_step?_of_view_eq (view_step?_of_ne hne hmid).symm ha
  refine ⟨mid, last, hmid, hlast, fun s => ?_⟩
  by_cases hsa : s = a.scope
  · rw [hsa, haview, view_step?_of_ne hne hb]
  · by_cases hsb : s = b.scope
    · rw [hsb, view_step?_of_ne (Ne.symm hne) hlast, hbview]
    · rw [view_step?_of_ne hsb hb, view_step?_of_ne hsa ha, view_step?_of_ne hsa hlast,
        view_step?_of_ne hsb hmid]

theorem run?_append {steps steps' : List Step} :
    r.run? (steps ++ steps') = some next ↔
      ∃ mid, r.run? steps = some mid ∧ mid.run? steps' = some next := by
  unfold run?
  rw [List.foldlM_append]
  exact Option.bind_eq_some_iff

end Record

/-- A run without the steps of other scopes is a run that a scope sees the same of, its worker, the
answers to its requests and its events; and neighbouring steps of different scopes can be exchanged,
which no scope sees. -/
theorem scopes_independent (start : Record) :
    (∀ steps r, start.run? steps = some r → ∀ s, ∃ r',
      start.run? (steps.filter fun step => step.scope = s) = some r' ∧ r'.view s = r.view s) ∧
    ∀ before a b after r, a.scope ≠ b.scope → start.run? (before ++ a :: b :: after) = some r →
      ∃ r', start.run? (before ++ b :: a :: after) = some r' ∧ ∀ s, r'.view s = r.view s := by
  constructor
  · intro steps r hrun s
    exact Record.exists_run?_filter rfl hrun
  · intro before a b after r hne hrun
    obtain ⟨mid, hbefore, hrest⟩ := Record.run?_append.mp hrun
    obtain ⟨first, ha, hrest⟩ := Record.run?_cons.mp hrest
    obtain ⟨second, hb, hafter⟩ := Record.run?_cons.mp hrest
    obtain ⟨first', second', hb', ha', hsame⟩ := Record.exists_step?_swap hne ha hb
    obtain ⟨r', hr', hviews⟩ := hsame.run? hafter
    refine ⟨r', ?_, fun s => (hviews s).symm⟩
    exact Record.run?_append.mpr ⟨mid, hbefore,
      Record.run?_cons.mpr ⟨first', hb', Record.run?_cons.mpr ⟨second', ha', hr'⟩⟩⟩

/-- Two scopes whose requests, rebuilds and endings come in turns. -/
def interleavedRun : List Step :=
  [.request .content, .request (.compiler "css"), .start .content, .request .content,
    .start (.compiler "css"), .request (.compiler "css"), .request .content,
    .finish .content .crash, .finish (.compiler "css") .success, .start .content]

theorem scopes_independent_interleavedRun :
    ∃ r alone swapped, Record.initial.run? interleavedRun = some r ∧
      Record.initial.run? [.request .content, .start .content, .request .content,
        .request .content, .finish .content .crash, .start .content] = some alone ∧
      r.view .content = ⟨some ⟨true, false, true⟩, [.queued, .queued, .absorbed], [false]⟩ ∧
      alone.view .content = r.view .content ∧
      Record.initial.run? (.request (.compiler "css") :: .request .content ::
        interleavedRun.drop 2) = some swapped ∧
      swapped ≠ r ∧ ∀ s, swapped.view s = r.view s := by
  obtain ⟨hfilter, hswap⟩ := scopes_independent Record.initial
  obtain ⟨alone, halone, hview⟩ := hfilter interleavedRun _ rfl .content
  obtain ⟨swapped, hswapped, hviews⟩ := hswap [] (.request .content) (.request (.compiler "css"))
    (interleavedRun.drop 2) _ (by decide) rfl
  refine ⟨_, alone, swapped, rfl, halone, by decide, hview, hswapped, ?_, hviews⟩
  cases hswapped
  decide

end StaticSite.Watch
