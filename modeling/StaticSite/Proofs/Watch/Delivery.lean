/-
No change is lost.

A request is unserved while its scope has not begun a rebuild after it.  Main statement: after every
run, the scope of an unserved request has a live worker for which a rebuild waits, whatever the
request was answered and however earlier rebuilds ended.  A request may be absorbed only because the
rebuild that waits has not begun; the invariant says that this is so at every step.
-/
import Mathlib.Data.List.Induction
import StaticSite.Proofs.Watch.Run

namespace StaticSite.Watch

/-- A request of the scope has been made after the last start of the scope. -/
def Unserved (s : Scope) (steps : List Step) : Prop :=
  ∃ before after, steps = before ++ .request s :: after ∧ Step.start s ∉ after

theorem not_unserved_nil (s : Scope) : ¬ Unserved s [] := by
  rintro ⟨before, after, heq, -⟩
  cases before <;> cases heq

/-- A request is unserved after one more step if the step is that request, or else if it was
unserved before and the step does not serve it. -/
theorem unserved_concat {s : Scope} {steps : List Step} {step : Step} :
    Unserved s (steps ++ [step]) ↔ step = .request s ∨ step ≠ .start s ∧ Unserved s steps := by
  constructor
  · rintro ⟨before, after, heq, hstart⟩
    rcases List.eq_nil_or_concat after with rfl | ⟨init, last, rfl⟩
    · exact .inl (List.append_inj' heq rfl |>.2 |> List.singleton_inj.mp)
    · have hsplit : steps ++ [step] = (before ++ .request s :: init) ++ [last] := by
        rw [heq]
        simp
      obtain ⟨hinit, hlast⟩ := List.append_inj' hsplit rfl
      obtain rfl := List.singleton_inj.mp hlast
      simp only [List.concat_eq_append, List.mem_append, List.mem_singleton, not_or] at hstart
      exact .inr ⟨Ne.symm hstart.2, before, init, hinit, hstart.1⟩
  · rintro (rfl | ⟨hne, before, after, rfl, hstart⟩)
    · exact ⟨steps, [], rfl, List.not_mem_nil⟩
    · refine ⟨before, after ++ [step], by simp, ?_⟩
      simp only [List.mem_append, List.mem_singleton, not_or]
      exact ⟨hstart, Ne.symm hne⟩

namespace RebuildQueue

/-- What holds after every run: all workers live, and a rebuild waits for every unserved request. -/
structure Serves (q : RebuildQueue) (steps : List Step) : Prop where
  alive : ∀ {s w}, q.worker? s = some w → w.alive = true
  waits : ∀ {s}, Unserved s steps → ∃ w, q.worker? s = some w ∧ w.waiting = true

theorem serves_empty : Serves empty [] where
  alive := fun h => by cases h
  waits := fun h => absurd h (not_unserved_nil _)

/-- One step keeps the invariant: a request sets the token, only a start takes it, and the end of a
rebuild leaves it. -/
theorem Serves.step {q q' : RebuildQueue} {steps : List Step} {step : Step}
    (hq : q.Serves steps) (h : q.step? step = some q') : q'.Serves (steps ++ [step]) where
  alive := by
    intro s w hw
    rcases alive_or_worker?_of_step? h hw with halive | ⟨old, hold, halive, -⟩
    · exact halive
    · rw [← halive]
      exact hq.alive hold
  waits := by
    intro s hs
    by_cases hscope : s = step.scope
    · subst hscope
      rcases worker?_step?_self h with
        ⟨t, rfl, hnew⟩ | ⟨t, rfl, -, hnew⟩ | ⟨t, e, a, b, rfl, hold, hnew⟩
      · exact ⟨_, hnew, rfl⟩
      · -- a start serves all requests before it
        rcases unserved_concat.mp hs with hstep | ⟨hstep, -⟩
        · cases hstep
        · exact absurd rfl hstep
      · rcases unserved_concat.mp hs with hstep | ⟨-, hbefore⟩
        · cases hstep
        · obtain ⟨w, hw, hwaits⟩ := hq.waits hbefore
          cases hold.symm.trans hw
          exact ⟨_, hnew, hwaits⟩
    · rw [worker?_step?_of_ne hscope h]
      rcases unserved_concat.mp hs with hstep | ⟨-, hbefore⟩
      · exact absurd (by rw [hstep]; rfl) hscope
      · exact hq.waits hbefore

/-- Every run keeps the invariant. -/
theorem serves_of_run? {steps : List Step} {q : RebuildQueue} (h : empty.run? steps = some q) :
    q.Serves steps := by
  induction steps using List.reverseRecOn generalizing q with
  | nil =>
      cases h
      exact serves_empty
  | append_singleton init last ih =>
      obtain ⟨mid, hmid, hlast⟩ := run?_concat.mp h
      exact (ih hmid).step hlast

/-- After every run, a live worker of the scope of an unserved request has a rebuild waiting, which
it can begin as soon as it is idle; so no idle worker waits for nothing while a request is
unserved. -/
theorem token_waits_of_unserved {steps : List Step} {q : RebuildQueue} {s : Scope}
    (hrun : empty.run? steps = some q) (h : Unserved s steps) :
    (∃ w, q.worker? s = some w ∧ w.alive = true ∧ w.waiting = true ∧
      (w.running = false → ∃ next, q.step? (.start s) = some next)) ∧
    ¬ ∃ w, q.worker? s = some w ∧ w.running = false ∧ w.waiting = false := by
  have hq := serves_of_run? hrun
  obtain ⟨w, hw, hwaits⟩ := hq.waits h
  have halive := hq.alive hw
  refine ⟨⟨w, hw, halive, hwaits, fun hidle => ?_⟩, ?_⟩
  · obtain ⟨alive, waiting, running⟩ := w
    cases halive
    cases hwaits
    cases hidle
    exact ⟨_, start?_eq_some.mpr ⟨hw, rfl⟩⟩
  · rintro ⟨w', hw', -, hempty⟩
    cases hw.symm.trans hw'
    rw [hwaits] at hempty
    cases hempty

/-- Two requests during a rebuild that breaks off, the second of them absorbed. -/
theorem token_waits_after_crash :
    ∃ q, empty.run? [.request .content, .start .content, .request .content,
        .request (.compiler "css"), .request .content, .finish .content .crash] = some q ∧
      ((∃ w, q.worker? .content = some w ∧ w.alive = true ∧ w.waiting = true ∧
        (w.running = false → ∃ next, q.step? (.start .content) = some next)) ∧
      ¬ ∃ w, q.worker? .content = some w ∧ w.running = false ∧ w.waiting = false) :=
  ⟨_, rfl, token_waits_of_unserved rfl ⟨[.request .content, .start .content, .request .content,
    .request (.compiler "css")], [.finish .content .crash], rfl, by decide⟩⟩

end RebuildQueue

end StaticSite.Watch
