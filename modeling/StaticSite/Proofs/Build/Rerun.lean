/-
Doing the jobs of a build again.

The jobs of a run are done a second time on the files that the run has left.  A job that found
something in its way finds it again, and one that put a file finds the place free for it; so each job
fails or succeeds as before and writes what it wrote before (`Job.work_again`).

Between the jobs the files need not be those of the first time: an output that is written more than
once holds the last of its contents from the beginning.  What carries the induction is that every
place is as at the end of the first run or as at the same point of it; at the end these are the same
(`Run.again`).
-/
import StaticSite.Proofs.Build.OutputNames
import StaticSite.Proofs.FileSystem.Put

namespace StaticSite.Build

open StaticSite.Content StaticSite.Template StaticSite.Render FileSystem

variable {ctx : Context} {fs fs' after : FileSystem} {now : Int} {dir : String} {folder names : Place}
  {name : String} {content : ByteArray}

/-! ## What a job puts -/

namespace Job

/-- What the output of a job is to hold: the markup of the page, or the content of the asset, which
lies outside of the output folder. -/
inductive Yields (ctx : Context) (folder : Place) (fs : FileSystem) : Job → ByteArray → Prop
  | page {d : Document} {markup : String} :
      renderPage ctx d = .ok markup → Yields ctx folder fs (page d) markup.toUTF8
  | copy {a : Asset} {place : Place} {content : ByteArray} {modified : Int} :
      fs.locate a.sourcePath = .ok place → ¬ folder <+: place →
      fs.get? place = some (.file content modified) → Yields ctx folder fs (copy a) content

/-- How a job fills its output. -/
def fill (now : Int) (content : ByteArray) : Job → FileSystem → Except FileError FileSystem
  | page d, fs => fs.write d.destPath content now
  | copy a, fs => fs.copy a.sourcePath a.destPath now

/-- What is reported if the output cannot be written. -/
def failed (cause : FileError) : Job → Failure
  | page d => ⟨d.path, .write d.destPath cause⟩
  | copy a => ⟨a.path, .copy a.sourcePath a.destPath cause⟩

variable {job : Job} {failure : Option Failure}

theorem work_of_yields (hfresh : job.IsFresh) (h : job.Yields ctx folder fs content) :
    job.work ctx now fs =
      ((fs.putAt job.destPath (job.fill now content)).1,
        (fs.putAt job.destPath (job.fill now content)).2.map fun cause => job.failed cause) := by
  cases h with
  | page hrender => exact work_of_renderPage hfresh hrender
  | copy _ _ _ => rfl

/-- What a job puts stays the same while files are only written in the output folder. -/
theorem Yields.later (h : job.Yields ctx folder fs content) (hgrows : Grows fs fs')
    (hkeeps : ∀ place, ¬ folder <+: place → KeepsFile fs fs' place) :
    job.Yields ctx folder fs' content := by
  cases h with
  | page hrender => exact .page hrender
  | copy hlocate hapart hfile =>
      exact .copy (hgrows.locate hlocate) hapart ((hkeeps _ hapart _ _).mp hfile)

theorem fills_of_yields (hfs : fs.IsTree) (h : job.Yields ctx folder fs content)
    (hlocate : fs.locate job.destPath = .ok (folder ++ names)) (hne : names ≠ []) (now : Int) :
    Fills fs (folder ++ names) content now (job.fill now content) := by
  have hplace : folder ++ names ≠ [] := List.append_ne_nil_of_right_ne_nil _ hne
  cases h with
  | page _ => exact fills_write hlocate hplace _ now
  | copy hfrom hapart hfile =>
      refine fills_copy hfs hlocate hplace (read_eq_ok.mpr ⟨_, _, hfrom, hfile⟩) ?_ now
      rw [hfrom]
      rintro ⟨⟩
      exact hapart (List.prefix_append _ _)

section Put

variable (now)
variable (hinto : LeadsInto fs (Path.components dir) folder) (hgoes : job.GoesTo dir names name)
  (hyields : job.Yields ctx folder fs content)

include hinto hgoes hyields

/-- Once the folders have been made, the job fills its output. -/
theorem fills_of_createParents {made : FileSystem}
    (hmade : fs.createParents (Path.join dir ("/".intercalate (names ++ [name]))) = .ok made)
    (hparent : made.get? (folder ++ names) = some .folder) :
    Fills made (folder ++ (names ++ [name])) content now (job.fill now content) := by
  have hchange := changesOnly_createParents hinto.isTree hmade
  have hinto' := hinto.grows hchange.grows hchange.isTree
  refine fills_of_yields hchange.isTree (hyields.later hchange.grows fun place _ =>
    hchange.keepsFile place (Set.notMem_empty place)) ?_ (by simp) now
  rw [hgoes.destPath_eq]
  exact hinto'.locate_below hgoes.isName hparent

theorem work_of_blocked (hfresh : job.IsFresh) {cause : FileError}
    (hblocked : Blocked fs folder (names ++ [name]) cause) :
    ∃ fs', job.work ctx now fs = (fs', some (job.failed cause)) ∧
      ∀ place, fs'.get? place = fs.get? place := by
  obtain ⟨fs', hput, hsame⟩ := hinto.putAt_of_blocked hgoes.isName
    (fun _ => fills_of_createParents now hinto hgoes hyields) hblocked
  refine ⟨fs', ?_, hsame⟩
  rw [work_of_yields hfresh hyields, hgoes.destPath_eq, hput]
  rfl

theorem work_of_free (hfresh : job.IsFresh) (hfree : Free fs folder names name) :
    ∃ fs', job.work ctx now fs = (fs', none) ∧
      Put folder (names ++ [name]) content now fs fs' := by
  obtain ⟨fs', hput, hfile⟩ := hinto.putAt_of_free hgoes.isName
    (fun _ => fills_of_createParents now hinto hgoes hyields) hfree
  refine ⟨fs', ?_, hfile⟩
  rw [work_of_yields hfresh hyields, hgoes.destPath_eq, hput]
  rfl

end Put

/-- A job that is done again, on files that have grown since, ends as before.  It leaves each place
as it has left it before, unless it has not touched the place at all. -/
theorem work_again {g : FileSystem} (hinto : LeadsInto fs (Path.components dir) folder)
    (hinto' : LeadsInto g (Path.components dir) folder) (hfresh : job.IsFresh)
    (hgoes : job.GoesTo dir names name) (hyields : job.Yields ctx folder fs content)
    (hyields' : job.Yields ctx folder g content) (h : job.work ctx now fs = (fs', failure))
    (hfs' : fs'.IsTree) (hgrows : Grows fs g) (hgrows' : Grows fs' g) :
    ∃ g', job.work ctx now g = (g', failure) ∧ ∀ place, g'.get? place = fs'.get? place ∨
      g'.get? place = g.get? place ∧ fs'.get? place = fs.get? place := by
  rcases blocked_or_free fs folder names name with ⟨cause, hblocked⟩ | hfree
  · obtain ⟨_, hwork, hsame⟩ := work_of_blocked now hinto hgoes hyields hfresh hblocked
    cases hwork.symm.trans h
    obtain ⟨g', hwork', hsame'⟩ := work_of_blocked now hinto' hgoes hyields' hfresh
      (hblocked.grows hgrows)
    exact ⟨g', hwork', fun place => .inr ⟨hsame' place, hsame place⟩⟩
  · obtain ⟨_, hwork, hput⟩ := work_of_free now hinto hgoes hyields hfresh hfree
    cases hwork.symm.trans h
    obtain ⟨g', hwork', hput'⟩ := work_of_free now hinto' hgoes hyields' hfresh
      (hput.free hfs' hgrows')
    refine ⟨g', hwork', fun place => ?_⟩
    by_cases htarget : place = folder ++ (names ++ [name])
    · rw [htarget, hput.file, hput'.file]
      exact .inl rfl
    · rcases hput'.others place htarget with hkept' | ⟨hnone, -, hbegins⟩
      · rcases hput.others place htarget with hkept | ⟨-, hmade, -⟩
        · exact .inr ⟨hkept', hkept⟩
        · rw [hkept', hgrows'.get?_folder hmade, hmade]
          exact .inl rfl
      · -- the folders on the way to what was put before are there
        obtain ⟨_, _, hthere⟩ := hgrows'.get?_file hput.file
        rw [List.dropLast_concat] at hbegins
        obtain ⟨between, hbetween⟩ := hbegins
        rw [← List.append_assoc, ← hbetween, List.append_assoc] at hthere
        cases hnone.symm.trans (hinto'.isTree.get?_of_append (by simp) hthere)

end Job

/-! ## Runs done again -/

/-- A job that nothing has been attached to, with an output below a folder; the source of a copy is a
file outside of this folder. -/
structure Job.IsReady (dir : String) (folder : Place) (fs : FileSystem) (job : Job) : Prop where
  isFresh : job.IsFresh
  goesTo : ∃ names name, job.GoesTo dir names name
  source : ∀ a, job = .copy a → ∃ place content modified, fs.locate a.sourcePath = .ok place ∧
    ¬ folder <+: place ∧ fs.get? place = some (.file content modified)

namespace Job.IsReady

variable {job : Job}

theorem later (h : job.IsReady dir folder fs) (hgrows : Grows fs fs')
    (hkeeps : ∀ place, ¬ folder <+: place → KeepsFile fs fs' place) :
    job.IsReady dir folder fs' where
  isFresh := h.isFresh
  goesTo := h.goesTo
  source a ha := by
    obtain ⟨place, content, modified, hlocate, hapart, hfile⟩ := h.source a ha
    exact ⟨place, content, modified, hgrows.locate hlocate, hapart,
      (hkeeps place hapart _ _).mp hfile⟩

/-- A job has something to put, or fails wherever it is done. -/
theorem exists_yields_or_failure (h : job.IsReady dir folder fs) (ctx : Context) (now : Int) :
    (∃ content, job.Yields ctx folder fs content) ∨
      ∃ failure, ∀ fs, job.work ctx now fs = (fs, some failure) := by
  cases job with
  | page d =>
      cases hrender : renderPage ctx d with
      | ok markup => exact .inl ⟨_, .page hrender⟩
      | error e =>
          refine .inr ⟨⟨d.path, .render e⟩, fun fs => ?_⟩
          rw [work, renderDocument, hrender]
          rfl
  | copy a =>
      obtain ⟨place, content, modified, hlocate, hapart, hfile⟩ := h.source a rfl
      exact .inl ⟨content, .copy hlocate hapart hfile⟩

end Job.IsReady

/-- The places of outputs lie below the output folder and have no names of artifacts. -/
theorem exists_of_mem_placesOf (hinto : LeadsInto fs (Path.components dir) folder) {jobs : List Job}
    (hjobs : ∀ job ∈ jobs, ∃ names name, job.GoesTo dir names name) {place : Place}
    (h : place ∈ placesOf fs (targetsOf ctx jobs)) :
    ∃ names name, place = folder ++ (names ++ [name]) ∧ Artifact.classify name = none := by
  obtain ⟨path, hpath, hlocate⟩ := h
  obtain ⟨job, hjob, htarget⟩ := List.mem_flatMap.mp hpath
  obtain ⟨names, name, hgoes⟩ := hjobs job hjob
  have hdest : path = job.destPath := by
    cases job with
    | page d =>
        rw [Job.targets] at htarget
        split at htarget
        · exact List.mem_singleton.mp htarget
        · cases htarget
    | copy a => exact List.mem_singleton.mp htarget
  rw [hdest, hgoes.destPath_eq] at hlocate
  have hlinks : ∀ output, fs.placeOf dir = .ok output → fs.NoLinksIn output := by
    intro output houtput
    cases hinto.placeOf_eq.symm.trans houtput
    exact hinto.noLinks
  obtain ⟨output, houtput, rfl⟩ := eq_append_of_locate hlinks hgoes.isName (by simp) hlocate
  cases hinto.placeOf_eq.symm.trans houtput
  exact ⟨names, name, rfl, hgoes.not_artifact⟩

namespace Run

variable {lines : List (Job × Option Failure)}

/-- A run is what doing its jobs one after the other gives. -/
theorem forEach_eq (h : Run ctx now fs lines after) :
    forEach (fun fs job => job.work ctx now fs) fs (lines.map Prod.fst) =
      (after, lines.filterMap Prod.snd) := by
  induction h with
  | nil => rfl
  | @cons fs fs' after job failure lines hwork hrun ih =>
      rw [List.map_cons, forEach, hwork]
      dsimp only
      rw [ih]
      cases failure <;> rfl

theorem isFresh_of_isReady (hready : ∀ line ∈ lines, line.1.IsReady dir folder fs) :
    ∀ line ∈ lines, line.1.IsFresh := fun line hline => (hready line hline).isFresh

/-- Files outside of the output folder stay as they are. -/
theorem keepsFile_of_not_prefix (h : Run ctx now fs lines after)
    (hinto : LeadsInto fs (Path.components dir) folder)
    (hready : ∀ line ∈ lines, line.1.IsReady dir folder fs) {place : Place}
    (hapart : ¬ folder <+: place) : KeepsFile fs after place := by
  have hchange := h.changesOnly hinto.isTree (isFresh_of_isReady hready)
  have hjobs : ∀ job ∈ lines.map Prod.fst, ∃ names name, job.GoesTo dir names name := by
    intro job hjob
    obtain ⟨line, hline, rfl⟩ := List.mem_map.mp hjob
    exact (hready line hline).goesTo
  refine hchange.keepsFile place fun hmem => hapart ?_
  obtain ⟨names, name, rfl, -⟩ :=
    exists_of_mem_placesOf (hinto.grows hchange.grows hchange.isTree) hjobs hmem
  exact List.prefix_append _ _

/-- The jobs of a run can be done again on the files that it has left: each of them ends as before,
and every file is as it was in the end. -/
theorem again (h : Run ctx now fs lines after) (hinto : LeadsInto fs (Path.components dir) folder)
    (hready : ∀ line ∈ lines, line.1.IsReady dir folder fs) {g : FileSystem}
    (hinto' : LeadsInto g (Path.components dir) folder) (hgrows : Grows after g)
    (hover : ∀ place, g.get? place = after.get? place ∨ g.get? place = fs.get? place) :
    ∃ g', Run ctx now g lines g' ∧ ∀ place, g'.get? place = after.get? place := by
  induction h generalizing g with
  | nil => exact ⟨g, .nil, fun place => (hover place).elim id id⟩
  | @cons fs fs' after job failure lines hwork hrun ih =>
      have hall : Run ctx now fs ((job, failure) :: lines) after := .cons hwork hrun
      have hkeeps : ∀ place, ¬ folder <+: place → KeepsFile fs after place :=
        fun _ => hall.keepsFile_of_not_prefix hinto hready
      obtain ⟨hjob, hlines⟩ := List.forall_mem_cons.mp hready
      -- the first job, as a run of its own
      have hone : Run ctx now fs [(job, failure)] fs' := .cons hwork .nil
      have hready' : ∀ line ∈ [(job, failure)], line.1.IsReady dir folder fs :=
        List.forall_mem_singleton.mpr hjob
      have hstep := hone.changesOnly hinto.isTree (isFresh_of_isReady hready')
      have hinto₁ := hinto.grows hstep.grows hstep.isTree
      have hlater : ∀ line ∈ lines, line.1.IsReady dir folder fs' := fun line hline =>
        (hlines line hline).later hstep.grows fun _ hapart =>
          hone.keepsFile_of_not_prefix hinto hready' hapart
      have hgrows' := (hrun.changesOnly hstep.isTree (isFresh_of_isReady hlater)).grows.trans hgrows
      rcases hjob.exists_yields_or_failure ctx now with ⟨content, hyields⟩ | ⟨f, hfails⟩
      · have hyields' : job.Yields ctx folder g content := by
          refine hyields.later (hstep.grows.trans hgrows') fun place hapart content modified => ?_
          rcases hover place with hsame | hsame <;> rw [hsame]
          exact hkeeps place hapart content modified
        obtain ⟨names, name, hgoes⟩ := hjob.goesTo
        obtain ⟨g₁, hwork', hplaces⟩ := Job.work_again hinto hinto' hjob.isFresh hgoes hyields hyields'
          hwork hstep.isTree (hstep.grows.trans hgrows') hgrows'
        have hagain : Run ctx now g [(job, failure)] g₁ := .cons hwork' .nil
        have hstep' := hagain.changesOnly hinto'.isTree (isFresh_of_isReady hready')
        have hover₁ : ∀ place, g₁.get? place = after.get? place ∨ g₁.get? place = fs'.get? place := by
          intro place
          rcases hplaces place with hput | ⟨hkept, hsame⟩
          · exact .inr hput
          · rw [hkept, hsame]
            exact hover place
        obtain ⟨g', hrun', hend⟩ := ih hinto₁ hlater (hinto'.grows hstep'.grows hstep'.isTree)
          (hgrows.trans hstep'.grows) hover₁
        exact ⟨g', .cons hwork' hrun', hend⟩
      · cases (hfails fs).symm.trans hwork
        obtain ⟨g', hrun', hend⟩ := ih hinto hlines hinto' hgrows hover
        exact ⟨g', .cons (hfails g) hrun', hend⟩

end Run

end StaticSite.Build
