/-
The jobs of a pass and what they do to the files.

A job is to write the page of a document or to copy an asset.  One job changes the file that its
target leads to and no other (`Job.work_spec`), so along a run every file that no target leads to
stays as it is (`Run.changesOnly`).  What has been written stays as well if no later target leads to
it, and an asset is copied as it was at first if no target at all leads to its source (`Run.made`).

Paths are compared by where they lead when the run is over.  Two different paths may lead to one
file, and folders that a path needs may be made on the way; but a path that leads somewhere goes on
leading there (`Grows.locate`), so the end of the run tells for all of it.
-/
import Mathlib
import StaticSite.Proofs.Build.Check
import StaticSite.Proofs.FileSystem.Change

namespace StaticSite.Build

open StaticSite.Content StaticSite.Template StaticSite.Render

variable {ctx : Context} {fs fs' after : FileSystem} {now : Int}

/-! ## Writing at a path -/

section At

/-- The places that some paths lead to. -/
def placesOf (fs : FileSystem) (paths : List String) : Set Place :=
  {place | ∃ path ∈ paths, fs.locate path = .ok place}

theorem placesOf_subset {paths : List String} (h : FileSystem.Grows fs fs') :
    placesOf fs paths ⊆ placesOf fs' paths :=
  fun _ ⟨path, hpath, hlocate⟩ => ⟨path, hpath, h.locate hlocate⟩

theorem placesOf_mono {paths paths' : List String} (h : paths ⊆ paths') :
    placesOf fs paths ⊆ placesOf fs paths' :=
  fun _ ⟨path, hpath, hlocate⟩ => ⟨path, h hpath, hlocate⟩

/-- Making the folders of a path and then changing the file at it changes nothing else. -/
theorem changesOnly_at {made : FileSystem} {path : String} {place : Place}
    (hfolders : FileSystem.ChangesOnly ∅ fs made)
    (hchange : FileSystem.ChangesOnly {place} made fs') (hlocate : made.locate path = .ok place) :
    FileSystem.ChangesOnly (placesOf fs' [path]) fs fs' := by
  refine (hfolders.mono (Set.empty_subset _)).trans (hchange.mono ?_)
  rintro _ rfl
  exact ⟨path, List.mem_singleton_self path, hchange.grows.locate hlocate⟩

theorem writeAt_spec (hfs : fs.IsTree) {path text : String} {e : Option FileError}
    (h : writeAt fs path text now = (fs', e)) :
    FileSystem.ChangesOnly (placesOf fs' [path]) fs fs' ∧
      (e = none → fs'.read path = .ok text.toUTF8) := by
  unfold writeAt at h
  split at h
  · cases h
    exact ⟨.refl hfs, nofun⟩
  · rename_i made hmade
    have hfolders := FileSystem.changesOnly_createParents hfs hmade
    split at h
    · -- the folders have been made, although nothing is written
      cases h
      exact ⟨hfolders.mono (Set.empty_subset _), nofun⟩
    · rename_i written hwritten
      cases h
      obtain ⟨place, hlocate, hchange, hfile⟩ :=
        FileSystem.exists_of_write hfolders.isTree hwritten
      exact ⟨changesOnly_at hfolders hchange hlocate, fun _ =>
        FileSystem.read_eq_ok.mpr ⟨place, now, hchange.grows.locate hlocate, hfile⟩⟩

theorem copyAt_spec (hfs : fs.IsTree) {source target : String} {e : Option FileError}
    (h : copyAt fs source target now = (fs', e)) :
    FileSystem.ChangesOnly (placesOf fs' [target]) fs fs' ∧
      (e = none → ∀ place content, fs.locate source = .ok place → fs.read source = .ok content →
        place ∉ placesOf fs' [target] → fs'.read target = .ok content) := by
  unfold copyAt at h
  split at h
  · cases h
    exact ⟨.refl hfs, nofun⟩
  · rename_i made hmade
    have hfolders := FileSystem.changesOnly_createParents hfs hmade
    split at h
    · cases h
      exact ⟨hfolders.mono (Set.empty_subset _), nofun⟩
    · rename_i copied hcopied
      cases h
      obtain ⟨place, hlocate, hchange, content, hfile, hsource⟩ :=
        FileSystem.exists_of_copy hfolders.isTree hcopied
      have hlocate' := hchange.grows.locate hlocate
      refine ⟨changesOnly_at hfolders hchange hlocate, ?_⟩
      intro _ from' original hfrom hread hother
      have hfrom' := hfolders.grows.locate hfrom
      have hread' := hfolders.read (Set.notMem_empty from') hfrom hread
      have hdistinct : made.locate source ≠ .ok place := by
        rw [hfrom']
        rintro ⟨⟩
        exact hother ⟨target, List.mem_singleton_self target, hlocate'⟩
      cases (hsource hdistinct).symm.trans hread'
      exact FileSystem.read_eq_ok.mpr ⟨place, now, hlocate', hfile⟩

end At

/-! ## Jobs -/

/-- What a pass makes an output of. -/
inductive Job where
  | page (d : Document)
  | copy (a : Asset)

namespace Job

def work (ctx : Context) (now : Int) (fs : FileSystem) : Job → Work
  | page d => writePage now fs (renderDocument ctx d)
  | copy a => copyAsset now fs a

/-- The paths that a job writes to: none if it is for a document that cannot be rendered. -/
def targets (ctx : Context) : Job → List String
  | page d =>
    match renderPage ctx d with
    | .ok _ => [d.destPath]
    | .error _ => []
  | copy a => [a.destPath]

/-- What is reported on a job: nothing, or else why it has no output. -/
inductive Reports (ctx : Context) : Job → Option Failure → Prop
  | written {d : Document} {markup : String} :
      renderPage ctx d = .ok markup → Reports ctx (page d) none
  | notRendered {d : Document} {e : RenderError} :
      renderPage ctx d = .error e → Reports ctx (page d) (some ⟨d.path, .render e⟩)
  | notWritten {d : Document} {markup : String} {cause : FileError} :
      renderPage ctx d = .ok markup →
      Reports ctx (page d) (some ⟨d.path, .write d.destPath cause⟩)
  | copied {a : Asset} : Reports ctx (copy a) none
  | notCopied {a : Asset} {cause : FileError} :
      Reports ctx (copy a) (some ⟨a.path, .copy a.sourcePath a.destPath cause⟩)

/-- Nothing has been attached to the document yet. -/
def IsFresh : Job → Prop
  | page d => d.rendered = none
  | copy _ => True

/-- The output of a job is there: the markup of the page, or what the source of the asset held at
first, provided that some paths do not lead to this source. -/
def Made (ctx : Context) (fs after : FileSystem) (paths : List String) : Job → Prop
  | page d => ∃ markup, renderPage ctx d = .ok markup ∧ after.read d.destPath = .ok markup.toUTF8
  | copy a => ∀ place content, fs.locate a.sourcePath = .ok place →
      fs.read a.sourcePath = .ok content → place ∉ placesOf after paths →
      after.read a.destPath = .ok content

theorem work_of_renderPage {d : Document} (hfresh : d.rendered = none) {markup : String}
    (h : renderPage ctx d = .ok markup) :
    (page d).work ctx now fs =
      let (fs, e) := writeAt fs d.destPath markup now
      (fs, e.map fun cause => ⟨d.path, .write d.destPath cause⟩) := by
  have hmarkup : (⟨d.attach markup, .ok ()⟩ : Outcome).markup? = some markup := by
    rw [Outcome.markup?, Document.attach, hfresh]
    rfl
  rw [work, renderDocument, h]
  dsimp only
  rw [writePage, hmarkup]
  rfl

theorem work_page (hfs : fs.IsTree) {d : Document} (hfresh : d.rendered = none)
    {failure : Option Failure} (h : (page d).work ctx now fs = (fs', failure)) :
    FileSystem.ChangesOnly (placesOf fs' ((page d).targets ctx)) fs fs' ∧
      (page d).Reports ctx failure ∧
      (failure = none → (page d).Made ctx fs fs' ((page d).targets ctx)) := by
  cases hrender : renderPage ctx d with
  | error e =>
      rw [work, renderDocument, hrender] at h
      cases h
      exact ⟨.refl hfs, .notRendered hrender, nofun⟩
  | ok markup =>
      have htargets : (page d).targets ctx = [d.destPath] := by rw [targets, hrender]
      rw [work_of_renderPage hfresh hrender] at h
      cases hat : writeAt fs d.destPath markup now with
      | mk written e =>
          rw [hat] at h
          cases h
          obtain ⟨hchange, hwritten⟩ := writeAt_spec hfs hat
          rw [htargets]
          cases e with
          | none => exact ⟨hchange, .written hrender, fun _ => ⟨markup, hrender, hwritten rfl⟩⟩
          | some cause => exact ⟨hchange, .notWritten hrender, nofun⟩

theorem work_copy (hfs : fs.IsTree) {a : Asset} {failure : Option Failure}
    (h : (copy a).work ctx now fs = (fs', failure)) :
    FileSystem.ChangesOnly (placesOf fs' ((copy a).targets ctx)) fs fs' ∧
      (copy a).Reports ctx failure ∧
      (failure = none → (copy a).Made ctx fs fs' ((copy a).targets ctx)) := by
  rw [work, copyAsset] at h
  cases hat : copyAt fs a.sourcePath a.destPath now with
  | mk copied e =>
      rw [hat] at h
      cases h
      obtain ⟨hchange, hcopied⟩ := copyAt_spec hfs hat
      cases e with
      | none => exact ⟨hchange, .copied, fun _ => hcopied rfl⟩
      | some cause => exact ⟨hchange, .notCopied, nofun⟩

/-- A job changes the file that its target leads to, and no other. -/
theorem work_spec (hfs : fs.IsTree) {job : Job} (hfresh : job.IsFresh) {failure : Option Failure}
    (h : job.work ctx now fs = (fs', failure)) :
    FileSystem.ChangesOnly (placesOf fs' (job.targets ctx)) fs fs' ∧ job.Reports ctx failure ∧
      (failure = none → job.Made ctx fs fs' (job.targets ctx)) := by
  cases job with
  | page d => exact work_page hfs hfresh h
  | copy a => exact work_copy hfs h

variable {W : Set Place} {job : Job} {paths paths' : List String}

/-- An output stays there while only other places change. -/
theorem Made.later (hmade : job.Made ctx fs fs' paths)
    (hchange : FileSystem.ChangesOnly W fs' after)
    (hapart : Disjoint (placesOf after (job.targets ctx)) W)
    (hpaths : placesOf fs' paths ⊆ placesOf after paths') : job.Made ctx fs after paths' := by
  have hkeeps : ∀ {path content}, path ∈ job.targets ctx → fs'.read path = .ok content →
      after.read path = .ok content := by
    intro path content hpath hread
    obtain ⟨place, modified, hlocate, -⟩ := FileSystem.read_eq_ok.mp hread
    have hplace : place ∈ placesOf after (job.targets ctx) :=
      ⟨path, hpath, hchange.grows.locate hlocate⟩
    exact hchange.read (Set.disjoint_left.mp hapart hplace) hlocate hread
  cases job with
  | page d =>
      obtain ⟨markup, hrender, hread⟩ := hmade
      have htarget : d.destPath ∈ (page d).targets ctx := by
        rw [targets, hrender]
        exact List.mem_singleton_self _
      exact ⟨markup, hrender, hkeeps htarget hread⟩
  | copy a =>
      intro place content hlocate hread hplace
      exact hkeeps (List.mem_singleton_self _)
        (hmade place content hlocate hread fun hmem => hplace (hpaths hmem))

/-- A source that has not changed yet is copied as it was at first. -/
theorem Made.earlier (hchange : FileSystem.ChangesOnly W fs fs')
    (hmade : job.Made ctx fs' after paths) (hW : W ⊆ placesOf after paths')
    (hpaths : paths ⊆ paths') : job.Made ctx fs after paths' := by
  cases job with
  | page d => exact hmade
  | copy a =>
      intro place content hlocate hread hplace
      exact hmade place content (hchange.grows.locate hlocate)
        (hchange.read (fun hmem => hplace (hW hmem)) hlocate hread)
        fun hmem => hplace (placesOf_mono hpaths hmem)

end Job

/-! ## Runs -/

/-- Jobs done one after the other, each with what is reported on it. -/
inductive Run (ctx : Context) (now : Int) :
    FileSystem → List (Job × Option Failure) → FileSystem → Prop
  | nil {fs : FileSystem} : Run ctx now fs [] fs
  | cons {fs fs' after : FileSystem} {job : Job} {failure : Option Failure}
      {lines : List (Job × Option Failure)} :
      job.work ctx now fs = (fs', failure) → Run ctx now fs' lines after →
      Run ctx now fs ((job, failure) :: lines) after

/-- The paths that some jobs write to. -/
def targetsOf (ctx : Context) (jobs : List Job) : List String := jobs.flatMap (Job.targets ctx)

namespace Run

variable {lines : List (Job × Option Failure)}

/-- Doing jobs one after the other is a run, and what is reported are its failures in order. -/
theorem exists_of_forEach (ctx : Context) (now : Int) (fs : FileSystem) (jobs : List Job) :
    ∃ lines, lines.map Prod.fst = jobs ∧
      Run ctx now fs lines (forEach (fun fs job => job.work ctx now fs) fs jobs).1 ∧
      (forEach (fun fs job => job.work ctx now fs) fs jobs).2 = lines.filterMap Prod.snd := by
  induction jobs generalizing fs with
  | nil => exact ⟨[], rfl, .nil, rfl⟩
  | cons job jobs ih =>
      obtain ⟨lines, hjobs, hrun, hfailures⟩ := ih (job.work ctx now fs).1
      refine ⟨(job, (job.work ctx now fs).2) :: lines, by rw [List.map_cons, hjobs],
        .cons rfl hrun, ?_⟩
      rw [failures_forEach_cons, hfailures]
      cases (job.work ctx now fs).2 <;> rfl

/-- Every file that no target leads to stays as it is. -/
theorem changesOnly (h : Run ctx now fs lines after) (hfs : fs.IsTree)
    (hfresh : ∀ line ∈ lines, line.1.IsFresh) :
    FileSystem.ChangesOnly (placesOf after (targetsOf ctx (lines.map Prod.fst))) fs after := by
  induction h with
  | nil => exact .refl hfs
  | @cons fs fs' after job failure lines hwork hrun ih =>
      obtain ⟨hjob, hlines⟩ := List.forall_mem_cons.mp hfresh
      obtain ⟨hchange, -, -⟩ := Job.work_spec hfs hjob hwork
      have hrest := ih hchange.isTree hlines
      refine (hchange.mono ?_).trans (hrest.mono ?_)
      · exact (placesOf_subset hrest.grows).trans (placesOf_mono (List.subset_append_left _ _))
      · exact placesOf_mono (List.subset_append_right _ _)

theorem reports (h : Run ctx now fs lines after) (hfs : fs.IsTree)
    (hfresh : ∀ line ∈ lines, line.1.IsFresh) : ∀ line ∈ lines, line.1.Reports ctx line.2 := by
  induction h with
  | nil => exact List.forall_mem_nil _
  | cons hwork _ ih =>
      obtain ⟨hjob, hlines⟩ := List.forall_mem_cons.mp hfresh
      obtain ⟨hchange, hreports, -⟩ := Job.work_spec hfs hjob hwork
      exact List.forall_mem_cons.mpr ⟨hreports, ih hchange.isTree hlines⟩

/-- What has been written stays if the targets lead to different places. -/
theorem made (h : Run ctx now fs lines after) (hfs : fs.IsTree)
    (hfresh : ∀ line ∈ lines, line.1.IsFresh)
    (hapart : lines.Pairwise fun x y => Disjoint (placesOf after (x.1.targets ctx))
      (placesOf after (y.1.targets ctx))) :
    ∀ line ∈ lines, line.2 = none →
      line.1.Made ctx fs after (targetsOf ctx (lines.map Prod.fst)) := by
  induction h with
  | nil => exact List.forall_mem_nil _
  | @cons fs fs' after job failure lines hwork hrun ih =>
      obtain ⟨hjob, hlines⟩ := List.forall_mem_cons.mp hfresh
      obtain ⟨hfirst, hrest⟩ := List.pairwise_cons.mp hapart
      obtain ⟨hchange, -, hmade⟩ := Job.work_spec hfs hjob hwork
      have hkeeps := hrun.changesOnly hchange.isTree hlines
      have hhead : placesOf fs' (job.targets ctx) ⊆
          placesOf after (targetsOf ctx (job :: lines.map Prod.fst)) :=
        (placesOf_subset hkeeps.grows).trans (placesOf_mono (List.subset_append_left _ _))
      refine List.forall_mem_cons.mpr ⟨fun hnone => ?_, fun line hline hnone => ?_⟩
      · -- the jobs that follow write to other places
        refine (hmade hnone).later hkeeps (Set.disjoint_left.mpr ?_) hhead
        rintro place hplace ⟨path, hpath, hlocate⟩
        obtain ⟨_, hother, htarget⟩ := List.mem_flatMap.mp hpath
        obtain ⟨line, hline, rfl⟩ := List.mem_map.mp hother
        exact Set.disjoint_left.mp (hfirst line hline) hplace ⟨path, htarget, hlocate⟩
      · -- this job has not changed the source of a later copy, which is none of its targets
        exact (ih hchange.isTree hlines hrest line hline hnone).earlier hchange hhead
          (List.subset_append_right _ _)

end Run

end StaticSite.Build
