/-
What a build reports, and what it does to the files.

A build does the jobs of its documents and then those of its copied assets.  Its report is the list
of what went wrong with them, in their order, and the numbers of those that went well (`Accounts`).
No file changes but the outputs, so that the old output of a document that fails survives.  What the
outputs hold is as it should be if no two of them are one file
(`build_accounts_for_entries`).

An asset that is its own output is emptied: it is copied onto itself
(`build_empties_asset_in_place`).  So for copies one has to ask that no output is their source.
-/
import Mathlib
import StaticSite.Proofs.Build.Steps

namespace StaticSite.Build

open StaticSite.Content StaticSite.Template StaticSite.Render

variable {ctx : Context} {fs after : FileSystem}

/-! ## Passes -/

section Pass

variable {ε : Type} {b : Builder} {source : ArtifactSource ε} {started : Int}

/-- The jobs of a pass in order: a page for each document, then a copy for each copied asset. -/
def jobsOf (c : Collection) : List Job := c.documents.map .page ++ (copiedAssets c).map .copy

theorem mem_assets_of_mem_jobsOf {c : Collection} {a : Asset} (h : .copy a ∈ jobsOf c) :
    a ∈ c.assets := by
  rcases List.mem_append.mp h with hpage | hcopy
  · obtain ⟨d, -, hd⟩ := List.mem_map.mp hpage
    cases hd
  · obtain ⟨a', ha', heq⟩ := List.mem_map.mp hcopy
    cases heq
    exact (List.mem_filter.mp ha').1

/-- Writing outputs and copying assets is doing the jobs. -/
theorem forEach_jobsOf (ctx : Context) (now : Int) (fs : FileSystem) :
    forEach (fun fs job => job.work ctx now fs) fs (jobsOf ctx.collection) =
      ((writeAll fs (renderDocuments ctx) (copiedAssets ctx.collection) now).1,
        (writeAll fs (renderDocuments ctx) (copiedAssets ctx.collection) now).2.failures) := by
  rw [jobsOf, forEach_append, forEach_map, forEach_map, writeAll, renderDocuments, forEach_map]
  rfl

/-- Could the asset not be copied? -/
def Failure.isCopy (f : Failure) : Bool :=
  match f.error with
  | .copy _ _ _ => true
  | _ => false

theorem Failure.isCopy_eq (f : Failure) : f.isCopy = (!f.isRender && !f.isWrite) := by
  obtain ⟨path, e⟩ := f
  cases e <;> rfl

theorem exists_of_buildFrom {built : Report}
    (h : b.buildFrom source fs started = (after, .ok built)) :
    ∃ ctx made, b.prepareFrom source fs started = .ok ctx ∧
      fs.createFolders b.config.build.outputDir = .ok made ∧
      writeAll made (renderDocuments ctx) (copiedAssets ctx.collection) started =
        (after, built) := by
  unfold Builder.buildFrom at h
  split at h
  · cases h
  · rename_i ctx hctx
    split at h
    · cases h
    · rename_i made hmade
      cases h
      exact ⟨ctx, made, hctx, hmade, rfl⟩

theorem collect_of_prepareFrom (h : b.prepareFrom source fs started = .ok ctx) :
    collect fs b.config b.renderer = .ok ctx.collection := by
  rw [prepareFrom_eq] at h
  split at h
  · cases h
  · cases h
  · cases h
  · rename_i hcollect _ _
    cases h
    exact hcollect

/-- A pass starts with documents that nothing is attached to. -/
theorem isFresh_of_prepareFrom (h : b.prepareFrom source fs started = .ok ctx) :
    ∀ job ∈ jobsOf ctx.collection, job.IsFresh := by
  obtain ⟨rules, -, -, hentries⟩ := exists_of_collect (collect_of_prepareFrom h)
  intro job hjob
  rcases List.mem_append.mp hjob with hpage | hcopy
  · obtain ⟨d, hd, rfl⟩ := List.mem_map.mp hpage
    obtain ⟨f, -, hread⟩ :=
      Outcome.exists_of_mem_mapM hentries (Collection.mem_documents.mp hd)
    exact rendered_of_entryOf hread
  · obtain ⟨a, -, rfl⟩ := List.mem_map.mp hcopy
    trivial

/-- A build makes folders and writes files, however it ends. -/
theorem changesOnly_buildFrom (hfs : fs.IsTree) :
    FileSystem.ChangesOnly Set.univ fs (b.buildFrom source fs started).1 := by
  cases hctx : b.prepareFrom source fs started with
  | error e =>
      rw [Builder.buildFrom, hctx]
      exact .refl hfs
  | ok ctx =>
      cases hmade : fs.createFolders b.config.build.outputDir with
      | error cause =>
          rw [Builder.buildFrom, hctx]
          dsimp only
          rw [hmade]
          exact .refl hfs
      | ok made =>
          have hfolders := FileSystem.changesOnly_createFolders hfs hmade
          obtain ⟨lines, hjobs, hrun, -⟩ :=
            Run.exists_of_forEach ctx started made (jobsOf ctx.collection)
          rw [forEach_jobsOf] at hrun
          have hchange := hrun.changesOnly hfolders.isTree fun line hline =>
            isFresh_of_prepareFrom hctx line.1 (hjobs ▸ List.mem_map_of_mem hline)
          rw [buildFrom_of_prepareFrom hctx hmade]
          exact (hfolders.mono (Set.subset_univ _)).trans (hchange.mono (Set.subset_univ _))

/-- A build leaves a tree. -/
theorem isTree_buildFrom (hfs : fs.IsTree) : (b.buildFrom source fs started).1.IsTree :=
  (changesOnly_buildFrom hfs).isTree

/-- What a report says about the jobs of a pass, one line for each job. -/
structure Accounts (ctx : Context) (built : Report) (lines : List (Job × Option Failure)) :
    Prop where
  /-- There is a line for each document, and then one for each copied asset. -/
  jobs : lines.map Prod.fst = jobsOf ctx.collection
  reports : ∀ line ∈ lines, line.1.Reports ctx line.2
  failures : built.failures = lines.filterMap Prod.snd
  failed : built.failed = built.failures.length
  pages : built.pages + (built.failures.countP Failure.isRender +
    built.failures.countP Failure.isWrite) = ctx.collection.documents.length
  assets : built.assets + built.failures.countP Failure.isCopy =
    (copiedAssets ctx.collection).length

/-- Every document is counted as a page or has failed in rendering or writing. -/
theorem pages_add_failures (fs : FileSystem) (outcomes : List Outcome) (assets : List Asset)
    (now : Int) :
    (writeAll fs outcomes assets now).2.pages +
        ((writeAll fs outcomes assets now).2.failures.countP Failure.isRender +
          (writeAll fs outcomes assets now).2.failures.countP Failure.isWrite) =
      outcomes.length := by
  have hrendered := congrArg List.length (failures_writeAll fs outcomes assets now)
  have hwritten := pages_writeAll fs outcomes assets now
  have hall := pages_add_failed outcomes
  rw [← List.countP_eq_length_filter] at hrendered
  unfold Report.failed at hall
  omega

/-- Every copied asset is counted or has failed in copying. -/
theorem assets_add_failures (fs : FileSystem) (outcomes : List Outcome) (assets : List Asset)
    (now : Int) :
    (writeAll fs outcomes assets now).2.assets +
        (writeAll fs outcomes assets now).2.failures.countP Failure.isCopy = assets.length := by
  have hpages : (forEach (writePage now) fs outcomes).2.countP Failure.isCopy = 0 :=
    List.countP_eq_zero.mpr fun f hf => by
      simp [Failure.isCopy_eq, isWrite_eq_not_isRender now fs outcomes f hf]
  have hcopies : ∀ fs, (forEach (copyAsset now) fs assets).2.countP Failure.isCopy =
      (forEach (copyAsset now) fs assets).2.length := fun fs =>
    List.countP_eq_length.mpr fun f hf => by
      simp [Failure.isCopy_eq, copy_failures now fs assets f hf]
  have hle : ∀ fs, (forEach (copyAsset now) fs assets).2.length ≤ assets.length := fun fs =>
    length_forEach_le fs assets
  have hcopied := hle (forEach (writePage now) fs outcomes).1
  unfold writeAll
  dsimp only
  rw [List.countP_append, hpages, hcopies]
  omega

/-- A build is a run of its jobs, after the output folder has been made, and its report is on this
run. -/
theorem exists_run_of_buildFrom (hfs : fs.IsTree) {built : Report}
    (h : b.buildFrom source fs started = (after, .ok built)) :
    ∃ ctx made lines, b.prepareFrom source fs started = .ok ctx ∧
      fs.createFolders b.config.build.outputDir = .ok made ∧ Run ctx started made lines after ∧
      (∀ line ∈ lines, line.1.IsFresh) ∧ Accounts ctx built lines := by
  obtain ⟨ctx, made, hctx, hmade, hwritten⟩ := exists_of_buildFrom h
  obtain ⟨lines, hjobs, hrun, hfailures⟩ :=
    Run.exists_of_forEach ctx started made (jobsOf ctx.collection)
  rw [forEach_jobsOf, hwritten] at hrun hfailures
  have hfresh : ∀ line ∈ lines, line.1.IsFresh := fun line hline =>
    isFresh_of_prepareFrom hctx line.1 (hjobs ▸ List.mem_map_of_mem hline)
  have hpages := pages_add_failures made (renderDocuments ctx) (copiedAssets ctx.collection) started
  have hassets := assets_add_failures made (renderDocuments ctx) (copiedAssets ctx.collection)
    started
  rw [hwritten] at hpages hassets
  refine ⟨ctx, made, lines, hctx, hmade, hrun, hfresh, hjobs, ?_, hfailures, rfl, ?_, hassets⟩
  · exact hrun.reports (FileSystem.changesOnly_createFolders hfs hmade).isTree hfresh
  · exact hpages.trans (List.length_map _)

/-- Do two paths lead to different files? -/
def LeadApart (fs : FileSystem) (path path' : String) : Prop :=
  ∀ place, fs.locate path = .ok place → fs.locate path' ≠ .ok place

/-- Where there are no links, paths lead apart if they stand for different places. -/
theorem leadApart_of_straight_ne (hfs : fs.IsTree) (hlinks : fs.HasNoLinks) {path path' : String}
    (hne : FileSystem.straight fs.workingFolder (Path.components path) ≠
      FileSystem.straight fs.workingFolder (Path.components path')) :
    LeadApart (b.buildFrom source fs started).1 path path' := by
  have hchange : FileSystem.ChangesOnly Set.univ fs (b.buildFrom source fs started).1 :=
    changesOnly_buildFrom hfs
  have hgrows := hchange.grows
  have hnone := hgrows.hasNoLinks hlinks
  intro place hplace hplace'
  apply hne
  rw [← hgrows.workingFolder_eq, ← hnone.locate_eq_straight hplace,
    ← hnone.locate_eq_straight hplace']

/-- Targets that lead apart keep their outputs apart. -/
theorem disjoint_of_leadApart {lines : List (Job × Option Failure)}
    (h : (targetsOf ctx (lines.map Prod.fst)).Pairwise (LeadApart after)) :
    lines.Pairwise fun x y => Disjoint (placesOf after (x.1.targets ctx))
      (placesOf after (y.1.targets ctx)) := by
  rw [targetsOf, List.pairwise_flatMap, List.pairwise_map] at h
  refine h.2.imp fun hapart => Set.disjoint_left.mpr ?_
  rintro place ⟨path, hpath, hlocate⟩ ⟨path', hpath', hlocate'⟩
  exact hapart path hpath path' hpath' place hlocate hlocate'

end Pass

/-- A build reports on every entry once, changes no file but its outputs, and holds in each output
what it should, if no two targets lead to one file and, for a copy, no target leads to its
source. -/
theorem build_accounts_for_entries {ε : Type} (b : Builder) (source : ArtifactSource ε)
    (fs : FileSystem) (started : Int) (after : FileSystem) (built : Report) (hfs : fs.IsTree)
    (hbuild : b.buildFrom source fs started = (after, .ok built)) :
    ∃ ctx lines, b.prepareFrom source fs started = .ok ctx ∧ Accounts ctx built lines ∧
      (∀ place ∉ placesOf after (targetsOf ctx (jobsOf ctx.collection)),
        FileSystem.KeepsFile fs after place) ∧
      ((targetsOf ctx (jobsOf ctx.collection)).Pairwise (LeadApart after) →
        (∀ d, (Job.page d, none) ∈ lines →
          ∃ markup, renderPage ctx d = .ok markup ∧
            after.read d.destPath = .ok markup.toUTF8) ∧
        ∀ a, (Job.copy a, none) ∈ lines →
          ∃ place content, fs.locate a.sourcePath = .ok place ∧
            fs.read a.sourcePath = .ok content ∧
            (place ∉ placesOf after (targetsOf ctx (jobsOf ctx.collection)) →
              after.read a.destPath = .ok content)) := by
  obtain ⟨ctx, made, hctx, hmade, hwritten⟩ := exists_of_buildFrom hbuild
  -- the output folder is made first, which changes no file
  have hfolders := FileSystem.changesOnly_createFolders hfs hmade
  obtain ⟨lines, hjobs, hrun, hfailures⟩ :=
    Run.exists_of_forEach ctx started made (jobsOf ctx.collection)
  rw [forEach_jobsOf, hwritten] at hrun hfailures
  have hfresh : ∀ line ∈ lines, line.1.IsFresh := fun line hline =>
    isFresh_of_prepareFrom hctx line.1 (hjobs ▸ List.mem_map_of_mem hline)
  have hchange := hrun.changesOnly hfolders.isTree hfresh
  rw [hjobs] at hchange
  have hpages := pages_add_failures made (renderDocuments ctx) (copiedAssets ctx.collection) started
  have hassets := assets_add_failures made (renderDocuments ctx) (copiedAssets ctx.collection)
    started
  rw [hwritten] at hpages hassets
  refine ⟨ctx, lines, hctx, ?_, ?_, fun hapart => ?_⟩
  · exact ⟨hjobs, hrun.reports hfolders.isTree hfresh, hfailures, rfl,
      hpages.trans (List.length_map _), hassets⟩
  · exact ((hfolders.mono (Set.empty_subset _)).trans hchange).keepsFile
  · have hmade := hrun.made hfolders.isTree hfresh (disjoint_of_leadApart (hjobs ▸ hapart))
    rw [hjobs] at hmade
    refine ⟨fun d hd => hmade _ hd rfl, fun a ha => ?_⟩
    have hasset : a ∈ ctx.collection.assets :=
      mem_assets_of_mem_jobsOf (hjobs ▸ List.mem_map_of_mem ha)
    obtain ⟨place, content, hlocate, hread⟩ :=
      exists_read_of_collect hfs (collect_of_prepareFrom hctx) hasset
    exact ⟨place, content, hlocate, hread, (hmade _ ha rfl).earlier hfolders (Set.empty_subset _)
      (List.Subset.refl _) place content hlocate hread⟩

/-! ## A site with all kinds of results -/

/-- A note without a template for it, a page, and an image; and an old output of the note. -/
def mixedSite : FileSystem :=
  ⟨⟨[(["source"], .folder), (["source", "a.md"], .file "type: note\n----\n".toUTF8 0),
      (["source", "b.md"], .file "type: page\n----\n".toUTF8 0),
      (["source", "c.png"], .file "abc".toUTF8 0), (["source", "templates"], .folder),
      (["source", "templates", "page.html"], .file "<p></p>".toUTF8 0), (["public"], .folder),
      (["public", "a"], .folder), (["public", "a", "index.html"], .file "old".toUTF8 0)]⟩, []⟩

/-- Its files once the page has been written. -/
def writtenSite : FileSystem :=
  (mixedSite.setEntry ["public", "b"] .folder).setEntry ["public", "b", "index.html"]
    (.file "<p></p>".toUTF8 0)

/-- Its files after a build. -/
def builtSite : FileSystem :=
  writtenSite.setEntry ["public", "c.png"] (.file "abc".toUTF8 0)

def mixedNote : Document :=
  .read "type: note\n----\n" ⟨"a.md", "source/a.md", "public/a/index.html", "/a/", 0⟩
    Markdown.renderer

def mixedPage : Document :=
  .read "type: page\n----\n" ⟨"b.md", "source/b.md", "public/b/index.html", "/b/", 0⟩
    Markdown.renderer

def mixedImage : Asset :=
  .ofLocation ⟨"c.png", "source/c.png", "public/c.png", "/c.png", 0⟩ true

/-- What its build reads. -/
def mixedContext : Context :=
  { config := {}
    collection := ⟨[.document mixedNote, .document mixedPage, .asset mixedImage]⟩
    templates := .add .empty ⟨"page", "source/templates/page.html", "<p></p>"⟩
    index := .ofRecords ((Builder.ofConfig {}).artifactsIn mixedSite)
    renderer := Markdown.renderer
    started := 0 }

def mixedFailure : Failure :=
  ⟨"a.md", .render (.unresolved "source/a.md" ⟨0, 0, 0⟩ .template "note")⟩

theorem renderPage_mixedNote :
    renderPage mixedContext mixedNote =
      .error (.unresolved "source/a.md" ⟨0, 0, 0⟩ .template "note") := by
  decide +kernel

theorem renderPage_mixedPage : renderPage mixedContext mixedPage = .ok "<p></p>" := by
  decide +kernel

theorem collect_mixedSite :
    collect mixedSite {} Markdown.renderer = .ok mixedContext.collection := by
  have hrules : IgnoreRules.ofConfig {} = .ok ⟨⟨[]⟩, ⟨[]⟩, "templates"⟩ := by cbv
  have hfolder : mixedSite.isFolder "source" = true := by cbv
  have hfiles : sourceFiles mixedSite "source" ⟨⟨[]⟩, ⟨[]⟩, "templates"⟩ =
      [⟨["a.md"], 0⟩, ⟨["b.md"], 0⟩, ⟨["c.png"], 0⟩] := by cbv
  have hnote : entryOf mixedSite {} Markdown.renderer ⟨["a.md"], 0⟩ = .ok (.document mixedNote) :=
    entryOf_document _ (by decide) (by decide +kernel) (FileSystem.readText_of_read (by cbv))
  have hpage : entryOf mixedSite {} Markdown.renderer ⟨["b.md"], 0⟩ = .ok (.document mixedPage) :=
    entryOf_document _ (by decide) (by decide +kernel) (FileSystem.readText_of_read (by cbv))
  have himage : entryOf mixedSite {} Markdown.renderer ⟨["c.png"], 0⟩ =
      .ok (.asset mixedImage) :=
    entryOf_asset mixedSite _ (by decide) (by decide +kernel)
  have hsource : (Config.build {}).sourceDir = "source" := rfl
  rw [collect_eq hrules hfolder, hsource, hfiles, List.mapM_cons, hnote, List.mapM_cons, hpage,
    List.mapM_cons, himage]
  rfl

theorem loadTemplates_mixedSite :
    loadTemplates mixedSite "source/templates" = .ok mixedContext.templates := by
  have htext : mixedSite.readText "source/templates/page.html" = .ok "<p></p>" :=
    FileSystem.readText_of_read (by cbv)
  exact loadTemplates_of_page (by cbv) (by cbv) (by decide) htext

theorem writePage_mixedNote :
    writePage 0 mixedSite (renderDocument mixedContext mixedNote) =
      (mixedSite, some mixedFailure) :=
  writePage_of_error renderPage_mixedNote

theorem writePage_mixedPage :
    writePage 0 mixedSite (renderDocument mixedContext mixedPage) = (writtenSite, none) := by
  have hpath : mixedPage.destPath = "public/b/index.html" := rfl
  have hwrite : writeAt mixedSite "public/b/index.html" "<p></p>" 0 = (writtenSite, none) := by
    cbv
  exact writePage_of_ok rfl renderPage_mixedPage (hpath ▸ hwrite)

theorem copyAsset_mixedImage : copyAsset 0 writtenSite mixedImage = (builtSite, none) :=
  copyAsset_of_copy (by cbv) (by cbv)

theorem prepareFrom_mixedSite :
    (Builder.ofConfig {}).prepareFrom (Builder.ofConfig {}).source mixedSite 0 =
      .ok mixedContext := by
  have hname : Config.templatesFolder {} = "source/templates" := by decide
  exact prepareFrom_of_steps collect_mixedSite (hname ▸ loadTemplates_mixedSite) rfl

theorem writeAll_mixedSite :
    writeAll mixedSite (renderDocuments mixedContext) (copiedAssets mixedContext.collection) 0 =
      (builtSite, ⟨1, 1, [mixedFailure]⟩) := by
  have hpages : renderDocuments mixedContext =
      [renderDocument mixedContext mixedNote, renderDocument mixedContext mixedPage] := rfl
  have hcopies : copiedAssets mixedContext.collection = [mixedImage] := rfl
  rw [writeAll, hpages, hcopies]
  simp only [forEach, writePage_mixedNote, writePage_mixedPage, copyAsset_mixedImage]
  rfl

theorem build_mixedSite :
    (Builder.ofConfig {}).build mixedSite 0 = (builtSite, .ok ⟨1, 1, [mixedFailure]⟩) := by
  have hmade : mixedSite.createFolders "public" = .ok mixedSite := by cbv
  rw [Builder.build, buildFrom_of_prepareFrom prepareFrom_mixedSite hmade, writeAll_mixedSite]

/-- The page and the image are done, since nothing but the note has failed. -/
theorem done_mixedSite {lines : List (Job × Option Failure)}
    (h : Accounts mixedContext ⟨1, 1, [mixedFailure]⟩ lines) :
    (Job.page mixedPage, none) ∈ lines ∧ (Job.copy mixedImage, none) ∈ lines := by
  have hjobs : lines.map Prod.fst = [.page mixedNote, .page mixedPage, .copy mixedImage] := h.jobs
  obtain ⟨⟨_, note⟩, _, rfl, rfl, hrest⟩ := List.map_eq_cons_iff.mp hjobs
  obtain ⟨⟨_, page⟩, _, rfl, rfl, hlast⟩ := List.map_eq_cons_iff.mp hrest
  obtain ⟨⟨_, image⟩, _, rfl, rfl, hnil⟩ := List.map_eq_cons_iff.mp hlast
  obtain rfl := List.map_eq_nil_iff.mp hnil
  have hnote : ∃ f, note = some f := by
    cases h.reports _ List.mem_cons_self with
    | written hrender => cases renderPage_mixedNote.symm.trans hrender
    | notRendered _ => exact ⟨_, rfl⟩
    | notWritten _ => exact ⟨_, rfl⟩
  obtain ⟨f, rfl⟩ := hnote
  have hfailures := h.failures
  cases page <;> cases image <;> simp_all

theorem targetsOf_mixedSite :
    targetsOf mixedContext (jobsOf mixedContext.collection) =
      ["public/b/index.html", "public/c.png"] := by
  have hnote : (Job.page mixedNote).targets mixedContext = [] := by
    rw [Job.targets, renderPage_mixedNote]
  have hpage : (Job.page mixedPage).targets mixedContext = ["public/b/index.html"] := by
    rw [Job.targets, renderPage_mixedPage]
    rfl
  have himage : (Job.copy mixedImage).targets mixedContext = ["public/c.png"] := rfl
  have hjobs : jobsOf mixedContext.collection =
      [.page mixedNote, .page mixedPage, .copy mixedImage] := rfl
  rw [targetsOf, hjobs, List.flatMap_cons, List.flatMap_cons, List.flatMap_cons, hnote, hpage,
    himage]
  rfl

theorem locate_mixedPage :
    builtSite.locate "public/b/index.html" = .ok ["public", "b", "index.html"] := by
  cbv

theorem locate_mixedImage : builtSite.locate "public/c.png" = .ok ["public", "c.png"] := by
  cbv

theorem placesOf_mixedSite :
    placesOf builtSite ["public/b/index.html", "public/c.png"] =
      {["public", "b", "index.html"], ["public", "c.png"]} := by
  ext place
  simp [placesOf, locate_mixedPage, locate_mixedImage, eq_comm]

theorem build_accounts_for_entries_mixedSite :
    mixedSite.IsTree ∧
      (Builder.ofConfig {}).build mixedSite 0 = (builtSite, .ok ⟨1, 1, [mixedFailure]⟩) ∧
      builtSite.get? ["public", "a", "index.html"] = some (.file "old".toUTF8 0) ∧
      builtSite.read "public/b/index.html" = .ok "<p></p>".toUTF8 ∧
      builtSite.read "public/c.png" = .ok "abc".toUTF8 := by
  have htree : mixedSite.IsTree := by decide
  obtain ⟨ctx, lines, hctx, haccounts, hframe, hcontents⟩ :=
    build_accounts_for_entries (Builder.ofConfig {}) (Builder.ofConfig {}).source mixedSite 0
      builtSite _ htree build_mixedSite
  cases prepareFrom_mixedSite.symm.trans hctx
  rw [targetsOf_mixedSite, placesOf_mixedSite] at hframe hcontents
  obtain ⟨hpage, himage⟩ := done_mixedSite haccounts
  have hpath : mixedPage.destPath = "public/b/index.html" := rfl
  have hsource : mixedImage.sourcePath = "source/c.png" := rfl
  have htarget : mixedImage.destPath = "public/c.png" := rfl
  have hplace : mixedSite.locate "source/c.png" = .ok ["source", "c.png"] := by cbv
  have hapart : ["public/b/index.html", "public/c.png"].Pairwise (LeadApart builtSite) := by
    refine List.pairwise_pair.mpr fun place hfirst hsecond => ?_
    cases locate_mixedPage.symm.trans hfirst
    exact absurd (locate_mixedImage.symm.trans hsecond) (by decide)
  refine ⟨htree, build_mixedSite, ?_, ?_, ?_⟩
  · exact (hframe ["public", "a", "index.html"] (by simp) _ _).mp rfl
  · obtain ⟨markup, hrender, hread⟩ := (hcontents hapart).1 _ hpage
    cases renderPage_mixedPage.symm.trans hrender
    exact hpath ▸ hread
  · obtain ⟨place, content, hlocate, hread, hcopied⟩ := (hcontents hapart).2 _ himage
    rw [hsource] at hlocate hread
    cases hplace.symm.trans hlocate
    obtain ⟨_, _, hlocate', hfile⟩ := FileSystem.read_eq_ok.mp hread
    cases hplace.symm.trans hlocate'
    cases hfile
    exact htarget ▸ hcopied (by simp)

/-! ## A site that is built in place -/

/-- The output folder is the source folder. -/
def inPlace : Config := { build := { outputDir := "source" } }

def inPlaceSite : FileSystem :=
  ⟨⟨[(["source"], .folder), (["source", "a.png"], .file "abc".toUTF8 0)]⟩, []⟩

/-- Its files after a build. -/
def emptiedSite : FileSystem :=
  inPlaceSite.setEntry ["source", "a.png"] (.file ByteArray.empty 0)

def inPlaceImage : Asset :=
  .ofLocation ⟨"a.png", "source/a.png", "source/a.png", "/a.png", 0⟩ true

theorem collect_inPlaceSite :
    collect inPlaceSite inPlace Markdown.renderer = .ok ⟨[.asset inPlaceImage]⟩ := by
  have hrules : IgnoreRules.ofConfig inPlace = .ok ⟨⟨[]⟩, ⟨[]⟩, "templates"⟩ := by cbv
  have hfolder : inPlaceSite.isFolder "source" = true := by cbv
  have hfiles : sourceFiles inPlaceSite "source" ⟨⟨[]⟩, ⟨[]⟩, "templates"⟩ = [⟨["a.png"], 0⟩] := by
    cbv
  have himage : entryOf inPlaceSite inPlace Markdown.renderer ⟨["a.png"], 0⟩ =
      .ok (.asset inPlaceImage) := entryOf_asset inPlaceSite _ (by decide) (by decide +kernel)
  have hsource : inPlace.build.sourceDir = "source" := rfl
  rw [collect_eq hrules hfolder, hsource, hfiles, List.mapM_cons, himage]
  rfl

theorem build_inPlaceSite :
    (Builder.ofConfig inPlace).build inPlaceSite 0 = (emptiedSite, .ok ⟨0, 1, []⟩) := by
  have hfolder : inPlaceSite.isFolder "source/templates" = false := by cbv
  have hmade : inPlaceSite.createFolders "source" = .ok inPlaceSite := by cbv
  have hcopied : copyAsset 0 inPlaceSite inPlaceImage = (emptiedSite, none) :=
    copyAsset_of_copy (by cbv) (by cbv)
  have hcopies : forEach (copyAsset 0) inPlaceSite [inPlaceImage] = (emptiedSite, []) := by
    simp only [forEach, hcopied]
    rfl
  exact build_of_assets [inPlaceImage] collect_inPlaceSite hfolder hmade hcopies rfl

/-- An asset that is its own output is copied onto itself: the build counts it as copied, nothing
has failed and no two outputs are one file, but the asset is empty afterwards. -/
theorem build_empties_asset_in_place :
    inPlaceSite.IsTree ∧
      collect inPlaceSite inPlace Markdown.renderer = .ok ⟨[.asset inPlaceImage]⟩ ∧
      copiedAssets ⟨[.asset inPlaceImage]⟩ = [inPlaceImage] ∧
      inPlaceSite.read inPlaceImage.sourcePath = .ok "abc".toUTF8 ∧
      ∃ after, (Builder.ofConfig inPlace).build inPlaceSite 0 = (after, .ok ⟨0, 1, []⟩) ∧
        after.read inPlaceImage.destPath = .ok ByteArray.empty ∧
        after.read inPlaceImage.destPath ≠ .ok "abc".toUTF8 := by
  have hsource : inPlaceImage.sourcePath = "source/a.png" := rfl
  have hpath : inPlaceImage.destPath = "source/a.png" := rfl
  have hbefore : inPlaceSite.read "source/a.png" = .ok "abc".toUTF8 := by cbv
  have hafter : emptiedSite.read "source/a.png" = .ok ByteArray.empty := by cbv
  rw [hsource, hpath]
  refine ⟨by decide, collect_inPlaceSite, rfl, hbefore, emptiedSite, build_inPlaceSite, hafter, ?_⟩
  rw [hafter]
  decide

end StaticSite.Build
