/-
A check predicts a build.

Both read the same things first, and where that fails, they fail alike and nothing has been written.
After that a build writes what it has rendered, while a check only counts.  Main statement: the
failures of a check are the failed renderings among the failures of a build, in order, and the two
counts of pages differ by the pages that could not be written (`check_predicts_build`).

Writing may change files as it likes: what a build reports on renderings does not depend on it.
-/
import Mathlib
import StaticSite.Command.Run
import StaticSite.Proofs.Build.Walk

namespace StaticSite.Build

open StaticSite.Content StaticSite.Template StaticSite.Render

/-! ## Kinds of failures -/

/-- Could the document not be rendered? -/
def Failure.isRender (f : Failure) : Bool :=
  match f.error with
  | .render _ => true
  | _ => false

/-- Could the output of the document not be written? -/
def Failure.isWrite (f : Failure) : Bool :=
  match f.error with
  | .write _ _ => true
  | _ => false

theorem isRender_of_failure? {o : Outcome} {f : Failure} (h : o.failure? = some f) :
    f.isRender = true ∧ f.isWrite = false := by
  unfold Outcome.failure? at h
  split at h
  · cases h
  · cases h
    exact ⟨rfl, rfl⟩

/-- Writing a page fails because the document could not be rendered, or else with a failure to
write. -/
theorem failure_of_writePage (now : Int) (fs : FileSystem) (o : Outcome) :
    (∃ f, o.failure? = some f ∧ (writePage now fs o).2 = some f) ∨
      o.failure? = none ∧ ∀ f ∈ (writePage now fs o).2, f.isRender = false ∧ f.isWrite = true := by
  unfold writePage
  cases hfailure : o.failure? with
  | some f => exact .inl ⟨f, rfl, rfl⟩
  | none =>
      refine .inr ⟨rfl, fun f hf => ?_⟩
      obtain ⟨cause, -, rfl⟩ := Option.map_eq_some_iff.mp hf
      exact ⟨rfl, rfl⟩

theorem failure_of_copyAsset (now : Int) (fs : FileSystem) (a : Asset) :
    ∀ f ∈ (copyAsset now fs a).2, f.isRender = false ∧ f.isWrite = false := by
  intro f hf
  obtain ⟨cause, -, rfl⟩ := Option.map_eq_some_iff.mp hf
  exact ⟨rfl, rfl⟩

/-! ## Work done in order -/

section ForEach

variable {α : Type} {work : FileSystem → α → Work}

theorem forEach_cons (fs : FileSystem) (x : α) (xs : List α) :
    forEach work fs (x :: xs) =
      ((forEach work (work fs x).1 xs).1,
        (work fs x).2.toList ++ (forEach work (work fs x).1 xs).2) :=
  rfl

theorem failures_forEach_cons (fs : FileSystem) (x : α) (xs : List α) :
    (forEach work fs (x :: xs)).2 = (work fs x).2.toList ++ (forEach work (work fs x).1 xs).2 :=
  rfl

theorem forEach_append (fs : FileSystem) (xs ys : List α) :
    forEach work fs (xs ++ ys) =
      ((forEach work (forEach work fs xs).1 ys).1,
        (forEach work fs xs).2 ++ (forEach work (forEach work fs xs).1 ys).2) := by
  induction xs generalizing fs with
  | nil => rfl
  | cons x xs ih => rw [List.cons_append, forEach_cons, ih, forEach_cons, List.append_assoc]

theorem forEach_map {β : Type} (f : β → α) (fs : FileSystem) (xs : List β) :
    forEach work fs (xs.map f) = forEach (fun fs x => work fs (f x)) fs xs := by
  induction xs generalizing fs with
  | nil => rfl
  | cons x xs ih => rw [List.map_cons, forEach_cons, forEach_cons, ih]

theorem forall_mem_forEach {p : Failure → Prop} (h : ∀ fs x, ∀ f ∈ (work fs x).2, p f)
    (fs : FileSystem) (xs : List α) : ∀ f ∈ (forEach work fs xs).2, p f := by
  induction xs generalizing fs with
  | nil => exact List.forall_mem_nil _
  | cons x xs ih =>
      rw [failures_forEach_cons]
      refine List.forall_mem_append.mpr ⟨fun f hf => ?_, ih _⟩
      exact h fs x f (by simpa using hf)

/-- What is reported of one kind is what is known of each thing, whatever the files are by then. -/
theorem filter_forEach {kind : Failure → Bool} {known : α → Option Failure}
    (h : ∀ fs x, (work fs x).2.toList.filter kind = (known x).toList) (fs : FileSystem)
    (xs : List α) : (forEach work fs xs).2.filter kind = xs.filterMap known := by
  induction xs generalizing fs with
  | nil => rfl
  | cons x xs ih =>
      rw [failures_forEach_cons, List.filter_append, h, ih]
      cases hknown : known x with
      | none => simp [hknown]
      | some f => simp [hknown]

/-- At most one failure is reported for each thing. -/
theorem length_forEach_le (fs : FileSystem) (xs : List α) :
    (forEach work fs xs).2.length ≤ xs.length := by
  induction xs generalizing fs with
  | nil => exact Nat.le_refl 0
  | cons x xs ih =>
      have hone : (work fs x).2.toList.length ≤ 1 := by cases (work fs x).2 <;> simp
      have hrest := ih (work fs x).1
      rw [failures_forEach_cons, List.length_append, List.length_cons]
      omega

end ForEach

/-! ## Reports -/

theorem filter_isRender_pages (now : Int) (fs : FileSystem) (outcomes : List Outcome) :
    (forEach (writePage now) fs outcomes).2.filter Failure.isRender =
      outcomes.filterMap Outcome.failure? := by
  apply filter_forEach
  intro fs o
  rcases failure_of_writePage now fs o with ⟨f, hfailure, hwork⟩ | ⟨hfailure, hwrite⟩
  · rw [hfailure, hwork]
    simp [(isRender_of_failure? hfailure).1]
  · rw [hfailure]
    exact List.filter_eq_nil_iff.mpr fun f hf => by simp [(hwrite f (by simpa using hf)).1]

/-- A page that has failed could not be rendered or could not be written. -/
theorem isWrite_eq_not_isRender (now : Int) (fs : FileSystem) (outcomes : List Outcome) :
    ∀ f ∈ (forEach (writePage now) fs outcomes).2, f.isWrite = !f.isRender := by
  apply forall_mem_forEach
  intro fs o f hf
  rcases failure_of_writePage now fs o with ⟨g, hfailure, hwork⟩ | ⟨-, hwrite⟩
  · obtain rfl : g = f := Option.some.inj (hwork.symm.trans hf)
    obtain ⟨hrender, hwrite⟩ := isRender_of_failure? hfailure
    rw [hrender, hwrite, Bool.not_true]
  · obtain ⟨hrender, hwrite⟩ := hwrite f hf
    rw [hrender, hwrite, Bool.not_false]

theorem copy_failures (now : Int) (fs : FileSystem) (assets : List Asset) :
    ∀ f ∈ (forEach (copyAsset now) fs assets).2, f.isRender = false ∧ f.isWrite = false :=
  forall_mem_forEach (fun fs a => failure_of_copyAsset now fs a) fs assets

/-- Of the failures of a build, those of renderings are the ones that a check reports. -/
theorem failures_writeAll (fs : FileSystem) (outcomes : List Outcome) (assets : List Asset)
    (now : Int) :
    (writeAll fs outcomes assets now).2.failures.filter Failure.isRender =
      (reportOf outcomes).failures := by
  have hcopy : (forEach (copyAsset now) (forEach (writePage now) fs outcomes).1 assets).2.filter
      Failure.isRender = [] :=
    List.filter_eq_nil_iff.mpr fun f hf => by simp [(copy_failures now _ assets f hf).1]
  unfold writeAll
  dsimp only
  rw [List.filter_append, hcopy, List.append_nil, filter_isRender_pages]
  rfl

/-- A check counts every document as a page or a failure. -/
theorem pages_add_failed (outcomes : List Outcome) :
    (reportOf outcomes).pages + (reportOf outcomes).failed = outcomes.length := by
  rw [List.length_eq_countP_add_countP fun o : Outcome => o.failure?.isNone, reportOf,
    Report.failed, List.length_filterMap_eq_countP]
  congr 1
  exact List.countP_congr fun o _ => by simp [Option.isSome_iff_ne_none]

/-- A check counts the pages that a build has written and those that it could not write. -/
theorem pages_writeAll (fs : FileSystem) (outcomes : List Outcome) (assets : List Asset)
    (now : Int) :
    (reportOf outcomes).pages = (writeAll fs outcomes assets now).2.pages +
      (writeAll fs outcomes assets now).2.failures.countP Failure.isWrite := by
  have hcopy : (forEach (copyAsset now) (forEach (writePage now) fs outcomes).1 assets).2.countP
      Failure.isWrite = 0 :=
    List.countP_eq_zero.mpr fun f hf => by simp [(copy_failures now _ assets f hf).2]
  have hwritten : (forEach (writePage now) fs outcomes).2.length ≤ outcomes.length :=
    length_forEach_le fs outcomes
  have hkinds : (forEach (writePage now) fs outcomes).2.length =
      (outcomes.filterMap Outcome.failure?).length +
        (forEach (writePage now) fs outcomes).2.countP Failure.isWrite := by
    rw [← filter_isRender_pages now fs outcomes, ← List.countP_eq_length_filter,
      List.length_eq_countP_add_countP Failure.isRender]
    congr 1
    exact List.countP_congr fun f hf => by simp [isWrite_eq_not_isRender now fs outcomes f hf]
  have houtcomes : (outcomes.countP fun o => o.failure?.isNone) +
      (outcomes.filterMap Outcome.failure?).length = outcomes.length := pages_add_failed outcomes
  unfold writeAll reportOf
  dsimp only
  rw [List.countP_append, hcopy]
  omega

/-! ## Passes -/

section Pass

variable {ε : Type} {b : Builder} {source : ArtifactSource ε} {fs : FileSystem} {started : Int}

/-- When what a pass depends on cannot be read, a check and a build fail alike, and the build has
not written anything. -/
def FailsAlike (b : Builder) (source : ArtifactSource ε) (fs : FileSystem) (started : Int) (e : ε) :
    Prop :=
  b.checkFrom source fs started = .error e ∧ b.buildFrom source fs started = (fs, .error e)

theorem failsAlike_of_prepareFrom {e : ε} (h : b.prepareFrom source fs started = .error e) :
    FailsAlike b source fs started e := by
  constructor
  · rw [Builder.checkFrom, h]
    rfl
  · rw [Builder.buildFrom, h]

/-- What a pass reads first ends it first. -/
theorem prepareFrom_eq (b : Builder) (source : ArtifactSource ε) (fs : FileSystem)
    (started : Int) :
    b.prepareFrom source fs started =
      match collect fs b.config b.renderer, loadTemplates fs b.config.templatesFolder,
        source.list fs with
      | .error e, _, _ => .error (source.ofBuild (.collect e))
      | .ok _, .error e, _ => .error (source.ofBuild (.templates e))
      | .ok _, .ok _, .error e => .error e
      | .ok collection, .ok templates, .ok artifacts =>
        .ok ⟨b.config, collection, templates, .ofRecords artifacts, b.renderer, started⟩ := by
  unfold Builder.prepareFrom
  cases collect fs b.config b.renderer with
  | error e => rfl
  | ok collection =>
      cases loadTemplates fs b.config.templatesFolder with
      | error e => rfl
      | ok templates => cases source.list fs <;> rfl

/-- A check and a build from the same state report the same renderings. -/
theorem report_of_prepareFrom {ctx : Context} {after : FileSystem} {built : Report}
    (hctx : b.prepareFrom source fs started = .ok ctx)
    (hbuild : b.buildFrom source fs started = (after, .ok built)) :
    built.failures.filter Failure.isRender = (reportOf (renderDocuments ctx)).failures ∧
      (reportOf (renderDocuments ctx)).pages =
        built.pages + built.failures.countP Failure.isWrite := by
  unfold Builder.buildFrom at hbuild
  rw [hctx] at hbuild
  dsimp only at hbuild
  split at hbuild
  · cases hbuild
  · rename_i made hmade
    cases hbuild
    exact ⟨failures_writeAll made _ _ started, pages_writeAll made _ _ started⟩

theorem checkFrom_of_prepareFrom {ctx : Context}
    (hctx : b.prepareFrom source fs started = .ok ctx) :
    b.checkFrom source fs started = .ok (reportOf (renderDocuments ctx)) := by
  rw [Builder.checkFrom, hctx]
  rfl

theorem buildFrom_of_prepareFrom {ctx : Context} {made : FileSystem}
    (hctx : b.prepareFrom source fs started = .ok ctx)
    (hmade : fs.createFolders b.config.build.outputDir = .ok made) :
    b.buildFrom source fs started =
      let (after, report) :=
        writeAll made (renderDocuments ctx) (copiedAssets ctx.collection) started
      (after, .ok report) := by
  rw [Builder.buildFrom, hctx]
  dsimp only
  rw [hmade]

/-- A build that has read everything ends with a report if the output folder can be made. -/
theorem exists_buildFrom {ctx : Context} {made : FileSystem}
    (hctx : b.prepareFrom source fs started = .ok ctx)
    (hmade : fs.createFolders b.config.build.outputDir = .ok made) :
    ∃ after built, b.buildFrom source fs started = (after, .ok built) :=
  ⟨_, _, buildFrom_of_prepareFrom hctx hmade⟩

end Pass

/-! ## The commands -/

section Commands

open Command

/-- A check leaves the files as they are. -/
theorem files_runCheck (w : World) (path : String) (strict : Bool) :
    (runCheck w path strict).files = w.files := by
  unfold runCheck
  split
  · rfl
  · split
    · rfl
    · split
      · rfl
      · split <;> rfl

/-- A strict check succeeds if all documents can be rendered, and only then. -/
theorem error?_runCheck {w : World} {path : String} {c : Config} {checked : Report}
    (hconfig : w.config path = .ok c)
    (hcheck : (Builder.ofConfig c).check w.files w.now = .ok checked) :
    (runCheck w path true).error? = none ↔ checked.failures = [] := by
  unfold runCheck
  rw [hconfig]
  dsimp only
  rw [hcheck]
  dsimp only
  rw [← List.isEmpty_iff, ← Report.isSuccess]
  cases checked.isSuccess <;> simp

end Commands

/-- A check predicts a build from the same state: what cannot be read ends both with the same error
before anything is written; after that the failures of a check are the failed renderings of the
build in their order, and it counts the pages that the build has written or could not write.  A
check changes no file, and a strict one succeeds just if the build has no failed rendering. -/
theorem check_predicts_build :
    (∀ {ε : Type} (b : Builder) (source : ArtifactSource ε) (fs : FileSystem) (started : Int),
      (∀ e, collect fs b.config b.renderer = .error e →
        FailsAlike b source fs started (source.ofBuild (.collect e))) ∧
      (∀ collection e, collect fs b.config b.renderer = .ok collection →
        loadTemplates fs b.config.templatesFolder = .error e →
        FailsAlike b source fs started (source.ofBuild (.templates e))) ∧
      (∀ collection templates e, collect fs b.config b.renderer = .ok collection →
        loadTemplates fs b.config.templatesFolder = .ok templates → source.list fs = .error e →
        FailsAlike b source fs started e) ∧
      (∀ collection templates artifacts, collect fs b.config b.renderer = .ok collection →
        loadTemplates fs b.config.templatesFolder = .ok templates →
        source.list fs = .ok artifacts →
        ∃ checked, b.checkFrom source fs started = .ok checked ∧
          ∀ after built, b.buildFrom source fs started = (after, .ok built) →
            built.failures.filter Failure.isRender = checked.failures ∧
            checked.pages = built.pages + built.failures.countP Failure.isWrite)) ∧
    (∀ (w : Command.World) (path : String) (strict : Bool),
      (Command.runCheck w path strict).files = w.files) ∧
    (∀ (w : Command.World) (path : String) (c : Config) (after : FileSystem) (built : Report),
      w.config path = .ok c → (Builder.ofConfig c).build w.files w.now = (after, .ok built) →
        ((Command.runCheck w path true).error? = none ↔
          ∀ f ∈ built.failures, f.isRender = false)) := by
  refine ⟨fun b source fs started => ⟨?_, ?_, ?_, ?_⟩, files_runCheck, ?_⟩
  · intro e hcollect
    apply failsAlike_of_prepareFrom
    rw [prepareFrom_eq, hcollect]
  · intro collection e hcollect htemplates
    apply failsAlike_of_prepareFrom
    rw [prepareFrom_eq, hcollect, htemplates]
  · intro collection templates e hcollect htemplates hsource
    apply failsAlike_of_prepareFrom
    rw [prepareFrom_eq, hcollect, htemplates, hsource]
  · intro collection templates artifacts hcollect htemplates hsource
    have hctx := prepareFrom_eq b source fs started
    rw [hcollect, htemplates, hsource] at hctx
    exact ⟨_, checkFrom_of_prepareFrom hctx, fun after built => report_of_prepareFrom hctx⟩
  · intro w path c after built hconfig hbuild
    cases hctx : (Builder.ofConfig c).prepareFrom (Builder.ofConfig c).source w.files w.now with
    | error e =>
        rw [Builder.build, (failsAlike_of_prepareFrom hctx).2] at hbuild
        cases hbuild
    | ok ctx =>
        rw [error?_runCheck hconfig (checkFrom_of_prepareFrom hctx),
          ← (report_of_prepareFrom hctx hbuild).1, List.filter_eq_nil_iff]
        simp

/-- A site with one document and no template to render it. -/
def bareSite : FileSystem :=
  ⟨⟨[(["bodykit.toml"], .file ByteArray.empty 0), (["source"], .folder),
      (["source", "post.md"], .file ByteArray.empty 0)]⟩, []⟩

/-- Its document. -/
def barePost : Document := .read "" (locationOf {} ⟨["post.md"], 0⟩) Markdown.renderer

theorem sourceFiles_bareSite :
    sourceFiles bareSite "source" ⟨⟨[]⟩, ⟨[]⟩, "templates"⟩ = [⟨["post.md"], 0⟩] := by
  have hlocate : bareSite.locate "source" = .ok ["source"] := by cbv
  have hfound : bareSite.entries.entries.filterMap (FileSystem.foundBelow? ["source"]) =
      [⟨["post.md"], 0⟩] := rfl
  have hkept : [(⟨["post.md"], 0⟩ : FileSystem.Found)].filter (fun f =>
      (FileSystem.beginnings f.names).all fun names =>
        !IgnoreRules.ignores ⟨⟨[]⟩, ⟨[]⟩, "templates"⟩ (pathOf names)) = [⟨["post.md"], 0⟩] := by
    decide
  unfold sourceFiles FileSystem.filesBelow
  rw [hlocate]
  dsimp only
  rw [hfound, hkept, List.mergeSort_singleton]
  decide

theorem collect_bareSite :
    collect bareSite {} Markdown.renderer = .ok ⟨[.document barePost]⟩ := by
  have hrules : IgnoreRules.ofConfig {} = .ok ⟨⟨[]⟩, ⟨[]⟩, "templates"⟩ := by cbv
  have hfolder : bareSite.isFolder "source" = true := by cbv
  have htext : bareSite.readText "source/post.md" = .ok "" := by cbv
  have hdocument : isDocument {} ⟨["post.md"], 0⟩ = true := by decide
  have hsource : (locationOf {} ⟨["post.md"], 0⟩).sourcePath = "source/post.md" := by decide
  have hentry : entryOf bareSite {} Markdown.renderer ⟨["post.md"], 0⟩ =
      .ok (.document barePost) := entryOf_document _ hdocument rfl (hsource ▸ htext)
  rw [collect_eq hrules hfolder, sourceFiles_bareSite, List.mapM_cons, hentry]
  rfl

theorem loadTemplates_bareSite :
    loadTemplates bareSite (Config.templatesFolder {}) = .ok .empty := by
  have hname : Config.templatesFolder {} = "source/templates" := by decide
  have hfolder : bareSite.isFolder "source/templates" = false := by cbv
  rw [hname, loadTemplates, filesOf, hfolder]
  rfl

theorem prepare_bareSite :
    (Builder.ofConfig {}).prepare bareSite 0 =
      .ok ⟨{}, ⟨[.document barePost]⟩, .empty,
        .ofRecords ((Builder.ofConfig {}).artifactsIn bareSite), Markdown.renderer, 0⟩ := by
  have hcollect : collect bareSite (Builder.ofConfig {}).config (Builder.ofConfig {}).renderer =
      .ok ⟨[.document barePost]⟩ := collect_bareSite
  have htemplates : loadTemplates bareSite (Builder.ofConfig {}).config.templatesFolder =
      .ok .empty := loadTemplates_bareSite
  rw [Builder.prepare, prepareFrom_eq, hcollect, htemplates]
  rfl

theorem check_predicts_build_bareSite :
    ∃ after checked built,
      Command.World.config ⟨bareSite, [], 0⟩ "bodykit.toml" = .ok {} ∧
      (Builder.ofConfig {}).check bareSite 0 = .ok checked ∧ checked.failures.length = 1 ∧
      (Builder.ofConfig {}).build bareSite 0 = (after, .ok built) ∧
      built.failures.filter Failure.isRender = checked.failures ∧
      checked.pages = built.pages + built.failures.countP Failure.isWrite ∧
      ((Command.runCheck ⟨bareSite, [], 0⟩ "bodykit.toml" true).error? = none ↔
        ∀ f ∈ built.failures, f.isRender = false) ∧
      FailsAlike (Builder.ofConfig {}) (Builder.ofConfig {}).source .empty 0
        (.collect (.missingSource "source")) ∧
      FailsAlike (Builder.ofConfig {}) ⟨fun _ => .error "denied", BuildError.message⟩ bareSite 0
        "denied" := by
  have hconfig : Command.World.config ⟨bareSite, [], 0⟩ "bodykit.toml" = .ok {} := by cbv
  have hmissing : collect .empty {} Markdown.renderer = .error (.missingSource "source") := by cbv
  obtain ⟨made, hmade⟩ : ∃ made, bareSite.createFolders "public" = .ok made := ⟨_, by cbv⟩
  obtain ⟨-, -, hdenied, -⟩ := check_predicts_build.1 (Builder.ofConfig {})
    ⟨fun _ => .error "denied", BuildError.message⟩ bareSite 0
  obtain ⟨-, -, -, hreads⟩ := check_predicts_build.1 (Builder.ofConfig {})
    (Builder.ofConfig {}).source bareSite 0
  obtain ⟨checked, hcheck, hreport⟩ := hreads _ _ _ collect_bareSite loadTemplates_bareSite rfl
  obtain ⟨hcollect, -⟩ := check_predicts_build.1 (Builder.ofConfig {})
    (Builder.ofConfig {}).source .empty 0
  -- nothing stands in the way of the output folder, so the build comes to an end
  obtain ⟨after, built, hbuild⟩ : ∃ after built,
      (Builder.ofConfig {}).build bareSite 0 = (after, .ok built) :=
    exists_buildFrom prepare_bareSite hmade
  have hfailed : checked.failures.length = 1 := by
    cases (checkFrom_of_prepareFrom prepare_bareSite).symm.trans hcheck
    rfl
  obtain ⟨hfailures, hpages⟩ := hreport after built hbuild
  exact ⟨after, checked, built, hconfig, hcheck, hfailed, hbuild, hfailures, hpages,
    check_predicts_build.2.2 ⟨bareSite, [], 0⟩ _ _ _ _ hconfig hbuild, hcollect _ hmissing,
    hdenied _ _ _ collect_bareSite loadTemplates_bareSite rfl⟩

end StaticSite.Build
