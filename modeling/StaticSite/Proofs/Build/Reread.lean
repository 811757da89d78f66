/-
What a pass reads when files have been written.

A walk gives the files of a tree in the order of their names, so it finds the same in two trees as
far as the files that count for it are the same (`filter_filesBelow_eq`).  A pass reads the files
below the source folder and the templates folder, and from the output folder it takes those that
look like artifacts: where these are kept, it reads the same again (`prepare_of_keepsInputs`).

A folder that a pass makes may be one that a path leads to for the first time, as `x/../public`
does once there is `x`.  So it has to be asked as well that paths lead where they led before, if
anything was there (`LedThere`).
-/
import StaticSite.Proofs.Build.Collection
import StaticSite.Proofs.Build.Outputs
import StaticSite.Proofs.FileSystem.Below

namespace StaticSite

/-! ## Walks through two trees -/

namespace FileSystem

variable {fs fs' : FileSystem} {path : String} {folder names : Place}

/-- Walks find the same files where the files that count are the same. -/
theorem filter_filesBelow_eq (hfs : fs.IsTree) (hfs' : fs'.IsTree) {p : Found → Bool}
    (hlocate : fs.locate path = .ok folder) (hlocate' : fs'.locate path = .ok folder)
    (hkeeps : ∀ f, p f = true → KeepsFile fs fs' (folder ++ f.names)) (keep : Place → Bool) :
    (fs'.filesBelow path keep).filter p = (fs.filesBelow path keep).filter p := by
  have hirrefl : Std.Irrefl fun f g : Found => Precedes f.names g.names :=
    ⟨fun _ h => lt_irrefl _ (precedes_iff.mp h)⟩
  have hantisymm : Std.Antisymm fun f g : Found => Precedes f.names g.names :=
    ⟨fun _ _ h h' => absurd (precedes_iff.mp h') (lt_asymm (precedes_iff.mp h))⟩
  refine List.Pairwise.eq_of_mem_iff ((pairwise_filesBelow hfs'.nodup path keep).filter p)
    ((pairwise_filesBelow hfs.nodup path keep).filter p) fun f => ?_
  rw [List.mem_filter, List.mem_filter, hfs.mem_filesBelow, hfs'.mem_filesBelow]
  refine and_congr_left fun hp => ⟨?_, ?_⟩
  · rintro ⟨folder', content, hplace, hne, hfile, hkeep⟩
    cases hlocate'.symm.trans hplace
    exact ⟨folder, content, hlocate, hne, (hkeeps f hp _ _).mpr hfile, hkeep⟩
  · rintro ⟨folder', content, hplace, hne, hfile, hkeep⟩
    cases hlocate.symm.trans hplace
    exact ⟨folder, content, hlocate', hne, (hkeeps f hp _ _).mp hfile, hkeep⟩

/-- A file below a folder that is kept is read as before. -/
theorem readText_join_eq (hfs : fs.IsTree) (hgrows : Grows fs fs')
    (hlocate : fs.locate path = .ok folder) (hfolder : fs.get? folder = some .folder)
    (hne : names ≠ []) {content : ByteArray} {modified : Int}
    (hfile : fs.get? (folder ++ names) = some (.file content modified))
    (hkeeps : KeepsFile fs fs' (folder ++ names)) :
    fs'.readText (Path.join path ("/".intercalate names)) =
      fs.readText (Path.join path ("/".intercalate names)) := by
  have hplace := hfs.locate_join hlocate hfolder hne hfile
  have hfile' := (hkeeps _ _).mp hfile
  rw [readText, readText, read_eq_ok.mpr ⟨_, _, hplace, hfile⟩,
    read_eq_ok.mpr ⟨_, _, hgrows.locate hplace, hfile'⟩]

/-- Where the path leads now it led before, or nothing was there. -/
def LedThere (fs fs' : FileSystem) (path : String) : Prop :=
  ∀ folder, fs'.placeOf path = .ok folder → fs.placeOf path = .ok folder ∨ fs.get? folder = none

end FileSystem

/-! ## Folders that are read -/

namespace Build

open Content Template FileSystem

variable {fs fs' : FileSystem} {path : String}

theorem exists_of_mem_filesOf (hfs : fs.IsTree) {f : Found} (h : f ∈ filesOf fs path) :
    ∃ folder content, fs.locate path = .ok folder ∧ fs.get? folder = some .folder ∧
      f.names ≠ [] ∧ fs.get? (folder ++ f.names) = some (.file content f.modified) := by
  unfold filesOf at h
  split at h
  · obtain ⟨folder, content, hlocate, hne, hfile, -⟩ := hfs.mem_filesBelow.mp h
    exact ⟨folder, content, hlocate, hfs.get?_of_append hne hfile, hne, hfile⟩
  · cases h

theorem filter_filesOf_eq (hfs : fs.IsTree) (hfs' : fs'.IsTree) (hgrows : Grows fs fs')
    (hled : LedThere fs fs' path) {p : Found → Bool}
    (hkeeps : ∀ folder, fs'.placeOf path = .ok folder → ∀ f, p f = true →
      KeepsFile fs fs' (folder ++ f.names)) :
    (filesOf fs' path).filter p = (filesOf fs path).filter p := by
  cases hfolder : fs.isFolder path with
  | true =>
      obtain ⟨folder, hlocate, hthere⟩ := isFolder_eq_true.mp hfolder
      have hlocate' := hgrows.locate hlocate
      have hfolder' : fs'.isFolder path = true :=
        isFolder_eq_true.mpr ⟨folder, hlocate', hgrows.get?_folder hthere⟩
      rw [filesOf, filesOf, hfolder, hfolder', if_pos rfl]
      exact filter_filesBelow_eq hfs hfs' hlocate hlocate'
        (hkeeps folder (locate_eq_ok.mp hlocate').2) _
  | false =>
      have hnone : (filesOf fs path).filter p = [] := by
        rw [filesOf, hfolder]
        rfl
      rw [hnone, List.filter_eq_nil_iff]
      intro f hf hp
      -- a file that counts was there before, and so was its folder
      obtain ⟨folder, content, hlocate, -, hne, hfile⟩ := exists_of_mem_filesOf hfs' hf
      obtain ⟨hparts, hplace⟩ := locate_eq_ok.mp hlocate
      have hthere := hfs.get?_of_append hne ((hkeeps folder hplace f hp _ _).mpr hfile)
      rcases hled folder hplace with hbefore | hfree
      · have hwas := isFolder_eq_true.mpr ⟨folder, locate_eq_ok.mpr ⟨hparts, hbefore⟩, hthere⟩
        cases hfolder.symm.trans hwas
      · cases hfree.symm.trans hthere

theorem loadTemplates_eq (hfs : fs.IsTree) (hfs' : fs'.IsTree) (hgrows : Grows fs fs')
    (hled : LedThere fs fs' path)
    (hkeeps : ∀ folder, fs'.placeOf path = .ok folder → ∀ names,
      KeepsFile fs fs' (folder ++ names)) :
    loadTemplates fs' path = loadTemplates fs path := by
  have hread : ∀ f ∈ (filesOf fs path).filter isTemplateFile,
      readTemplate fs' path f = readTemplate fs path f := by
    intro f hf
    obtain ⟨folder, content, hlocate, hthere, hne, hfile⟩ :=
      exists_of_mem_filesOf hfs (List.mem_filter.mp hf).1
    have hplace := (locate_eq_ok.mp (hgrows.locate hlocate)).2
    have hsame : fs'.readText (Path.join path f.path) = fs.readText (Path.join path f.path) :=
      readText_join_eq hfs hgrows hlocate hthere hne hfile (hkeeps folder hplace _)
    unfold readTemplate
    dsimp only
    rw [hsame]
  rw [loadTemplates, loadTemplates,
    filter_filesOf_eq hfs hfs' hgrows hled fun folder hplace f _ => hkeeps folder hplace f.names,
    Outcome.mapM_congr hread]

/-- Only files that look like artifacts count. -/
theorem scanArtifacts_eq_filter (fs : FileSystem) (path : String) :
    scanArtifacts fs path =
      ((filesOf fs path).filter fun f => (Artifact.classify f.name).isSome).filterMap
        (artifactOf? path) := by
  rw [scanArtifacts, List.filterMap_filter]
  refine List.filterMap_congr fun f _ => ?_
  unfold artifactOf?
  cases Artifact.classify f.name <;> rfl

theorem scanArtifacts_eq (hfs : fs.IsTree) (hfs' : fs'.IsTree) (hgrows : Grows fs fs')
    (hled : LedThere fs fs' path)
    (hkeeps : ∀ folder, fs'.placeOf path = .ok folder → ∀ f : Found,
      (Artifact.classify f.name).isSome = true → KeepsFile fs fs' (folder ++ f.names)) :
    scanArtifacts fs' path = scanArtifacts fs path := by
  rw [scanArtifacts_eq_filter, scanArtifacts_eq_filter,
    filter_filesOf_eq hfs hfs' hgrows hled hkeeps]

/-! ## Source files -/

section Source

variable {c : Config} {renderer : Renderer}

theorem entryOf_eq {f : Found}
    (h : isDocument c f = true → fs'.readText (Path.join c.build.sourceDir f.path) =
      fs.readText (Path.join c.build.sourceDir f.path)) :
    entryOf fs' c renderer f = entryOf fs c renderer f := by
  have hsource : (locationOf c f).sourcePath = Path.join c.build.sourceDir f.path := rfl
  unfold entryOf
  split
  · rename_i hdocument
    unfold readDocument
    dsimp only
    rw [hsource, h hdocument]
  · rfl

/-- What has been collected is collected again where the files of the site are the same. -/
theorem collect_of_keepsFile (hfs : fs.IsTree) (hfs' : fs'.IsTree) (hgrows : Grows fs fs')
    {collection : Collection} (h : collect fs c renderer = .ok collection)
    (hkeeps : ∀ folder, fs'.placeOf c.build.sourceDir = .ok folder → ∀ names,
      KeepsFile fs fs' (folder ++ names)) :
    collect fs' c renderer = .ok collection := by
  obtain ⟨rules, hrules, hfolder, -⟩ := exists_of_collect h
  obtain ⟨folder, hlocate, hthere⟩ := isFolder_eq_true.mp hfolder
  have hlocate' := hgrows.locate hlocate
  have hkept := hkeeps folder (locate_eq_ok.mp hlocate').2
  have hfolder' : fs'.isFolder c.build.sourceDir = true :=
    isFolder_eq_true.mpr ⟨folder, hlocate', hgrows.get?_folder hthere⟩
  have hfiles : sourceFiles fs' c.build.sourceDir rules = sourceFiles fs c.build.sourceDir rules :=
    filter_filesBelow_eq hfs hfs' hlocate hlocate' (fun f _ => hkept f.names) _
  have hread : ∀ f ∈ sourceFiles fs c.build.sourceDir rules,
      entryOf fs' c renderer f = entryOf fs c renderer f := by
    intro f hf
    obtain ⟨folder', content, hplace, hne, hfile, -⟩ :=
      hfs.mem_filesBelow.mp (mem_sourceFiles.mp hf).1
    cases hlocate.symm.trans hplace
    exact entryOf_eq fun _ => readText_join_eq hfs hgrows hlocate hthere hne hfile (hkept _)
  rw [collect_eq hrules hfolder] at h
  rw [collect_eq hrules hfolder', hfiles, Outcome.mapM_congr hread, h]

end Source

/-! ## Passes -/

/-- All that a pass reads is the same: the files of the source folder and of the templates folder,
and in the output folder those that look like artifacts. -/
structure KeepsInputs (c : Config) (fs fs' : FileSystem) : Prop where
  grows : Grows fs fs'
  source : ∀ folder, fs'.placeOf c.build.sourceDir = .ok folder → ∀ names,
    KeepsFile fs fs' (folder ++ names)
  templates : ∀ folder, fs'.placeOf c.templatesFolder = .ok folder → ∀ names,
    KeepsFile fs fs' (folder ++ names)
  artifacts : ∀ folder, fs'.placeOf c.build.outputDir = .ok folder → ∀ f : Found,
    (Artifact.classify f.name).isSome = true → KeepsFile fs fs' (folder ++ f.names)
  templates_led : LedThere fs fs' c.templatesFolder
  output_led : LedThere fs fs' c.build.outputDir

/-- A pass with the artifacts of the output folder reads the same again. -/
theorem prepare_of_keepsInputs {b : Builder} (hb : b.artifacts = none) (hfs : fs.IsTree)
    (hfs' : fs'.IsTree) (hkeeps : KeepsInputs b.config fs fs') {started : Int} {ctx : Render.Context}
    (h : b.prepareFrom b.source fs started = .ok ctx) :
    b.prepareFrom b.source fs' started = .ok ctx := by
  have hbefore := collect_of_prepareFrom h
  have hcollect := collect_of_keepsFile hfs hfs' hkeeps.grows hbefore hkeeps.source
  have hartifacts : b.source.list fs' = b.source.list fs := by
    have hscan := scanArtifacts_eq hfs hfs' hkeeps.grows hkeeps.output_led hkeeps.artifacts
    simp only [Builder.source, Builder.artifactsIn, hb, Option.getD_none, hscan]
  rw [prepareFrom_eq, hbefore] at h
  rw [prepareFrom_eq, hcollect, hartifacts,
    loadTemplates_eq hfs hfs' hkeeps.grows hkeeps.templates_led hkeeps.templates]
  exact h

end Build

end StaticSite
