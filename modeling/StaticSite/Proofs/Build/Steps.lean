/-
What the steps of a build come to.

A build collects the sources, loads the templates, lists the artifacts, makes the output folder,
writes the pages and copies the assets.  Here is what each step gives, told by what it finds and by
what the operations on the files give, and how the steps make up a build (`build_of_steps`).
-/
import StaticSite.Proofs.Build.Jobs

namespace StaticSite.Build

open StaticSite.Content StaticSite.Template StaticSite.Render

variable {c : Config} {ctx : Context} {fs fs' made after : FileSystem} {now : Int} {path : String}
  {collection : Collection} {templates : TemplateStore} {artifacts : List Artifact}

/-! ## Reading -/

/-- A source folder with one file, which is a document. -/
theorem collect_of_page {rules : IgnoreRules} {f : FileSystem.Found} {location : Location}
    {text : String} (hrules : IgnoreRules.ofConfig c = .ok rules)
    (hfolder : fs.isFolder c.build.sourceDir = true)
    (hfiles : sourceFiles fs c.build.sourceDir rules = [f]) (hdocument : isDocument c f = true)
    (hlocation : locationOf c f = location) (htext : fs.readText location.sourcePath = .ok text) :
    collect fs c Markdown.renderer =
      .ok ⟨[.document (.read text location Markdown.renderer)]⟩ := by
  rw [collect_eq hrules hfolder, hfiles, List.mapM_cons,
    entryOf_document Markdown.renderer hdocument hlocation htext]
  rfl

theorem loadTemplates_of_missing (h : fs.isFolder path = false) :
    loadTemplates fs path = .ok .empty := by
  rw [loadTemplates, filesOf, h]
  rfl

/-- A folder with the file `page.html` and nothing else has one template. -/
theorem loadTemplates_of_page {file text : String} (hfolder : fs.isFolder path = true)
    (hfiles : fs.filesBelow path (fun _ => true) = [⟨["page.html"], 0⟩])
    (hfile : Path.join path "page.html" = file) (htext : fs.readText file = .ok text) :
    loadTemplates fs path = .ok (.add .empty ⟨"page", file, text⟩) := by
  have hfilter : [(⟨["page.html"], 0⟩ : FileSystem.Found)].filter isTemplateFile =
      [⟨["page.html"], 0⟩] := by decide
  have hpath : FileSystem.Found.path ⟨["page.html"], 0⟩ = "page.html" := by decide
  have hname : templateName "page.html" = "page" := by decide
  have hread : readTemplate fs path ⟨["page.html"], 0⟩ = .ok ⟨"page", file, text⟩ := by
    unfold readTemplate
    rw [hpath, hname, hfile]
    dsimp only
    rw [htext]
  rw [loadTemplates, filesOf, if_pos hfolder, hfiles, hfilter, List.mapM_cons, hread]
  rfl

theorem scanArtifacts_of_missing (h : fs.isFolder path = false) : scanArtifacts fs path = [] := by
  rw [scanArtifacts, filesOf, h]
  rfl

theorem scanArtifacts_of_files {files : List FileSystem.Found} (hfolder : fs.isFolder path = true)
    (hfiles : fs.filesBelow path (fun _ => true) = files)
    (hartifacts : files.filterMap (artifactOf? path) = artifacts) :
    scanArtifacts fs path = artifacts := by
  rw [scanArtifacts, filesOf, if_pos hfolder, hfiles, hartifacts]

theorem prepareFrom_of_steps (hcollect : collect fs c Markdown.renderer = .ok collection)
    (htemplates : loadTemplates fs c.templatesFolder = .ok templates)
    (hartifacts : scanArtifacts fs c.build.outputDir = artifacts) :
    (Builder.ofConfig c).prepareFrom (Builder.ofConfig c).source fs now =
      .ok ⟨c, collection, templates, .ofRecords artifacts, Markdown.renderer, now⟩ := by
  have hread : collect fs (Builder.ofConfig c).config (Builder.ofConfig c).renderer =
      .ok collection := hcollect
  have hload : loadTemplates fs (Builder.ofConfig c).config.templatesFolder = .ok templates :=
    htemplates
  have hlist : (Builder.ofConfig c).source.list fs = .ok artifacts := congrArg Except.ok hartifacts
  rw [prepareFrom_eq, hread, hload, hlist]
  rfl

/-! ## Writing -/

theorem writePage_of_ok {d : Document} {markup : String} (hfresh : d.rendered = none)
    (hrender : renderPage ctx d = .ok markup)
    (hwrite : writeAt fs d.destPath markup now = (fs', none)) :
    writePage now fs (renderDocument ctx d) = (fs', none) := by
  have hwork : (Job.page d).work ctx now fs = _ := Job.work_of_renderPage hfresh hrender
  rw [hwrite] at hwork
  exact hwork

theorem writePage_of_error {d : Document} {e : RenderError} (hrender : renderPage ctx d = .error e) :
    writePage now fs (renderDocument ctx d) = (fs, some ⟨d.path, .render e⟩) := by
  rw [renderDocument, hrender]
  rfl

theorem copyAsset_of_copy {a : Asset} (hparents : fs.createParents a.destPath = .ok made)
    (hcopy : made.copy a.sourcePath a.destPath now = .ok fs') : copyAsset now fs a = (fs', none) := by
  rw [copyAsset, copyAt, hparents]
  dsimp only
  rw [hcopy]
  rfl

theorem copyAsset_of_error {a : Asset} {cause : FileError}
    (hparents : fs.createParents a.destPath = .error cause) :
    copyAsset now fs a = (fs, some ⟨a.path, .copy a.sourcePath a.destPath cause⟩) := by
  rw [copyAsset, copyAt, hparents]
  rfl

/-! ## Building -/

theorem build_of_steps {built : Report} (hcollect : collect fs c Markdown.renderer = .ok collection)
    (htemplates : loadTemplates fs c.templatesFolder = .ok templates)
    (hartifacts : scanArtifacts fs c.build.outputDir = artifacts)
    (hmade : fs.createFolders c.build.outputDir = .ok made)
    (hwritten : writeAll made (renderDocuments
      ⟨c, collection, templates, .ofRecords artifacts, Markdown.renderer, now⟩)
      (copiedAssets collection) now = (after, built)) :
    (Builder.ofConfig c).build fs now = (after, .ok built) := by
  rw [Builder.build, buildFrom_of_prepareFrom
    (prepareFrom_of_steps hcollect htemplates hartifacts) hmade, hwritten]

/-- A site of one document is built by writing its page. -/
theorem build_of_page {d : Document} {failure : Option Failure}
    (hcollect : collect fs c Markdown.renderer = .ok ⟨[.document d]⟩)
    (htemplates : loadTemplates fs c.templatesFolder = .ok templates)
    (hartifacts : scanArtifacts fs c.build.outputDir = artifacts)
    (hmade : fs.createFolders c.build.outputDir = .ok made)
    (hpage : writePage now made (renderDocument
      ⟨c, ⟨[.document d]⟩, templates, .ofRecords artifacts, Markdown.renderer, now⟩ d) =
        (after, failure)) :
    (Builder.ofConfig c).build fs now =
      (after, .ok ⟨1 - failure.toList.length, 0, failure.toList⟩) := by
  refine build_of_steps hcollect htemplates hartifacts hmade ?_
  have hcopies : copiedAssets ⟨[.document d]⟩ = [] := rfl
  have hdocuments : Collection.documents ⟨[.document d]⟩ = [d] := rfl
  rw [writeAll, renderDocuments, hdocuments, hcopies]
  simp only [List.map_cons, List.map_nil, forEach, hpage, List.append_nil, List.length_cons,
    List.length_nil, Nat.zero_add, Nat.sub_zero]

/-- A site of assets, without templates, is built by copying them. -/
theorem build_of_assets (assets : List Asset) {failures : List Failure} {count : Nat}
    (hcollect : collect fs c Markdown.renderer = .ok ⟨assets.map Entry.asset⟩)
    (htemplates : fs.isFolder c.templatesFolder = false)
    (hmade : fs.createFolders c.build.outputDir = .ok made)
    (hcopies : forEach (copyAsset now) made (assets.filter (·.copied)) = (after, failures))
    (hcount : (assets.filter (·.copied)).length - failures.length = count) :
    (Builder.ofConfig c).build fs now = (after, .ok ⟨0, count, failures⟩) := by
  refine build_of_steps hcollect (loadTemplates_of_missing htemplates) rfl hmade ?_
  have hdocuments : Collection.documents ⟨assets.map Entry.asset⟩ = [] := by
    simp [Collection.documents, Entry.asDocument?]
  have hassets : Collection.assets ⟨assets.map Entry.asset⟩ = assets := by
    simp [Collection.assets, Entry.asAsset?, List.filterMap_map, Function.comp_def]
  rw [writeAll, renderDocuments, copiedAssets, hdocuments, hassets]
  simp only [List.map_nil, forEach, hcopies, hcount, List.length_nil, List.nil_append, Nat.sub_zero]

end StaticSite.Build
