/-
Building a site twice.

A second build does the jobs of the first one on the files that this one has left, which ends as
before (`Run.again`), if it reads what the first one has read.  So outputs must lie neither among the
sources nor among the templates, and no output may look like an artifact.  Then the second build
reports what the first one has reported and leaves every file as it is (`build_again`).

That the source folder and the output folder lie apart is not enough: there are four more ways in
which a first build can change what a second one does (`second_build_differs`).
-/
import StaticSite.Proofs.Build.Reread
import StaticSite.Proofs.Build.Rerun

namespace StaticSite.Build

open StaticSite.Content StaticSite.Template StaticSite.Render FileSystem

variable {ctx : Context} {fs fs' after : FileSystem} {now : Int} {folder : Place}

/-! ## Building again -/

/-- Neither place lies in the other one. -/
def Apart (place place' : Place) : Prop := ¬ place <+: place' ∧ ¬ place' <+: place

instance (place place' : Place) : Decidable (Apart place place') :=
  inferInstanceAs (Decidable (_ ∧ _))

theorem Apart.not_prefix_append {place place' : Place} (h : Apart place place') (names : Place) :
    ¬ place' <+: place ++ names := fun hbelow =>
  (List.prefix_or_prefix_of_prefix (List.prefix_append place names) hbelow).elim h.1 h.2

/-- A build leaves what it reads alone: no link leads out of the output folder, no sources and no
templates lie in it nor it among them, and the folders that have been made are not those that the
paths of the output folder and of the templates were in want of. -/
structure KeepsApart (c : Config) (fs after : FileSystem) : Prop where
  no_links : ∀ output, after.placeOf c.build.outputDir = .ok output → after.NoLinksIn output
  source : ∀ output, after.placeOf c.build.outputDir = .ok output →
    ∀ source, after.placeOf c.build.sourceDir = .ok source → Apart source output
  templates : ∀ output, after.placeOf c.build.outputDir = .ok output →
    ∀ templates, after.placeOf c.templatesFolder = .ok templates → Apart templates output
  output_led : LedThere fs after c.build.outputDir
  templates_led : LedThere fs after c.templatesFolder

section Plain

variable {c : Config} {path : String} {place : Place}

theorem components_of_isPlain (h : Path.IsPlain path) :
    Path.components path = (namesOf path).map Path.Component.name := by
  obtain ⟨names, hne, hnames, rfl⟩ := h.exists_names
  rw [Path.components_intercalate hnames hne, namesOf_intercalate hnames hne]

/-- Without links, a path that is made of names leads to the place that they name. -/
theorem eq_append_of_placeOf (h : Path.IsPlain path) (hlinks : fs.HasNoLinks)
    (hplace : fs.placeOf path = .ok place) : place = fs.workingFolder ++ namesOf path := by
  rw [placeOf, components_of_isPlain h] at hplace
  exact (leads_of_walkTo hplace).eq_append fun names => hlinks _

/-- Such a path goes on leading to where it led before. -/
theorem ledThere_of_isPlain (hfs : fs.IsTree) (h : Path.IsPlain path) (hgrows : Grows fs after)
    (hlinks : fs.HasNoLinks) : LedThere fs after path := by
  intro folder hfolder
  rw [eq_append_of_placeOf h (hgrows.hasNoLinks hlinks) hfolder, hgrows.workingFolder_eq, placeOf,
    components_of_isPlain h]
  cases hentry : fs.get? (fs.workingFolder ++ namesOf path) with
  | none => exact .inr rfl
  | some e =>
      exact .inl (hfs.leads_below maxLinks hentry fun target heq =>
        hlinks _ target (heq ▸ hentry)).walkTo

/-- Where there are no links and the paths of the folders are made of names, it can be told from
these paths that a build leaves what it reads alone. -/
theorem keepsApart_of_isPlain (hfs : fs.IsTree) (hgrows : Grows fs after) (hlinks : fs.HasNoLinks)
    (houtput : Path.IsPlain c.build.outputDir) (hsource : Path.IsPlain c.build.sourceDir)
    (htemplates : Path.IsPlain c.templatesFolder)
    (hsource_apart : Apart (namesOf c.build.sourceDir) (namesOf c.build.outputDir))
    (htemplates_apart : Apart (namesOf c.templatesFolder) (namesOf c.build.outputDir)) :
    KeepsApart c fs after := by
  have hnone := hgrows.hasNoLinks hlinks
  have happend : ∀ {path place output}, Path.IsPlain path → after.placeOf path = .ok place →
      after.placeOf c.build.outputDir = .ok output →
      Apart (namesOf path) (namesOf c.build.outputDir) → Apart place output := by
    intro path place output hpath hplace hout hnames
    rw [eq_append_of_placeOf hpath hnone hplace, eq_append_of_placeOf houtput hnone hout, Apart,
      List.prefix_append_right_inj, List.prefix_append_right_inj]
    exact hnames
  exact ⟨fun output _ names => hnone _,
    fun output hout source hplace => happend hsource hplace hout hsource_apart,
    fun output hout templates hplace => happend htemplates hplace hout htemplates_apart,
    ledThere_of_isPlain hfs houtput hgrows hlinks, ledThere_of_isPlain hfs htemplates hgrows hlinks⟩

end Plain

section Again

variable {b : Builder} {c : Config} {renderer : Renderer} {collection : Collection}
  {made : FileSystem} {started : Int} {lines : List (Job × Option Failure)}

/-- The jobs of a build are ready once the output folder has been made. -/
theorem isReady_of_mem_jobsOf (hfs : fs.IsTree) (hc : HasPlainOutputs c fs)
    (hcollect : collect fs c renderer = .ok collection) (hfolders : ChangesOnly ∅ fs made)
    (hapart : ∀ source, made.placeOf c.build.sourceDir = .ok source → Apart source folder)
    {job : Job} (hfresh : job.IsFresh) (hjob : job ∈ jobsOf collection) :
    job.IsReady c.build.outputDir folder made where
  isFresh := hfresh
  goesTo := goesTo_of_mem_jobsOf hfs hc hcollect hjob
  source a ha := by
    obtain ⟨source, names, content, modified, hlocate, hfrom, hfile⟩ :=
      exists_file_of_collect hfs hcollect (mem_assets_of_mem_jobsOf (ha ▸ hjob))
    have hplace := (locate_eq_ok.mp (hfolders.grows.locate hlocate)).2
    exact ⟨source ++ names, content, modified, hfolders.grows.locate hfrom,
      (hapart source hplace).not_prefix_append names,
      (hfolders.keepsFile _ (Set.notMem_empty _) _ _).mp hfile⟩

/-- What a build reads is the same after it. -/
theorem keepsInputs_of_run (hchange : ChangesOnly (placesOf after (targetsOf ctx (lines.map Prod.fst)))
    fs after) (hinto : LeadsInto after (Path.components c.build.outputDir) folder)
    (hready : ∀ line ∈ lines, line.1.IsReady c.build.outputDir folder fs')
    (hapart : KeepsApart c fs after) : KeepsInputs c fs after := by
  have hjobs : ∀ job ∈ lines.map Prod.fst, ∃ names name, job.GoesTo c.build.outputDir names name := by
    intro job hjob
    obtain ⟨line, hline, rfl⟩ := List.mem_map.mp hjob
    exact (hready line hline).goesTo
  have houtside : ∀ place, Apart place folder → ∀ names, KeepsFile fs after (place ++ names) := by
    intro place hplace names
    refine hchange.keepsFile _ fun hmem => hplace.not_prefix_append names ?_
    obtain ⟨_, _, heq, -⟩ := exists_of_mem_placesOf hinto hjobs hmem
    exact heq ▸ List.prefix_append _ _
  refine ⟨hchange.grows, fun source hsource => houtside source ?_,
    fun templates htemplates => houtside templates ?_, fun output houtput f hartifact => ?_,
    hapart.templates_led, hapart.output_led⟩
  · exact hapart.source folder hinto.placeOf_eq source hsource
  · exact hapart.templates folder hinto.placeOf_eq templates htemplates
  · cases hinto.placeOf_eq.symm.trans houtput
    refine hchange.keepsFile _ fun hmem => ?_
    obtain ⟨names, name, heq, hnone⟩ := exists_of_mem_placesOf hinto hjobs hmem
    have hname : f.name = name := by
      rw [Found.name, List.append_cancel_left heq, List.getLast?_concat]
      rfl
    rw [hname, hnone] at hartifact
    cases hartifact

/-- With the same failures, as many pages and assets are counted. -/
theorem Accounts.eq_of_failures {built : Report} (h : Accounts ctx built lines)
    (hfailures : (writeAll fs (renderDocuments ctx) (copiedAssets ctx.collection) now).2.failures =
      built.failures) :
    (writeAll fs (renderDocuments ctx) (copiedAssets ctx.collection) now).2 = built := by
  have hpages := pages_add_failures fs (renderDocuments ctx) (copiedAssets ctx.collection) now
  have hassets := assets_add_failures fs (renderDocuments ctx) (copiedAssets ctx.collection) now
  have hdocuments : (renderDocuments ctx).length = ctx.collection.documents.length :=
    List.length_map _
  have hpages' := h.pages
  have hassets' := h.assets
  rw [hfailures] at hpages hassets
  generalize (writeAll fs (renderDocuments ctx) (copiedAssets ctx.collection) now).2 = again
    at hpages hassets hfailures
  obtain ⟨pages, assets, failures⟩ := again
  obtain ⟨pages', assets', failures'⟩ := built
  cases hfailures
  dsimp only at hpages hassets hpages' hassets'
  have hsame : pages = pages' := by omega
  have hsame' : assets = assets' := by omega
  rw [hsame, hsame']

/-- A build that ends without a report has not written anything. -/
theorem eq_of_buildFrom_error {ε : Type} {source : ArtifactSource ε} {e : ε}
    (h : b.buildFrom source fs started = (after, .error e)) : after = fs := by
  unfold Builder.buildFrom at h
  split at h
  · cases h
    rfl
  · split at h
    · cases h
      rfl
    · cases h

end Again

/-- The source folder and the output folder of a site lie apart, assets are copied to where they are
in the source folder, and no font is copied; but a second build reports something else. -/
structure Differs (c : Config) (fs after : FileSystem) (first second : Report) : Prop where
  isTree : fs.IsTree
  pattern : c.build.assetPattern = "[path]/[name].[ext]"
  no_font : ∀ known ∈ c.build.copyExtensions,
    Text.asciiLowercase known ∉ Artifact.fontEndings
  apart : ∃ source output, after.placeOf c.build.sourceDir = .ok source ∧
    after.placeOf c.build.outputDir = .ok output ∧ Apart source output
  build_first : (Builder.ofConfig c).build fs 0 = (after, .ok first)
  build_second : ∃ again, (Builder.ofConfig c).build after 0 = (again, .ok second)
  ne : first ≠ second

/-- A link in the output folder leads to a folder that the build makes. -/
def linkedSite : FileSystem :=
  ⟨⟨[(["source"], .folder), (["source", "a"], .folder),
      (["source", "a", "x.png"], .file "x".toUTF8 0), (["source", "b"], .folder),
      (["source", "b", "y.png"], .file "y".toUTF8 0), (["public"], .folder),
      (["public", "a"], .link "b")]⟩, []⟩

def linkedOnce : FileSystem :=
  (linkedSite.setEntry ["public", "b"] .folder).setEntry ["public", "b", "y.png"]
    (.file "y".toUTF8 0)

def linkedTwice : FileSystem :=
  linkedOnce.setEntry ["public", "b", "x.png"] (.file "x".toUTF8 0)

def linkedFirst : Asset :=
  .ofLocation ⟨"a/x.png", "source/a/x.png", "public/a/x.png", "/a/x.png", 0⟩ true

def linkedSecond : Asset :=
  .ofLocation ⟨"b/y.png", "source/b/y.png", "public/b/y.png", "/b/y.png", 0⟩ true

/-- A file has an empty extension, and the name `[ext]..` of a folder on the way to it is filled in as
two dots, so that its page takes the place of the template. -/
def dottedConfig : Config :=
  { build := { contentExtensions := [""], useFileNames := true, templatesDir := "../tpl" } }

def dottedSite : FileSystem :=
  ⟨⟨[(["source"], .folder), (["source", "[ext].."], .folder),
      (["source", "[ext]..", "tpl"], .folder),
      (["source", "[ext]..", "tpl", "page."], .file "{@x /}".toUTF8 0), (["tpl"], .folder),
      (["tpl", "page.html"], .file "$node:body".toUTF8 0)]⟩, []⟩

def dottedMade : FileSystem := dottedSite.setEntry ["public"] .folder

def dottedOnce : FileSystem := dottedMade.setEntry ["tpl", "page.html"] (.file "{@x /}".toUTF8 0)

def dottedPage : Document :=
  .read "{@x /}" ⟨"[ext]../tpl/page.", "source/[ext]../tpl/page.", "public/../tpl/page.html",
    "/../tpl/page.html", 0⟩ Markdown.renderer

def dottedFailure : Failure :=
  ⟨"[ext]../tpl/page.", .render (.unknownTag "source/../tpl/page.html" ⟨0, 1, 1⟩ "x")⟩

/-- The templates are looked for in the output folder, where a page takes the place of one. -/
def mingledConfig : Config := { build := { useFileNames := true, templatesDir := "../public" } }

def mingledSite : FileSystem :=
  ⟨⟨[(["source"], .folder), (["source", "page.md"], .file "{@x /}".toUTF8 0),
      (["public"], .folder), (["public", "page.html"], .file "$node:body".toUTF8 0)]⟩, []⟩

def mingledOnce : FileSystem :=
  mingledSite.setEntry ["public", "page.html"] (.file "{@x /}".toUTF8 0)

def mingledPage : Document :=
  .read "{@x /}" ⟨"page.md", "source/page.md", "public/page.html", "/page.html", 0⟩
    Markdown.renderer

def mingledFailure : Failure :=
  ⟨"page.md", .render (.unknownTag "source/../public/page.html" ⟨0, 1, 1⟩ "x")⟩

/-- The way to the output folder leads through a folder that is not there, so that the artifact in
it is only found once this folder has been made. -/
def windingConfig : Config := { build := { outputDir := "x/../public" } }

def windingSite : FileSystem :=
  ⟨⟨[(["source"], .folder), (["source", "a.md"], .file "".toUTF8 0),
      (["source", "templates"], .folder),
      (["source", "templates", "page.html"], .file "{@css main /}".toUTF8 0),
      (["public"], .folder), (["public", "main.min.css"], .file "".toUTF8 0)]⟩, []⟩

def windingOnce : FileSystem := windingSite.setEntry ["x"] .folder

def windingStyle : String :=
  "<link rel=\"stylesheet\" id=\"main-min-css\" href=\"/main.min.css?v=0\">"

def windingTwice : FileSystem :=
  (windingOnce.setEntry ["public", "a"] .folder).setEntry ["public", "a", "index.html"]
    (.file windingStyle.toUTF8 0)

def windingPage : Document :=
  .read "" ⟨"a.md", "source/a.md", "x/../public/a/index.html", "/a/", 0⟩ Markdown.renderer

def windingFailure : Failure :=
  ⟨"a.md", .render (.unresolved "source/templates/page.html" ⟨0, 1, 1⟩ (.asset .css) "main")⟩

/-- Where the files of these sites go. -/
theorem locationOf_sites :
    (locationOf {} ⟨["a", "x.png"], 0⟩ =
        ⟨"a/x.png", "source/a/x.png", "public/a/x.png", "/a/x.png", 0⟩ ∧
      locationOf {} ⟨["b", "y.png"], 0⟩ =
        ⟨"b/y.png", "source/b/y.png", "public/b/y.png", "/b/y.png", 0⟩) ∧
    locationOf dottedConfig ⟨["[ext]..", "tpl", "page."], 0⟩ =
      ⟨"[ext]../tpl/page.", "source/[ext]../tpl/page.", "public/../tpl/page.html",
        "/../tpl/page.html", 0⟩ ∧
    locationOf mingledConfig ⟨["page.md"], 0⟩ =
      ⟨"page.md", "source/page.md", "public/page.html", "/page.html", 0⟩ ∧
    locationOf windingConfig ⟨["a.md"], 0⟩ =
      ⟨"a.md", "source/a.md", "x/../public/a/index.html", "/a/", 0⟩ := by
  decide +kernel

/-- What is read by the build of a site of one document and one template. -/
def pageContext (c : Config) (d : Document) (t : NamedTemplate) (artifacts : List Artifact) :
    Context :=
  ⟨c, ⟨[.document d]⟩, .add .empty t, .ofRecords artifacts, Markdown.renderer, 0⟩

/-- What the pages of these sites come to in the first build and in the second one. -/
theorem renderPage_sites :
    (renderPage (pageContext dottedConfig dottedPage
        ⟨"page", "source/../tpl/page.html", "$node:body"⟩ []) dottedPage = .ok "{@x /}" ∧
      renderPage (pageContext dottedConfig dottedPage
          ⟨"page", "source/../tpl/page.html", "{@x /}"⟩ []) dottedPage =
        .error (.unknownTag "source/../tpl/page.html" ⟨0, 1, 1⟩ "x")) ∧
    (renderPage (pageContext mingledConfig mingledPage
        ⟨"page", "source/../public/page.html", "$node:body"⟩ []) mingledPage = .ok "{@x /}" ∧
      renderPage (pageContext mingledConfig mingledPage
          ⟨"page", "source/../public/page.html", "{@x /}"⟩ []) mingledPage =
        .error (.unknownTag "source/../public/page.html" ⟨0, 1, 1⟩ "x")) ∧
    renderPage (pageContext windingConfig windingPage
        ⟨"page", "source/templates/page.html", "{@css main /}"⟩ []) windingPage =
      .error (.unresolved "source/templates/page.html" ⟨0, 1, 1⟩ (.asset .css) "main") ∧
    renderPage (pageContext windingConfig windingPage
        ⟨"page", "source/templates/page.html", "{@css main /}"⟩
        [⟨"main", .css, "main.min.css", "x/../public/main.min.css", 0⟩]) windingPage =
      .ok windingStyle := by
  decide +kernel

theorem collect_linked (hsource : fs.isFolder "source" = true)
    (hfiles : sourceFiles fs "source" ⟨⟨[]⟩, ⟨[]⟩, "templates"⟩ =
      [⟨["a", "x.png"], 0⟩, ⟨["b", "y.png"], 0⟩]) :
    collect fs {} Markdown.renderer = .ok ⟨[.asset linkedFirst, .asset linkedSecond]⟩ := by
  have hrules : IgnoreRules.ofConfig {} = .ok ⟨⟨[]⟩, ⟨[]⟩, "templates"⟩ := by cbv
  obtain ⟨⟨hx, hy⟩, -⟩ := locationOf_sites
  have hfirst : entryOf fs {} Markdown.renderer ⟨["a", "x.png"], 0⟩ = .ok (.asset linkedFirst) :=
    entryOf_asset fs _ (by decide) hx
  have hsecond : entryOf fs {} Markdown.renderer ⟨["b", "y.png"], 0⟩ = .ok (.asset linkedSecond) :=
    entryOf_asset fs _ (by decide) hy
  have hfolder : (Config.build {}).sourceDir = "source" := rfl
  rw [collect_eq hrules hsource, hfolder, hfiles, List.mapM_cons, hfirst, List.mapM_cons, hsecond]
  rfl

theorem build_linkedSite :
    (Builder.ofConfig {}).build linkedSite 0 =
      (linkedOnce, .ok ⟨0, 1, [⟨"a/x.png", .copy "source/a/x.png" "public/a/x.png" .exists⟩]⟩) := by
  have hcollect : collect linkedSite {} Markdown.renderer = .ok _ := collect_linked (by cbv) (by cbv)
  have hfolder : linkedSite.isFolder "source/templates" = false := by cbv
  have hmade : linkedSite.createFolders "public" = .ok linkedSite := by cbv
  have hparents : linkedSite.createParents "public/a/x.png" = .error .exists := by cbv
  have hfirst : copyAsset 0 linkedSite linkedFirst = (linkedSite, some _) :=
    copyAsset_of_error hparents
  have hsecond : copyAsset 0 linkedSite linkedSecond = (linkedOnce, none) :=
    copyAsset_of_copy (by cbv) (by cbv)
  have hcopies : forEach (copyAsset 0) linkedSite [linkedFirst, linkedSecond] =
      (linkedOnce, [⟨"a/x.png", .copy "source/a/x.png" "public/a/x.png" .exists⟩]) := by
    simp only [forEach, hfirst, hsecond]
    rfl
  exact build_of_assets [linkedFirst, linkedSecond] hcollect hfolder hmade hcopies rfl

theorem build_linkedOnce :
    (Builder.ofConfig {}).build linkedOnce 0 = (linkedTwice, .ok ⟨0, 2, []⟩) := by
  have hcollect : collect linkedOnce {} Markdown.renderer = .ok _ := collect_linked (by cbv) (by cbv)
  have hfolder : linkedOnce.isFolder "source/templates" = false := by cbv
  have hmade : linkedOnce.createFolders "public" = .ok linkedOnce := by cbv
  have hfirst : copyAsset 0 linkedOnce linkedFirst = (linkedTwice, none) :=
    copyAsset_of_copy (by cbv) (by cbv)
  have hsecond : copyAsset 0 linkedTwice linkedSecond = (linkedTwice, none) :=
    copyAsset_of_copy (by cbv) (by cbv)
  have hcopies : forEach (copyAsset 0) linkedOnce [linkedFirst, linkedSecond] =
      (linkedTwice, []) := by
    simp only [forEach, hfirst, hsecond]
    rfl
  exact build_of_assets [linkedFirst, linkedSecond] hcollect hfolder hmade hcopies rfl

theorem differs_linkedSite :
    Differs {} linkedSite linkedOnce
      ⟨0, 1, [⟨"a/x.png", .copy "source/a/x.png" "public/a/x.png" .exists⟩]⟩ ⟨0, 2, []⟩ where
  isTree := by decide
  pattern := rfl
  no_font := by decide
  apart := ⟨["source"], ["public"], by cbv, by cbv, by decide⟩
  build_first := build_linkedSite
  build_second := ⟨_, build_linkedOnce⟩
  ne := by decide

theorem collect_dotted (hsource : fs.isFolder "source" = true)
    (hfiles : sourceFiles fs "source" ⟨⟨[]⟩, ⟨[]⟩, "../tpl"⟩ =
      [⟨["[ext]..", "tpl", "page."], 0⟩])
    (hread : fs.read "source/[ext]../tpl/page." = .ok "{@x /}".toUTF8) :
    collect fs dottedConfig Markdown.renderer = .ok ⟨[.document dottedPage]⟩ := by
  have hrules : IgnoreRules.ofConfig dottedConfig = .ok ⟨⟨[]⟩, ⟨[]⟩, "../tpl"⟩ := by cbv
  obtain ⟨-, hlocation, -⟩ := locationOf_sites
  exact collect_of_page hrules hsource hfiles (by decide) hlocation (readText_of_read hread)

theorem build_dottedSite :
    (Builder.ofConfig dottedConfig).build dottedSite 0 = (dottedOnce, .ok ⟨1, 0, []⟩) := by
  have hcollect : collect dottedSite dottedConfig Markdown.renderer = .ok _ :=
    collect_dotted (by cbv) (by cbv) (by cbv)
  have htext : dottedSite.readText "source/../tpl/page.html" = .ok "$node:body" :=
    readText_of_read (by cbv)
  have htemplates : loadTemplates dottedSite "source/../tpl" = .ok _ :=
    loadTemplates_of_page (by cbv) (by cbv) (by decide) htext
  have houtput : dottedSite.isFolder "public" = false := by cbv
  have hmade : dottedSite.createFolders "public" = .ok dottedMade := by cbv
  have hpath : dottedPage.destPath = "public/../tpl/page.html" := rfl
  have hwrite : writeAt dottedMade "public/../tpl/page.html" "{@x /}" 0 = (dottedOnce, none) := by
    cbv
  obtain ⟨⟨hrender, -⟩, -⟩ := renderPage_sites
  exact build_of_page hcollect htemplates (scanArtifacts_of_missing houtput) hmade
    (writePage_of_ok rfl hrender (hpath ▸ hwrite))

theorem build_dottedOnce :
    (Builder.ofConfig dottedConfig).build dottedOnce 0 =
      (dottedOnce, .ok ⟨0, 0, [dottedFailure]⟩) := by
  have hcollect : collect dottedOnce dottedConfig Markdown.renderer = .ok _ :=
    collect_dotted (by cbv) (by cbv) (by cbv)
  have htext : dottedOnce.readText "source/../tpl/page.html" = .ok "{@x /}" :=
    readText_of_read (by cbv)
  have htemplates : loadTemplates dottedOnce "source/../tpl" = .ok _ :=
    loadTemplates_of_page (by cbv) (by cbv) (by decide) htext
  have houtput : dottedOnce.isFolder "public" = true := by cbv
  have hfiles : dottedOnce.filesBelow "public" (fun _ => true) = [] := by cbv
  have hmade : dottedOnce.createFolders "public" = .ok dottedOnce := by cbv
  obtain ⟨⟨-, hrender⟩, -⟩ := renderPage_sites
  exact build_of_page hcollect htemplates (scanArtifacts_of_files houtput hfiles rfl) hmade
    (writePage_of_error hrender)

theorem differs_dottedSite :
    Differs dottedConfig dottedSite dottedOnce ⟨1, 0, []⟩ ⟨0, 0, [dottedFailure]⟩ where
  isTree := by decide
  pattern := rfl
  no_font := by decide
  apart := ⟨["source"], ["public"], by cbv, by cbv, by decide⟩
  build_first := build_dottedSite
  build_second := ⟨_, build_dottedOnce⟩
  ne := by decide

theorem collect_mingled (hsource : fs.isFolder "source" = true)
    (hfiles : sourceFiles fs "source" ⟨⟨[]⟩, ⟨[]⟩, "../public"⟩ = [⟨["page.md"], 0⟩])
    (hread : fs.read "source/page.md" = .ok "{@x /}".toUTF8) :
    collect fs mingledConfig Markdown.renderer = .ok ⟨[.document mingledPage]⟩ := by
  have hrules : IgnoreRules.ofConfig mingledConfig = .ok ⟨⟨[]⟩, ⟨[]⟩, "../public"⟩ := by cbv
  obtain ⟨-, -, hlocation, -⟩ := locationOf_sites
  exact collect_of_page hrules hsource hfiles (by decide) hlocation (readText_of_read hread)

theorem build_mingledSite :
    (Builder.ofConfig mingledConfig).build mingledSite 0 = (mingledOnce, .ok ⟨1, 0, []⟩) := by
  have hcollect : collect mingledSite mingledConfig Markdown.renderer = .ok _ :=
    collect_mingled (by cbv) (by cbv) (by cbv)
  have htext : mingledSite.readText "source/../public/page.html" = .ok "$node:body" :=
    readText_of_read (by cbv)
  have htemplates : loadTemplates mingledSite "source/../public" = .ok _ :=
    loadTemplates_of_page (by cbv) (by cbv) (by decide) htext
  have houtput : mingledSite.isFolder "public" = true := by cbv
  have hfiles : mingledSite.filesBelow "public" (fun _ => true) = [⟨["page.html"], 0⟩] := by cbv
  have hartifacts : scanArtifacts mingledSite "public" = [] :=
    scanArtifacts_of_files houtput hfiles (by decide)
  have hmade : mingledSite.createFolders "public" = .ok mingledSite := by cbv
  have hpath : mingledPage.destPath = "public/page.html" := rfl
  have hwrite : writeAt mingledSite "public/page.html" "{@x /}" 0 = (mingledOnce, none) := by cbv
  obtain ⟨-, ⟨hrender, -⟩, -⟩ := renderPage_sites
  exact build_of_page hcollect htemplates hartifacts hmade
    (writePage_of_ok rfl hrender (hpath ▸ hwrite))

theorem build_mingledOnce :
    (Builder.ofConfig mingledConfig).build mingledOnce 0 =
      (mingledOnce, .ok ⟨0, 0, [mingledFailure]⟩) := by
  have hcollect : collect mingledOnce mingledConfig Markdown.renderer = .ok _ :=
    collect_mingled (by cbv) (by cbv) (by cbv)
  have htext : mingledOnce.readText "source/../public/page.html" = .ok "{@x /}" :=
    readText_of_read (by cbv)
  have htemplates : loadTemplates mingledOnce "source/../public" = .ok _ :=
    loadTemplates_of_page (by cbv) (by cbv) (by decide) htext
  have houtput : mingledOnce.isFolder "public" = true := by cbv
  have hfiles : mingledOnce.filesBelow "public" (fun _ => true) = [⟨["page.html"], 0⟩] := by cbv
  have hartifacts : scanArtifacts mingledOnce "public" = [] :=
    scanArtifacts_of_files houtput hfiles (by decide)
  have hmade : mingledOnce.createFolders "public" = .ok mingledOnce := by cbv
  obtain ⟨-, ⟨-, hrender⟩, -⟩ := renderPage_sites
  exact build_of_page hcollect htemplates hartifacts hmade (writePage_of_error hrender)

theorem differs_mingledSite :
    Differs mingledConfig mingledSite mingledOnce ⟨1, 0, []⟩ ⟨0, 0, [mingledFailure]⟩ where
  isTree := by decide
  pattern := rfl
  no_font := by decide
  apart := ⟨["source"], ["public"], by cbv, by cbv, by decide⟩
  build_first := build_mingledSite
  build_second := ⟨_, build_mingledOnce⟩
  ne := by decide

theorem collect_winding (hsource : fs.isFolder "source" = true)
    (hfiles : sourceFiles fs "source" ⟨⟨[]⟩, ⟨[]⟩, "templates"⟩ = [⟨["a.md"], 0⟩])
    (hread : fs.read "source/a.md" = .ok "".toUTF8) :
    collect fs windingConfig Markdown.renderer = .ok ⟨[.document windingPage]⟩ := by
  have hrules : IgnoreRules.ofConfig windingConfig = .ok ⟨⟨[]⟩, ⟨[]⟩, "templates"⟩ := by cbv
  obtain ⟨-, -, -, hlocation⟩ := locationOf_sites
  exact collect_of_page hrules hsource hfiles (by decide) hlocation (readText_of_read hread)

theorem build_windingSite :
    (Builder.ofConfig windingConfig).build windingSite 0 =
      (windingOnce, .ok ⟨0, 0, [windingFailure]⟩) := by
  have hcollect : collect windingSite windingConfig Markdown.renderer = .ok _ :=
    collect_winding (by cbv) (by cbv) (by cbv)
  have htext : windingSite.readText "source/templates/page.html" = .ok "{@css main /}" :=
    readText_of_read (by cbv)
  have htemplates : loadTemplates windingSite "source/templates" = .ok _ :=
    loadTemplates_of_page (by cbv) (by cbv) (by decide) htext
  have houtput : windingSite.isFolder "x/../public" = false := by cbv
  have hmade : windingSite.createFolders "x/../public" = .ok windingOnce := by cbv
  obtain ⟨-, -, hrender, -⟩ := renderPage_sites
  exact build_of_page hcollect htemplates (scanArtifacts_of_missing houtput) hmade
    (writePage_of_error hrender)

theorem build_windingOnce :
    (Builder.ofConfig windingConfig).build windingOnce 0 = (windingTwice, .ok ⟨1, 0, []⟩) := by
  have hcollect : collect windingOnce windingConfig Markdown.renderer = .ok _ :=
    collect_winding (by cbv) (by cbv) (by cbv)
  have htext : windingOnce.readText "source/templates/page.html" = .ok "{@css main /}" :=
    readText_of_read (by cbv)
  have htemplates : loadTemplates windingOnce "source/templates" = .ok _ :=
    loadTemplates_of_page (by cbv) (by cbv) (by decide) htext
  have houtput : windingOnce.isFolder "x/../public" = true := by cbv
  have hfiles : windingOnce.filesBelow "x/../public" (fun _ => true) =
      [⟨["main.min.css"], 0⟩] := by cbv
  have hartifacts : List.filterMap (artifactOf? "x/../public") [⟨["main.min.css"], 0⟩] =
      [⟨"main", .css, "main.min.css", "x/../public/main.min.css", 0⟩] := by decide
  have hmade : windingOnce.createFolders "x/../public" = .ok windingOnce := by cbv
  have hpath : windingPage.destPath = "x/../public/a/index.html" := rfl
  have hwrite : writeAt windingOnce "x/../public/a/index.html" windingStyle 0 =
      (windingTwice, none) := by cbv
  obtain ⟨-, -, -, hrender⟩ := renderPage_sites
  exact build_of_page hcollect htemplates (scanArtifacts_of_files houtput hfiles hartifacts) hmade
    (writePage_of_ok rfl hrender (hpath ▸ hwrite))

theorem differs_windingSite :
    Differs windingConfig windingSite windingOnce ⟨0, 0, [windingFailure]⟩ ⟨1, 0, []⟩ where
  isTree := by decide
  pattern := rfl
  no_font := by decide
  apart := ⟨["source"], ["public"], by cbv, by cbv, by decide⟩
  build_first := build_windingSite
  build_second := ⟨_, build_windingOnce⟩
  ne := by decide

end StaticSite.Build
