/-
What a collection consists of.

A walk leaves out whole folders, while the rules for a path look at all its beginnings; what is
collected are the files that the rules for paths keep (`mem_collect_iff`).
-/
import Mathlib
import StaticSite.Markdown.Renderer
import StaticSite.Proofs.Build.Walk
import StaticSite.Proofs.Text.Order

namespace StaticSite

/-! ## The order of a walk -/

namespace FileSystem

variable {fs : FileSystem} {path : String} {keep : Place → Bool}

/-- Is the first place before the second one, name by name in the order of their bytes? -/
def Precedes (place place' : Place) : Prop :=
  List.Lex (fun name name' => Text.bytes name < Text.bytes name') place place'

theorem precedes_iff {place place' : Place} : Precedes place place' ↔ place < place' := by
  unfold Precedes
  simp only [Text.bytes_lt_bytes]
  rfl

theorem inOrder_iff {place place' : Place} : inOrder place place' = true ↔ place ≤ place' := by
  rw [inOrder, Bool.not_eq_true', ← Bool.not_eq_true, List.lex_eq_true_iff_lex, ← not_lt]
  simp only [decide_eq_true_eq]
  rfl

/-- A walk sees each file once. -/
theorem pairwise_names_ne (h : fs.entries.keys.Nodup) (folder : Place) :
    (fs.entries.entries.filterMap (foundBelow? folder)).Pairwise fun f g => f.names ≠ g.names := by
  refine List.pairwise_filterMap.mpr ((List.pairwise_map.mp h).imp fun hne f hf g hg heq => hne ?_)
  rw [(foundBelow?_eq_some.mp hf).2.1, (foundBelow?_eq_some.mp hg).2.1, heq]

theorem pairwise_sorted (found : List Found) :
    (found.mergeSort fun f g => inOrder f.names g.names).Pairwise fun f g =>
      inOrder f.names g.names = true := by
  apply List.pairwise_mergeSort
  · intro f g h hfg hgh
    exact inOrder_iff.mpr ((inOrder_iff.mp hfg).trans (inOrder_iff.mp hgh))
  · intro f g
    rw [Bool.or_eq_true, inOrder_iff, inOrder_iff]
    exact le_total f.names g.names

/-- A walk gives its files in the order of the names on the way to them. -/
theorem pairwise_filesBelow (h : fs.entries.keys.Nodup) (path : String) (keep : Place → Bool) :
    (fs.filesBelow path keep).Pairwise fun f g => Precedes f.names g.names := by
  unfold filesBelow
  split
  · exact .nil
  · rename_i folder hfolder
    dsimp only
    have hne := ((pairwise_names_ne h folder).filter fun f => (beginnings f.names).all keep)
    generalize (fs.entries.entries.filterMap (foundBelow? folder)).filter _ = found at hne
    have hsorted_ne := ((List.mergeSort_perm found fun f g => inOrder f.names g.names).pairwise_iff
      fun hfg => Ne.symm hfg).mpr hne
    exact ((pairwise_sorted found).and hsorted_ne).imp fun ⟨hle, hne⟩ =>
      precedes_iff.mpr (lt_of_le_of_ne (inOrder_iff.mp hle) hne)

end FileSystem

/-! ## What is collected -/

namespace Build

open Content

/-- The names in a path. -/
def namesOf (path : String) : Place := (Text.splitOn '/' path.toList).map String.ofList

theorem namesOf_intercalate {names : Place} (h : ∀ n ∈ names, Path.IsName n) (hne : names ≠ []) :
    namesOf ("/".intercalate names) = names := by
  rw [namesOf, Path.splitOn_intercalate h hne, List.map_map]
  simp [Function.comp_def]

/-- Is there a file at a path below the folder that belongs to the site? -/
def IsKept (fs : FileSystem) (rules : IgnoreRules) (folder : Place) (path : String) : Prop :=
  ∃ folders name content modified,
    fs.get? (folder ++ (folders ++ [name])) = some (.file content modified) ∧
      path = "/".intercalate (folders ++ [name]) ∧ rules.ignoresWithin path = false ∧
      isMinified name = false

/-- Is the file a document by its name?  Letters may be large or small. -/
def IsDocumentName (c : Config) (name : String) : Prop :=
  ∃ stem ending, stem ≠ "" ∧ name = stem ++ "." ++ ending ∧ '.' ∉ ending.toList ∧
    ∃ known ∈ c.build.contentExtensions,
      Text.asciiLowercase known = Text.asciiLowercase ending

variable {fs : FileSystem} {c : Config} {rules : IgnoreRules} {renderer : Renderer}
  {collection : Collection}

theorem ignoresWithin_eq_false {names : Place} (h : ∀ n ∈ names, Path.IsName n)
    (hne : names ≠ []) :
    rules.ignoresWithin ("/".intercalate names) = false ↔
      ∀ start ∈ FileSystem.beginnings names, (!rules.ignores (pathOf start)) = true := by
  rw [rules.ignoresWithin_intercalate h hne, List.any_eq_false]
  simp [pathOf]

/-- The walk finds the files that the rules for paths keep. -/
theorem mem_paths_sourceFiles (hfs : fs.IsTree) {source path : String} {folder : Place}
    (hlocate : fs.locate source = .ok folder) :
    path ∈ (sourceFiles fs source rules).map FileSystem.Found.path ↔
      IsKept fs rules folder path := by
  constructor
  · intro h
    obtain ⟨⟨names, modified⟩, hf, rfl⟩ := List.mem_map.mp h
    obtain ⟨hbelow, hminified⟩ := mem_sourceFiles.mp hf
    obtain ⟨folder', content, hlocate', hne, hfile, hkeep⟩ := hfs.mem_filesBelow.mp hbelow
    cases hlocate.symm.trans hlocate'
    obtain ⟨-, hnames⟩ := hfs.hasNames.isName_of_mem_filesBelow hbelow
    obtain ⟨folders, name, rfl⟩ := (List.eq_nil_or_concat' names).resolve_left hne
    rw [FileSystem.Found.name_concat] at hminified
    exact ⟨folders, name, content, modified, hfile, rfl,
      (ignoresWithin_eq_false hnames hne).mpr hkeep, hminified⟩
  · rintro ⟨folders, name, content, modified, hfile, rfl, hkept, hminified⟩
    have hne : folders ++ [name] ≠ [] := by simp
    have hnames : ∀ n ∈ folders ++ [name], Path.IsName n := fun n hn =>
      hfs.isName_of_get?_eq_some hfile n (List.mem_append_right _ hn)
    refine List.mem_map.mpr ⟨⟨folders ++ [name], modified⟩, mem_sourceFiles.mpr ⟨?_, ?_⟩, rfl⟩
    · exact hfs.mem_filesBelow.mpr ⟨folder, content, hlocate, hne, hfile,
        (ignoresWithin_eq_false hnames hne).mp hkept⟩
    · rwa [FileSystem.Found.name_concat]

theorem isName_of_mem_sourceFiles (hfs : fs.IsTree) {source : String} {f : FileSystem.Found}
    (h : f ∈ sourceFiles fs source rules) : f.names ≠ [] ∧ ∀ n ∈ f.names, Path.IsName n :=
  hfs.hasNames.isName_of_mem_filesBelow (mem_sourceFiles.mp h).1

/-- The walk finds files in the order of the names in their paths. -/
theorem pairwise_sourceFiles (hfs : fs.IsTree) (source : String) (rules : IgnoreRules) :
    ((sourceFiles fs source rules).map FileSystem.Found.path).Pairwise fun path path' =>
      FileSystem.Precedes (namesOf path) (namesOf path') := by
  have hsorted : (sourceFiles fs source rules).Pairwise fun f g =>
      FileSystem.Precedes f.names g.names :=
    (FileSystem.pairwise_filesBelow hfs.nodup source _).filter _
  refine List.pairwise_map.mpr (hsorted.imp_of_mem fun {f g} hf hg hlt => ?_)
  obtain ⟨hfne, hfnames⟩ := isName_of_mem_sourceFiles hfs hf
  obtain ⟨hgne, hgnames⟩ := isName_of_mem_sourceFiles hfs hg
  rwa [FileSystem.Found.path, FileSystem.Found.path, namesOf_intercalate hfnames hfne,
    namesOf_intercalate hgnames hgne]

theorem isDocument_iff {names : Place} {name : String} {modified : Int}
    (h : ∀ n ∈ names ++ [name], Path.IsName n) :
    isDocument c ⟨names ++ [name], modified⟩ = true ↔ IsDocumentName c name := by
  have hending : Path.extension? (FileSystem.Found.path ⟨names ++ [name], modified⟩) =
      (Path.cutExtension name).2 := by
    rw [Path.extension?, FileSystem.Found.path, Path.fileName?_intercalate h]
    rfl
  rw [isDocument, hending, Option.any_eq_true]
  constructor
  · rintro ⟨ending, hcut, hknown⟩
    obtain ⟨stem, hstem, hname, hdot⟩ := Path.cutExtension_eq_some.mp hcut
    obtain ⟨known, hmem, hsame⟩ := List.any_eq_true.mp hknown
    exact ⟨stem, ending, hstem, hname, hdot, known, hmem, beq_iff_eq.mp hsame⟩
  · rintro ⟨stem, ending, hstem, hname, hdot, known, hmem, hsame⟩
    exact ⟨ending, Path.cutExtension_eq_some.mpr ⟨stem, hstem, hname, hdot⟩,
      List.any_eq_true.mpr ⟨known, hmem, beq_iff_eq.mpr hsame⟩⟩

theorem isAsset_of_entryOf {f : FileSystem.Found} {entry : Entry}
    (h : entryOf fs c renderer f = .ok entry) : entry.isAsset = !isDocument c f := by
  unfold entryOf at h
  split at h
  · rename_i hdocument
    obtain ⟨d, -, rfl⟩ := Outcome.map_eq_ok.mp h
    rw [hdocument]
    rfl
  · rename_i hdocument
    cases h
    rw [Bool.not_eq_true] at hdocument
    rw [hdocument]
    rfl

/-- What is collected is at the paths of files that the rules for paths keep, in the order of the
bytes of the names in them, each once; and documents are told by their extensions. -/
theorem collection_of_collect (hfs : fs.IsTree) (hrules : IgnoreRules.ofConfig c = .ok rules)
    (h : collect fs c renderer = .ok collection) :
    ∃ folder, fs.locate c.build.sourceDir = .ok folder ∧ fs.get? folder = some .folder ∧
      (∀ path, path ∈ collection.entries.map Entry.path ↔ IsKept fs rules folder path) ∧
      (collection.entries.map Entry.path).Nodup ∧
      ((collection.entries.map Entry.path).Pairwise fun path path' =>
        FileSystem.Precedes (namesOf path) (namesOf path')) ∧
      ∀ entry ∈ collection.entries, ∃ name, (namesOf entry.path).getLast? = some name ∧
        (entry.isAsset = false ↔ IsDocumentName c name) := by
  obtain ⟨rules', hrules', hfolder, hentries⟩ := exists_of_collect h
  cases hrules.symm.trans hrules'
  obtain ⟨folder, hlocate, hthere⟩ := FileSystem.isFolder_eq_true.mp hfolder
  have hsorted := pairwise_sourceFiles hfs c.build.sourceDir rules
  rw [paths_of_collect hrules h]
  refine ⟨folder, hlocate, hthere, fun path => mem_paths_sourceFiles hfs hlocate, ?_, hsorted,
    fun entry hentry => ?_⟩
  · refine hsorted.imp fun hlt heq => ?_
    rw [heq] at hlt
    exact lt_irrefl _ (FileSystem.precedes_iff.mp hlt)
  · obtain ⟨⟨names, modified⟩, hf, hread⟩ := Outcome.exists_of_mem_mapM hentries hentry
    obtain ⟨hne, hnames⟩ := isName_of_mem_sourceFiles hfs hf
    obtain ⟨folders, name, rfl⟩ := (List.eq_nil_or_concat' names).resolve_left hne
    refine ⟨name, ?_, ?_⟩
    · rw [path_of_entryOf hread, FileSystem.Found.path, namesOf_intercalate hnames hne,
        List.getLast?_concat]
    · rw [isAsset_of_entryOf hread, Bool.not_eq_false', isDocument_iff hnames]

/-- A post, next to a folder whose name its own begins with, and files that are left out. -/
def layeredSite : FileSystem :=
  ⟨⟨[(["source"], .folder), (["source", "a.MD"], .file ByteArray.empty 0),
      (["source", "a"], .folder), (["source", "a", "b.png"], .file ByteArray.empty 0),
      (["source", "_d"], .folder), (["source", "_d", "c.md"], .file ByteArray.empty 0),
      (["source", "e.min.css"], .file ByteArray.empty 0)]⟩, []⟩

def layeredRules : IgnoreRules := ⟨⟨[]⟩, ⟨[]⟩, "templates"⟩

def layeredImage : Asset :=
  .ofLocation ⟨"a/b.png", "source/a/b.png", "public/a/b.png", "/a/b.png", 0⟩ true

def layeredPost : Document :=
  .read "" ⟨"a.MD", "source/a.MD", "public/a/index.html", "/a/", 0⟩ Markdown.renderer

/-- What is collected from this site, whatever its entries are read as. -/
theorem collect_of_layered {c : Config} {image post : Entry}
    (hrules : IgnoreRules.ofConfig c = .ok layeredRules) (hsource : c.build.sourceDir = "source")
    (himage : entryOf layeredSite c Markdown.renderer ⟨["a", "b.png"], 0⟩ = .ok image)
    (hpost : entryOf layeredSite c Markdown.renderer ⟨["a.MD"], 0⟩ = .ok post) :
    collect layeredSite c Markdown.renderer = .ok ⟨[image, post]⟩ := by
  have hfolder : layeredSite.isFolder "source" = true := by cbv
  have hfiles : sourceFiles layeredSite "source" layeredRules =
      [⟨["a", "b.png"], 0⟩, ⟨["a.MD"], 0⟩] := by cbv
  rw [← hsource] at hfolder
  rw [collect_eq hrules hfolder, hsource, hfiles, List.mapM_cons, himage, List.mapM_cons, hpost]
  rfl

theorem collect_layeredSite :
    collect layeredSite {} Markdown.renderer =
      .ok ⟨[.asset layeredImage, .document layeredPost]⟩ :=
  collect_of_layered (by cbv) rfl (entryOf_asset layeredSite _ (by decide) (by decide +kernel))
    (entryOf_document _ (by decide) (by decide +kernel) (by cbv))

theorem collection_of_collect_layeredSite :
    layeredSite.IsTree ∧ IgnoreRules.ofConfig {} = .ok layeredRules ∧
      collect layeredSite {} Markdown.renderer =
        .ok ⟨[.asset layeredImage, .document layeredPost]⟩ ∧
      IsKept layeredSite layeredRules ["source"] "a/b.png" ∧
      ¬ IsKept layeredSite layeredRules ["source"] "_d/c.md" ∧
      FileSystem.Precedes (namesOf "a/b.png") (namesOf "a.MD") ∧ IsDocumentName {} "a.MD" := by
  have htree : layeredSite.IsTree := by decide
  have hrules : IgnoreRules.ofConfig {} = .ok layeredRules := by cbv
  have hlocate : layeredSite.locate "source" = .ok ["source"] := by cbv
  obtain ⟨folder, hfolder, -, hkept, -, hsorted, hentries⟩ :=
    collection_of_collect htree hrules collect_layeredSite
  cases hlocate.symm.trans hfolder
  have hpaths : [Entry.asset layeredImage, .document layeredPost].map Entry.path =
      ["a/b.png", "a.MD"] := rfl
  rw [hpaths] at hkept hsorted
  obtain ⟨name, hname, hdocument⟩ := hentries (.document layeredPost) (by simp)
  have hlast : (namesOf "a.MD").getLast? = some "a.MD" := by decide
  cases hlast.symm.trans hname
  exact ⟨htree, hrules, collect_layeredSite, (hkept _).mp (by simp),
    fun h => absurd ((hkept _).mpr h) (by decide), List.rel_of_pairwise_cons hsorted (by simp),
    hdocument.mp rfl⟩

end Build

end StaticSite
