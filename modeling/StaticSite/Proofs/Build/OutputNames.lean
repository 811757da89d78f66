/-
Where the outputs of a site go.

A file with an extension is told by its folders, its name and this extension (`Source`).  The output
of a document, and that of an asset that is copied, has the folders of its source and then the names
of a pattern, each filled in; below the output folder these are names of files again
(`isName_of_mem_namesWith`), unless an extension is empty, as `[ext]..` could be two dots then.

No output looks like an artifact: pages end with `.html`, and what is minified is not copied
(`classify_page`, `classify_copy`).  So a build does not change what the next one finds as artifacts.
-/
import StaticSite.Proofs.Build.Collection
import StaticSite.Proofs.Build.Outputs
import StaticSite.Proofs.Output.Filling

namespace StaticSite.Build

open StaticSite.Content StaticSite.Template StaticSite.Render

/-! ## The parts of a source path -/

/-- The folders, the name and the extension of a file. -/
structure Source where
  folders : Place
  name : String
  ending : String
  deriving Repr, DecidableEq

namespace Source

/-- The path that these parts make up. -/
def path (s : Source) : String := "/".intercalate (s.folders ++ [s.name ++ "." ++ s.ending])

/-- Parts of a path are names, and the extension follows the last dot. -/
structure IsValid (s : Source) : Prop where
  isName : ∀ n ∈ s.folders ++ [s.name ++ "." ++ s.ending], Path.IsName n
  has_letter : ∃ ch ∈ s.name.toList, ch ≠ '.'
  no_dot : '.' ∉ s.ending.toList

variable {s t : Source}

theorem IsValid.isName_folders (h : s.IsValid) : ∀ n ∈ s.folders, Path.IsName n := fun n hn =>
  h.isName n (List.mem_append_left _ hn)

theorem IsValid.no_slash (h : s.IsValid) : '/' ∉ s.name.toList ∧ '/' ∉ s.ending.toList := by
  have hfile := (h.isName (s.name ++ "." ++ s.ending) (by simp)).no_slash
  simp only [String.toList_append, List.mem_append, not_or] at hfile
  exact ⟨hfile.1.1, hfile.2⟩

theorem IsValid.name_ne (h : s.IsValid) : s.name ≠ "" := by
  obtain ⟨ch, hmem, -⟩ := h.has_letter
  exact fun hempty => List.ne_nil_of_mem hmem (String.toList_eq_nil_iff.mpr hempty)

theorem IsValid.isFilling_name (h : s.IsValid) : Output.IsFilling s.name :=
  ⟨h.no_slash.1, h.has_letter⟩

theorem IsValid.isFilling_ending (h : s.IsValid) (hne : s.ending ≠ "") :
    Output.IsFilling s.ending := by
  obtain ⟨ch, rest, hending⟩ := List.exists_cons_of_ne_nil
    fun hnil => hne (String.toList_eq_nil_iff.mp hnil)
  have hmem : ch ∈ s.ending.toList := hending ▸ List.mem_cons_self
  exact ⟨h.no_slash.2, ch, hmem, fun hdot => h.no_dot (hdot ▸ hmem)⟩

end Source

section Split

variable {folders : Place} {file name ending : String}

theorem splitFolder_intercalate (h : ∀ n ∈ folders ++ [file], Path.IsName n) :
    splitFolder ("/".intercalate (folders ++ [file])) = ("/".intercalate folders, file) := by
  have hfile := (h file (by simp)).no_slash
  by_cases hnil : folders = []
  · subst hnil
    have hcut : Text.splitLast '/' file.toList = none := by
      rw [Text.splitLast, Text.splitFirst_of_not_mem (by simpa using hfile)]
      rfl
    simp [splitFolder, hcut]
  · have hcut : Text.splitLast '/' ("/".intercalate (folders ++ [file])).toList =
        some (("/".intercalate folders).toList, file.toList) := by
      rw [String.intercalate_append_of_ne_nil hnil (List.cons_ne_nil _ _)]
      exact Text.splitLast_eq_some.mpr ⟨by simp, hfile⟩
    rw [splitFolder, hcut]
    simp only [String.ofList_toList]

theorem splitEnding_append (h : '.' ∉ ending.toList) :
    splitEnding (name ++ "." ++ ending) = (name, ending) := by
  have hcut : Text.splitLast '.' (name ++ "." ++ ending).toList =
      some (name.toList, ending.toList) := Text.splitLast_eq_some.mpr ⟨by simp, h⟩
  rw [splitEnding, hcut]
  simp only [String.ofList_toList]

end Split

/-! ## Patterns -/

namespace Source

variable {s : Source} {tail : Place}

/-- The names on the way to an output below the output folder, for a pattern that goes on with some
names after the folders. -/
def namesWith (tail : Place) (s : Source) : Place :=
  Output.filledNames s.name s.ending (s.folders ++ tail)

theorem apply_namesWith (hs : s.IsValid) (htail : Output.IsTail tail) :
    Output.apply (Output.pathPattern tail) ("/".intercalate s.folders) s.name s.ending =
      "/".intercalate (s.namesWith tail) :=
  Output.apply_pathPattern htail hs.isName_folders hs.no_slash.1 hs.no_slash.2

theorem isName_of_mem_pattern (hs : s.IsValid) (htail : Output.IsTail tail) {piece : String}
    (h : piece ∈ s.folders ++ tail) : Path.IsName piece :=
  (List.mem_append.mp h).elim (hs.isName_folders piece) (htail.isName piece)

theorem no_slash_of_mem_namesWith (hs : s.IsValid) (htail : Output.IsTail tail) {n : String}
    (hn : n ∈ s.namesWith tail) : '/' ∉ n.toList := by
  obtain ⟨-, piece, hpiece, rfl⟩ := Output.mem_filledNames.mp hn
  exact Output.not_mem_fillIn hs.no_slash.1 hs.no_slash.2
    (isName_of_mem_pattern hs htail hpiece).no_slash

theorem isName_of_mem_namesWith (hs : s.IsValid) (htail : Output.IsTail tail)
    (hending : s.ending ≠ "") : ∀ n ∈ s.namesWith tail, Path.IsName n := by
  intro n hn
  obtain ⟨-, piece, hpiece, rfl⟩ := Output.mem_filledNames.mp hn
  exact Output.isName_fillIn hs.isFilling_name (hs.isFilling_ending hending)
    (isName_of_mem_pattern hs htail hpiece)

theorem outputOf_source (hs : s.IsValid) (c : Config) {f : FileSystem.Found}
    (hf : f.path = s.path) :
    outputOf c f = Output.apply
      (if isDocument c f then Output.documentPattern c s.name else c.build.assetPattern)
      ("/".intercalate s.folders) s.name s.ending := by
  rw [outputOf, hf, path, splitFolder_intercalate hs.isName]
  dsimp only
  rw [splitEnding_append hs.no_dot]

end Source

/-! ## Outputs of documents -/

/-- The names that the pattern of a document has after the folders. -/
def documentTail (c : Config) (name : String) : Place :=
  if c.build.useFileNames || name == "index" then ["[name].html"] else ["[name]", "index.html"]

theorem isTail_document (c : Config) (name : String) : Output.IsTail (documentTail c name) := by
  unfold documentTail
  split
  · exact Output.isTail_file
  · exact Output.isTail_folder

theorem documentPattern_eq (c : Config) (name : String) :
    Output.documentPattern c name = Output.pathPattern (documentTail c name) := by
  unfold Output.documentPattern documentTail
  split
  · exact Output.filePattern_eq
  · exact Output.folderPattern_eq

namespace Source

variable {c : Config} {s : Source}

/-- The names on the way to the output of a document, below the output folder. -/
def outputNames (c : Config) (s : Source) : Place := s.namesWith (documentTail c s.name)

theorem outputOf_document (hs : s.IsValid) {f : FileSystem.Found} (hf : f.path = s.path)
    (hdocument : isDocument c f = true) : outputOf c f = "/".intercalate (s.outputNames c) := by
  rw [outputOf_source hs c hf, if_pos hdocument, documentPattern_eq]
  exact apply_namesWith hs (isTail_document c s.name)

theorem isName_of_mem_outputNames (c : Config) (hs : s.IsValid) (hending : s.ending ≠ "") :
    ∀ n ∈ s.outputNames c, Path.IsName n :=
  isName_of_mem_namesWith hs (isTail_document c s.name) hending

/-- The last name of an output is the name of a page. -/
theorem exists_outputNames (c : Config) (s : Source) :
    ∃ before name, s.outputNames c = before ++ [name ++ ".html"] := by
  unfold outputNames documentTail
  split
  · exact ⟨_, _, Output.filledNames_append_html s.name s.ending s.folders "[name]"⟩
  · have hindex := Output.filledNames_append_html s.name s.ending (s.folders ++ ["[name]"]) "index"
    rw [List.append_assoc] at hindex
    exact ⟨_, _, hindex⟩

end Source

/-! ## Documents of a collection -/

section Documents

variable {fs : FileSystem} {c : Config} {renderer : Renderer} {collection : Collection}
  {d d' : Document} {s t : Source}

theorem destPath_read (source : String) (location : Location) (renderer : Renderer) :
    (Document.read source location renderer).destPath = location.destPath := rfl

theorem url_read (source : String) (location : Location) (renderer : Renderer) :
    (Document.read source location renderer).url = location.url := rfl

theorem location_of_entryOf {f : FileSystem.Found}
    (h : entryOf fs c renderer f = .ok (.document d)) :
    isDocument c f = true ∧ d.destPath = Path.join c.build.outputDir (outputOf c f) ∧
      d.url = Output.urlOf c (outputOf c f) := by
  unfold entryOf at h
  split at h
  · rename_i hdocument
    obtain ⟨d', hd, heq⟩ := Outcome.map_eq_ok.mp h
    cases heq
    unfold readDocument at hd
    split at hd
    · rename_i source _
      cases hd
      rw [destPath_read, url_read, locationOf]
      exact ⟨hdocument, by dsimp only, by dsimp only⟩
    · cases hd
  · cases h

theorem exists_found (h : collect fs c renderer = .ok collection)
    (hd : d ∈ collection.documents) :
    ∃ rules f, IgnoreRules.ofConfig c = .ok rules ∧ f ∈ sourceFiles fs c.build.sourceDir rules ∧
      entryOf fs c renderer f = .ok (.document d) := by
  obtain ⟨rules, hrules, -, hentries⟩ := exists_of_collect h
  obtain ⟨f, hf, hread⟩ :=
    Outcome.exists_of_mem_mapM hentries (Collection.mem_documents.mp hd)
  exact ⟨rules, f, hrules, hf, hread⟩

/-- A file that belongs to the site is not hidden. -/
theorem isHidden_of_mem_sourceFiles (hfs : fs.IsTree) {source : String} {rules : IgnoreRules}
    {folders : Place} {name : String} {modified : Int}
    (h : ⟨folders ++ [name], modified⟩ ∈ sourceFiles fs source rules) : isHidden name = false := by
  obtain ⟨hne, hnames⟩ := isName_of_mem_sourceFiles hfs h
  obtain ⟨-, -, -, -, -, hkeep⟩ := hfs.mem_filesBelow.mp (mem_sourceFiles.mp h).1
  have hkept := hkeep _ (FileSystem.mem_beginnings_self hne)
  refine Bool.eq_false_iff.mpr fun hhidden => ?_
  rw [pathOf, rules.ignores_of_isHidden hnames hhidden] at hkept
  exact absurd hkept (by decide)

/-- Where no extension is empty, no file has an empty one. -/
theorem ne_empty_of_known {extensions : List String} {ending : String} (h : "" ∉ extensions)
    (hknown : ∃ known ∈ extensions, Text.asciiLowercase known = Text.asciiLowercase ending) :
    ending ≠ "" := by
  rintro rfl
  obtain ⟨known, hmem, hsame⟩ := hknown
  exact h (Text.eq_empty_of_asciiLowercase hsame ▸ hmem)

/-- A file with an extension, found in the source folder, has a name as well. -/
theorem exists_source_of_extension (hfs : fs.IsTree) {source : String} {rules : IgnoreRules}
    {f : FileSystem.Found} (hf : f ∈ sourceFiles fs source rules) {extensions : List String}
    (h : (Path.extension? f.path).any (fun ending => extensions.any fun known =>
      Text.equalIgnoringAsciiCase known ending) = true) :
    ∃ s : Source, s.IsValid ∧ f.names = s.folders ++ [s.name ++ "." ++ s.ending] ∧
      ∃ known ∈ extensions, Text.asciiLowercase known = Text.asciiLowercase s.ending := by
  obtain ⟨names, modified⟩ := f
  obtain ⟨hne, hnames⟩ := isName_of_mem_sourceFiles hfs hf
  obtain ⟨folders, file, rfl⟩ := (List.eq_nil_or_concat' names).resolve_left hne
  rw [Option.any_eq_true] at h
  obtain ⟨ending, hending, hknown⟩ := h
  rw [Path.extension?, FileSystem.Found.path, Path.fileName?_intercalate hnames] at hending
  obtain ⟨stem, hstem, rfl, hdot⟩ := Path.cutExtension_eq_some.mp hending
  obtain ⟨known, hmem, hsame⟩ := List.any_eq_true.mp hknown
  refine ⟨⟨folders, stem, ending⟩, ⟨hnames, ?_, hdot⟩, rfl, known, hmem, beq_iff_eq.mp hsame⟩
  -- a name that is not hidden does not begin with a dot
  have hshown := isHidden_of_mem_sourceFiles hfs hf
  obtain ⟨ch, rest, hstem⟩ := List.exists_cons_of_ne_nil
    fun hnil => hstem (String.toList_eq_nil_iff.mp hnil)
  refine ⟨ch, by simp [hstem], ?_⟩
  rintro rfl
  simp [isHidden, hstem] at hshown

/-- The path of a document has a name and an extension of documents. -/
theorem exists_source (hfs : fs.IsTree) (h : collect fs c renderer = .ok collection)
    (hd : d ∈ collection.documents) :
    ∃ s : Source, s.IsValid ∧ d.path = s.path ∧
      ∃ known ∈ c.build.contentExtensions,
        Text.asciiLowercase known = Text.asciiLowercase s.ending := by
  obtain ⟨rules, f, -, hf, hread⟩ := exists_found h hd
  obtain ⟨s, hs, hnames, hknown⟩ :=
    exists_source_of_extension hfs hf (location_of_entryOf hread).1
  have hpath : d.path = f.path := path_of_entryOf hread
  refine ⟨s, hs, ?_, hknown⟩
  rw [hpath, FileSystem.Found.path, hnames, Source.path]

theorem output_of_document (h : collect fs c renderer = .ok collection)
    (hd : d ∈ collection.documents) (hs : s.IsValid) (hpath : d.path = s.path) :
    d.destPath = Path.join c.build.outputDir ("/".intercalate (s.outputNames c)) ∧
      d.url = Output.urlOf c ("/".intercalate (s.outputNames c)) := by
  obtain ⟨rules, f, -, -, hread⟩ := exists_found h hd
  obtain ⟨hdocument, hdest, hurl⟩ := location_of_entryOf hread
  have houtput := s.outputOf_document hs ((path_of_entryOf hread).symm.trans hpath) hdocument
  exact ⟨houtput ▸ hdest, houtput ▸ hurl⟩

end Documents

/-! ## Names of artifacts -/

section Artifacts

variable {stem ending : String}

theorem beforeSuffix?_min (hdot : '.' ∉ ending.toList) {style : List Char} (hstyle : '.' ∉ style)
    (h : ending.toList = style → ¬ ".min".toList <:+ stem.toList) :
    Text.beforeSuffix? (".min".toList ++ '.' :: style) (stem ++ "." ++ ending).toList = none := by
  refine Option.eq_none_iff_forall_ne_some.mpr fun before hbefore => ?_
  have hname := List.append_eq_of_isSuffixOf?_eq_some hbefore
  -- both sides are cut at their last dot
  have hcut : Text.splitLast '.' (stem ++ "." ++ ending).toList =
      some (stem.toList, ending.toList) := Text.splitLast_eq_some.mpr ⟨by simp, hdot⟩
  rw [← hname, ← List.append_assoc, Text.splitLast_eq_some.mpr ⟨rfl, hstyle⟩, Option.some.injEq,
    Prod.mk.injEq] at hcut
  exact h hcut.2.symm ⟨before, hcut.1⟩

/-- A file is no artifact unless it is minified or a font. -/
theorem classify_eq_none (hdot : '.' ∉ ending.toList)
    (hcss : ending.toList = "css".toList → ¬ ".min".toList <:+ stem.toList)
    (hjs : ending.toList = "js".toList → ¬ ".min".toList <:+ stem.toList)
    (hfont : Text.asciiLowercase ending ∉ Artifact.fontEndings) :
    Artifact.classify (stem ++ "." ++ ending) = none := by
  have hcut : Text.splitLast '.' (stem ++ "." ++ ending).toList =
      some (stem.toList, ending.toList) := Text.splitLast_eq_some.mpr ⟨by simp, hdot⟩
  have hstyle : Text.beforeSuffix? ".min.css".toList (stem ++ "." ++ ending).toList = none :=
    beforeSuffix?_min hdot (by decide) hcss
  have hscript : Text.beforeSuffix? ".min.js".toList (stem ++ "." ++ ending).toList = none :=
    beforeSuffix?_min hdot (by decide) hjs
  unfold Artifact.classify
  dsimp only
  rw [hstyle, hscript]
  dsimp only
  rw [hcut]
  dsimp only
  rw [String.ofList_toList, if_neg (by simpa using hfont)]

theorem classify_page (name : String) : Artifact.classify (name ++ ".html") = none := by
  have hname : name ++ ".html" = name ++ "." ++ "html" := by
    rw [String.append_assoc]
    rfl
  rw [hname]
  exact classify_eq_none (by decide) (fun h => absurd h (by decide)) (fun h => absurd h (by decide))
    (by decide)

/-- A copy is no artifact if its source is not minified and it is no font. -/
theorem classify_copy {name : String} (hdot : '.' ∉ ending.toList)
    (hminified : ¬ ".min".toList <:+ name.toList)
    (hfont : Text.asciiLowercase ending ∉ Artifact.fontEndings) :
    Artifact.classify (Output.fillIn name ending "[name].[ext]") = none := by
  rw [Output.fillIn_name_ext]
  have hext : "[ext]".toList ≠ [] := by decide
  have hshown : (String.ofList (Output.replaceAll "[ext]".toList ending.toList
      name.toList)).toList = Output.replaceAll "[ext]".toList ending.toList name.toList :=
    String.toList_ofList
  have hkeeps : ∀ style : List Char, style ≠ [] → (∀ c ∈ style, c ∉ ".min".toList) →
      ending.toList = style → ¬ ".min".toList <:+
        (String.ofList (Output.replaceAll "[ext]".toList ending.toList name.toList)).toList := by
    intro style hne hapart hstyle
    rw [hshown, hstyle]
    exact fun h => hminified (Output.suffix_of_replaceAll hext hne hapart h)
  exact classify_eq_none hdot (hkeeps "css".toList (by decide) (by simp))
    (hkeeps "js".toList (by decide) (by simp)) hfont

end Artifacts

/-! ## Outputs of jobs -/

/-- The path that a job would write to. -/
def Job.destPath : Job → String
  | .page d => d.destPath
  | .copy a => a.destPath

/-- The output of a job has a name below the output folder, which is no name of an artifact. -/
structure Job.GoesTo (dir : String) (names : Place) (name : String) (job : Job) : Prop where
  destPath_eq : job.destPath = Path.join dir ("/".intercalate (names ++ [name]))
  isName : ∀ n ∈ names ++ [name], Path.IsName n
  not_artifact : Artifact.classify name = none

/-- Has a file an output: is it a document or an asset that is copied? -/
def HasOutput (c : Config) (f : FileSystem.Found) : Prop :=
  isDocument c f = true ∨ (Path.extension? f.path).any c.isCopiedExtension = true

/-- Assets are copied to where they are in the source folder, no font is copied, and every output
path is made of names. -/
structure HasPlainOutputs (c : Config) (fs : FileSystem) : Prop where
  pattern : c.build.assetPattern = "[path]/[name].[ext]"
  no_font : ∀ known ∈ c.build.copyExtensions,
    Text.asciiLowercase known ∉ Artifact.fontEndings
  plain : ∀ rules, IgnoreRules.ofConfig c = .ok rules →
    ∀ f ∈ sourceFiles fs c.build.sourceDir rules, HasOutput c f → Path.IsPlain (outputOf c f)

section Jobs

variable {fs : FileSystem} {c : Config} {renderer : Renderer} {collection : Collection}
  {f : FileSystem.Found} {s : Source}

theorem path_of_names (h : f.names = s.folders ++ [s.name ++ "." ++ s.ending]) :
    f.path = s.path := by
  rw [FileSystem.Found.path, h, Source.path]

theorem outputOf_copy (hs : s.IsValid) (hf : f.path = s.path) (hdocument : isDocument c f = false)
    (hpattern : c.build.assetPattern = "[path]/[name].[ext]") :
    outputOf c f = "/".intercalate (s.namesWith ["[name].[ext]"]) := by
  have htail : "[path]/[name].[ext]" = Output.pathPattern ["[name].[ext]"] := rfl
  rw [s.outputOf_source hs c hf, hdocument, if_neg Bool.false_ne_true, hpattern, htail]
  exact Source.apply_namesWith hs Output.isTail_asset

/-- The last name of a copy is that of its source with the extension filled in. -/
theorem Source.namesWith_copy :
    s.namesWith ["[name].[ext]"] = Output.filledNames s.name s.ending s.folders ++
      [Output.fillIn s.name s.ending "[name].[ext]"] := by
  have hname : Output.fillIn s.name s.ending "[name].[ext]" ≠ "" := by
    rw [Output.fillIn_name_ext]
    simp
  rw [Source.namesWith, Output.filledNames_append, Output.filledNames_singleton hname]

/-- Where no extension is empty, every output path is made of names. -/
theorem hasPlainOutputs_of_no_empty (hfs : fs.IsTree)
    (hpattern : c.build.assetPattern = "[path]/[name].[ext]")
    (hfont : ∀ known ∈ c.build.copyExtensions, Text.asciiLowercase known ∉ Artifact.fontEndings)
    (hcontent : "" ∉ c.build.contentExtensions) (hcopied : "" ∉ c.build.copyExtensions) :
    HasPlainOutputs c fs := by
  refine ⟨hpattern, hfont, fun rules _ f hf houtput => ?_⟩
  cases hdocument : isDocument c f with
  | true =>
      obtain ⟨s, hs, hnames, hknown⟩ := exists_source_of_extension hfs hf hdocument
      obtain ⟨before, name, hlast⟩ := s.exists_outputNames c
      rw [s.outputOf_document hs (path_of_names hnames) hdocument]
      exact Path.isPlain_intercalate
        (s.isName_of_mem_outputNames c hs (ne_empty_of_known hcontent hknown)) (by simp [hlast])
  | false =>
      have hcopy := houtput.resolve_left (by simp [hdocument])
      obtain ⟨s, hs, hnames, hknown⟩ := exists_source_of_extension hfs hf hcopy
      rw [outputOf_copy hs (path_of_names hnames) hdocument hpattern]
      exact Path.isPlain_intercalate (Source.isName_of_mem_namesWith hs Output.isTail_asset
        (ne_empty_of_known hcopied hknown)) (by simp [Source.namesWith_copy])

theorem goesTo_of_page (hfs : fs.IsTree) (hc : HasPlainOutputs c fs)
    (h : collect fs c renderer = .ok collection) {d : Document}
    (hd : d ∈ collection.documents) :
    ∃ names name, (Job.page d).GoesTo c.build.outputDir names name := by
  obtain ⟨rules, f, hrules, hf, hread⟩ := exists_found h hd
  obtain ⟨hdocument, hdest, -⟩ := location_of_entryOf hread
  obtain ⟨s, hs, hnames, -⟩ := exists_source_of_extension hfs hf hdocument
  obtain ⟨before, name, hlast⟩ := s.exists_outputNames c
  have houtput := s.outputOf_document hs (path_of_names hnames) hdocument
  have hnamed : ∀ n ∈ s.outputNames c, Path.IsName n := Path.isName_of_isPlain
    (fun _ => Source.no_slash_of_mem_namesWith hs (isTail_document c s.name)) (by simp [hlast])
    (houtput ▸ hc.plain rules hrules f hf (.inl hdocument))
  rw [hlast] at hnamed
  exact ⟨before, name ++ ".html", by rw [← hlast, ← houtput]; exact hdest, hnamed,
    classify_page name⟩

/-- The asset that a file is. -/
theorem asset_of_entryOf {a : Asset} (h : entryOf fs c renderer f = .ok (.asset a)) :
    isDocument c f = false ∧
      a = .ofLocation (locationOf c f) ((Path.extension? f.path).any c.isCopiedExtension) := by
  unfold entryOf at h
  split at h
  · obtain ⟨d, -, heq⟩ := Outcome.map_eq_ok.mp h
    cases heq
  · rename_i hdocument
    cases h
    exact ⟨by simpa using hdocument, rfl⟩

/-- A name that is not minified has no `.min` before its extension. -/
theorem not_minified (hs : s.IsValid) (h : isMinified (s.name ++ "." ++ s.ending) = false) :
    ¬ ".min".toList <:+ s.name.toList := by
  have hcut : Text.splitLast '.' (s.name ++ "." ++ s.ending).toList =
      some (s.name.toList, s.ending.toList) := Text.splitLast_eq_some.mpr ⟨by simp, hs.no_dot⟩
  rintro ⟨before, hbefore⟩
  rw [isMinified, hcut, Bool.eq_false_iff] at h
  have hmin : Text.beforeSuffix? ".min".toList s.name.toList = some before :=
    List.isSuffixOf?_eq_some_iff_append_eq.mpr hbefore
  exact h (Option.isSome_of_eq_some hmin)

theorem goesTo_of_copy (hfs : fs.IsTree) (hc : HasPlainOutputs c fs)
    (h : collect fs c renderer = .ok collection) {a : Asset} (ha : a ∈ copiedAssets collection) :
    ∃ names name, (Job.copy a).GoesTo c.build.outputDir names name := by
  obtain ⟨hasset, hcopied⟩ := List.mem_filter.mp ha
  obtain ⟨rules, hrules, -, hentries⟩ := exists_of_collect h
  obtain ⟨f, hf, hread⟩ := Outcome.exists_of_mem_mapM hentries (Collection.mem_assets.mp hasset)
  obtain ⟨hdocument, rfl⟩ := asset_of_entryOf hread
  obtain ⟨s, hs, hnames, known, hmem, hsame⟩ := exists_source_of_extension hfs hf hcopied
  have houtput := outputOf_copy hs (path_of_names hnames) hdocument hc.pattern
  have hnamed := Path.isName_of_isPlain
    (fun _ => Source.no_slash_of_mem_namesWith hs Output.isTail_asset)
    (by simp [Source.namesWith_copy]) (houtput ▸ hc.plain rules hrules f hf (.inr hcopied))
  have hfile := (mem_sourceFiles.mp hf).2
  rw [FileSystem.Found.name, hnames, List.getLast?_concat] at hfile
  refine ⟨_, _, ?_, s.namesWith_copy ▸ hnamed, classify_copy hs.no_dot (not_minified hs hfile) ?_⟩
  · rw [← s.namesWith_copy, ← houtput, Job.destPath, Asset.ofLocation, locationOf]
  · rw [← hsame]
    exact hc.no_font known hmem

/-- The output of each job has a name below the output folder. -/
theorem goesTo_of_mem_jobsOf (hfs : fs.IsTree) (hc : HasPlainOutputs c fs)
    (h : collect fs c renderer = .ok collection) {job : Job} (hjob : job ∈ jobsOf collection) :
    ∃ names name, job.GoesTo c.build.outputDir names name := by
  rcases List.mem_append.mp hjob with hpage | hcopy
  · obtain ⟨d, hd, rfl⟩ := List.mem_map.mp hpage
    exact goesTo_of_page hfs hc h hd
  · obtain ⟨a, ha, rfl⟩ := List.mem_map.mp hcopy
    exact goesTo_of_copy hfs hc h ha

end Jobs

end StaticSite.Build
