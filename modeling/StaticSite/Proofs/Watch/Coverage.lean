/-
Which files of a site are watched.

A pass reads the files that the walk of the source folder keeps, and the templates.  The watcher has
rules of its own for a changed path.  Main statement: a change of any file that the walk keeps is
noticed, and a change of a template is noticed just if its name is not hidden.  Hidden templates are
the one gap: they are loaded like others, see `hidden_template_not_watched`.

Source maps are left out on purpose; compilers write them.
-/
import Mathlib
import StaticSite.Proofs.Build.Walk
import StaticSite.Proofs.Ignore
import StaticSite.Watch.Change

namespace StaticSite.Watch

open Build

/-! ## What a pass reads -/

/-- The path, below the source folder, is that of a document or an asset. -/
def IsCollected (fs : FileSystem) (c : Config) (rules : IgnoreRules) (path : String) : Prop :=
  ∃ f ∈ sourceFiles fs c.build.sourceDir rules, f.path = path

/-- The path, below the source folder, is that of a file that is loaded as a template. -/
def IsTemplate (fs : FileSystem) (c : Config) (path : String) : Prop :=
  ∃ f ∈ filesOf fs c.templatesFolder, isTemplateFile f = true ∧
    Path.join c.build.templatesDir f.path = path

theorem isCollected_of_collect {fs : FileSystem} {c : Config} {rules : IgnoreRules}
    {renderer : Content.Renderer} {collection : Content.Collection} {entry : Content.Entry}
    (hrules : IgnoreRules.ofConfig c = .ok rules) (h : collect fs c renderer = .ok collection)
    (hentry : entry ∈ collection.entries) : IsCollected fs c rules entry.path := by
  have hpath : entry.path ∈ collection.entries.map Content.Entry.path :=
    List.mem_map_of_mem hentry
  rw [paths_of_collect hrules h] at hpath
  exact List.mem_map.mp hpath

/-! ## What is watched -/

/-- The rules of the watcher for a path made of names. -/
theorem scopeOfPath?_isSome (rules : IgnoreRules) {folders : Place} {name : String}
    (h : ∀ n ∈ folders ++ [name], Path.IsName n) :
    (scopeOfPath? rules ("/".intercalate (folders ++ [name]))).isSome = true ↔
      isHidden name = false ∧
        (rules.isWithinTemplates ("/".intercalate (folders ++ [name])) = true ∨
          rules.ignoresWithin ("/".intercalate (folders ++ [name])) = false ∧
            isMinified name = false ∧
            (Text.beforeSuffix? ".map".toList name.toList).isSome = false) := by
  have hplain := Path.isPlain_intercalate h (List.append_ne_nil_of_right_ne_nil _ (by simp))
  have hpath : ("/".intercalate (folders ++ [name])).isEmpty = false := by
    rw [Bool.eq_false_iff]
    exact fun hempty => hplain.toList_ne_nil (by rw [String.isEmpty_iff.mp hempty]; rfl)
  unfold scopeOfPath?
  rw [Path.lastPiece_intercalate folders (h name (by simp)), hpath]
  simp only [String.ofList_toList, Bool.false_or]
  -- the rest is a table of five truth values
  generalize "/".intercalate (folders ++ [name]) = path
  generalize (Text.beforeSuffix? ".map".toList name.toList).isSome = isMap
  cases isHidden name <;> cases rules.isWithinTemplates path <;>
    cases rules.ignoresWithin path <;> cases isMinified name <;> cases isMap <;> simp

/-- A change below the source folder is judged by its path from there. -/
theorem scope?_join (rules : IgnoreRules) (root : String) {names : Place}
    (h : ∀ n ∈ names, Path.IsName n) (hne : names ≠ []) {kind : ChangeKind}
    (hkind : kind ≠ .other) :
    Change.scope? ⟨kind, Path.join root ("/".intercalate names)⟩ rules root =
      scopeOfPath? rules ("/".intercalate names) := by
  rw [Change.scope?, Path.startsWith_join root h hne, Path.relativeTo_join root h hne]
  simp [hkind]

/-- A path that does not end in a text has no name that does. -/
theorem isSome_beforeSuffix?_eq_false {ending : List Char} {folders : Place} {name : String}
    (h : ¬ ending <:+ ("/".intercalate (folders ++ [name])).toList) :
    (Text.beforeSuffix? ending name.toList).isSome = false := by
  rw [Text.beforeSuffix?, List.isSome_isSuffixOf?_eq_isSuffixOf, Bool.eq_false_iff, ne_eq,
    List.isSuffixOf_iff_suffix]
  intro hname
  have hpath : name.toList <:+ ("/".intercalate (folders ++ [name])).toList := by
    by_cases hnil : folders = []
    · simp [hnil]
    · rw [String.intercalate_append_of_ne_nil hnil (List.cons_ne_nil _ _),
        String.intercalate_singleton, String.toList_append]
      exact List.suffix_append _ _
  exact h (hname.trans hpath)

/-- A file that the walk keeps is kept by the watcher. -/
theorem scopeOfPath?_of_mem_sourceFiles {fs : FileSystem} (hfs : fs.HasNames) {folder : String}
    {rules : IgnoreRules} {f : FileSystem.Found} (hf : f ∈ sourceFiles fs folder rules)
    (hmap : ¬ ".map".toList <:+ f.path.toList) : (scopeOfPath? rules f.path).isSome = true := by
  obtain ⟨hwalk, hminified⟩ := mem_sourceFiles.mp hf
  obtain ⟨hne, hnames⟩ := hfs.isName_of_mem_filesBelow hwalk
  obtain ⟨-, -, -, hkept⟩ := FileSystem.mem_filesBelow.mp hwalk
  obtain ⟨names, modified⟩ := f
  obtain ⟨folders, name, rfl⟩ := (List.eq_nil_or_concat' names).resolve_left hne
  rw [FileSystem.Found.name_concat] at hminified
  have hbeginnings : ∀ start ∈ FileSystem.beginnings (folders ++ [name]),
      rules.ignores ("/".intercalate start) = false := by
    intro start hstart
    simpa [pathOf] using hkept start hstart
  have hshown : isHidden name = false := by
    rw [Bool.eq_false_iff]
    intro hhidden
    have hself := hbeginnings _ (FileSystem.mem_beginnings_self hne)
    rw [rules.ignores_of_isHidden hnames hhidden] at hself
    cases hself
  have hwithin : rules.ignoresWithin ("/".intercalate (folders ++ [name])) = false := by
    rw [rules.ignoresWithin_intercalate hnames hne]
    exact List.any_eq_false.mpr fun start hstart => by simp [hbeginnings start hstart]
  exact (scopeOfPath?_isSome rules hnames).mpr
    ⟨hshown, .inr ⟨hwithin, hminified, isSome_beforeSuffix?_eq_false hmap⟩⟩

/-- A path in the templates folder is kept by the watcher just if its name is not hidden. -/
theorem scopeOfPath?_of_templates {rules : IgnoreRules} {dirs folders : Place} {name : String}
    (hdir : rules.templatesDir = "/".intercalate dirs) (hne : dirs ≠ [])
    (h : ∀ n ∈ dirs ++ (folders ++ [name]), Path.IsName n) :
    (scopeOfPath? rules ("/".intercalate (dirs ++ (folders ++ [name])))).isSome = true ↔
      isHidden name = false := by
  have hwithin :
      rules.isWithinTemplates ("/".intercalate (dirs ++ (folders ++ [name]))) = true := by
    have hplain := Path.isPlain_intercalate h (List.append_ne_nil_of_left_ne_nil hne _)
    rw [rules.isWithinTemplates_iff, hplain.trimChar, hdir,
      String.intercalate_append_of_ne_nil hne (by simp)]
    exact ⟨'/' :: ("/".intercalate (folders ++ [name])).toList, by simp, .inr ⟨_, rfl⟩⟩
  rw [← List.append_assoc] at hwithin h ⊢
  rw [scopeOfPath?_isSome rules h, hwithin]
  simp

/-- The path of a template is made of the names of the templates folder and of the file. -/
theorem IsTemplate.exists_names {fs : FileSystem} {c : Config} {path : String}
    (h : IsTemplate fs c path) (hfs : fs.HasNames) (hdir : Path.IsPlain c.build.templatesDir) :
    ∃ dirs folders name, dirs ≠ [] ∧ (∀ n ∈ dirs ++ (folders ++ [name]), Path.IsName n) ∧
      c.build.templatesDir = "/".intercalate dirs ∧
      path = "/".intercalate (dirs ++ (folders ++ [name])) := by
  obtain ⟨f, hf, -, rfl⟩ := h
  obtain ⟨hne, hnames⟩ := isName_of_mem_filesOf hfs hf
  obtain ⟨dirs, hdne, hdirs, hdirectory⟩ := hdir.exists_names
  obtain ⟨names, modified⟩ := f
  obtain ⟨folders, name, rfl⟩ := (List.eq_nil_or_concat' names).resolve_left hne
  refine ⟨dirs, folders, name, hdne, List.forall_mem_append.mpr ⟨hdirs, hnames⟩,
    hdirectory.symm, ?_⟩
  rw [← hdirectory]
  exact Path.join_intercalate hdirs hnames hdne hne

/-- Every file that a pass reads is watched: a change of a document or an asset belongs to some
scope, and a change of a template does just if its name is not hidden. -/
theorem scope?_of_input {fs : FileSystem} {c : Config} {rules : IgnoreRules} {kind : ChangeKind}
    (hfs : fs.HasNames) (hdir : Path.IsPlain c.build.templatesDir)
    (hrules : IgnoreRules.ofConfig c = .ok rules) (hkind : kind ≠ .other) (root path : String)
    (hmap : ¬ ".map".toList <:+ path.toList) :
    (IsCollected fs c rules path →
      (Change.scope? ⟨kind, Path.join root path⟩ rules root).isSome = true) ∧
    (IsTemplate fs c path →
      ((Change.scope? ⟨kind, Path.join root path⟩ rules root).isSome = true ↔
        isHidden (String.ofList (Text.lastPiece '/' path.toList)) = false)) := by
  constructor
  · rintro ⟨f, hf, rfl⟩
    obtain ⟨hwalk, -⟩ := mem_sourceFiles.mp hf
    obtain ⟨hne, hnames⟩ := hfs.isName_of_mem_filesBelow hwalk
    have hscope : Change.scope? ⟨kind, Path.join root f.path⟩ rules root =
        scopeOfPath? rules f.path := scope?_join rules root hnames hne hkind
    rw [hscope]
    exact scopeOfPath?_of_mem_sourceFiles hfs hf hmap
  · intro htemplate
    obtain ⟨dirs, folders, name, hdne, hall, hdirectory, rfl⟩ :=
      htemplate.exists_names hfs hdir
    have hrulesDir : rules.templatesDir = "/".intercalate dirs := by
      rw [IgnoreRules.templatesDir_of_ofConfig hrules, hdir.trimChar, String.ofList_toList,
        hdirectory]
    have hname : Text.lastPiece '/' ("/".intercalate (dirs ++ (folders ++ [name]))).toList =
        name.toList := by
      rw [← List.append_assoc]
      exact Path.lastPiece_intercalate _ (hall name (by simp))
    rw [scope?_join rules root hall (List.append_ne_nil_of_left_ne_nil hdne _) hkind, hname,
      String.ofList_toList]
    exact scopeOfPath?_of_templates hrulesDir hdne hall

/-- A site with a document and two templates, one of which has a hidden name. -/
def smallSite : FileSystem :=
  ⟨⟨[(["source"], .folder), (["source", "posts"], .folder), (["source", "templates"], .folder),
      (["source", "posts", "a.md"], .file ByteArray.empty 0),
      (["source", "templates", "card.html"], .file ByteArray.empty 0),
      (["source", "templates", "_card.html"], .file ByteArray.empty 0)]⟩, []⟩

/-- What is left out of it. -/
def smallRules : IgnoreRules := ⟨⟨[]⟩, ⟨[]⟩, "templates"⟩

theorem isCollected_smallSite : IsCollected smallSite {} smallRules "posts/a.md" := by
  have hlocate : smallSite.locate "source" = .ok ["source"] := by cbv
  have hfound : ⟨["posts", "a.md"], 0⟩ ∈
      smallSite.filesBelow "source" fun names => !smallRules.ignores (pathOf names) :=
    FileSystem.mem_filesBelow.mpr ⟨_, hlocate,
      ⟨(["source", "posts", "a.md"], .file ByteArray.empty 0), by decide, by rfl⟩, by decide⟩
  exact ⟨_, mem_sourceFiles.mpr ⟨hfound, by decide⟩, by decide⟩

theorem isTemplate_smallSite {name : String} (h : name = "card.html" ∨ name = "_card.html") :
    IsTemplate smallSite {} ("templates/" ++ name) := by
  have hlocate : smallSite.locate "source/templates" = .ok ["source", "templates"] := by cbv
  have hfolder : smallSite.isFolder "source/templates" = true := by cbv
  have hentry : (["source", "templates", name], .file ByteArray.empty 0) ∈
      smallSite.entries.entries := by
    rcases h with rfl | rfl <;> decide
  have hfound : ⟨[name], 0⟩ ∈ filesOf smallSite "source/templates" := by
    rw [filesOf, if_pos hfolder]
    exact FileSystem.mem_filesBelow.mpr ⟨_, hlocate, ⟨_, hentry, by rfl⟩, by simp⟩
  refine ⟨⟨[name], 0⟩, hfound, ?_⟩
  rcases h with rfl | rfl <;> decide

theorem scope?_of_input_smallSite :
    smallSite.HasNames ∧ Path.IsPlain "templates" ∧ IgnoreRules.ofConfig {} = .ok smallRules ∧
      IsCollected smallSite {} smallRules "posts/a.md" ∧
      IsTemplate smallSite {} "templates/card.html" ∧
      (Change.scope? ⟨.modified, Path.join "/site/source" "posts/a.md"⟩ smallRules
        "/site/source").isSome = true ∧
      ((Change.scope? ⟨.removed, Path.join "/site/source" "templates/card.html"⟩ smallRules
        "/site/source").isSome = true ↔
        isHidden (String.ofList (Text.lastPiece '/' "templates/card.html".toList)) = false) := by
  have hfs : smallSite.HasNames := by decide
  have hdir : Path.IsPlain "templates" := by decide
  have hrules : IgnoreRules.ofConfig {} = .ok smallRules := by cbv
  have htemplate : IsTemplate smallSite {} "templates/card.html" := isTemplate_smallSite (.inl rfl)
  exact ⟨hfs, hdir, hrules, isCollected_smallSite, htemplate,
    (scope?_of_input hfs hdir hrules (by decide) _ _ (by decide)).1 isCollected_smallSite,
    (scope?_of_input hfs hdir hrules (by decide) _ _ (by decide)).2 htemplate⟩

/-- A template with a hidden name is loaded but not watched. -/
theorem hidden_template_not_watched :
    smallSite.HasNames ∧ Path.IsPlain "templates" ∧ IgnoreRules.ofConfig {} = .ok smallRules ∧
      IsTemplate smallSite {} "templates/_card.html" ∧
      ¬ ".map".toList <:+ "templates/_card.html".toList ∧
      Change.scope? ⟨.modified, Path.join "/site/source" "templates/_card.html"⟩ smallRules
        "/site/source" = none := by
  have hrules : IgnoreRules.ofConfig {} = .ok smallRules := by cbv
  exact ⟨by decide, by decide, hrules, isTemplate_smallSite (.inr rfl), by decide, by decide⟩

end StaticSite.Watch
