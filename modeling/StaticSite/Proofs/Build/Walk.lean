/-
What a walk through a folder finds and what is left out of it.

A walk does not enter a folder that is left out, while the rules for a path look at all its
beginnings.  Both come to the same: by `ignoresWithin_intercalate` a path is left out just if the
walk stops at one of its beginnings.
-/
import StaticSite.Build.Collect
import StaticSite.Build.Scan
import StaticSite.Proofs.FileSystem.Tree

namespace StaticSite

/-! ## Walks -/

namespace FileSystem

theorem foundBelow?_eq_some {folder : Place} {entry : Place × FileEntry} {f : Found} :
    foundBelow? folder entry = some f ↔
      f.names ≠ [] ∧ entry.1 = folder ++ f.names ∧
        ∃ content, entry.2 = .file content f.modified := by
  obtain ⟨place, e⟩ := entry
  cases e with
  | folder => simp [foundBelow?]
  | link target => simp [foundBelow?]
  | file content modified =>
      cases hrest : List.isPrefixOf? folder place with
      | none =>
          simp only [foundBelow?, hrest, reduceCtorEq, false_iff]
          rintro ⟨-, rfl, -⟩
          rw [List.isPrefixOf?_eq_some_iff_append_eq.mpr rfl] at hrest
          cases hrest
      | some rest =>
          have hplace := List.append_eq_of_isPrefixOf?_eq_some hrest
          subst hplace
          cases rest with
          | nil =>
              simp only [foundBelow?, hrest, reduceCtorEq, false_iff]
              rintro ⟨hne, hplace, -⟩
              exact hne (List.append_cancel_left hplace).symm
          | cons name names =>
              simp only [foundBelow?, hrest, Option.some.injEq]
              constructor
              · rintro rfl
                exact ⟨List.cons_ne_nil _ _, rfl, content, rfl⟩
              · rintro ⟨-, hplace, other, hfile⟩
                cases f
                cases List.append_cancel_left hplace
                cases hfile
                rfl

theorem mem_filesBelow {fs : FileSystem} {path : String} {keep : Place → Bool} {f : Found} :
    f ∈ fs.filesBelow path keep ↔
      ∃ folder, fs.locate path = .ok folder ∧
        (∃ entry ∈ fs.entries.entries, foundBelow? folder entry = some f) ∧
        ∀ start ∈ beginnings f.names, keep start = true := by
  unfold filesBelow
  cases fs.locate path with
  | error e => simp
  | ok folder => simp [List.mem_mergeSort]

/-- In a tree, what a walk finds are the files at places below the folder. -/
theorem IsTree.mem_filesBelow {fs : FileSystem} (hfs : fs.IsTree) {path : String}
    {keep : Place → Bool} {f : Found} :
    f ∈ fs.filesBelow path keep ↔
      ∃ folder content, fs.locate path = .ok folder ∧ f.names ≠ [] ∧
        fs.get? (folder ++ f.names) = some (.file content f.modified) ∧
        ∀ start ∈ beginnings f.names, keep start = true := by
  rw [FileSystem.mem_filesBelow]
  constructor
  · rintro ⟨folder, hlocate, ⟨⟨place, e⟩, hentry, hfound⟩, hkeep⟩
    obtain ⟨hne, rfl, content, rfl⟩ := foundBelow?_eq_some.mp hfound
    exact ⟨folder, content, hlocate, hne,
      (hfs.get?_eq_some_iff (List.append_ne_nil_of_right_ne_nil _ hne)).mpr hentry, hkeep⟩
  · rintro ⟨folder, content, hlocate, hne, hfile, hkeep⟩
    exact ⟨folder, hlocate, ⟨_, (hfs.get?_eq_some_iff
      (List.append_ne_nil_of_right_ne_nil _ hne)).mp hfile,
      foundBelow?_eq_some.mpr ⟨hne, rfl, content, rfl⟩⟩, hkeep⟩

theorem HasNames.isName_of_mem_filesBelow {fs : FileSystem} (h : fs.HasNames) {path : String}
    {keep : Place → Bool} {f : Found} (hf : f ∈ fs.filesBelow path keep) :
    f.names ≠ [] ∧ ∀ name ∈ f.names, Path.IsName name := by
  obtain ⟨folder, -, ⟨entry, hentry, hfound⟩, -⟩ := mem_filesBelow.mp hf
  obtain ⟨hne, hplace, -⟩ := foundBelow?_eq_some.mp hfound
  refine ⟨hne, fun name hname => h entry hentry name ?_⟩
  rw [hplace]
  exact List.mem_append_right folder hname

theorem Found.name_concat (folders : Place) (name : String) (modified : Int) :
    Found.name ⟨folders ++ [name], modified⟩ = name := by
  simp [Found.name]

theorem beginnings_cons (name : String) (names : Place) :
    beginnings (name :: names) = [name] :: (beginnings names).map (name :: ·) := by
  simp [beginnings, List.range_succ_eq_map, Function.comp_def]

theorem ne_nil_of_mem_beginnings {names start : Place} (h : start ∈ beginnings names) :
    start ≠ [] := by
  cases names with
  | nil => simp [beginnings] at h
  | cons name names =>
      rw [beginnings_cons] at h
      aesop

theorem mem_beginnings_self {names : Place} (h : names ≠ []) : names ∈ beginnings names := by
  have hpos : 0 < names.length := List.length_pos_iff.mpr h
  exact List.mem_map.mpr ⟨names.length - 1, List.mem_range.mpr (by omega),
    List.take_of_length_le (by omega)⟩

end FileSystem

/-! ## What is left out -/

namespace IgnoreRules

theorem beginnings_map_toList (before : List Char) (names : Place) :
    beginnings before (names.map String.toList) =
      (FileSystem.beginnings names).map fun start => before ++ ("/".intercalate start).toList := by
  induction names generalizing before with
  | nil => rfl
  | cons name names ih =>
      rw [List.map_cons, beginnings, ih, FileSystem.beginnings_cons, List.map_cons, List.map_map]
      refine List.cons_eq_cons.mpr ⟨by simp, List.map_congr_left fun start hstart => ?_⟩
      have hne := FileSystem.ne_nil_of_mem_beginnings hstart
      rw [Function.comp_apply, String.intercalate_cons_of_ne_nil hne]
      simp

/-- A path is left out if a walk stops at one of its beginnings. -/
theorem ignoresWithin_intercalate (rules : IgnoreRules) {names : Place}
    (h : ∀ n ∈ names, Path.IsName n) (hne : names ≠ []) :
    rules.ignoresWithin ("/".intercalate names) =
      (FileSystem.beginnings names).any fun start => rules.ignores ("/".intercalate start) := by
  rw [ignoresWithin, (Path.isPlain_intercalate h hne).trimChar, Path.splitOn_intercalate h hne,
    beginnings_map_toList, List.any_map]
  rfl

/-- A hidden file is left out. -/
theorem ignores_of_isHidden (rules : IgnoreRules) {folders : Place} {name : String}
    (h : ∀ n ∈ folders ++ [name], Path.IsName n) (hhidden : isHidden name = true) :
    rules.ignores ("/".intercalate (folders ++ [name])) = true := by
  have hplain := Path.isPlain_intercalate h (List.append_ne_nil_of_right_ne_nil _ (by simp))
  have hpath : ("/".intercalate (folders ++ [name])).toList.isEmpty = false :=
    List.isEmpty_eq_false_iff.mpr hplain.toList_ne_nil
  rw [ignores, hplain.trimChar, ignoresTrimmed, hpath, if_neg Bool.false_ne_true,
    Path.lastPiece_intercalate folders (h name (by simp))]
  simp [hhidden]

end IgnoreRules

/-! ## The files of a site -/

namespace Build

open Content

theorem isName_of_mem_filesOf {fs : FileSystem} (h : fs.HasNames) {folder : String}
    {f : FileSystem.Found} (hf : f ∈ filesOf fs folder) :
    f.names ≠ [] ∧ ∀ name ∈ f.names, Path.IsName name := by
  unfold filesOf at hf
  split at hf
  · exact h.isName_of_mem_filesBelow hf
  · exact absurd hf List.not_mem_nil

theorem mem_sourceFiles {fs : FileSystem} {folder : String} {rules : IgnoreRules}
    {f : FileSystem.Found} :
    f ∈ sourceFiles fs folder rules ↔
      f ∈ fs.filesBelow folder (fun names => !rules.ignores (pathOf names)) ∧
        isMinified f.name = false := by
  simp [sourceFiles]

theorem path_of_entryOf {fs : FileSystem} {c : Config} {renderer : Renderer}
    {f : FileSystem.Found} {entry : Entry} (h : entryOf fs c renderer f = .ok entry) :
    entry.path = f.path := by
  unfold entryOf at h
  split at h
  · obtain ⟨d, hd, rfl⟩ := Outcome.map_eq_ok.mp h
    unfold readDocument at hd
    split at hd
    · cases hd
      rfl
    · cases hd
  · cases h
    rfl

theorem entryOf_document {fs : FileSystem} {c : Config} {f : FileSystem.Found} {text : String}
    {location : Location} (renderer : Renderer) (hdocument : isDocument c f = true)
    (hlocation : locationOf c f = location) (htext : fs.readText location.sourcePath = .ok text) :
    entryOf fs c renderer f = .ok (.document (.read text location renderer)) := by
  rw [entryOf, hdocument, if_pos rfl, hlocation, readDocument, htext]
  rfl

theorem entryOf_asset {c : Config} {f : FileSystem.Found} {location : Location} (fs : FileSystem)
    (renderer : Renderer) (hdocument : isDocument c f = false)
    (hlocation : locationOf c f = location) :
    entryOf fs c renderer f =
      .ok (.asset (.ofLocation location ((Path.extension? f.path).any c.isCopiedExtension))) := by
  rw [entryOf, hdocument, if_neg Bool.false_ne_true, hlocation]

theorem rendered_of_entryOf {fs : FileSystem} {c : Config} {renderer : Renderer}
    {f : FileSystem.Found} {d : Document} (h : entryOf fs c renderer f = .ok (.document d)) :
    d.rendered = none := by
  unfold entryOf at h
  split at h
  · obtain ⟨d', hd, heq⟩ := Outcome.map_eq_ok.mp h
    cases heq
    unfold readDocument at hd
    split at hd <;> cases hd
    rfl
  · cases h

theorem sourcePath_of_entryOf {fs : FileSystem} {c : Config} {renderer : Renderer}
    {f : FileSystem.Found} {a : Asset} (h : entryOf fs c renderer f = .ok (.asset a)) :
    a.sourcePath = Path.join c.build.sourceDir f.path := by
  unfold entryOf at h
  split at h
  · obtain ⟨d, -, heq⟩ := Outcome.map_eq_ok.mp h
    cases heq
  · cases h
    rfl

/-- Where there is a source folder, what is collected are its files in order. -/
theorem collect_eq {fs : FileSystem} {c : Config} {rules : IgnoreRules} {renderer : Renderer}
    (hrules : IgnoreRules.ofConfig c = .ok rules) (hfolder : fs.isFolder c.build.sourceDir = true) :
    collect fs c renderer =
      ((sourceFiles fs c.build.sourceDir rules).mapM (entryOf fs c renderer)).map .mk := by
  unfold collect rulesOf
  rw [hrules, hfolder]
  rfl

/-- What is collected are the files of the source folder in order, each read as an entry. -/
theorem exists_of_collect {fs : FileSystem} {c : Config} {renderer : Renderer}
    {collection : Collection} (h : collect fs c renderer = .ok collection) :
    ∃ rules, IgnoreRules.ofConfig c = .ok rules ∧ fs.isFolder c.build.sourceDir = true ∧
      (sourceFiles fs c.build.sourceDir rules).mapM (entryOf fs c renderer) =
        .ok collection.entries := by
  cases hrules : IgnoreRules.ofConfig c with
  | error e =>
      unfold collect rulesOf at h
      rw [hrules] at h
      cases h
  | ok rules =>
      cases hfolder : fs.isFolder c.build.sourceDir with
      | false =>
          unfold collect rulesOf at h
          rw [hrules, hfolder] at h
          cases h
      | true =>
          rw [collect_eq hrules hfolder] at h
          obtain ⟨entries, hentries, rfl⟩ := Outcome.map_eq_ok.mp h
          exact ⟨rules, rfl, rfl, hentries⟩

/-- What is collected stands at the paths of the files that the walk finds, in their order. -/
theorem paths_of_collect {fs : FileSystem} {c : Config} {rules : IgnoreRules} {renderer : Renderer}
    {collection : Collection} (hrules : IgnoreRules.ofConfig c = .ok rules)
    (h : collect fs c renderer = .ok collection) :
    collection.entries.map Entry.path =
      (sourceFiles fs c.build.sourceDir rules).map FileSystem.Found.path := by
  obtain ⟨rules', hrules', -, hentries⟩ := exists_of_collect h
  cases hrules.symm.trans hrules'
  exact Outcome.map_eq_of_mapM path_of_entryOf hentries

/-- The source of a collected asset is a file below the source folder. -/
theorem exists_file_of_collect {fs : FileSystem} (hfs : fs.IsTree) {c : Config}
    {renderer : Renderer} {collection : Collection} (h : collect fs c renderer = .ok collection)
    {a : Asset} (ha : a ∈ collection.assets) :
    ∃ folder names content modified, fs.locate c.build.sourceDir = .ok folder ∧
      fs.locate a.sourcePath = .ok (folder ++ names) ∧
      fs.get? (folder ++ names) = some (.file content modified) := by
  obtain ⟨rules, -, hfolder, hentries⟩ := exists_of_collect h
  obtain ⟨f, hf, hread⟩ := Outcome.exists_of_mem_mapM hentries (Collection.mem_assets.mp ha)
  obtain ⟨folder, hlocate, hthere⟩ := FileSystem.isFolder_eq_true.mp hfolder
  obtain ⟨folder', content, hlocate', hne, hfile, -⟩ :=
    hfs.mem_filesBelow.mp (mem_sourceFiles.mp hf).1
  cases hlocate.symm.trans hlocate'
  exact ⟨folder, f.names, content, f.modified, hlocate,
    sourcePath_of_entryOf hread ▸ hfs.locate_join hlocate hthere hne hfile, hfile⟩

/-- The source of a collected asset can be read. -/
theorem exists_read_of_collect {fs : FileSystem} (hfs : fs.IsTree) {c : Config}
    {renderer : Renderer} {collection : Collection} (h : collect fs c renderer = .ok collection)
    {a : Asset} (ha : a ∈ collection.assets) :
    ∃ place content, fs.locate a.sourcePath = .ok place ∧ fs.read a.sourcePath = .ok content := by
  obtain ⟨folder, names, content, modified, -, hsource, hfile⟩ := exists_file_of_collect hfs h ha
  exact ⟨_, content, hsource, FileSystem.read_eq_ok.mpr ⟨_, _, hsource, hfile⟩⟩

end Build

end StaticSite
