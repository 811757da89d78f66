/-
Which templates a folder gives.

Each template file below the folder is read in the order of the walk, and a later one replaces an
earlier one of the same name (`IsLoadedFrom`).  Main statement: each name leads to the template that
is stored under it, and so does the path of a file just when the path, as a request, stands for the
name of the file (`isLoadedFrom_of_load`).
-/
import StaticSite.Proofs.Build.Collection
import StaticSite.Proofs.OrderedMap
import StaticSite.Proofs.Template.Requests

namespace StaticSite.Build

open Template

variable {fs : FileSystem} {folder : String} {store : TemplateStore}

/-- The template files below a folder in the order of the walk. -/
def templateFiles (fs : FileSystem) (folder : String) : List FileSystem.Found :=
  (filesOf fs folder).filter isTemplateFile

/-- The store has one template for each name, and this is the one read last. -/
structure IsLoadedFrom (fs : FileSystem) (folder : String) (store : TemplateStore) : Prop where
  sorted : (templateFiles fs folder).Pairwise fun f g => FileSystem.Precedes f.names g.names
  mem_keys : ∀ name, name ∈ store.templates.keys ↔
    ∃ f ∈ templateFiles fs folder, templateName f.path = name
  nodup : store.templates.keys.Nodup
  last : ∀ before f after, templateFiles fs folder = before ++ f :: after →
    (∀ g ∈ after, templateName g.path ≠ templateName f.path) →
    ∃ t, readTemplate fs folder f = .ok t ∧ store.templates.get? (templateName f.path) = some t

/-! ## Reading -/

theorem name_of_readTemplate {f : FileSystem.Found} {t : NamedTemplate}
    (h : readTemplate fs folder f = .ok t) : t.name = templateName f.path := by
  unfold readTemplate at h
  dsimp only at h
  split at h
  · rw [← Except.ok.inj h]
  · cases h

theorem readTemplate_eq {f : FileSystem.Found} {name path text : String}
    (hname : templateName f.path = name) (hpath : Path.join folder f.path = path)
    (htext : fs.readText path = .ok text) :
    readTemplate fs folder f = .ok ⟨name, path, text⟩ := by
  subst hname hpath
  unfold readTemplate
  dsimp only
  rw [htext]

/-- The step for one of the inputs gives the result at its place. -/
theorem exists_of_mapM_append_cons {α β ε : Type} {f : α → Except ε β} {before after : List α}
    {a : α} {bs : List β} (h : (before ++ a :: after).mapM f = .ok bs) :
    ∃ before' b after', bs = before' ++ b :: after' ∧ f a = .ok b ∧ after.mapM f = .ok after' := by
  rw [List.mapM_append, List.mapM_cons] at h
  obtain ⟨before', -, hrest⟩ := Outcome.bind_eq_ok.mp h
  obtain ⟨bs', hbs, hpure⟩ := Outcome.bind_eq_ok.mp hrest
  obtain ⟨b, hb, hafter⟩ := Outcome.bind_eq_ok.mp hbs
  obtain ⟨after', hafter', hcons⟩ := Outcome.bind_eq_ok.mp hafter
  cases hcons
  cases hpure
  exact ⟨before', b, after', rfl, hb, hafter'⟩

theorem foldl_add (store : TemplateStore) (templates : List NamedTemplate) :
    (templates.foldl TemplateStore.add store).templates =
      store.templates.insertAll (templates.map fun t => (t.name, t)) := by
  induction templates generalizing store with
  | nil => rfl
  | cons t templates ih => rw [List.foldl_cons, ih]; rfl

/-- The store holds what is read. -/
theorem exists_of_load (h : loadTemplates fs folder = .ok store) :
    ∃ templates, (templateFiles fs folder).mapM (readTemplate fs folder) = .ok templates ∧
      store.templates.Holds (templates.map fun t => (t.name, t)) := by
  obtain ⟨templates, hread, hstore⟩ := Outcome.bind_eq_ok.mp h
  cases hstore
  refine ⟨templates, hread, ?_⟩
  rw [foldl_add]
  exact OrderedMap.holds_ofList _

theorem isLoadedFrom_of_load (hfs : fs.IsTree) (h : loadTemplates fs folder = .ok store) :
    IsLoadedFrom fs folder store := by
  obtain ⟨templates, hread, hholds⟩ := exists_of_load h
  have hnames : templates.map NamedTemplate.name =
      (templateFiles fs folder).map fun f => templateName f.path :=
    Outcome.map_eq_of_mapM name_of_readTemplate hread
  have hkeys : (templates.map fun t => (t.name, t)).map Prod.fst =
      (templateFiles fs folder).map fun f => templateName f.path := by
    rw [List.map_map]
    exact hnames
  refine ⟨?_, fun name => ?_, hholds.nodup_keys, fun before f after hfiles hlater => ?_⟩
  · unfold templateFiles filesOf
    split
    · exact (FileSystem.pairwise_filesBelow hfs.nodup folder _).filter _
    · exact .nil
  · rw [hholds.mem_keys, hkeys, List.mem_map]
  · rw [hfiles] at hread
    obtain ⟨before', t, after', rfl, ht, hafter⟩ := exists_of_mapM_append_cons hread
    have hlast : templateName f.path ∉ (after'.map fun t => (t.name, t)).map Prod.fst := by
      rw [List.map_map]
      change _ ∉ after'.map NamedTemplate.name
      rw [Outcome.map_eq_of_mapM name_of_readTemplate hafter]
      intro hmem
      obtain ⟨g, hg, hsame⟩ := List.mem_map.mp hmem
      exact hlater g hg hsame
    refine ⟨t, ht, (hholds.get? _ _).mpr ⟨before'.map fun t => (t.name, t), _, ?_, hlast⟩⟩
    rw [List.map_append, List.map_cons, name_of_readTemplate ht]

/-! ## Requests -/

section Requests

variable {f : FileSystem.Found} {t : NamedTemplate} {name request : String}

/-- What is stored under a name has this name. -/
theorem name_of_get? (h : loadTemplates fs folder = .ok store)
    (ht : store.templates.get? name = some t) : t.name = name := by
  obtain ⟨templates, -, hholds⟩ := exists_of_load h
  obtain ⟨before, after, hpairs, -⟩ := (hholds.get? name t).mp ht
  have hmem : (name, t) ∈ templates.map fun t => (t.name, t) := by
    rw [hpairs]
    exact List.mem_append_right _ List.mem_cons_self
  obtain ⟨t', -, heq⟩ := List.mem_map.mp hmem
  cases heq
  rfl

/-- A request leads to the template under a name just if it stands for this name. -/
theorem get?_eq_some_iff (h : loadTemplates fs folder = .ok store)
    (ht : store.templates.get? name = some t) :
    store.get? request = some t ↔ requestedName request = name := by
  constructor
  · intro hget
    exact (name_of_get? h hget).symm.trans (name_of_get? h ht)
  · intro hname
    rw [TemplateStore.get?, hname, ht]

/-- The path of a template file ends in the ending of these files. -/
theorem exists_stem (hfs : fs.IsTree) (hf : f ∈ templateFiles fs folder) :
    ∃ stem : String, f.path = stem ++ ".html" := by
  obtain ⟨hfile, htemplate⟩ := List.mem_filter.mp hf
  obtain ⟨hne, hnames⟩ := isName_of_mem_filesOf hfs.hasNames hfile
  obtain ⟨names, modified⟩ := f
  obtain ⟨folders, file, rfl⟩ := (List.eq_nil_or_concat' names).resolve_left hne
  have hending : Path.extension? (FileSystem.Found.path ⟨folders ++ [file], modified⟩) =
      some "html" := by simpa [isTemplateFile] using htemplate
  rw [Path.extension?, FileSystem.Found.path, Path.fileName?_intercalate hnames] at hending
  obtain ⟨stem, -, rfl, -⟩ := Path.cutExtension_eq_some.mp hending
  rw [FileSystem.Found.path, String.append_assoc]
  by_cases hnil : folders = []
  · subst hnil
    exact ⟨stem, rfl⟩
  · refine ⟨"/".intercalate folders ++ "/" ++ stem, ?_⟩
    rw [String.intercalate_append_of_ne_nil hnil (List.cons_ne_nil _ _)]
    simp only [String.append_assoc]
    rfl

/-- Each template file has a template under its name.  The name leads to it, and the path does, with
or without its ending, just when it stands for the name: it does if the ending is not there twice
and there are no blanks at the ends, and it never does if the ending is there twice. -/
theorem templates_of_load (hfs : fs.IsTree) (h : loadTemplates fs folder = .ok store) :
    IsLoadedFrom fs folder store ∧
    ∀ f ∈ templateFiles fs folder, ∃ (stem : String) (t : NamedTemplate),
      f.path = stem ++ ".html" ∧ store.templates.get? (templateName f.path) = some t ∧
      store.get? (templateName f.path) = some t ∧
      (store.get? f.path = some t ↔ requestedName f.path = templateName f.path) ∧
      (store.get? stem = some t ↔ requestedName stem = templateName f.path) ∧
      (¬ ending <:+ stem.toList → Text.trimStart stem.toList = stem.toList →
        store.get? f.path = some t) ∧
      (¬ ending <:+ stem.toList → Text.trim stem.toList = stem.toList →
        store.get? stem = some t) ∧
      (ending <:+ stem.toList → store.get? f.path ≠ some t ∧ store.get? stem ≠ some t) := by
  have hloaded := isLoadedFrom_of_load hfs h
  refine ⟨hloaded, fun f hf => ?_⟩
  obtain ⟨stem, hstem⟩ := exists_stem hfs hf
  obtain ⟨t, ht⟩ : ∃ t, store.templates.get? (templateName f.path) = some t :=
    Option.isSome_iff_exists.mp
      (OrderedMap.contains_iff.mpr ((hloaded.mem_keys _).mpr ⟨f, hf, rfl⟩))
  have hiff : ∀ request, store.get? request = some t ↔
      requestedName request = templateName f.path := fun request => get?_eq_some_iff h ht
  refine ⟨stem, t, hstem, ht, (hiff _).mpr (requestedName_templateName _), hiff _, hiff _,
    fun hending hstart => (hiff _).mpr ?_, fun hending htrim => (hiff _).mpr ?_, fun htwice => ?_⟩
  · rw [hstem]
    exact requestedName_path hstart hending
  · rw [hstem]
    exact requestedName_stem htrim hending
  · obtain ⟨before, hbefore⟩ := htwice
    obtain rfl : String.ofList before ++ ".html" = stem := by
      rw [← String.toList_inj, toList_append_html, String.toList_ofList, hbefore]
    rw [ne_eq, ne_eq, hiff, hiff, hstem]
    exact requestedName_two_endings (String.ofList before)

end Requests

/-! ## Templates that share a name, and one with two endings -/

/-- Two templates called `a-b`, and one whose path ends in `.html.html`. -/
def templateSite : FileSystem :=
  ⟨⟨[(["t"], .folder), (["t", "a"], .folder), (["t", "a", "b.html"], .file ByteArray.empty 0),
      (["t", "a b.html"], .file ByteArray.empty 0),
      (["t", "c.html.html"], .file ByteArray.empty 0)]⟩, []⟩

theorem templateFiles_templateSite :
    templateFiles templateSite "t" =
      [⟨["a", "b.html"], 0⟩, ⟨["a b.html"], 0⟩, ⟨["c.html.html"], 0⟩] := by
  cbv

/-- The template of a file without text. -/
def emptyTemplate (name path : String) : NamedTemplate := ⟨name, path, ""⟩

def templateStore : TemplateStore :=
  ⟨⟨[("a-b", emptyTemplate "a-b" "t/a b.html"),
    ("c-html", emptyTemplate "c-html" "t/c.html.html")]⟩⟩

theorem loadTemplates_templateSite :
    loadTemplates templateSite "t" = .ok templateStore := by
  have hfirst : readTemplate templateSite "t" ⟨["a", "b.html"], 0⟩ =
      .ok (emptyTemplate "a-b" "t/a/b.html") :=
    readTemplate_eq (by decide +kernel) (by decide +kernel) (by cbv)
  have hsecond : readTemplate templateSite "t" ⟨["a b.html"], 0⟩ =
      .ok (emptyTemplate "a-b" "t/a b.html") :=
    readTemplate_eq (by decide +kernel) (by decide +kernel) (by cbv)
  have hthird : readTemplate templateSite "t" ⟨["c.html.html"], 0⟩ =
      .ok (emptyTemplate "c-html" "t/c.html.html") :=
    readTemplate_eq (by decide +kernel) (by decide +kernel) (by cbv)
  have hfiles := templateFiles_templateSite
  unfold templateFiles at hfiles
  rw [loadTemplates, hfiles, List.mapM_cons, hfirst, List.mapM_cons, hsecond, List.mapM_cons,
    hthird]
  rfl

/-- Of the two templates of one name the later one is there, under the path of the other one too. -/
theorem templates_of_load_templateSite :
    templateSite.IsTree ∧ loadTemplates templateSite "t" = .ok templateStore ∧
      ⟨["a", "b.html"], 0⟩ ∈ templateFiles templateSite "t" ∧
      templateStore.get? "a/b.html" = some (emptyTemplate "a-b" "t/a b.html") ∧
      templateStore.get? "a/b" = some (emptyTemplate "a-b" "t/a b.html") := by
  have htree : templateSite.IsTree := by decide
  have hmem : ⟨["a", "b.html"], 0⟩ ∈ templateFiles templateSite "t" := by
    rw [templateFiles_templateSite]
    exact List.mem_cons_self
  obtain ⟨-, hfound⟩ := templates_of_load htree loadTemplates_templateSite
  obtain ⟨stem, t, hstem, ht, -, -, -, hpath, hplain, -⟩ := hfound _ hmem
  obtain rfl : stem = "a/b" := ((String.append_left_inj ".html").mp hstem).symm
  obtain rfl : emptyTemplate "a-b" "t/a b.html" = t := Option.some.inj ht
  exact ⟨htree, loadTemplates_templateSite, hmem, hpath (by decide) (by decide),
    hplain (by decide) (by decide)⟩

/-- The third template is there and is found neither by its path nor by this without the ending. -/
theorem templates_of_load_two_endings :
    templateSite.IsTree ∧ loadTemplates templateSite "t" = .ok templateStore ∧
      ⟨["c.html.html"], 0⟩ ∈ templateFiles templateSite "t" ∧
      templateStore.templates.get? (templateName "c.html.html") =
        some (emptyTemplate "c-html" "t/c.html.html") ∧
      templateStore.get? "c.html.html" = none ∧ templateStore.get? "c.html" = none := by
  refine ⟨by decide, loadTemplates_templateSite, ?_, ?_, ?_, ?_⟩
  · rw [templateFiles_templateSite]
    simp
  · decide +kernel
  · decide +kernel
  · decide +kernel

end StaticSite.Build
