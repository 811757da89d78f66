/-
Paths made of names.

A name is what a file or folder can be called.  Names with slashes between them are a path whose
components are these names, below any base: `components_join`.  So joining a base and such a path
and taking the base away again gives the path back, whatever the base looks like
(`relativeTo_join`).
-/
import Mathlib.Data.List.Basic
import StaticSite.Path
import StaticSite.Text.Blank

namespace StaticSite.Path

/-- What a file or folder can be called. -/
structure IsName (name : String) : Prop where
  ne_nil : name.toList ≠ []
  no_slash : '/' ∉ name.toList
  ne_dot : name.toList ≠ ['.']
  ne_dots : name.toList ≠ ['.', '.']

instance (name : String) : Decidable (IsName name) :=
  decidable_of_iff
    (name.toList ≠ [] ∧ '/' ∉ name.toList ∧ name.toList ≠ ['.'] ∧ name.toList ≠ ['.', '.'])
    ⟨fun ⟨h₁, h₂, h₃, h₄⟩ => ⟨h₁, h₂, h₃, h₄⟩, fun h => ⟨h.1, h.2, h.3, h.4⟩⟩

/-- A path that is made of names and nothing else: a slash stands between each two. -/
def IsPlain (path : String) : Prop :=
  ∀ piece ∈ Text.splitOn '/' path.toList, IsName (String.ofList piece)

instance (path : String) : Decidable (IsPlain path) :=
  inferInstanceAs (Decidable (∀ piece ∈ _, _))

/-! ## The text of a path -/

section Joined

variable {names : List String}

theorem splitOn_intercalate_of_no_slash (h : ∀ n ∈ names, '/' ∉ n.toList) (hne : names ≠ []) :
    Text.splitOn '/' ("/".intercalate names).toList = names.map String.toList :=
  Text.splitOn_intercalate rfl h hne

theorem splitOn_intercalate (h : ∀ n ∈ names, IsName n) (hne : names ≠ []) :
    Text.splitOn '/' ("/".intercalate names).toList = names.map String.toList :=
  splitOn_intercalate_of_no_slash (fun n hn => (h n hn).no_slash) hne

theorem isPlain_intercalate (h : ∀ n ∈ names, IsName n) (hne : names ≠ []) :
    IsPlain ("/".intercalate names) := by
  intro piece hpiece
  rw [splitOn_intercalate h hne] at hpiece
  obtain ⟨n, hn, rfl⟩ := List.mem_map.mp hpiece
  simpa using h n hn

/-- What stands between the slashes of such a path are names. -/
theorem isName_of_isPlain (hslash : ∀ n ∈ names, '/' ∉ n.toList) (hne : names ≠ [])
    (h : IsPlain ("/".intercalate names)) : ∀ n ∈ names, IsName n := by
  intro n hn
  have hpiece : n.toList ∈ Text.splitOn '/' ("/".intercalate names).toList := by
    rw [splitOn_intercalate_of_no_slash hslash hne]
    exact List.mem_map_of_mem hn
  simpa using h _ hpiece

theorem lastPiece_intercalate (folders : List String) {name : String} (h : IsName name) :
    Text.lastPiece '/' ("/".intercalate (folders ++ [name])).toList = name.toList := by
  by_cases hnil : folders = []
  · simpa [hnil] using Text.lastPiece_of_not_mem h.no_slash
  · rw [String.intercalate_append_of_ne_nil hnil (List.cons_ne_nil _ _)]
    simpa using Text.lastPiece_append h.no_slash ("/".intercalate folders).toList

theorem IsPlain.exists_names {path : String} (h : IsPlain path) :
    ∃ names, names ≠ [] ∧ (∀ n ∈ names, IsName n) ∧ "/".intercalate names = path := by
  refine ⟨(Text.splitOn '/' path.toList).map String.ofList, ?_, ?_, ?_⟩
  · simpa using Text.splitOn_ne_nil '/' path.toList
  · intro n hn
    obtain ⟨piece, hpiece, rfl⟩ := List.mem_map.mp hn
    exact h piece hpiece
  · rw [← String.toList_inj, String.toList_intercalate, List.map_map, Text.splitOn_eq]
    simp [Function.comp_def]

theorem IsPlain.no_empty {path : String} (h : IsPlain path) :
    [] ∉ Text.splitOn '/' path.toList := fun hpiece => (h [] hpiece).ne_nil (by simp)

/-- A path made of names begins with no slash. -/
theorem IsPlain.head?_ne {path : String} (h : IsPlain path) : path.toList.head? ≠ some '/' :=
  Text.head?_ne_of_splitOn h.no_empty

/-- A path made of names ends in no slash. -/
theorem IsPlain.getLast?_ne {path : String} (h : IsPlain path) :
    path.toList.getLast? ≠ some '/' :=
  Text.getLast?_ne_of_splitOn h.no_empty

theorem IsPlain.toList_ne_nil {path : String} (h : IsPlain path) : path.toList ≠ [] :=
  Text.ne_nil_of_splitOn h.no_empty

theorem IsPlain.trimChar {path : String} (h : IsPlain path) :
    Text.trimChar '/' path.toList = path.toList :=
  Text.trimChar_eq_self h.head?_ne h.getLast?_ne

end Joined

/-! ## Components -/

section Components

theorem componentOf_name {name : String} (h : IsName name) :
    componentOf name.toList = some (.name name) := by
  simp [componentOf, h.ne_nil, h.ne_dot, h.ne_dots]

theorem filterMap_componentOf {names : List String} (h : ∀ n ∈ names, IsName n) :
    (names.map String.toList).filterMap componentOf = names.map .name := by
  induction names with
  | nil => rfl
  | cons name names ih =>
      obtain ⟨hname, hnames⟩ := List.forall_mem_cons.mp h
      rw [List.map_cons, List.filterMap_cons_some (componentOf_name hname), ih hnames,
        List.map_cons]

/-- What stands between slashes is a name, if it is no dot or two. -/
theorem isName_of_componentOf {path piece : List Char} {name : String}
    (hpiece : piece ∈ Text.splitOn '/' path) (h : componentOf piece = some (.name name)) :
    IsName name := by
  unfold componentOf at h
  split at h
  · cases h
  · rename_i hdot
    split at h
    · cases h
    · rename_i hdots
      cases h
      rw [Bool.or_eq_true, not_or] at hdot
      constructor
      · simpa using hdot.1
      · simpa using Text.not_mem_of_mem_splitOn hpiece
      · simpa using hdot.2
      · simpa using hdots

/-- What a path has before its names: the root, or a dot. -/
def leading (path : List Char) : List Component :=
  if path.head? = some '/' then [.root]
  else if (Text.splitOn '/' path).head? = some ['.'] then [.current] else []

theorem components_eq (path : String) :
    components path =
      leading path.toList ++ (Text.splitOn '/' path.toList).filterMap componentOf := by
  unfold components leading
  generalize path.toList = cs
  cases hpieces : Text.splitOn '/' cs with
  | nil => exact absurd hpieces (Text.splitOn_ne_nil '/' cs)
  | cons piece pieces =>
      by_cases hroot : cs.head? = some '/'
      · obtain ⟨rest, rfl⟩ := List.head?_eq_some_iff.mp hroot
        simp
      · by_cases hdot : piece = ['.']
        · subst hdot
          cases cs with
          | nil => simp [Text.splitOn] at hpieces
          | cons c rest => simp_all
        · cases cs with
          | nil => simp_all
          | cons c rest => simp_all

/-- The names in a path are names of files and folders. -/
theorem isName_of_mem_components {path name : String} (h : .name name ∈ components path) :
    IsName name := by
  rw [components_eq, List.mem_append] at h
  rcases h with hleading | hname
  · unfold leading at hleading
    split at hleading
    · simp at hleading
    · split at hleading <;> simp at hleading
  · obtain ⟨piece, hpiece, hcomponent⟩ := List.mem_filterMap.mp hname
    exact isName_of_componentOf hpiece hcomponent

theorem mem_of_mem_parent? {parts above : List Component} {part : Component}
    (h : parent? parts = some above) (hpart : part ∈ above) : part ∈ parts := by
  unfold parent? at h
  split at h
  · cases h
  · cases h
  · cases h
    exact (List.dropLast_sublist parts).subset hpart

/-- What follows a slash does not change how a path begins. -/
theorem leading_append (path rest : List Char) :
    leading (path ++ '/' :: rest) = leading (path ++ ['/']) := by
  obtain ⟨piece, pieces, hpieces⟩ := List.exists_cons_of_ne_nil (List.splitOn_ne_nil '/' path)
  unfold leading
  rw [Text.splitOn_eq, Text.splitOn_eq, List.splitOn_append_cons_self,
    List.splitOn_append_cons_self, hpieces]
  cases path <;> rfl

theorem leading_append_slash {path : List Char} (h : path ≠ []) :
    leading (path ++ ['/']) = leading path := by
  obtain ⟨piece, pieces, hpieces⟩ := List.exists_cons_of_ne_nil (List.splitOn_ne_nil '/' path)
  obtain ⟨c, rest, rfl⟩ := List.exists_cons_of_ne_nil h
  unfold leading
  rw [Text.splitOn_eq, Text.splitOn_eq, List.splitOn_append_cons_self, hpieces]
  rfl

/-- The components of a path with a slash in it, from what stands on its two sides. -/
theorem components_of_append_slash {path : String} {before rest : List Char}
    (h : path.toList = before ++ '/' :: rest) :
    components path = leading (before ++ ['/']) ++
      ((Text.splitOn '/' before).filterMap componentOf ++
        (Text.splitOn '/' rest).filterMap componentOf) := by
  rw [components_eq, h, leading_append, Text.splitOn_eq, List.splitOn_append_cons_self,
    ← Text.splitOn_eq, ← Text.splitOn_eq, List.filterMap_append]

/-- Below a base, paths that do not begin at the root stay apart. -/
theorem join_inj (base : String) {path path' : String} (h : path.toList.head? ≠ some '/')
    (h' : path'.toList.head? ≠ some '/') : join base path = join base path' ↔ path = path' := by
  have hrelative : isAbsolute path = false := beq_false_of_ne h
  have hrelative' : isAbsolute path' = false := beq_false_of_ne h'
  unfold join
  rw [hrelative, hrelative', if_neg Bool.false_ne_true, if_neg Bool.false_ne_true]
  split <;> exact String.append_right_inj _

/-- A path made of names, below a base, has the components of the base and then the names. -/
theorem components_join (base : String) {names : List String} (h : ∀ n ∈ names, IsName n)
    (hne : names ≠ []) :
    components (join base ("/".intercalate names)) = components base ++ names.map .name := by
  have hplain := isPlain_intercalate h hne
  have hnames : (Text.splitOn '/' ("/".intercalate names).toList).filterMap componentOf =
      names.map .name := by
    rw [splitOn_intercalate h hne, filterMap_componentOf h]
  have hrelative : isAbsolute ("/".intercalate names) = false :=
    beq_false_of_ne hplain.head?_ne
  unfold join
  rw [hrelative, if_neg Bool.false_ne_true]
  by_cases hempty : base = ""
  · subst hempty
    -- nothing stands before the names, and the first of them is no dot
    have hfirst : leading ("/".intercalate names).toList = [] := by
      obtain ⟨name, rest, rfl⟩ := List.exists_cons_of_ne_nil hne
      rw [leading, if_neg hplain.head?_ne, splitOn_intercalate h hne]
      exact if_neg (by simpa using (h name List.mem_cons_self).ne_dot)
    rw [if_pos (by rfl), String.empty_append, components_eq, hfirst, hnames]
    rfl
  · by_cases hslash : base.toList.getLast? = some '/'
    · obtain ⟨before, hbefore⟩ := List.getLast?_eq_some_iff.mp hslash
      have hjoined : (base ++ "/".intercalate names).toList =
          before ++ '/' :: ("/".intercalate names).toList := by
        rw [String.toList_append, hbefore, List.append_assoc]
        rfl
      have hnothing : (Text.splitOn '/' []).filterMap componentOf = [] := rfl
      rw [if_pos (by simp [hslash]), components_of_append_slash hjoined, hnames,
        components_of_append_slash hbefore, hnothing, List.append_nil, List.append_assoc]
    · have hjoined : (base ++ "/" ++ "/".intercalate names).toList =
          base.toList ++ '/' :: ("/".intercalate names).toList := by
        simp
      rw [if_neg (by simp [hslash, hempty]), components_of_append_slash hjoined, hnames,
        leading_append_slash (by simpa using hempty), components_eq base, List.append_assoc]

theorem components_intercalate {names : List String} (h : ∀ n ∈ names, IsName n)
    (hne : names ≠ []) : components ("/".intercalate names) = names.map .name := by
  have hrelative : isAbsolute ("/".intercalate names) = false :=
    beq_false_of_ne (isPlain_intercalate h hne).head?_ne
  have hjoin : join "" ("/".intercalate names) = "/".intercalate names := by
    rw [join, hrelative, if_neg Bool.false_ne_true, if_pos (by rfl), String.empty_append]
  rw [← hjoin, components_join "" h hne]
  rfl

theorem fileName?_intercalate {folders : List String} {name : String}
    (h : ∀ n ∈ folders ++ [name], IsName n) :
    fileName? ("/".intercalate (folders ++ [name])) = some name := by
  rw [fileName?, components_intercalate h (by simp), List.map_append]
  simp

/-- The extension of a file name follows its last dot, if this does not begin the name. -/
theorem cutExtension_eq_some {name ending : String} :
    (cutExtension name).2 = some ending ↔
      ∃ stem, stem ≠ "" ∧ name = stem ++ "." ++ ending ∧ '.' ∉ ending.toList := by
  constructor
  · intro h
    unfold cutExtension at h
    split at h
    · rename_i c before after hcut
      cases h
      obtain ⟨hname, hafter⟩ := Text.splitLast_eq_some.mp hcut
      refine ⟨String.ofList (c :: before), by simp, ?_, by simpa using hafter⟩
      rw [← String.toList_inj, hname]
      simp
    · cases h
  · rintro ⟨stem, hstem, rfl, hending⟩
    have hcut : Text.splitLast '.' (stem ++ "." ++ ending).toList =
        some (stem.toList, ending.toList) := Text.splitLast_eq_some.mpr ⟨by simp, hending⟩
    obtain ⟨c, before, hbefore⟩ := List.exists_cons_of_ne_nil
      fun hnil => hstem (String.toList_eq_nil_iff.mp hnil)
    rw [cutExtension, hcut, hbefore]
    simp

/-- A path made of names below another one is made of the names of both. -/
theorem join_intercalate {folders names : List String} (hfolders : ∀ n ∈ folders, IsName n)
    (hnames : ∀ n ∈ names, IsName n) (hfne : folders ≠ []) (hnne : names ≠ []) :
    join ("/".intercalate folders) ("/".intercalate names) =
      "/".intercalate (folders ++ names) := by
  have hbase := isPlain_intercalate hfolders hfne
  have hrelative : isAbsolute ("/".intercalate names) = false :=
    beq_false_of_ne (isPlain_intercalate hnames hnne).head?_ne
  have hjoint : ¬ (("/".intercalate folders).isEmpty ||
      ("/".intercalate folders).toList.getLast? == some '/') = true := by
    rw [Bool.or_eq_true, not_or, beq_iff_eq]
    exact ⟨fun h => hbase.toList_ne_nil (by rw [String.isEmpty_iff.mp h]; rfl), hbase.getLast?_ne⟩
  rw [join, hrelative, if_neg Bool.false_ne_true, if_neg hjoint,
    String.intercalate_append_of_ne_nil hfne hnne]

theorem startsWith_join (base : String) {names : List String} (h : ∀ n ∈ names, IsName n)
    (hne : names ≠ []) : startsWith (join base ("/".intercalate names)) base = true := by
  rw [startsWith, components_join base h hne]
  exact List.isPrefixOf_iff_prefix.mpr (List.prefix_append _ _)

/-- Joining a base and a path made of names and taking the base away gives the path back. -/
theorem relativeTo_join (base : String) {names : List String} (h : ∀ n ∈ names, IsName n)
    (hne : names ≠ []) :
    relativeTo base (join base ("/".intercalate names)) = "/".intercalate names := by
  have hrest : List.isPrefixOf? (components base) (components base ++ names.map .name) =
      some (names.map .name) :=
    List.isPrefixOf?_eq_some_iff_append_eq.mpr rfl
  rw [relativeTo, components_join base h hne]
  simp [hrest, render, Function.comp_def, Component.text]

end Components

end StaticSite.Path
