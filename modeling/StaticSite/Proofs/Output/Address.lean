/-
The address of an output tells the output.

An address leaves out a final `index.html` and the slashes that a path begins with.  An output path
is made of names with single slashes between them (`exists_names_apply`), so both can be put back.
Main statement: two outputs have one address only if they have one path, and an address is the root
address, a slash and the path, of which only a last name `index.html` is left out (`urlOf_apply`).
-/
import Mathlib.Data.List.Basic
import Mathlib.Data.List.DropRight
import StaticSite.Output
import StaticSite.Proofs.Path.Names

namespace StaticSite

namespace Config

variable {path path' : String}

/-- The root address without the slashes at its end. -/
def rootBase (c : Config) : List Char := Text.dropEndWhile (· == '/') c.site.rootUrl.toList

theorem exists_rootBase_append (c : Config) :
    ∃ slashes, c.site.rootUrl.toList = c.rootBase ++ slashes ∧ ∀ ch ∈ slashes, ch = '/' := by
  refine ⟨(c.site.rootUrl.toList.reverse.takeWhile (· == '/')).reverse, ?_, fun ch hmem => ?_⟩
  · rw [rootBase, Text.dropEndWhile, ← List.reverse_append, List.takeWhile_append_dropWhile,
      List.reverse_reverse]
  · simpa using List.mem_takeWhile_imp (List.mem_reverse.mp hmem)

theorem getLast?_rootBase_ne (c : Config) : c.rootBase.getLast? ≠ some '/' := by
  intro hlast
  have hne : c.rootBase ≠ [] := by
    rintro hnil
    rw [hnil] at hlast
    cases hlast
  have hslash := (List.getLast_eq_iff_getLast?_eq_some hne).mpr hlast
  exact List.rdropWhile_last_not (· == '/') c.site.rootUrl.toList hne (beq_iff_eq.mpr hslash)

theorem toList_rootedUrl (c : Config) (h : path.toList.head? ≠ some '/') :
    (c.rootedUrl path).toList = c.rootBase ++ '/' :: path.toList := by
  have hkeep : path.toList.dropWhile (· == '/') = path.toList := by
    cases hpath : path.toList with
    | nil => rfl
    | cons d rest => exact List.dropWhile_cons_of_neg (by simpa [hpath] using h)
  rw [rootedUrl, String.toList_append, String.toList_ofList, String.toList_ofList, hkeep]
  rfl

/-- Paths that do not begin with a slash can be told from their addresses. -/
theorem rootedUrl_inj (c : Config) (h : path.toList.head? ≠ some '/')
    (h' : path'.toList.head? ≠ some '/') : c.rootedUrl path = c.rootedUrl path' ↔ path = path' := by
  rw [← String.toList_inj, toList_rootedUrl c h, toList_rootedUrl c h', List.append_right_inj,
    List.cons_inj_right, String.toList_inj]

end Config

namespace Output

/-- An output path without a final `index.html` that is the whole name of a file. -/
def withoutIndex (path : List Char) : List Char :=
  match Text.beforeSuffix? "index.html".toList path with
  | none => path
  | some before => if before = [] ∨ before.getLast? = some '/' then before else path

theorem urlOf_eq (c : Config) (path : String) :
    urlOf c path = c.rootedUrl (String.ofList (withoutIndex path.toList)) := by
  unfold urlOf withoutIndex
  cases Text.beforeSuffix? "index.html".toList path.toList with
  | none => exact congrArg c.rootedUrl String.ofList_toList.symm
  | some before =>
      dsimp only
      split
      · rfl
      · exact congrArg c.rootedUrl String.ofList_toList.symm

variable {path path' : List Char}

theorem withoutIndex_eq (path : List Char) :
    withoutIndex path = path ∨
      path = withoutIndex path ++ "index.html".toList ∧
        (withoutIndex path = [] ∨ (withoutIndex path).getLast? = some '/') := by
  unfold withoutIndex
  split
  · exact .inl rfl
  · rename_i before hbefore
    split
    · rename_i hslash
      exact .inr ⟨(List.append_eq_of_isSuffixOf?_eq_some hbefore).symm, hslash⟩
    · exact .inl rfl

theorem head?_withoutIndex_ne (h : path.head? ≠ some '/') :
    (withoutIndex path).head? ≠ some '/' := by
  rcases withoutIndex_eq path with hsame | ⟨hpath, -⟩
  · rwa [hsame]
  · intro hhead
    obtain ⟨rest, hrest⟩ := List.head?_eq_some_iff.mp hhead
    rw [hpath, hrest] at h
    exact h rfl

/-- A path without empty names can be told from what is left of it. -/
theorem withoutIndex_inj (h : [] ∉ Text.splitOn '/' path) (h' : [] ∉ Text.splitOn '/' path') :
    withoutIndex path = withoutIndex path' ↔ path = path' := by
  have hends : ∀ {path}, [] ∉ Text.splitOn '/' path → ¬ (path = [] ∨ path.getLast? = some '/') :=
    fun h => not_or.mpr ⟨Text.ne_nil_of_splitOn h, Text.getLast?_ne_of_splitOn h⟩
  refine ⟨fun heq => ?_, congrArg withoutIndex⟩
  rcases withoutIndex_eq path with hsame | ⟨hpath, hslash⟩
  · rcases withoutIndex_eq path' with hsame' | ⟨-, hslash'⟩
    · rwa [hsame, hsame'] at heq
    · rw [← heq, hsame] at hslash'
      exact absurd hslash' (hends h)
  · rcases withoutIndex_eq path' with hsame' | ⟨hpath', -⟩
    · rw [heq, hsame'] at hslash
      exact absurd hslash (hends h')
    · rw [hpath, hpath', heq]

/-- An output path is made of names with slashes between them. -/
theorem exists_names_apply (pattern dir name ending : String) :
    ∃ names, apply pattern dir name ending = "/".intercalate names ∧
      ∀ n ∈ names, n ≠ "" ∧ '/' ∉ n.toList := by
  obtain ⟨cs, hcs⟩ : ∃ cs, apply pattern dir name ending = String.ofList (tidy cs) := ⟨_, rfl⟩
  refine ⟨((Text.splitOn '/' cs).filter fun piece => !piece.isEmpty).map String.ofList, ?_, ?_⟩
  · rw [hcs, ← String.toList_inj, String.toList_ofList, String.toList_intercalate, List.map_map]
    simp [Function.comp_def]
    rfl
  · intro n hn
    obtain ⟨piece, hpiece, rfl⟩ := List.mem_map.mp hn
    obtain ⟨hmem, hne⟩ := List.mem_filter.mp hpiece
    exact ⟨by simpa using hne, by simpa using Text.not_mem_of_mem_splitOn hmem⟩

/-- No name of an output path is empty. -/
theorem no_empty_apply {pattern dir name ending : String}
    (h : apply pattern dir name ending ≠ "") :
    [] ∉ Text.splitOn '/' (apply pattern dir name ending).toList := by
  obtain ⟨names, hnames, hname⟩ := exists_names_apply pattern dir name ending
  rw [hnames] at h ⊢
  rw [Path.splitOn_intercalate_of_no_slash (fun n hn => (hname n hn).2)
    (by rintro rfl; exact h rfl), List.mem_map]
  rintro ⟨n, hn, hempty⟩
  exact (hname n hn).1 (String.toList_eq_nil_iff.mp hempty)

/-- An output path begins with no slash. -/
theorem head?_apply_ne (pattern dir name ending : String) :
    (apply pattern dir name ending).toList.head? ≠ some '/' := by
  by_cases h : apply pattern dir name ending = ""
  · rw [h]
    exact nofun
  · exact Text.head?_ne_of_splitOn (no_empty_apply h)

/-- An output path can be told from its address. -/
theorem urlOf_inj (c : Config) {path path' : String} (h : [] ∉ Text.splitOn '/' path.toList)
    (h' : [] ∉ Text.splitOn '/' path'.toList) : urlOf c path = urlOf c path' ↔ path = path' := by
  have hhead : ∀ {path : String}, [] ∉ Text.splitOn '/' path.toList →
      (String.ofList (withoutIndex path.toList)).toList.head? ≠ some '/' := fun h => by
    rw [String.toList_ofList]
    exact head?_withoutIndex_ne (Text.head?_ne_of_splitOn h)
  rw [urlOf_eq, urlOf_eq, c.rootedUrl_inj (hhead h) (hhead h'), String.ofList_inj,
    withoutIndex_inj h h', String.toList_inj]

/-! ## Addresses of outputs -/

/-- What of a path stands in its address: all of it, unless its last name is `index.html`, which is
left out with the slash before it kept. -/
inductive IsAddressTail : String → String → Prop
  | index : IsAddressTail "index.html" ""
  | folderIndex (folder : String) : IsAddressTail (folder ++ "/index.html") (folder ++ "/")
  | file {path : String} (h : Text.lastPiece '/' path.toList ≠ "index.html".toList) :
      IsAddressTail path path

theorem withoutIndex_append {before : List Char} (h : before = [] ∨ before.getLast? = some '/') :
    withoutIndex (before ++ "index.html".toList) = before := by
  have hcut : Text.beforeSuffix? "index.html".toList (before ++ "index.html".toList) =
      some before := List.isSuffixOf?_eq_some_iff_append_eq.mpr rfl
  rw [withoutIndex, hcut]
  exact if_pos h

theorem isAddressTail_withoutIndex (path : String) :
    IsAddressTail path (String.ofList (withoutIndex path.toList)) := by
  by_cases hlast : Text.lastPiece '/' path.toList = "index.html".toList
  · unfold Text.lastPiece at hlast
    split at hlast
    · rename_i folder file hcut
      subst hlast
      obtain ⟨hpath, -⟩ := Text.splitLast_eq_some.mp hcut
      obtain rfl : path = String.ofList folder ++ "/index.html" := by
        rw [← String.toList_inj, hpath]
        simp
      have htail : withoutIndex (String.ofList folder ++ "/index.html").toList =
          folder ++ ['/'] := by
        rw [hpath, ← List.singleton_append, ← List.append_assoc]
        exact withoutIndex_append (.inr List.getLast?_concat)
      rw [htail, String.ofList_append]
      exact .folderIndex _
    · obtain rfl : path = "index.html" := String.toList_inj.mp hlast
      have htail : withoutIndex "index.html".toList = [] := withoutIndex_append (.inl rfl)
      rw [htail]
      exact .index
  · have htail : withoutIndex path.toList = path.toList := by
      refine (withoutIndex_eq path.toList).resolve_right fun ⟨hpath, hslash⟩ => hlast ?_
      rcases hslash with hnil | hslash
      · rw [hpath, hnil]
        exact Text.lastPiece_of_not_mem (by decide)
      · obtain ⟨folder, hfolder⟩ := List.getLast?_eq_some_iff.mp hslash
        rw [hpath, hfolder, List.append_assoc]
        exact Text.lastPiece_append (by decide) folder
    rw [htail, String.ofList_toList]
    exact .file hlast

/-- What a pattern gives for some file, if it is not empty. -/
def IsOutputPath (path : String) : Prop :=
  path ≠ "" ∧ ∃ pattern dir name ending, apply pattern dir name ending = path

theorem IsOutputPath.no_empty {path : String} (h : IsOutputPath path) :
    [] ∉ Text.splitOn '/' path.toList := by
  obtain ⟨hne, pattern, dir, name, ending, rfl⟩ := h
  exact no_empty_apply hne

/-- The addresses of outputs are the same just if their paths are.  An address is the root address
without the slashes at its end, one slash, and what of the path stands in the address. -/
theorem urlOf_apply (c : Config) {path path' : String} (h : IsOutputPath path)
    (h' : IsOutputPath path') :
    (urlOf c path = urlOf c path' ↔ path = path') ∧
    ∃ base slashes tail : String, c.site.rootUrl = base ++ slashes ∧
      (∀ ch ∈ slashes.toList, ch = '/') ∧ base.toList.getLast? ≠ some '/' ∧
      IsAddressTail path tail ∧ urlOf c path = base ++ "/" ++ tail := by
  refine ⟨urlOf_inj c h.no_empty h'.no_empty, ?_⟩
  obtain ⟨slashes, hroot, hslashes⟩ := c.exists_rootBase_append
  refine ⟨String.ofList c.rootBase, String.ofList slashes, _, ?_, ?_, ?_,
    isAddressTail_withoutIndex path, ?_⟩
  · rw [← String.ofList_append, ← hroot, String.ofList_toList]
  · simpa using hslashes
  · simpa using c.getLast?_rootBase_ne
  · have hhead : (String.ofList (withoutIndex path.toList)).toList.head? ≠ some '/' := by
      rw [String.toList_ofList]
      exact head?_withoutIndex_ne (Text.head?_ne_of_splitOn h.no_empty)
    rw [urlOf_eq, ← String.toList_inj, c.toList_rootedUrl hhead]
    simp

/-- A site whose root address ends in slashes. -/
def slashedConfig : Config := { site := { rootUrl := "https://example.com//" } }

/-- A name that only ends in `index.html` stays. -/
theorem urlOf_apply_notindex :
    IsOutputPath "a/b/c/index.html" ∧ IsOutputPath "a/b/notindex.html" ∧
      urlOf slashedConfig "a/b/c/index.html" ≠ urlOf slashedConfig "a/b/notindex.html" ∧
      urlOf slashedConfig "a/b/c/index.html" = "https://example.com/a/b/c/" ∧
      urlOf slashedConfig "a/b/notindex.html" = "https://example.com/a/b/notindex.html" := by
  have hpage : IsOutputPath "a/b/c/index.html" :=
    ⟨by decide, folderPattern, "a//b", "c", "md", by decide +kernel⟩
  have hother : IsOutputPath "a/b/notindex.html" :=
    ⟨by decide, "[path]/not[name].html", "../a/b/", "index", "md", by decide +kernel⟩
  obtain ⟨hiff, -⟩ := urlOf_apply slashedConfig hpage hother
  exact ⟨hpage, hother, fun h => absurd (hiff.mp h) (by decide), by decide +kernel,
    by decide +kernel⟩

end Output

end StaticSite
