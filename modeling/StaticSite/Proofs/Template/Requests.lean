/-
What requests for templates stand for.

The name of a template is the slug of its path without one ending.  A request is trimmed first and
loses all its endings.  So the name stands for itself (`requestedName_templateName`), while the path
stands for the name if it begins with no blank and has one ending only (`requestedName_path`), and
without the ending it must not end in a blank either (`requestedName_stem`).
-/
import StaticSite.Proofs.Content.Slug
import StaticSite.Template.Store

namespace StaticSite

namespace Template

/-! ## Endings -/

section Endings

variable {cs : List Char}

theorem beforeSuffix?_append_ending (cs : List Char) :
    Text.beforeSuffix? ending (cs ++ ending) = some cs :=
  List.isSuffixOf?_eq_some_iff_append_eq.mpr rfl

theorem dropEndings_append_ending (cs : List Char) :
    dropEndings (cs ++ ending) = dropEndings cs := by
  rw [dropEndings.eq_1 (cs ++ ending)]
  split
  · rename_i before hbefore
    rw [beforeSuffix?_append_ending] at hbefore
    rw [Option.some.inj hbefore]
  · rename_i hnone
    rw [beforeSuffix?_append_ending] at hnone
    cases hnone

theorem dropEndings_eq_self (h : ¬ ending <:+ cs) : dropEndings cs = cs := by
  rw [dropEndings]
  split
  · rename_i before hbefore
    exact absurd ⟨before, List.isSuffixOf?_eq_some_iff_append_eq.mp hbefore⟩ h
  · rfl

theorem trimStart_append_ending (cs : List Char) :
    Text.trimStart (cs ++ ending) = Text.trimStart cs ++ ending :=
  Text.dropWhile_append_of_stops (Text.stops_cons.mpr rfl)

/-- An ending is not trimmed. -/
theorem trim_append_ending (cs : List Char) :
    Text.trim (cs ++ ending) = Text.trimStart cs ++ ending := by
  have hlast : Text.Stops Text.isBlank (ending.reverse ++ (Text.trimStart cs).reverse) :=
    Text.stops_cons.mpr rfl
  rw [Text.trim, trimStart_append_ending, Text.trimEnd, Text.dropEndWhile, List.reverse_append,
    Text.dropWhile_of_stops hlast, ← List.reverse_append, List.reverse_reverse]

end Endings

/-! ## Names and requests -/

section Names

variable {stem : String}

theorem toList_append_html (stem : String) : (stem ++ ".html").toList = stem.toList ++ ending :=
  String.toList_append

theorem templateName_append (stem : String) :
    templateName (stem ++ ".html") = Content.slug stem := by
  rw [templateName, toList_append_html, beforeSuffix?_append_ending]
  rfl

/-- A slug is a request for itself. -/
theorem requestedName_slug (s : String) : requestedName (Content.slug s) = Content.slug s := by
  have hslug := Content.isSlug_slugChars s.toList
  have htext : (Content.slug s).toList = Content.slugChars s.toList := String.toList_ofList
  have htrim : Text.trim (Content.slugChars s.toList) = Content.slugChars s.toList := by
    have hblank : ∀ c ∈ Content.slugChars s.toList, Text.isBlank c = false := fun c hc =>
      Content.isBlank_of_isSlugChar (hslug.chars c hc)
    exact Text.trim_eq_self (fun c hc => hblank c (List.mem_of_mem_head? hc)) fun c hc =>
      hblank c (List.mem_reverse.mp (List.mem_of_mem_head? hc))
  have hending : ¬ ending <:+ Content.slugChars s.toList := fun hsuffix =>
    absurd (hslug.chars '.' (hsuffix.subset (by decide))) (by decide)
  rw [requestedName, htext, htrim, dropEndings_eq_self hending, Content.slugChars_slugChars]
  rfl

theorem requestedName_templateName (path : String) :
    requestedName (templateName path) = templateName path := by
  have hname : templateName path = Content.slug
      (String.ofList ((Text.beforeSuffix? ending path.toList).getD path.toList)) := by
    rw [templateName, Content.slug, String.toList_ofList]
  rw [hname, requestedName_slug]

/-- A path with one ending is a request for the name of its template. -/
theorem requestedName_path (hstart : Text.trimStart stem.toList = stem.toList)
    (hending : ¬ ending <:+ stem.toList) :
    requestedName (stem ++ ".html") = templateName (stem ++ ".html") := by
  rw [requestedName, toList_append_html, trim_append_ending, hstart, dropEndings_append_ending,
    dropEndings_eq_self hending, templateName_append]
  rfl

/-- So is a path without its ending. -/
theorem requestedName_stem (htrim : Text.trim stem.toList = stem.toList)
    (hending : ¬ ending <:+ stem.toList) :
    requestedName stem = templateName (stem ++ ".html") := by
  rw [requestedName, htrim, dropEndings_eq_self hending, templateName_append]
  rfl

end Names

/-! ## Paths with two endings -/

section TwoEndings

theorem length_slugLetters_dropEndings (cs : List Char) :
    (Content.slugLetters (dropEndings cs)).length ≤ (Content.slugLetters cs).length := by
  fun_induction dropEndings cs with
  | case1 cs before hbefore ih =>
      have hcs : before ++ ending = cs := List.isSuffixOf?_eq_some_iff_append_eq.mp hbefore
      rw [← hcs, Content.slugLetters_append, List.length_append]
      omega
  | case2 cs hnone => exact le_refl _

/-- The letters of an ending are part of the name, and a request has lost them. -/
theorem requestedName_ne {request stem : String}
    (h : dropEndings (Text.trim request.toList) = dropEndings (Text.trimStart stem.toList)) :
    requestedName request ≠ templateName (stem ++ ".html" ++ ".html") := by
  intro heq
  rw [requestedName, h, templateName_append, Content.slug, toList_append_html,
    String.ofList_inj] at heq
  have hsame : (Content.slugLetters (dropEndings (Text.trimStart stem.toList))).length =
      (Content.slugLetters (stem.toList ++ ending)).length := by
    rw [Content.slugLetters, heq]
    rfl
  have hstem : stem.toList.takeWhile Text.isBlank ++ Text.trimStart stem.toList = stem.toList :=
    List.takeWhile_append_dropWhile
  have hfewer : (Content.slugLetters (Text.trimStart stem.toList)).length ≤
      (Content.slugLetters stem.toList).length := by
    conv_rhs => rw [← hstem, Content.slugLetters_append, List.length_append]
    omega
  have hending : (Content.slugLetters ending).length = 4 := by decide
  have hle := length_slugLetters_dropEndings (Text.trimStart stem.toList)
  rw [Content.slugLetters_append, List.length_append, hending] at hsame
  omega

/-- Neither with the second ending nor without it is such a path a request for its template. -/
theorem requestedName_two_endings (stem : String) :
    requestedName (stem ++ ".html" ++ ".html") ≠ templateName (stem ++ ".html" ++ ".html") ∧
      requestedName (stem ++ ".html") ≠ templateName (stem ++ ".html" ++ ".html") := by
  constructor <;> refine requestedName_ne ?_
  · rw [toList_append_html, toList_append_html, trim_append_ending, trimStart_append_ending,
      dropEndings_append_ending, dropEndings_append_ending]
  · rw [toList_append_html, trim_append_ending, dropEndings_append_ending]

end TwoEndings

end Template

end StaticSite
