/-
Titles made of slugs.

The title of a slug is the slug with a space for every hyphen and capitals at the beginnings of
words.  Small letters undo the capitals of every word, small words and the first one included
(`flatMap_lower_titleWords`), so that the small letters of the title are the words of the slug again
(`flatMap_lower_titleOfSlug`).  Main statement: the slug of the title of a slug is this slug, and so
it is with slugs only (`slug_titleOfSlug_slug`).
-/
import StaticSite.Content.Document
import StaticSite.Proofs.Content.Slug

namespace StaticSite

/-! ## Words in a text -/

namespace Text

/-- A text that is written anew character by character is written anew word by word. -/
theorem flatMap_joinWith (f : Char → List Char) (sep : List Char) (pieces : List (List Char)) :
    (joinWith sep pieces).flatMap f =
      joinWith (sep.flatMap f) (pieces.map fun piece => piece.flatMap f) := by
  induction pieces with
  | nil => rfl
  | cons piece pieces ih =>
      cases pieces with
      | nil => simp [joinWith]
      | cons second rest =>
          rw [List.map_cons] at ih
          rw [joinWith_cons_cons, List.flatMap_append, List.flatMap_append, ih, List.map_cons,
            List.map_cons, joinWith_cons_cons]

theorem subset_joinWith (sep : List Char) {piece : List Char} {pieces : List (List Char)}
    (h : piece ∈ pieces) : piece ⊆ joinWith sep pieces := by
  induction pieces with
  | nil => cases h
  | cons first rest ih =>
      cases rest with
      | nil =>
          rw [List.mem_singleton.mp h]
          simp [joinWith]
      | cons second rest =>
          intro c hc
          rw [joinWith_cons_cons, List.mem_append, List.mem_append]
          rcases List.mem_cons.mp h with rfl | hrest
          · exact .inl hc
          · exact .inr (.inr (ih hrest hc))

/-- A text of small letters is left as it is.  A capital sigma, which has two small forms, is the
only character that looks at the text around it. -/
theorem lowercaseAfter_eq_self {cs : List Char} (h : ∀ c ∈ cs, c ≠ 'Σ' ∧ lower c = [c])
    (before : List Char) : lowercaseAfter before cs = cs := by
  induction cs generalizing before with
  | nil => rfl
  | cons c rest ih =>
      obtain ⟨⟨hsigma, hlower⟩, hrest⟩ := List.forall_mem_cons.mp h
      rw [lowercaseAfter, if_neg hsigma, hlower, ih hrest]
      rfl

theorem replaceChar_eq_map (c d : Char) (cs : List Char) :
    replaceChar c [d] cs = cs.map fun e => if e = c then d else e := by
  induction cs with
  | nil => rfl
  | cons e rest ih =>
      rw [replaceChar, List.flatMap_cons, List.map_cons, ← ih]
      split <;> rfl

end Text

namespace Content

/-! ## Capitals -/

/-- The small form of a capital is the letter that the capital was made of. -/
theorem flatMap_lower_upper {c : Char} (h : isSlugChar c = true) :
    (Text.upper c).flatMap Text.lower = [c] := by
  have hcode := toNat_of_isSlugChar h
  have hcapital : c.toUpper.toNat < 0x80 := by
    by_cases hlower : c.isLower = true
    · rw [Char.toUpper_eq_of_isLower hlower, Char.toNat_ofNat]
      split <;> omega
    · rw [Char.toUpper_eq_of_not_isLower hlower]
      omega
  have hsmall : Text.lower c = [c.toLower] := if_pos (by omega)
  rw [Text.upper, if_pos (by omega), List.flatMap_singleton, Text.lower, if_pos hcapital,
    Char.toLower_toUpper_eq_toLower, ← hsmall, lower_of_isSlugChar h]

/-- The word consists of small letters and digits. -/
def IsSlugWord (word : List Char) : Prop := ∀ c ∈ word, isSlugChar c = true

section Words

variable {word : List Char}

theorem flatMap_lower_word (h : IsSlugWord word) : word.flatMap Text.lower = word :=
  (List.flatMap_congr fun c hc => lower_of_isSlugChar (h c hc)).trans (List.flatMap_singleton' word)

theorem flatMap_lower_capitalize (h : IsSlugWord word) :
    (capitalize word).flatMap Text.lower = word := by
  cases word with
  | nil => rfl
  | cons c rest =>
      obtain ⟨hc, hrest⟩ := List.forall_mem_cons.mp h
      rw [capitalize, List.flatMap_append, flatMap_lower_upper hc, flatMap_lower_word hrest]
      rfl

theorem flatMap_lower_laterTitleWord (h : IsSlugWord word) :
    (laterTitleWord word).flatMap Text.lower = word := by
  unfold laterTitleWord
  split
  · exact flatMap_lower_word h
  · exact flatMap_lower_capitalize h

/-- The small letters of a title are the words that it was made of. -/
theorem flatMap_lower_titleWords {words : List (List Char)} (h : ∀ word ∈ words, IsSlugWord word) :
    ((titleWords words).map fun word => word.flatMap Text.lower) = words := by
  cases words with
  | nil => rfl
  | cons first rest =>
      obtain ⟨hfirst, hrest⟩ := List.forall_mem_cons.mp h
      rw [titleWords, List.map_cons, flatMap_lower_capitalize hfirst, List.map_map]
      refine congrArg (first :: ·) ((List.map_congr_left fun word hword => ?_).trans
        (List.map_id rest))
      exact flatMap_lower_laterTitleWord (hrest word hword)

end Words

/-! ## Titles -/

section Titles

variable {cs : List Char}

theorem mem_spaced (h : IsSlug cs) {c : Char} (hc : c ∈ Text.replaceChar '-' [' '] cs) :
    c = ' ' ∨ isSlugChar c = true := by
  rw [Text.replaceChar_eq_map] at hc
  obtain ⟨d, hd, rfl⟩ := List.mem_map.mp hc
  split
  · exact .inl rfl
  · exact .inr (h.chars d hd)

theorem isSlugWord_of_mem_splitOn (h : IsSlug cs) {word : List Char}
    (hword : word ∈ Text.splitOn ' ' (Text.replaceChar '-' [' '] cs)) : IsSlugWord word := by
  intro c hc
  have hall : c ∈ Text.replaceChar '-' [' '] cs := by
    rw [← Text.joinWith_splitOn ' ' (Text.replaceChar '-' [' '] cs)]
    exact Text.subset_joinWith [' '] hword hc
  refine (mem_spaced h hall).resolve_left fun heq => ?_
  exact Text.not_mem_of_mem_splitOn hword (heq ▸ hc)

theorem lowercase_spaced (h : IsSlug cs) :
    Text.lowercase (Text.replaceChar '-' [' '] cs) = Text.replaceChar '-' [' '] cs := by
  refine Text.lowercaseAfter_eq_self (fun c hc => ?_) []
  rcases mem_spaced h hc with rfl | hchar
  · exact ⟨by decide, by decide⟩
  · refine ⟨fun hsigma => ?_, lower_of_isSlugChar hchar⟩
    rw [hsigma] at hchar
    exact absurd hchar (by decide)

/-- The small letters of the title of a slug are the slug with spaces for hyphens. -/
theorem flatMap_lower_titleOfSlug {t : String} (h : IsSlug t.toList) :
    (titleOfSlug t).toList.flatMap Text.lower = Text.replaceChar '-' [' '] t.toList := by
  have hwords : ∀ word ∈ Text.splitOn ' ' (Text.replaceChar '-' [' '] t.toList),
      IsSlugWord word := fun word => isSlugWord_of_mem_splitOn h
  have hspace : [' '].flatMap Text.lower = [' '] := by decide
  rw [titleOfSlug, titleCase, String.toList_ofList, String.toList_ofList, lowercase_spaced h,
    Text.flatMap_joinWith, flatMap_lower_titleWords hwords, hspace, Text.joinWith_splitOn]

/-- A hyphen is what a slug has in the place of a space. -/
theorem map_separator_spaced (h : IsSlug cs) :
    (Text.replaceChar '-' [' '] cs).map (fun c => if isSlugSeparator c then '-' else c) = cs := by
  rw [Text.replaceChar_eq_map, List.map_map]
  refine (List.map_congr_left fun c hc => ?_).trans (List.map_id cs)
  dsimp only [Function.comp_apply, id]
  by_cases hhyphen : c = '-'
  · rw [if_pos hhyphen, hhyphen]
    decide
  · rw [if_neg hhyphen, isSlugSeparator_of_isSlugChar (h.chars c hc), if_neg Bool.false_ne_true]

theorem slug_titleOfSlug {t : String} (h : IsSlugText t) : slug (titleOfSlug t) = t := by
  have hslug : IsSlug t.toList := isSlug_toList_iff.mpr h
  rw [slug, slugChars, flatMap_lower_titleOfSlug hslug, map_separator_spaced hslug,
    List.filter_eq_self.mpr hslug.chars, squeezeHyphens_eq_self hslug.single, String.ofList_toList]

/-- A document whose front matter gives no title has a title that its slug can be read from. -/
theorem slug_title_read (source : String) (location : Location) (renderer : Renderer)
    (h : (FrontMatter.read source).metadata.get? "title" = none) :
    slug (Document.read source location renderer).title =
      (Document.read source location renderer).slug := by
  have htitle : (Document.read source location renderer).title =
      titleOfSlug (slugOfPath location.path) := by
    dsimp only [Document.read]
    rw [h, Option.getD_none]
  rw [htitle]
  exact slug_titleOfSlug (isSlugText_slug _)

/-- So it is with the document that an asset is listed as. -/
theorem slug_title_toDocument (a : Asset) : slug a.toDocument.title = a.toDocument.slug :=
  slug_titleOfSlug (isSlugText_slug _)

/-- The title of a slug has this slug, whichever words, digits and hyphens the slug consists of; and
a text is the slug of the title that is made of it only if it is a slug. -/
theorem slug_titleOfSlug_slug (s : String) :
    slug (titleOfSlug (slug s)) = slug s ∧ (slug (titleOfSlug s) = s ↔ IsSlugText s) := by
  refine ⟨slug_titleOfSlug (isSlugText_slug s), ?_, slug_titleOfSlug⟩
  intro h
  rw [← h]
  exact isSlugText_slug (titleOfSlug s)

end Titles

end Content

end StaticSite
