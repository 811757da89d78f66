/-
Lists of tags.

A list of tags is in normal form when its tags are distinct and none of them is empty, has a blank
at an end or holds a comma (`IsTagList`).  Main statement: a text is read as such a list, of what
stands between its commas in the order of first occurrence, and the lists that are read back from
the text that shows them are just those in normal form (`splitTags_normal_form`).
-/
import StaticSite.Content.Document
import StaticSite.Proofs.Content.FrontMatter
import StaticSite.Proofs.OrderedMap

namespace StaticSite

/-! ## Pieces of a text -/

namespace Text

/-- The text is made of the pieces with the separator between them, which no piece holds. -/
structure ArePieces (c : Char) (text : String) (pieces : List String) : Prop where
  ne_nil : pieces ≠ []
  no_separator : ∀ piece ∈ pieces, c ∉ piece.toList
  intercalate : (String.singleton c).intercalate pieces = text

theorem ArePieces.splitOn_eq {c : Char} {text : String} {pieces : List String}
    (h : ArePieces c text pieces) : splitOn c text.toList = pieces.map String.toList := by
  rw [← h.intercalate]
  exact splitOn_intercalate (String.toList_singleton c) h.no_separator h.ne_nil

theorem arePieces_splitOn (c : Char) (text : String) :
    ArePieces c text ((splitOn c text.toList).map String.ofList) where
  ne_nil := by simpa using splitOn_ne_nil c text.toList
  no_separator := by
    intro piece hpiece
    obtain ⟨cs, hcs, rfl⟩ := List.mem_map.mp hpiece
    rw [String.toList_ofList]
    exact not_mem_of_mem_splitOn hcs
  intercalate := by
    rw [← String.toList_inj, String.toList_intercalate, String.toList_singleton, List.map_map]
    have hmap : (splitOn c text.toList).map (String.toList ∘ String.ofList) =
        splitOn c text.toList :=
      (List.map_congr_left fun cs _ => String.toList_ofList).trans (List.map_id _)
    rw [hmap]
    exact joinWith_splitOn c text.toList

end Text

namespace Content

/-! ## Adding tags -/

section Adding

variable {tags pieces : List String} {tag : String}

theorem addTag_of_skipped (h : tag = "" ∨ tag ∈ tags) : addTag tags tag = tags := by
  unfold addTag
  rw [if_pos (by simpa using h)]

theorem addTag_of_new (hne : tag ≠ "") (hnew : tag ∉ tags) : addTag tags tag = tags ++ [tag] := by
  simp [addTag, hne, hnew]

/-- The tags are all pieces but the empty one, in the order of their first occurrence. -/
structure ListsTags (tags pieces : List String) : Prop where
  mem_iff : ∀ tag, tag ∈ tags ↔ tag ∈ pieces ∧ tag ≠ ""
  order : tags.Pairwise fun a b => pieces.idxOf a < pieces.idxOf b

theorem listsTags_nil : ListsTags [] [] where
  mem_iff tag := by simp
  order := .nil

/-- Adding a tag takes one more piece into account. -/
theorem ListsTags.addTag (h : ListsTags tags pieces) (piece : String) :
    ListsTags (addTag tags piece) (pieces ++ [piece]) := by
  have hsub : ∀ tag ∈ tags, tag ∈ pieces := by
    intro tag htag
    exact ((h.mem_iff tag).mp htag).1
  by_cases hskip : piece = "" ∨ piece ∈ tags
  · rw [addTag_of_skipped hskip]
    refine ⟨?_, OrderedMap.pairwise_idxOf_concat h.order hsub piece⟩
    intro tag
    rw [h.mem_iff, List.mem_append, List.mem_singleton]
    constructor
    · rintro ⟨hmem, hne⟩
      exact ⟨.inl hmem, hne⟩
    · rintro ⟨hmem | rfl, hne⟩
      · exact ⟨hmem, hne⟩
      · exact (h.mem_iff tag).mp (hskip.resolve_left hne)
  · obtain ⟨hne, hnew⟩ := not_or.mp hskip
    have hnew' : piece ∉ pieces := by
      intro hmem
      exact hnew ((h.mem_iff piece).mpr ⟨hmem, hne⟩)
    rw [addTag_of_new hne hnew]
    refine ⟨?_, OrderedMap.pairwise_idxOf_concat_new h.order hsub hnew'⟩
    intro tag
    rw [List.mem_append, List.mem_append, List.mem_singleton, h.mem_iff, or_and_right]
    exact or_congr_right ⟨fun heq => ⟨heq, heq ▸ hne⟩, And.left⟩

theorem ListsTags.foldl_addTag (h : ListsTags tags pieces) (more : List String) :
    ListsTags (more.foldl Content.addTag tags) (pieces ++ more) := by
  apply OrderedMap.foldl_keeps _ h more
  intro tags pieces piece htags
  exact htags.addTag piece

/-- Distinct tags of which none is empty are all added. -/
theorem foldl_addTag_of_nodup {more : List String} (h : (tags ++ more).Nodup)
    (hne : ∀ tag ∈ more, tag ≠ "") : more.foldl addTag tags = tags ++ more := by
  induction more generalizing tags with
  | nil => exact (List.append_nil tags).symm
  | cons tag more ih =>
      obtain ⟨htag, hmore⟩ := List.forall_mem_cons.mp hne
      have hnew : tag ∉ tags := by
        intro hmem
        exact List.disjoint_of_nodup_append h hmem List.mem_cons_self
      have happend : tags ++ tag :: more = tags ++ [tag] ++ more := by simp
      rw [happend] at h ⊢
      rw [List.foldl_cons, addTag_of_new htag hnew, ih h hmore]

end Adding

/-! ## The normal form -/

/-- A tag as reading leaves it. -/
structure IsTag (tag : String) : Prop where
  ne_empty : tag ≠ ""
  trimmed : Text.trimmed tag = tag
  no_comma : ',' ∉ tag.toList

/-- The tags are distinct, and each is as reading leaves it. -/
structure IsTagList (tags : List String) : Prop where
  nodup : tags.Nodup
  isTag : ∀ tag ∈ tags, IsTag tag

section NormalForm

variable {value : String} {tags pieces : List String}

theorem trimmed_space {tag : String} (h : Text.trimmed tag = tag) :
    Text.trimmed (" " ++ tag) = tag := by
  rw [← String.toList_inj, Text.toList_trimmed, String.toList_append]
  exact Text.trim_space_of_trim_eq_self (trim_of_trimmed h)

theorem splitTags_eq (h : Text.ArePieces ',' value pieces) :
    splitTags value = (pieces.map Text.trimmed).foldl addTag [] := by
  rw [splitTags, h.splitOn_eq, List.map_map]
  rfl

theorem listsTags_splitTags (h : Text.ArePieces ',' value pieces) :
    ListsTags (splitTags value) (pieces.map Text.trimmed) := by
  rw [splitTags_eq h]
  exact listsTags_nil.foldl_addTag (pieces.map Text.trimmed)

theorem isTagList_splitTags (value : String) : IsTagList (splitTags value) := by
  have hpieces := Text.arePieces_splitOn ',' value
  have hlists := listsTags_splitTags hpieces
  refine ⟨OrderedMap.nodup_of_pairwise_idxOf hlists.order, ?_⟩
  intro tag htag
  obtain ⟨hmem, hne⟩ := (hlists.mem_iff tag).mp htag
  obtain ⟨piece, hpiece, rfl⟩ := List.mem_map.mp hmem
  refine ⟨hne, Text.trimmed_trimmed piece, ?_⟩
  intro hcomma
  rw [Text.toList_trimmed] at hcomma
  exact hpieces.no_separator piece hpiece (Text.trim_subset _ hcomma)

/-- Where a comma and a space stand between tags, there are commas between the first tag and the
others with a space before each. -/
theorem intercalate_comma_space (tag : String) (rest : List String) :
    ", ".intercalate (tag :: rest) = ",".intercalate (tag :: rest.map (" " ++ ·)) := by
  induction rest generalizing tag with
  | nil => rfl
  | cons second rest ih =>
      calc ", ".intercalate (tag :: second :: rest)
          = tag ++ ", " ++ ", ".intercalate (second :: rest) := String.intercalate_cons_cons
        _ = tag ++ ("," ++ " ") ++ ",".intercalate (second :: rest.map (" " ++ ·)) := by
          rw [ih second]
          rfl
        _ = tag ++ "," ++ ",".intercalate ((" " ++ second) :: rest.map (" " ++ ·)) := by
          rw [String.intercalate_cons_append, String.append_assoc, String.append_assoc,
            String.append_assoc]
        _ = ",".intercalate (tag :: (second :: rest).map (" " ++ ·)) := by
          rw [List.map_cons, String.intercalate_cons_cons]

/-- Tags in normal form are read back from the text that shows them. -/
theorem splitTags_intercalate (h : IsTagList tags) : splitTags (", ".intercalate tags) = tags := by
  cases tags with
  | nil => decide +kernel
  | cons tag rest =>
      have hpieces : Text.ArePieces ',' (", ".intercalate (tag :: rest))
          (tag :: rest.map (" " ++ ·)) := by
        refine ⟨List.cons_ne_nil _ _, ?_, (intercalate_comma_space tag rest).symm⟩
        intro piece hpiece
        rcases List.mem_cons.mp hpiece with rfl | hpiece
        · exact (h.isTag _ List.mem_cons_self).no_comma
        · obtain ⟨other, hother, rfl⟩ := List.mem_map.mp hpiece
          simpa using (h.isTag other (List.mem_cons_of_mem _ hother)).no_comma
      have htrimmed : (tag :: rest.map (" " ++ ·)).map Text.trimmed = tag :: rest := by
        rw [List.map_cons, (h.isTag _ List.mem_cons_self).trimmed, List.map_map]
        refine congrArg (tag :: ·) ((List.map_congr_left ?_).trans (List.map_id rest))
        intro other hother
        exact trimmed_space (h.isTag other (List.mem_cons_of_mem _ hother)).trimmed
      rw [splitTags_eq hpieces, htrimmed]
      apply foldl_addTag_of_nodup h.nodup
      intro other hother
      exact (h.isTag other hother).ne_empty

end NormalForm

/-- A text is read as a list of tags in normal form: of all pieces between its commas that are not
blank, trimmed and in the order of their first occurrence.  Just the lists in normal form are read
back from the text that shows them, which is what the field of a document with these tags holds. -/
theorem splitTags_normal_form (value : String) :
    IsTagList (splitTags value) ∧
      (∃ pieces, Text.ArePieces ',' value pieces ∧
        ListsTags (splitTags value) (pieces.map Text.trimmed)) ∧
      splitTags (", ".intercalate (splitTags value)) = splitTags value ∧
      (∀ tags, splitTags (", ".intercalate tags) = tags ↔ IsTagList tags) ∧
      ∀ d : Document, d.tags = splitTags value →
        d.field "tags" = some (", ".intercalate (splitTags value)) := by
  have hpieces := Text.arePieces_splitOn ',' value
  have hnormal := isTagList_splitTags value
  refine ⟨hnormal, ⟨_, hpieces, listsTags_splitTags hpieces⟩, splitTags_intercalate hnormal, ?_, ?_⟩
  · intro tags
    constructor
    · intro h
      rw [← h]
      exact isTagList_splitTags _
    · exact splitTags_intercalate
  · intro d hd
    rw [← hd]
    rfl

/-- A document whose front matter repeats a tag, leaves others empty and holds wide blanks. -/
def taggedNote : Document :=
  Document.read "tags: b c,\u3000a\t, ,b c,\u00a0,d\n----\n" ⟨"n.md", "n.md", "n", "/n", 0⟩
    .passthrough

theorem splitTags_normal_form_taggedNote :
    taggedNote.tags = splitTags "b c,\u3000a\t, ,b c,\u00a0,d" ∧
      taggedNote.tags = ["b c", "a", "d"] ∧ taggedNote.field "tags" = some "b c, a, d" := by
  have h : taggedNote.tags = splitTags "b c,\u3000a\t, ,b c,\u00a0,d" := by decide +kernel
  have htags : splitTags "b c,\u3000a\t, ,b c,\u00a0,d" = ["b c", "a", "d"] := by decide +kernel
  refine ⟨h, h.trans htags, ?_⟩
  rw [(splitTags_normal_form "b c,\u3000a\t, ,b c,\u00a0,d").2.2.2.2 taggedNote h, htags]
  rfl

end Content

end StaticSite
