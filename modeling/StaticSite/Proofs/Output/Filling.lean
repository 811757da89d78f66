/-
Output patterns filled in name by name.

A placeholder holds no slash, and neither does a name or an extension.  So replacing goes on between
slashes (`splitOn_replaceAll`), and a pattern that begins with the folders of a file gives these
folders and then its own names, each filled in, without those that have become empty
(`apply_pathPattern`).  A folder whose name is written like a placeholder is filled in as well.
-/
import Mathlib
import StaticSite.Output
import StaticSite.Proofs.Path.Names

namespace StaticSite.Output

/-! ## Replacing -/

section Replacing

variable {part image cs : List Char} {c : Char}

theorem replaceAll_nil (part image : List Char) : replaceAll part image [] = [] := by
  rw [replaceAll]

/-- A text that begins with the part has it replaced there. -/
theorem replaceAll_append (hpart : part ≠ []) (image rest : List Char) :
    replaceAll part image (part ++ rest) = image ++ replaceAll part image rest := by
  obtain ⟨first, others, rfl⟩ := List.exists_cons_of_ne_nil hpart
  have hafter : Text.afterPrefix? (first :: others) (first :: (others ++ rest)) = some rest :=
    List.isPrefixOf?_eq_some_iff_append_eq.mpr rfl
  rw [List.cons_append, replaceAll.eq_2 _ _ _ _ _ rest hafter, List.length_cons,
    Nat.add_sub_cancel, List.drop_left]

theorem replaceAll_self (hpart : part ≠ []) (image : List Char) :
    replaceAll part image part = image := by
  have h := replaceAll_append hpart image []
  rwa [replaceAll_nil, List.append_nil, List.append_nil] at h

/-- A text that does not begin with the part keeps its first character. -/
theorem replaceAll_cons (h : ¬ part <+: c :: cs) :
    replaceAll part image (c :: cs) = c :: replaceAll part image cs := by
  refine replaceAll.eq_3 image c cs part fun _ _ rest _ hrest => h ⟨rest, ?_⟩
  exact List.isPrefixOf?_eq_some_iff_append_eq.mp hrest

/-- What holds of the empty text and is kept by putting the part, or a character with which no part
begins, before a text holds of every text. -/
theorem replace_induction {motive : List Char → Prop} (hpart : part ≠ []) (nil : motive [])
    (append : ∀ rest, motive rest → motive (part ++ rest))
    (cons : ∀ c rest, ¬ part <+: c :: rest → motive rest → motive (c :: rest)) :
    ∀ cs, motive cs := by
  intro cs
  induction hlength : cs.length using Nat.strongRecOn generalizing cs with
  | _ length ih =>
      cases cs with
      | nil => exact nil
      | cons c rest =>
          by_cases hbegins : part <+: c :: rest
          · obtain ⟨after, hafter⟩ := hbegins
            have hlt : after.length < length := by
              have hpos := List.length_pos_iff.mpr hpart
              rw [← hlength, ← hafter, List.length_append]
              omega
            rw [← hafter]
            exact append after (ih _ hlt after rfl)
          · refine cons c rest hbegins (ih _ ?_ rest rfl)
            rw [← hlength, List.length_cons]
            omega

/-- A text without the part stays as it is. -/
theorem replaceAll_eq_self (h : ¬ part <:+: cs) : replaceAll part image cs = cs := by
  induction cs with
  | nil => exact replaceAll_nil part image
  | cons c cs ih =>
      rw [replaceAll_cons fun hbegins => h hbegins.isInfix,
        ih fun hwithin => h (hwithin.trans (List.suffix_cons c cs).isInfix)]

/-- A text is left as it is or holds the image. -/
theorem replaceAll_eq_self_or_subset (hpart : part ≠ []) (image cs : List Char) :
    replaceAll part image cs = cs ∨ image ⊆ replaceAll part image cs := by
  induction cs using replace_induction hpart with
  | nil => exact .inl (replaceAll_nil part image)
  | append rest _ =>
      rw [replaceAll_append hpart]
      exact .inr (List.subset_append_left _ _)
  | cons c rest hbegins ih =>
      rw [replaceAll_cons hbegins]
      exact ih.imp (congrArg (c :: ·)) fun hsubset => List.subset_cons_of_subset c hsubset

theorem not_mem_replaceAll (hpart : part ≠ []) (himage : c ∉ image) (hcs : c ∉ cs) :
    c ∉ replaceAll part image cs := by
  induction cs using replace_induction hpart with
  | nil => rwa [replaceAll_nil]
  | append rest ih =>
      rw [replaceAll_append hpart, List.mem_append, not_or]
      exact ⟨himage, ih fun hmem => hcs (List.mem_append_right part hmem)⟩
  | cons d rest hbegins ih =>
      obtain ⟨hd, hrest⟩ := List.ne_and_not_mem_of_not_mem_cons hcs
      rw [replaceAll_cons hbegins]
      exact List.not_mem_cons_of_ne_of_not_mem hd (ih hrest)

/-- What begins a text ends before a character that it does not hold. -/
theorem prefix_of_append_cons (hc : c ∉ part) (cs : List Char) {rest : List Char}
    (h : part <+: cs ++ c :: rest) : part <+: cs := by
  have hupto : cs ++ [c] <+: cs ++ c :: rest := ⟨rest, by simp⟩
  rcases List.prefix_or_prefix_of_prefix h hupto with hshort | hlong
  · rcases List.prefix_concat_iff.mp hshort with rfl | hbegins
    · simp at hc
    · exact hbegins
  · exact absurd (hlong.subset (by simp)) hc

/-- Replacing goes on for itself on the two sides of a character that the part does not hold. -/
theorem replaceAll_append_cons (hpart : part ≠ []) (hc : c ∉ part) (image before rest : List Char) :
    replaceAll part image (before ++ c :: rest) =
      replaceAll part image before ++ c :: replaceAll part image rest := by
  induction before using replace_induction hpart with
  | nil =>
      have hnot : ¬ part <+: c :: rest := fun hbegins =>
        hpart (List.prefix_nil.mp (prefix_of_append_cons hc [] hbegins))
      rw [List.nil_append, replaceAll_cons hnot, replaceAll_nil, List.nil_append]
  | append between ih =>
      rw [List.append_assoc, replaceAll_append hpart, ih, replaceAll_append hpart,
        List.append_assoc]
  | cons d between hbegins ih =>
      have hnot : ¬ part <+: d :: (between ++ c :: rest) := fun hlong =>
        hbegins (prefix_of_append_cons hc (d :: between) hlong)
      rw [List.cons_append, replaceAll_cons hnot, ih, replaceAll_cons hbegins, List.cons_append]

theorem replaceAll_intercalate (hpart : part ≠ []) (hc : c ∉ part) (image : List Char)
    (pieces : List (List Char)) :
    replaceAll part image ([c].intercalate pieces) =
      [c].intercalate (pieces.map (replaceAll part image)) := by
  induction pieces with
  | nil => exact replaceAll_nil part image
  | cons piece pieces ih =>
      by_cases hnil : pieces = []
      · simp [hnil]
      · rw [List.intercalate_cons_of_ne_nil hnil, List.map_cons,
          List.intercalate_cons_of_ne_nil (by simpa using hnil), List.append_assoc,
          List.singleton_append, replaceAll_append_cons hpart hc, ih]
        simp

/-- What a text ends with afterwards, it has ended with before, if this shares no character with the
image. -/
theorem suffix_of_replaceAll (hpart : part ≠ []) (himage : image ≠ []) {tail : List Char}
    (hapart : ∀ c ∈ image, c ∉ tail) (h : tail <:+ replaceAll part image cs) : tail <:+ cs := by
  obtain ⟨shared, hshared⟩ := List.exists_mem_of_ne_nil image himage
  induction cs using replace_induction hpart with
  | nil => rwa [replaceAll_nil] at h
  | append rest ih =>
      rw [replaceAll_append hpart] at h
      have hrest : replaceAll part image rest <:+ image ++ replaceAll part image rest :=
        List.suffix_append _ _
      rcases List.suffix_or_suffix_of_suffix h hrest with hshort | ⟨before, hbefore⟩
      · exact (ih hshort).trans (List.suffix_append _ _)
      · obtain ⟨start, hstart⟩ := h
        rw [← hbefore, ← List.append_assoc, List.append_left_inj] at hstart
        by_cases hnil : before = []
        · rw [hnil, List.nil_append] at hbefore
          exact (ih (hbefore ▸ List.suffix_rfl)).trans (List.suffix_append _ _)
        · -- the end would reach into the image
          obtain ⟨c, hc⟩ := List.exists_mem_of_ne_nil before hnil
          exact absurd (hbefore ▸ List.mem_append_left _ hc)
            (hapart c (hstart ▸ List.mem_append_right _ hc))
  | cons c rest hbegins ih =>
      rw [replaceAll_cons hbegins] at h
      rcases List.suffix_cons_iff.mp h with hall | hshort
      · -- nothing has been replaced in it
        rcases replaceAll_eq_self_or_subset hpart image rest with hsame | hsubset
        · rw [hall, hsame]
        · exact absurd (hall ▸ List.mem_cons_of_mem c (hsubset hshared)) (hapart shared hshared)
      · exact (ih hshort).trans (List.suffix_cons c rest)

/-- Replacing goes on piece by piece. -/
theorem splitOn_replaceAll (hpart : part ≠ []) (hc : c ∉ part) (himage : c ∉ image)
    (cs : List Char) :
    Text.splitOn c (replaceAll part image cs) =
      (Text.splitOn c cs).map (replaceAll part image) := by
  have hcs : [c].intercalate (cs.splitOn c) = cs := List.intercalate_splitOn c
  conv_lhs => rw [← hcs, replaceAll_intercalate hpart hc]
  rw [Text.splitOn_eq, Text.splitOn_eq]
  refine List.splitOn_intercalate c (fun piece hpiece => ?_) (by simp [List.splitOn_ne_nil])
  obtain ⟨piece', hpiece', rfl⟩ := List.mem_map.mp hpiece
  exact not_mem_replaceAll hpart himage
    (Text.not_mem_of_mem_splitOn (Text.splitOn_eq c cs ▸ hpiece'))

end Replacing

/-! ## Names -/

/-- A name with the name and the extension of a file filled in. -/
def fillIn (name ending piece : String) : String :=
  String.ofList (replaceAll "[ext]".toList ending.toList
    (replaceAll "[name]".toList name.toList piece.toList))

/-- Names filled in, without those that are empty then. -/
def filledNames (name ending : String) (names : List String) : List String :=
  (names.map (fillIn name ending)).filter fun n => !n.isEmpty

/-- Is nothing in the name filled in? -/
def HasNoPlaceholder (piece : String) : Prop :=
  ¬ "[name]".toList <:+: piece.toList ∧ ¬ "[ext]".toList <:+: piece.toList

instance (piece : String) : Decidable (HasNoPlaceholder piece) :=
  inferInstanceAs (Decidable (_ ∧ _))

section Names

variable {name ending piece : String}

theorem toList_fillIn (name ending piece : String) :
    (fillIn name ending piece).toList = replaceAll "[ext]".toList ending.toList
      (replaceAll "[name]".toList name.toList piece.toList) := String.toList_ofList

theorem HasNoPlaceholder.fillIn_eq (h : HasNoPlaceholder piece) :
    fillIn name ending piece = piece := by
  rw [fillIn, replaceAll_eq_self h.1, replaceAll_eq_self h.2, String.ofList_toList]

theorem filledNames_of_hasNoPlaceholder {names : List String}
    (h : ∀ n ∈ names, HasNoPlaceholder n) (hne : ∀ n ∈ names, n ≠ "") :
    filledNames name ending names = names := by
  have hmap : names.map (fillIn name ending) = names :=
    (List.map_congr_left fun n hn => (h n hn).fillIn_eq).trans (List.map_id names)
  rw [filledNames, hmap]
  exact List.filter_eq_self.mpr fun n hn => by simpa using hne n hn

theorem filledNames_append (name ending : String) (names names' : List String) :
    filledNames name ending (names ++ names') =
      filledNames name ending names ++ filledNames name ending names' := by
  simp [filledNames]

/-- What is filled in stands before an extension of pages. -/
theorem fillIn_append_html (name ending piece : String) :
    fillIn name ending (piece ++ ".html") = fillIn name ending piece ++ ".html" := by
  have hkeep : ∀ part image before : List Char, part ≠ [] → '.' ∉ part →
      ¬ part <:+: "html".toList →
      replaceAll part image (before ++ '.' :: "html".toList) =
        replaceAll part image before ++ '.' :: "html".toList := by
    intro part image before hpart hdot hhtml
    rw [replaceAll_append_cons hpart hdot, replaceAll_eq_self hhtml]
  have hdot : ∀ s : String, (s ++ ".html").toList = s.toList ++ '.' :: "html".toList := fun s =>
    String.toList_append
  rw [← String.toList_inj, hdot, toList_fillIn, toList_fillIn, hdot,
    hkeep _ _ _ (by decide) (by decide) (by decide),
    hkeep _ _ _ (by decide) (by decide) (by decide)]

theorem fillIn_name_ext (name ending : String) :
    fillIn name ending "[name].[ext]" =
      String.ofList (replaceAll "[ext]".toList ending.toList name.toList) ++ "." ++ ending := by
  have hpattern : "[name].[ext]".toList = "[name]".toList ++ '.' :: "[ext]".toList := by decide
  have hname : replaceAll "[name]".toList name.toList "[name].[ext]".toList =
      name.toList ++ '.' :: "[ext]".toList := by
    rw [hpattern, replaceAll_append_cons (by decide) (by decide), replaceAll_self (by decide),
      replaceAll_eq_self (by decide)]
  rw [← String.toList_inj, toList_fillIn, hname, replaceAll_append_cons (by decide) (by decide),
    replaceAll_self (by decide)]
  simp

theorem filledNames_singleton (h : fillIn name ending piece ≠ "") :
    filledNames name ending [piece] = [fillIn name ending piece] := by
  simp [filledNames, h]

theorem filledNames_append_html (name ending : String) (names : List String) (piece : String) :
    filledNames name ending (names ++ [piece ++ ".html"]) =
      filledNames name ending names ++ [fillIn name ending piece ++ ".html"] := by
  rw [filledNames_append, filledNames_singleton, fillIn_append_html]
  rw [fillIn_append_html]
  simp

theorem not_mem_fillIn {c : Char} (hname : c ∉ name.toList) (hending : c ∉ ending.toList)
    (hpiece : c ∉ piece.toList) : c ∉ (fillIn name ending piece).toList := by
  rw [toList_fillIn]
  exact not_mem_replaceAll (by decide) hending (not_mem_replaceAll (by decide) hname hpiece)

theorem fillIn_name (h : HasNoPlaceholder name) : fillIn name ending "[name]" = name := by
  rw [← String.toList_inj, toList_fillIn, replaceAll_self (by decide), replaceAll_eq_self h.2]

/-- A name that is filled in holds the name or the extension, unless it stays as it is. -/
theorem fillIn_eq_or_subset (name ending piece : String) :
    fillIn name ending piece = piece ∨ name.toList ⊆ (fillIn name ending piece).toList ∨
      ending.toList ⊆ (fillIn name ending piece).toList := by
  have hname : "[name]".toList ≠ [] := by decide
  have hext : "[ext]".toList ≠ [] := by decide
  rw [← String.toList_inj, toList_fillIn]
  rcases replaceAll_eq_self_or_subset hext ending.toList
    (replaceAll "[name]".toList name.toList piece.toList) with hsame | hsubset
  · rw [hsame]
    exact (replaceAll_eq_self_or_subset hname name.toList piece.toList).imp id .inl
  · exact .inr (.inr hsubset)

/-- A text that can be filled in: it holds no slash, and something but dots. -/
structure IsFilling (text : String) : Prop where
  no_slash : '/' ∉ text.toList
  has_letter : ∃ c ∈ text.toList, c ≠ '.'

theorem isName_fillIn (hname : IsFilling name) (hending : IsFilling ending)
    (hpiece : Path.IsName piece) : Path.IsName (fillIn name ending piece) := by
  rcases fillIn_eq_or_subset name ending piece with hsame | hsubset
  · rwa [hsame]
  · obtain ⟨c, hmem, hc⟩ : ∃ c ∈ (fillIn name ending piece).toList, c ≠ '.' := by
      rcases hsubset with hsubset | hsubset
      · obtain ⟨c, hmem, hc⟩ := hname.has_letter
        exact ⟨c, hsubset hmem, hc⟩
      · obtain ⟨c, hmem, hc⟩ := hending.has_letter
        exact ⟨c, hsubset hmem, hc⟩
    refine ⟨List.ne_nil_of_mem hmem,
      not_mem_fillIn hname.no_slash hending.no_slash hpiece.no_slash, ?_, ?_⟩ <;>
    · intro hdots
      rw [hdots] at hmem
      simp [hc] at hmem

theorem mem_filledNames {names : List String} {n : String} :
    n ∈ filledNames name ending names ↔ n ≠ "" ∧ ∃ piece ∈ names, fillIn name ending piece = n := by
  simp [filledNames, and_comm]

end Names

/-! ## Patterns -/

/-- The pattern that begins with the folders of a file and goes on with names. -/
def pathPattern (tail : List String) : String := "[path]/" ++ "/".intercalate tail

/-- Names without placeholders for folders. -/
structure IsTail (tail : List String) : Prop where
  ne_nil : tail ≠ []
  isName : ∀ n ∈ tail, Path.IsName n
  no_folder : ¬ "[path:".toList <:+: (pathPattern tail).toList
  no_path : ¬ "[path]".toList <:+: '/' :: ("/".intercalate tail).toList

instance (tail : List String) : Decidable (IsTail tail) :=
  decidable_of_iff
    (tail ≠ [] ∧ (∀ n ∈ tail, Path.IsName n) ∧
      ¬ "[path:".toList <:+: (pathPattern tail).toList ∧
      ¬ "[path]".toList <:+: '/' :: ("/".intercalate tail).toList)
    ⟨fun ⟨h₁, h₂, h₃, h₄⟩ => ⟨h₁, h₂, h₃, h₄⟩, fun h => ⟨h.1, h.2, h.3, h.4⟩⟩

theorem isTail_folder : IsTail ["[name]", "index.html"] := by
  decide

theorem isTail_file : IsTail ["[name].html"] := by
  decide

theorem isTail_asset : IsTail ["[name].[ext]"] := by
  decide

theorem folderPattern_eq : folderPattern = pathPattern ["[name]", "index.html"] :=
  rfl

theorem filePattern_eq : filePattern = pathPattern ["[name].html"] :=
  rfl

section Patterns

variable {folders tail : List String} {name ending : String}

theorem fillFolders_eq_self {cs : List Char} (h : ¬ "[path:".toList <:+: cs)
    (dirs : List (List Char)) : fillFolders dirs cs = cs := by
  induction cs with
  | nil => rw [fillFolders]
  | cons c cs ih =>
      have hnone : readFolderIndex (c :: cs) = none := by
        unfold readFolderIndex
        split
        · rfl
        · rename_i rest hrest
          exact absurd ⟨[], rest, (Text.eq_append_of_afterPrefix? hrest).symm⟩ h
      rw [fillFolders]
      split
      · rename_i index after hsome
        rw [hnone] at hsome
        cases hsome
      · rw [ih fun hwithin => h (hwithin.trans (List.suffix_cons c cs).isInfix)]

theorem folders_intercalate (h : ∀ n ∈ folders, Path.IsName n) :
    Output.folders ("/".intercalate folders) = folders.map String.toList := by
  by_cases hnil : folders = []
  · rw [hnil]
    decide
  · rw [Output.folders, Path.splitOn_intercalate h hnil, List.filter_eq_self]
    intro piece hpiece
    obtain ⟨n, hn, rfl⟩ := List.mem_map.mp hpiece
    obtain ⟨h₁, -, h₂, h₃⟩ := h n hn
    simp [h₁, h₂, h₃]

theorem splitOn_append_slash (before rest : List Char) :
    Text.splitOn '/' (before ++ '/' :: rest) = Text.splitOn '/' before ++ Text.splitOn '/' rest := by
  rw [Text.splitOn_eq, Text.splitOn_eq, Text.splitOn_eq, List.splitOn_append_cons_self]

/-- The pattern with its folders, before names and extensions are filled in. -/
theorem replaceAll_path (htail : IsTail tail) (dirs : List (List Char)) (path : List Char) :
    replaceAll "[path]".toList path (fillFolders dirs (pathPattern tail).toList) =
      path ++ '/' :: ("/".intercalate tail).toList := by
  have hpattern : (pathPattern tail).toList =
      "[path]".toList ++ '/' :: ("/".intercalate tail).toList := by
    rw [pathPattern, String.toList_append]
    rfl
  rw [fillFolders_eq_self htail.no_folder, hpattern, replaceAll_append (by decide),
    replaceAll_eq_self htail.no_path]

theorem isEmpty_toList (n : String) : n.toList.isEmpty = n.isEmpty := by
  rw [Bool.eq_iff_iff, List.isEmpty_iff, String.isEmpty_iff, String.toList_eq_nil_iff]

/-- Names with slashes between them are filled in one by one, and what is empty then is dropped. -/
theorem filter_splitOn_intercalate {names : List String} (h : ∀ n ∈ names, Path.IsName n) :
    ((Text.splitOn '/' ("/".intercalate names).toList).map fun piece =>
      (fillIn name ending (String.ofList piece)).toList).filter (fun piece => !piece.isEmpty) =
      (filledNames name ending names).map String.toList := by
  by_cases hnil : names = []
  · subst hnil
    have hempty : fillIn name ending "" = "" := by
      rw [← String.toList_inj, toList_fillIn]
      exact (congrArg _ (replaceAll_nil _ _)).trans (replaceAll_nil _ _)
    simp [Text.splitOn, filledNames, hempty]
  · rw [Path.splitOn_intercalate h hnil, filledNames, List.map_map, List.filter_map,
      List.filter_map, List.map_map]
    simp [Function.comp_def, isEmpty_toList]

/-- The folders of a file and then the names of a pattern, each filled in. -/
theorem apply_pathPattern (htail : IsTail tail) (hfolders : ∀ n ∈ folders, Path.IsName n)
    (hname : '/' ∉ name.toList) (hending : '/' ∉ ending.toList) :
    apply (pathPattern tail) ("/".intercalate folders) name ending =
      "/".intercalate (filledNames name ending (folders ++ tail)) := by
  have hfill : ∀ cs, Text.splitOn '/' (replaceAll "[ext]".toList ending.toList
      (replaceAll "[name]".toList name.toList cs)) =
      (Text.splitOn '/' cs).map fun piece => (fillIn name ending (String.ofList piece)).toList := by
    intro cs
    rw [splitOn_replaceAll (by decide) (by decide) hending,
      splitOn_replaceAll (by decide) (by decide) hname, List.map_map]
    simp [toList_fillIn, Function.comp_def]
  have hjoin : Text.joinWith ['/'] (folders.map String.toList) =
      ("/".intercalate folders).toList := by
    rw [String.toList_intercalate]
    rfl
  unfold apply
  dsimp only
  rw [folders_intercalate hfolders, replaceAll_path htail, tidy, hfill, splitOn_append_slash,
    List.map_append, List.filter_append, hjoin, filter_splitOn_intercalate hfolders,
    filter_splitOn_intercalate htail.isName, ← List.map_append, ← filledNames_append,
    ← String.toList_inj, String.toList_ofList, String.toList_intercalate]
  rfl

end Patterns

end StaticSite.Output
