/-
Cutting text at a character.

`splitOn` gives all pieces, `splitFirst` and `splitLast` cut once, `lines` and `linesInclusive`
cut at line feeds.  `joinWith` is the inverse of `splitOn`: joining the pieces with the separator
gives the text back.
-/

namespace StaticSite.Text

/-- The pieces between the occurrences of `c`; there is always at least one. -/
def splitOn (c : Char) : List Char → List (List Char)
  | [] => [[]]
  | d :: rest =>
    if d = c then [] :: splitOn c rest
    else match splitOn c rest with
      | [] => [[d]]
      | piece :: pieces => (d :: piece) :: pieces

/-- The pieces with the separator between each two. -/
def joinWith (sep : List Char) (pieces : List (List Char)) : List Char :=
  (pieces.intersperse sep).flatten

/-- Cut at the first occurrence of `c`, which is dropped. -/
def splitFirst (c : Char) : List Char → Option (List Char × List Char)
  | [] => none
  | d :: rest =>
    if d = c then some ([], rest)
    else (splitFirst c rest).map fun (before, after) => (d :: before, after)

/-- Cut at the last occurrence of `c`, which is dropped. -/
def splitLast (c : Char) (cs : List Char) : Option (List Char × List Char) :=
  (splitFirst c cs.reverse).map fun (after, before) => (before.reverse, after.reverse)

/-- What follows the last occurrence of `c`, or the whole text. -/
def lastPiece (c : Char) (cs : List Char) : List Char :=
  match splitLast c cs with
  | some (_, after) => after
  | none => cs

/-- The lines of a text, each with its line feed; the last one may lack it. -/
def linesInclusive : List Char → List (List Char)
  | [] => []
  | c :: rest =>
    if c = '\n' then [c] :: linesInclusive rest
    else match linesInclusive rest with
      | [] => [[c]]
      | line :: lines => (c :: line) :: lines

/-- A line without its line feed, and without one carriage return before it. -/
def dropLineEnd (line : List Char) : List Char :=
  match line.reverse with
  | '\n' :: '\r' :: rest => rest.reverse
  | '\n' :: rest => rest.reverse
  | _ => line

/-- The lines of a text without their ends. -/
def lines (cs : List Char) : List (List Char) := (linesInclusive cs).map dropLineEnd

/-- Replace every occurrence of a character by a text. -/
def replaceChar (c : Char) (image : List Char) (cs : List Char) : List Char :=
  cs.flatMap fun d => if d = c then image else [d]

/-- Does the text contain the other one as a contiguous part? -/
def containsText (part : List Char) : List Char → Bool
  | [] => part.isEmpty
  | c :: rest => part.isPrefixOf (c :: rest) || containsText part rest

/-- The text after a fixed beginning, if it begins so. -/
def afterPrefix? (start cs : List Char) : Option (List Char) := List.isPrefixOf? start cs

/-- The text before a fixed ending, if it ends so. -/
def beforeSuffix? (ending cs : List Char) : Option (List Char) := List.isSuffixOf? ending cs

theorem splitOn_ne_nil (c : Char) (cs : List Char) : splitOn c cs ≠ [] := by
  cases cs with
  | nil => simp [splitOn]
  | cons d rest =>
    unfold splitOn
    split
    · simp
    · split <;> simp

/-- The separator is in no piece. -/
theorem not_mem_of_mem_splitOn {c : Char} {cs piece : List Char} (h : piece ∈ splitOn c cs) :
    c ∉ piece := by
  induction cs generalizing piece with
  | nil => simp_all [splitOn]
  | cons d rest ih =>
    by_cases hd : d = c
    · rw [splitOn, if_pos hd] at h
      rcases List.mem_cons.mp h with rfl | hrest
      · exact List.not_mem_nil
      · exact ih hrest
    · obtain ⟨first, pieces, hpieces⟩ := List.exists_cons_of_ne_nil (splitOn_ne_nil c rest)
      rw [splitOn, if_neg hd, hpieces] at h
      rcases List.mem_cons.mp h with rfl | hlater
      · rw [List.mem_cons, not_or]
        exact ⟨Ne.symm hd, ih (hpieces ▸ List.mem_cons_self)⟩
      · exact ih (hpieces ▸ List.mem_cons_of_mem _ hlater)

/-- The lines of a text are the text. -/
theorem flatten_linesInclusive (cs : List Char) : (linesInclusive cs).flatten = cs := by
  induction cs with
  | nil => rfl
  | cons c rest ih =>
    unfold linesInclusive
    split
    · simp [ih]
    · split
      · rename_i h; rw [h] at ih; simpa using ih
      · rename_i h; rw [h] at ih; simpa using ih

/-- A line is read up to its line feed. -/
theorem linesInclusive_append_feed {line : List Char} (h : '\n' ∉ line) (rest : List Char) :
    linesInclusive (line ++ '\n' :: rest) = (line ++ ['\n']) :: linesInclusive rest := by
  induction line with
  | nil => simp [linesInclusive]
  | cons c line ih =>
    obtain ⟨hc, hline⟩ := List.ne_and_not_mem_of_not_mem_cons h
    rw [List.cons_append, linesInclusive, if_neg (Ne.symm hc), ih hline]
    rfl

/-- A line that ends in no carriage return loses its line feed only. -/
theorem dropLineEnd_append_feed {line : List Char} (h : line.getLast? ≠ some '\r') :
    dropLineEnd (line ++ ['\n']) = line := by
  unfold dropLineEnd
  rw [List.reverse_append, List.reverse_singleton, List.singleton_append]
  split
  · rename_i rest heq
    rw [List.cons.injEq] at heq
    refine absurd ?_ h
    rw [← List.head?_reverse, heq.2]
    rfl
  · rename_i rest _ heq
    rw [List.cons.injEq] at heq
    rw [← heq.2, List.reverse_reverse]
  · rename_i hfeed
    exact absurd rfl (hfeed line.reverse)

/-- A fixed beginning and the text after it are the text. -/
theorem eq_append_of_afterPrefix? {start cs tail : List Char}
    (h : afterPrefix? start cs = some tail) : cs = start ++ tail := by
  unfold afterPrefix? at h
  induction start generalizing cs with
  | nil => cases h; rfl
  | cons c start ih =>
    cases cs with
    | nil => cases h
    | cons d cs =>
      change (if c == d then List.isPrefixOf? start cs else none) = some tail at h
      split at h
      · rename_i hcd
        rw [ih h, eq_of_beq hcd]
        rfl
      · cases h

theorem beforeSuffix?_append_singleton (ending : Char) (cs : List Char) (c : Char) :
    beforeSuffix? [ending] (cs ++ [c]) = if ending = c then some cs else none := by
  change (List.isPrefixOf? [ending] (cs ++ [c]).reverse).map List.reverse = _
  rw [List.reverse_append]
  change (if ending == c then some cs.reverse else none).map List.reverse = _
  by_cases h : ending = c <;> simp [h]

/-- The two sides of a cut and the character between them are the text. -/
theorem eq_append_of_splitFirst {c : Char} {cs before after : List Char}
    (h : splitFirst c cs = some (before, after)) : cs = before ++ c :: after := by
  induction cs generalizing before after with
  | nil => cases h
  | cons d rest ih =>
    unfold splitFirst at h
    split at h
    · rename_i hd
      cases h
      rw [hd]
      rfl
    · cases hr : splitFirst c rest with
      | none => simp [hr] at h
      | some p =>
        simp only [hr, Option.map_some] at h
        cases h
        rw [ih hr]
        rfl

/-- The pieces are those of `List.splitOn`. -/
theorem splitOn_eq (c : Char) (cs : List Char) : splitOn c cs = cs.splitOn c := by
  induction cs with
  | nil => rfl
  | cons d rest ih =>
    rw [List.splitOn_cons_eq_if_modifyHead, splitOn, ih]
    by_cases h : d = c
    · simp [h]
    · rw [if_neg h, if_neg (by simpa using h)]
      cases hr : rest.splitOn c with
      | nil => exact absurd hr (List.splitOn_ne_nil _ _)
      | cons piece pieces => rfl

theorem joinWith_cons_cons (sep first second : List Char) (rest : List (List Char)) :
    joinWith sep (first :: second :: rest) = first ++ (sep ++ joinWith sep (second :: rest)) := rfl

/-- The pieces of a text with the separator between them are the text. -/
theorem joinWith_splitOn (c : Char) (cs : List Char) : joinWith [c] (splitOn c cs) = cs := by
  rw [splitOn_eq]
  exact List.intercalate_splitOn c

/-- Texts without the separator are the pieces of what they make with the separator between them. -/
theorem splitOn_intercalate {c : Char} {sep : String} (hsep : sep.toList = [c])
    {pieces : List String} (h : ∀ piece ∈ pieces, c ∉ piece.toList) (hne : pieces ≠ []) :
    splitOn c (sep.intercalate pieces).toList = pieces.map String.toList := by
  rw [splitOn_eq, String.toList_intercalate, hsep]
  apply List.splitOn_intercalate c
  · intro l hl
    obtain ⟨piece, hpiece, rfl⟩ := List.mem_map.mp hl
    exact h piece hpiece
  · simpa using hne

/-- A text without empty pieces does not begin with the separator. -/
theorem head?_ne_of_splitOn {c : Char} {cs : List Char} (h : [] ∉ splitOn c cs) :
    cs.head? ≠ some c := by
  intro hhead
  obtain ⟨rest, rfl⟩ := List.head?_eq_some_iff.mp hhead
  exact h (by simp [splitOn])

/-- A text without empty pieces does not end with the separator. -/
theorem getLast?_ne_of_splitOn {c : Char} {cs : List Char} (h : [] ∉ splitOn c cs) :
    cs.getLast? ≠ some c := by
  intro hlast
  obtain ⟨before, rfl⟩ := List.getLast?_eq_some_iff.mp hlast
  rw [splitOn_eq, List.splitOn_append_cons_self] at h
  exact h (by simp)

theorem ne_nil_of_splitOn {c : Char} {cs : List Char} (h : [] ∉ splitOn c cs) : cs ≠ [] := by
  rintro rfl
  exact h (by simp [splitOn])

theorem splitFirst_append {c : Char} {before : List Char} (h : c ∉ before) (after : List Char) :
    splitFirst c (before ++ c :: after) = some (before, after) := by
  induction before with
  | nil => simp [splitFirst]
  | cons d before ih =>
    obtain ⟨hd, hbefore⟩ := List.ne_and_not_mem_of_not_mem_cons h
    simp [splitFirst, Ne.symm hd, ih hbefore]

theorem splitFirst_of_not_mem {c : Char} {cs : List Char} (h : c ∉ cs) :
    splitFirst c cs = none := by
  induction cs with
  | nil => rfl
  | cons d cs ih =>
    obtain ⟨hd, hcs⟩ := List.ne_and_not_mem_of_not_mem_cons h
    simp [splitFirst, Ne.symm hd, ih hcs]

theorem not_mem_of_splitFirst_eq_none {c : Char} {cs : List Char} (h : splitFirst c cs = none) :
    c ∉ cs := by
  induction cs with
  | nil => exact List.not_mem_nil
  | cons d cs ih =>
    unfold splitFirst at h
    split at h
    · cases h
    · rename_i hd
      exact List.not_mem_cons_of_ne_of_not_mem (Ne.symm hd) (ih (Option.map_eq_none_iff.mp h))

/-- Another character behind a text changes only what comes after its cut. -/
theorem splitFirst_append_singleton {c d : Char} (h : d ≠ c) (cs : List Char) :
    splitFirst c (cs ++ [d]) =
      (splitFirst c cs).map fun (before, after) => (before, after ++ [d]) := by
  induction cs with
  | nil => simp [splitFirst, h]
  | cons e cs ih =>
    rw [List.cons_append, splitFirst, splitFirst]
    split
    · rfl
    · rw [ih, Option.map_map, Option.map_map]
      rfl

/-- The text is cut at the first occurrence. -/
theorem not_mem_of_splitFirst {c : Char} {cs before after : List Char}
    (h : splitFirst c cs = some (before, after)) : c ∉ before := by
  induction cs generalizing before with
  | nil => cases h
  | cons d rest ih =>
    unfold splitFirst at h
    split at h
    · cases h
      exact List.not_mem_nil
    · rename_i hd
      obtain ⟨⟨before', after'⟩, hrest, heq⟩ := Option.map_eq_some_iff.mp h
      cases heq
      exact List.not_mem_cons_of_ne_of_not_mem (Ne.symm hd) (ih hrest)

/-- The last occurrence has a text before it and one without a further occurrence after it. -/
theorem splitLast_eq_some {c : Char} {cs before after : List Char} :
    splitLast c cs = some (before, after) ↔ cs = before ++ c :: after ∧ c ∉ after := by
  constructor
  · intro h
    obtain ⟨⟨after', before'⟩, hcut, heq⟩ := Option.map_eq_some_iff.mp h
    cases heq
    refine ⟨?_, by simpa using not_mem_of_splitFirst hcut⟩
    rw [← List.reverse_inj, eq_append_of_splitFirst hcut]
    simp
  · rintro ⟨rfl, hafter⟩
    have hcut : splitFirst c (before ++ c :: after).reverse =
        some (after.reverse, before.reverse) := by
      rw [List.reverse_append, List.reverse_cons, List.append_assoc]
      exact splitFirst_append (by simpa using hafter) before.reverse
    rw [splitLast, hcut]
    simp

theorem lastPiece_append {c : Char} {tail : List Char} (h : c ∉ tail) (cs : List Char) :
    lastPiece c (cs ++ c :: tail) = tail := by
  rw [lastPiece, splitLast_eq_some.mpr ⟨rfl, h⟩]

theorem lastPiece_of_not_mem {c : Char} {cs : List Char} (h : c ∉ cs) : lastPiece c cs = cs := by
  rw [lastPiece, splitLast, splitFirst_of_not_mem (by simpa using h)]
  rfl

/-- A text has the separator before its last piece, or is its last piece. -/
theorem lastPiece_cases (c : Char) (cs : List Char) :
    c ∉ lastPiece c cs ∧ (cs = lastPiece c cs ∨ ∃ before, cs = before ++ c :: lastPiece c cs) := by
  cases hcut : splitLast c cs with
  | some cut =>
    obtain ⟨before, after⟩ := cut
    obtain ⟨hcs, hafter⟩ := splitLast_eq_some.mp hcut
    rw [lastPiece, hcut]
    exact ⟨hafter, .inr ⟨before, hcs⟩⟩
  | none =>
    rw [lastPiece, hcut]
    exact ⟨by simpa using not_mem_of_splitFirst_eq_none (Option.map_eq_none_iff.mp hcut), .inl rfl⟩

theorem lastPiece_lastPiece (c : Char) (cs : List Char) :
    lastPiece c (lastPiece c cs) = lastPiece c cs :=
  lastPiece_of_not_mem (lastPiece_cases c cs).1

/-- Separators before a text do not change its last piece. -/
theorem lastPiece_replicate_append (c : Char) (n : Nat) (cs : List Char) :
    lastPiece c (List.replicate n c ++ cs) = lastPiece c cs := by
  obtain ⟨hlast, hall | ⟨before, hbefore⟩⟩ := lastPiece_cases c cs
  · have hcs : c ∉ cs := hall ▸ hlast
    cases n with
    | zero => rfl
    | succ n =>
      rw [List.replicate_succ', List.append_assoc, List.singleton_append, lastPiece_append hcs,
        lastPiece_of_not_mem hcs]
  · generalize lastPiece c cs = last at hlast hbefore ⊢
    rw [hbefore, ← List.append_assoc, lastPiece_append hlast]

end StaticSite.Text
