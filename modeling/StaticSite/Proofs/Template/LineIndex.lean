/-
Lines and columns found by a search among the beginnings of lines.

The offsets at which the lines of a text begin are kept in a list.  The line of an offset is found in
it by halving (`partitionPoint`), and the column by counting the characters from the beginning of the
line up to the offset, or the bytes where the offset stands inside a character
(`Position.bySearch?`).  An entry that is not there and a beginning behind the offset would let the
search fail, and nothing does (`Position.bySearch?_eq`).

Main statement: the search gives the position of every offset, an offset between characters has the
line and the column that the text before it tells, these grow with the offset, and an offset beyond
the end stands for the end (`locate_lines_and_columns`).
-/
import Mathlib
import StaticSite.Proofs.Template.Places

namespace StaticSite.Template

/-! ## Search by halving -/

/-- The number of entries that pass a test where those that pass come first, found by halving the
stretch between two bounds. -/
def partitionPoint (p : Nat → Bool) (xs : List Nat) (low high : Nat) (h : high ≤ xs.length) : Nat :=
  if _hlow : low < high then
    if p xs[(low + high) / 2] then partitionPoint p xs ((low + high) / 2 + 1) high h
    else partitionPoint p xs low ((low + high) / 2) (by omega)
  else low
termination_by high - low

/-- The point at which the entries that fail begin stays between the bounds. -/
theorem partitionPoint_eq {p : Nat → Bool} {xs passing failing : List Nat} {low high : Nat}
    (hxs : xs = passing ++ failing) (hpassing : ∀ x ∈ passing, p x = true)
    (hfailing : ∀ x ∈ failing, p x = false) (hlow : low ≤ passing.length)
    (hhigh : passing.length ≤ high) (h : high ≤ xs.length) :
    partitionPoint p xs low high h = passing.length := by
  subst hxs
  fun_induction partitionPoint p (passing ++ failing) low high h with
  | case1 low high h hlt hpass ih =>
      refine ih ?_ hhigh
      by_contra hmiddle
      have hle : passing.length ≤ (low + high) / 2 := by omega
      rw [List.getElem_append_right hle, hfailing _ (List.getElem_mem _)] at hpass
      cases hpass
  | case2 low high h hlt hfail ih =>
      refine ih hlow ?_
      by_contra hmiddle
      have hle : (low + high) / 2 < passing.length := by omega
      rw [List.getElem_append_left hle, hpassing _ (List.getElem_mem _)] at hfail
      exact hfail rfl
  | case3 low high h hlt => omega

/-! ## Beginnings of lines -/

/-- The offsets behind the line feeds of a text that begins at an offset. -/
def feedEnds (offset : Nat) : List Char → List Nat
  | [] => []
  | c :: rest =>
    if c = '\n' then (offset + 1) :: feedEnds (offset + 1) rest
    else feedEnds (offset + c.utf8Size) rest

/-- The offsets at which the lines of a text begin. -/
def lineStarts (source : List Char) : List Nat := 0 :: feedEnds 0 source

section FeedEnds

variable {offset x : Nat} {c : Char} {cs : List Char}

theorem feedEnds_append (offset : Nat) (before rest : List Char) :
    feedEnds offset (before ++ rest) =
      feedEnds offset before ++ feedEnds (offset + byteLength before) rest := by
  induction before generalizing offset with
  | nil => rfl
  | cons c before ih =>
      rw [List.cons_append, feedEnds, feedEnds, byteLength_cons, ← Nat.add_assoc]
      split
      · rename_i hc
        rw [ih, utf8Size_of_eq_feed hc, List.cons_append]
      · exact ih _

theorem length_feedEnds (offset : Nat) (cs : List Char) :
    (feedEnds offset cs).length = cs.count '\n' := by
  induction cs generalizing offset with
  | nil => rfl
  | cons c cs ih =>
      rw [feedEnds, List.count_cons]
      by_cases hc : c = '\n'
      · rw [if_pos hc, List.length_cons, ih, if_pos (by simpa using hc)]
      · rw [if_neg hc, ih, if_neg (by simpa using hc), Nat.add_zero]

theorem lt_of_mem_feedEnds (h : x ∈ feedEnds offset cs) : offset < x := by
  induction cs generalizing offset with
  | nil => cases h
  | cons c cs ih =>
      rw [feedEnds] at h
      split at h
      · rcases List.mem_cons.mp h with rfl | hrest
        · exact Nat.lt_succ_self offset
        · exact (Nat.lt_succ_self offset).trans (ih hrest)
      · exact (Nat.le_add_right _ _).trans_lt (ih h)

/-- A line begins behind the first character or later. -/
theorem le_of_mem_feedEnds (h : x ∈ feedEnds offset (c :: cs)) : offset + c.utf8Size ≤ x := by
  rw [feedEnds] at h
  split at h
  · rename_i hc
    rw [utf8Size_of_eq_feed hc]
    rcases List.mem_cons.mp h with rfl | hrest
    · exact Nat.le_refl _
    · exact (lt_of_mem_feedEnds hrest).le
  · exact (lt_of_mem_feedEnds h).le

theorem le_add_of_mem_feedEnds (h : x ∈ feedEnds offset cs) : x ≤ offset + byteLength cs := by
  induction cs generalizing offset with
  | nil => cases h
  | cons c cs ih =>
      have hsize := c.utf8Size_pos
      rw [byteLength_cons]
      rw [feedEnds] at h
      split at h
      · rcases List.mem_cons.mp h with rfl | hrest
        · omega
        · have hle := ih hrest
          omega
      · have hle := ih h
        omega

/-- The last line of a text begins behind its earlier lines. -/
theorem getLast?_lineStarts (before : List Char) :
    (lineStarts before).getLast? = some (byteLength (earlierLines before)) := by
  induction before using List.reverseRecOn with
  | nil => rfl
  | append_singleton before c ih =>
      rw [lineStarts, feedEnds_append, Nat.zero_add]
      by_cases hc : c = '\n'
      · subst hc
        have hend : feedEnds (byteLength before) ['\n'] = [byteLength before + 1] := if_pos rfl
        rw [hend, ← List.cons_append, List.getLast?_concat, earlierLines_append_feed,
          byteLength_append]
        rfl
      · have hnone : feedEnds (byteLength before) [c] = [] := if_neg hc
        rw [hnone, List.append_nil, earlierLines_append_char hc]
        exact ih

end FeedEnds

/-! ## Offsets in a text -/

/-- The offset stands behind the first part of a text, or inside the character that follows it. -/
structure IsCutAt (before rest : List Char) (offset : Nat) : Prop where
  le : byteLength before ≤ offset
  lt : ∀ c ∈ rest.head?, offset < byteLength before + c.utf8Size
  within : offset ≤ byteLength (before ++ rest)

theorem exists_isCutAt {source : List Char} {offset : Nat} (h : offset ≤ byteLength source) :
    ∃ before rest, source = before ++ rest ∧ IsCutAt before rest offset := by
  induction source generalizing offset with
  | nil => exact ⟨[], [], rfl, Nat.zero_le _, fun c hc => (by cases hc), h⟩
  | cons c cs ih =>
      by_cases hfirst : offset < c.utf8Size
      · refine ⟨[], c :: cs, rfl, Nat.zero_le _, ?_, h⟩
        intro d hd
        cases hd
        rwa [byteLength_nil, Nat.zero_add]
      · rw [byteLength_cons] at h
        obtain ⟨before, rest, rfl, hle, hlt, hwithin⟩ := @ih (offset - c.utf8Size) (by omega)
        refine ⟨c :: before, rest, rfl, ?_, ?_, ?_⟩
        · rw [byteLength_cons]
          omega
        · intro d hd
          have hd' := hlt d hd
          rw [byteLength_cons]
          omega
        · rw [List.cons_append, byteLength_cons]
          omega

/-- The offset stands between two characters of the text or at one of its ends. -/
def IsBoundary (source : List Char) (offset : Nat) : Prop :=
  ∃ before rest, source = before ++ rest ∧ byteLength before = offset

section Cuts

variable {before rest : List Char} {offset : Nat}

/-- No character is cut by an offset between characters. -/
theorem IsCutAt.eq_of_isBoundary (h : IsCutAt before rest offset)
    (hboundary : IsBoundary (before ++ rest) offset) : offset = byteLength before := by
  obtain ⟨front, back, hsource, rfl⟩ := hboundary
  have hle := h.le
  rcases List.append_eq_append_iff.mp hsource with ⟨more, rfl, hrest⟩ | ⟨more, rfl, hback⟩
  · cases more with
    | nil => rw [List.append_nil]
    | cons c more =>
        have hlt := h.lt c (by rw [hrest]; rfl)
        rw [byteLength_append, byteLength_cons] at hlt
        omega
  · rw [byteLength_append] at hle ⊢
    omega

/-- The position of an offset that stands behind a text or inside the character that follows. -/
def Position.near (before : List Char) (offset : Nat) : Position where
  offset := offset
  line := before.count '\n' + 1
  column :=
    (if offset = byteLength before then (lastLine before).length
      else offset - byteLength (earlierLines before)) + 1

theorem Position.near_byteLength (before : List Char) :
    Position.near before (byteLength before) = Position.behind before := by
  rw [Position.near, if_pos rfl]
  rfl

theorem Position.locate_of_isCutAt (h : IsCutAt before rest offset) :
    Position.locate (before ++ rest) offset = Position.near before offset := by
  refine (Position.scan_append [] before rest h.le).trans ?_
  rw [List.nil_append]
  cases rest with
  | nil =>
      have hwithin := h.within
      rw [List.append_nil] at hwithin
      obtain rfl := Nat.le_antisymm hwithin h.le
      exact (Position.near_byteLength before).symm
  | cons c rest =>
      rw [Position.scan, Position.near]
      by_cases heq : offset = byteLength before
      · rw [if_pos heq.le, if_pos heq]
      · have hle := h.le
        rw [if_neg (by omega), if_pos (h.lt c rfl), if_neg heq]

/-- The lines that begin up to an offset are those of the text before it. -/
theorem partitionPoint_lineStarts (h : IsCutAt before rest offset) :
    partitionPoint (· ≤ offset) (lineStarts (before ++ rest)) 0
        (lineStarts (before ++ rest)).length (Nat.le_refl _) = before.count '\n' + 1 := by
  have hle := h.le
  have hstarts : lineStarts (before ++ rest) =
      lineStarts before ++ feedEnds (byteLength before) rest := by
    rw [lineStarts, feedEnds_append, Nat.zero_add]
    rfl
  have hlength : (lineStarts before).length = before.count '\n' + 1 := by
    rw [lineStarts, List.length_cons, length_feedEnds]
  rw [← hlength]
  refine partitionPoint_eq hstarts (fun x hx => ?_) (fun x hx => ?_) (Nat.zero_le _) ?_ _
  · rw [decide_eq_true_eq]
    rcases List.mem_cons.mp hx with rfl | hfeed
    · exact Nat.zero_le _
    · have hend := le_add_of_mem_feedEnds hfeed
      omega
  · rw [decide_eq_false_iff_not, Nat.not_le]
    cases rest with
    | nil => cases hx
    | cons c rest => exact (h.lt c rfl).trans_le (le_of_mem_feedEnds hx)
  · rw [hstarts, List.length_append]
    exact Nat.le_add_right _ _

theorem getElem?_lineStarts (before rest : List Char) :
    (lineStarts (before ++ rest))[before.count '\n']? =
      some (byteLength (earlierLines before)) := by
  have hlength : before.count '\n' = (lineStarts before).length - 1 := by
    rw [lineStarts, List.length_cons, length_feedEnds, Nat.add_sub_cancel]
  rw [← getLast?_lineStarts, List.getLast?_eq_getElem?, ← hlength, lineStarts, feedEnds_append,
    ← List.cons_append]
  exact List.getElem?_append_left (by rw [List.length_cons, length_feedEnds]; omega)

end Cuts

/-! ## The search -/

/-- The position of an offset, found among the beginnings of lines. -/
def Position.bySearch? (source : List Char) (offset : Nat) : Option Position :=
  let offset := min offset (byteLength source)
  let line := partitionPoint (· ≤ offset) (lineStarts source) 0 (lineStarts source).length
    (Nat.le_refl _)
  if line = 0 then none
  else (lineStarts source)[line - 1]?.bind fun start =>
    match slice? source start offset with
    | some characters => some ⟨offset, line, characters.length + 1⟩
    | none => if start ≤ offset then some ⟨offset, line, offset - start + 1⟩ else none

theorem Position.bySearch?_of_isCutAt {before rest : List Char} {offset : Nat}
    (h : IsCutAt before rest offset) :
    Position.bySearch? (before ++ rest) offset = some (Position.near before offset) := by
  have hstart : byteLength (earlierLines before) + byteLength (lastLine before) =
      byteLength before := by
    rw [← byteLength_append, earlierLines_append_lastLine]
  have hle := h.le
  unfold Position.bySearch?
  rw [Nat.min_eq_left h.within]
  dsimp only
  rw [partitionPoint_lineStarts h, if_neg (Nat.succ_ne_zero _), Nat.add_sub_cancel,
    getElem?_lineStarts, Option.bind_some, Position.near]
  by_cases heq : offset = byteLength before
  · have hslice : slice? (before ++ rest) (byteLength (earlierLines before)) offset =
        some (lastLine before) := by
      rw [heq, ← hstart]
      have hpart := slice?_append (earlierLines before) (lastLine before) rest
      rwa [← List.append_assoc, earlierLines_append_lastLine] at hpart
    rw [hslice, if_pos heq]
  · have hslice : slice? (before ++ rest) (byteLength (earlierLines before)) offset = none := by
      rw [Option.eq_none_iff_forall_ne_some]
      intro piece hpiece
      obtain ⟨front, back, hsource, hfront, hback⟩ := slice?_eq_some.mp hpiece
      refine heq (h.eq_of_isBoundary ⟨front ++ piece, back, ?_, ?_⟩)
      · rw [hsource, List.append_assoc]
      · rw [byteLength_append, hfront, hback]
    rw [hslice, if_neg heq]
    dsimp only
    rw [if_pos (by omega)]

theorem Position.locate_of_le {source : List Char} {offset : Nat}
    (h : byteLength source ≤ offset) :
    Position.locate source offset = Position.behind source := by
  have hscan := Position.scan_append [] source [] h
  rw [List.append_nil, List.nil_append] at hscan
  exact hscan

/-- The search finds the position of every offset. -/
theorem Position.bySearch?_eq (source : List Char) (offset : Nat) :
    Position.bySearch? source offset = some (Position.locate source offset) := by
  rcases Nat.le_total offset (byteLength source) with hwithin | hbeyond
  · obtain ⟨before, rest, rfl, hcut⟩ := exists_isCutAt hwithin
    rw [bySearch?_of_isCutAt hcut, locate_of_isCutAt hcut]
  · have hend : Position.bySearch? source offset =
        Position.bySearch? source (byteLength source) := by
      rw [bySearch?, Nat.min_eq_right hbeyond, bySearch?, Nat.min_self]
    have hcut : IsCutAt source [] (byteLength source) :=
      ⟨Nat.le_refl _, fun c hc => (by cases hc), by rw [List.append_nil]⟩
    have hfound := bySearch?_of_isCutAt hcut
    rw [List.append_nil] at hfound
    rw [hend, hfound, near_byteLength, locate_of_le hbeyond]

/-! ## The order of positions -/

/-- Line and column, ordered by the line and then by the column. -/
def Position.lineAndColumn (p : Position) : Nat ×ₗ Nat := toLex (p.line, p.column)

theorem lineAndColumn_lt_concat (before : List Char) (c : Char) :
    (Position.behind before).lineAndColumn < (Position.behind (before ++ [c])).lineAndColumn := by
  rw [Position.lineAndColumn, Position.lineAndColumn, Prod.Lex.toLex_lt_toLex]
  dsimp only [Position.behind]
  rw [List.count_append, List.count_singleton]
  by_cases hc : c = '\n'
  · rw [if_pos (by simpa using hc)]
    exact .inl (Nat.lt_succ_self _)
  · rw [if_neg (by simpa using hc), lastLine_append_char hc, List.length_append]
    exact .inr ⟨rfl, Nat.lt_succ_self _⟩

theorem lineAndColumn_lt_append (before : List Char) {more : List Char} (h : more ≠ []) :
    (Position.behind before).lineAndColumn < (Position.behind (before ++ more)).lineAndColumn := by
  induction more using List.reverseRecOn with
  | nil => exact absurd rfl h
  | append_singleton more c ih =>
      rw [← List.append_assoc]
      have hlast := lineAndColumn_lt_concat (before ++ more) c
      by_cases hmore : more = []
      · rwa [hmore, List.append_nil] at hlast ⊢
      · exact (ih hmore).trans hlast

/-- Of two offsets between characters the later one has the later line and column. -/
theorem lineAndColumn_lt_of_lt {source : List Char} {i j : Nat} (hi : IsBoundary source i)
    (hj : IsBoundary source j) (h : i < j) :
    (Position.locate source i).lineAndColumn < (Position.locate source j).lineAndColumn := by
  obtain ⟨before, rest, rfl, rfl⟩ := hi
  obtain ⟨front, back, hsource, rfl⟩ := hj
  rw [Position.locate_append, hsource, Position.locate_append]
  rcases List.append_eq_append_iff.mp hsource with ⟨more, rfl, -⟩ | ⟨more, rfl, -⟩
  · refine lineAndColumn_lt_append before fun hmore => ?_
    rw [hmore, List.append_nil] at h
    exact Nat.lt_irrefl _ h
  · rw [byteLength_append] at h
    omega

/-- Lines and columns are the true ones.  Every offset has a position that the search finds.  That of
an offset between characters has a line for every line feed before it and one more, and a column for
every character behind the last of these line feeds and one more; line and column grow with such
offsets and tell them apart.  What is beyond the end stands for the end. -/
theorem locate_lines_and_columns (source : List Char) :
    (∀ offset, Position.bySearch? source offset = some (Position.locate source offset)) ∧
      (∀ before rest, source = before ++ rest →
        Position.locate source (byteLength before) =
          ⟨byteLength before, before.count '\n' + 1, (lastLine before).length + 1⟩) ∧
      (∀ i j, IsBoundary source i → IsBoundary source j →
        ((Position.locate source i).lineAndColumn < (Position.locate source j).lineAndColumn ↔
            i < j) ∧
          ((Position.locate source i).lineAndColumn = (Position.locate source j).lineAndColumn ↔
            i = j)) ∧
      ∀ offset, byteLength source ≤ offset →
        Position.locate source offset = Position.locate source (byteLength source) := by
  refine ⟨Position.bySearch?_eq source, ?_, ?_, ?_⟩
  · rintro before rest rfl
    exact Position.locate_append before rest
  · intro i j hi hj
    rcases Nat.lt_trichotomy i j with hlt | rfl | hgt
    · have hbefore := lineAndColumn_lt_of_lt hi hj hlt
      exact ⟨iff_of_true hbefore hlt, iff_of_false hbefore.ne hlt.ne⟩
    · exact ⟨iff_of_false (lt_irrefl _) (lt_irrefl _), iff_of_true rfl rfl⟩
    · have hbehind := lineAndColumn_lt_of_lt hj hi hgt
      exact ⟨iff_of_false hbehind.not_gt hgt.not_gt, iff_of_false hbehind.ne' hgt.ne'⟩
  · intro offset hbeyond
    rw [Position.locate_of_le hbeyond, Position.locate_of_le (Nat.le_refl _)]

/-- Two lines, the first of which is a character of two bytes. -/
def accentedLines : List Char := ['é', '\n', 'b']

/-- Offset 1 stands inside the first character, offset 9 beyond the end. -/
theorem locate_lines_and_columns_accent :
    Position.bySearch? accentedLines 1 = some ⟨1, 1, 2⟩ ∧
      (accentedLines = ['é', '\n'] ++ ['b'] ∧ Position.locate accentedLines 3 = ⟨3, 2, 1⟩) ∧
      (IsBoundary accentedLines 2 ∧ IsBoundary accentedLines 3 ∧
        (Position.locate accentedLines 2).lineAndColumn <
          (Position.locate accentedLines 3).lineAndColumn) ∧
      byteLength accentedLines ≤ 9 ∧ Position.locate accentedLines 9 = ⟨4, 2, 2⟩ := by
  obtain ⟨hsearch, hbehind, horder, hend⟩ := locate_lines_and_columns accentedLines
  have hcut : accentedLines = ['é', '\n'] ++ ['b'] := rfl
  have hi : IsBoundary accentedLines 2 := ⟨['é'], ['\n', 'b'], rfl, by decide⟩
  have hj : IsBoundary accentedLines 3 := ⟨['é', '\n'], ['b'], hcut, by decide⟩
  refine ⟨(hsearch 1).trans (by decide), ⟨hcut, ?_⟩, ⟨hi, hj, ?_⟩, by decide, ?_⟩
  · exact hbehind ['é', '\n'] ['b'] hcut
  · exact (horder 2 3 hi hj).1.mpr (by decide)
  · exact (hend 9 (by decide)).trans (by decide)

end StaticSite.Template
