/-
White space and trimming.

`isBlank` is the Unicode property White_Space, which trimming and word splitting use; `isAsciiBlank`
is the class that template tags use between a name and its attributes.  Trimming is stated on
character lists: `trim` drops blanks at both ends and keeps everything between them.
-/

namespace StaticSite.Text

/-- White space of the Unicode standard. -/
def isBlank (c : Char) : Bool :=
  let n := c.toNat
  (0x9 ≤ n && n ≤ 0xd) || n == 0x20 || n == 0x85 || n == 0xa0 || n == 0x1680 ||
    (0x2000 ≤ n && n ≤ 0x200a) || n == 0x2028 || n == 0x2029 || n == 0x202f || n == 0x205f ||
    n == 0x3000

/-- White space of ASCII: space, tab, line feed, form feed and carriage return. -/
def isAsciiBlank (c : Char) : Bool :=
  c == ' ' || c == '\t' || c == '\n' || c == '\x0c' || c == '\r'

/-- Drop the longest final stretch of characters in the class. -/
def dropEndWhile (p : Char → Bool) (cs : List Char) : List Char :=
  (cs.reverse.dropWhile p).reverse

/-- Drop leading blanks. -/
def trimStart (cs : List Char) : List Char := cs.dropWhile isBlank

/-- Drop final blanks. -/
def trimEnd (cs : List Char) : List Char := dropEndWhile isBlank cs

/-- Drop blanks at both ends. -/
def trim (cs : List Char) : List Char := trimEnd (trimStart cs)

/-- The text without the blanks at its ends. -/
def trimmed (s : String) : String := String.ofList (trim s.toList)

/-- Drop every leading and final occurrence of one character. -/
def trimChar (c : Char) (cs : List Char) : List Char :=
  dropEndWhile (· == c) (cs.dropWhile (· == c))

/-- White space of ASCII is white space. -/
theorem isBlank_of_isAsciiBlank {c : Char} (h : isAsciiBlank c = true) : isBlank c = true := by
  simp only [isAsciiBlank, Bool.or_eq_true, beq_iff_eq] at h
  rcases h with (((rfl | rfl) | rfl) | rfl) | rfl <;> decide

@[simp] theorem toList_trimmed (s : String) : (trimmed s).toList = trim s.toList := by
  simp [trimmed]

/-! ## Stretches of a class -/

section Stretch

variable {p : Char → Bool} {cs rest : List Char}

/-- The text does not begin with a character of the class. -/
def Stops (p : Char → Bool) (cs : List Char) : Prop := ∀ c ∈ cs.head?, p c = false

theorem stops_cons {c : Char} : Stops p (c :: rest) ↔ p c = false := by
  simp [Stops]

theorem takeWhile_of_stops (h : Stops p cs) : cs.takeWhile p = [] := by
  cases cs with
  | nil => rfl
  | cons c cs => simp [stops_cons.mp h]

theorem dropWhile_of_stops (h : Stops p cs) : cs.dropWhile p = cs := by
  cases cs with
  | nil => rfl
  | cons c cs => simp [stops_cons.mp h]

/-- What is left after a stretch does not begin with a character of the class. -/
theorem stops_dropWhile (p : Char → Bool) (cs : List Char) : Stops p (cs.dropWhile p) := by
  intro c hc
  have hhead := List.head?_dropWhile_not p cs
  rw [Option.mem_def.mp hc] at hhead
  simpa using hhead

theorem Stops.beginning {before : List Char} (h : Stops p cs) (hbefore : before <+: cs) :
    Stops p before := by
  obtain ⟨after, rfl⟩ := hbefore
  intro c hc
  refine h c ?_
  cases before with
  | nil => cases hc
  | cons d before => exact hc

theorem Stops.append (h : Stops p cs) (hrest : Stops p rest) : Stops p (cs ++ rest) := by
  cases cs with
  | nil => exact hrest
  | cons c cs => exact stops_cons.mpr (stops_cons.mp h)

theorem takeWhile_append_of_stops (h : Stops p rest) :
    (cs ++ rest).takeWhile p = cs.takeWhile p := by
  induction cs with
  | nil => exact takeWhile_of_stops h
  | cons c cs ih => by_cases hc : p c = true <;> simp [hc, ih]

theorem dropWhile_append_of_stops (h : Stops p rest) :
    (cs ++ rest).dropWhile p = cs.dropWhile p ++ rest := by
  induction cs with
  | nil => exact dropWhile_of_stops h
  | cons c cs ih => by_cases hc : p c = true <;> simp [hc, ih]

/-- A text of the class is read up to where the class ends. -/
theorem takeWhile_stretch (hcs : ∀ c ∈ cs, p c = true) (h : Stops p rest) :
    (cs ++ rest).takeWhile p = cs := by
  rw [List.takeWhile_append_of_pos hcs, takeWhile_of_stops h, List.append_nil]

theorem dropWhile_stretch (hcs : ∀ c ∈ cs, p c = true) (h : Stops p rest) :
    (cs ++ rest).dropWhile p = rest := by
  rw [List.dropWhile_append_of_pos hcs, dropWhile_of_stops h]

theorem dropEndWhile_append_takeWhile (p : Char → Bool) (cs : List Char) :
    dropEndWhile p cs ++ (cs.reverse.takeWhile p).reverse = cs := by
  rw [dropEndWhile, ← List.reverse_append, List.takeWhile_append_dropWhile, List.reverse_reverse]

theorem dropEndWhile_prefix (p : Char → Bool) (cs : List Char) : dropEndWhile p cs <+: cs :=
  ⟨_, dropEndWhile_append_takeWhile p cs⟩

/-- What is left before a final stretch does not end with a character of the class. -/
theorem stops_reverse_dropEndWhile (p : Char → Bool) (cs : List Char) :
    Stops p (dropEndWhile p cs).reverse := by
  rw [dropEndWhile, List.reverse_reverse]
  exact stops_dropWhile p cs.reverse

theorem dropEndWhile_append_of_stops (h : Stops p cs.reverse) (rest : List Char) :
    dropEndWhile p (cs ++ rest) = cs ++ dropEndWhile p rest := by
  rw [dropEndWhile, List.reverse_append, dropWhile_append_of_stops h, List.reverse_append,
    List.reverse_reverse, dropEndWhile]

/-- What is behind a text is trimmed together with the final stretch of the text. -/
theorem dropEndWhile_append (p : Char → Bool) (cs rest : List Char) :
    dropEndWhile p (cs ++ rest) =
      dropEndWhile p cs ++ dropEndWhile p ((cs.reverse.takeWhile p).reverse ++ rest) := by
  have hcut : cs ++ rest = dropEndWhile p cs ++ ((cs.reverse.takeWhile p).reverse ++ rest) := by
    rw [← List.append_assoc, dropEndWhile_append_takeWhile]
  rw [hcut]
  exact dropEndWhile_append_of_stops (stops_reverse_dropEndWhile p cs) _

theorem dropEndWhile_dropEndWhile (p : Char → Bool) (cs : List Char) :
    dropEndWhile p (dropEndWhile p cs) = dropEndWhile p cs := by
  have h := dropEndWhile_append_of_stops (stops_reverse_dropEndWhile p cs) []
  rwa [List.append_nil, show dropEndWhile p [] = [] from rfl, List.append_nil] at h

end Stretch

/-! ## Trimming -/

theorem trim_space {cs : List Char} (h : Stops isBlank cs) : trim (' ' :: cs) = trimEnd cs := by
  unfold trim trimStart
  rw [List.dropWhile_cons_of_pos rfl, dropWhile_of_stops h]

/-- A text with no blank at either end is left as it is. -/
theorem trim_eq_self {cs : List Char} (hfirst : Stops isBlank cs)
    (hlast : Stops isBlank cs.reverse) : trim cs = cs := by
  rw [trim, trimStart, dropWhile_of_stops hfirst, trimEnd, dropEndWhile, dropWhile_of_stops hlast,
    List.reverse_reverse]

/-- A text with another character at both ends is left as it is. -/
theorem trimChar_eq_self {c : Char} {cs : List Char} (hfirst : cs.head? ≠ some c)
    (hlast : cs.getLast? ≠ some c) : trimChar c cs = cs := by
  have stops_of_head? : ∀ {ds : List Char}, ds.head? ≠ some c → Stops (· == c) ds := by
    intro ds h d hd
    exact beq_false_of_ne fun hdc => h (by rw [← hdc]; exact hd)
  rw [trimChar, dropWhile_of_stops (stops_of_head? hfirst), dropEndWhile,
    dropWhile_of_stops (stops_of_head? (by rwa [List.head?_reverse])), List.reverse_reverse]

theorem trimChar_trimChar (c : Char) (cs : List Char) :
    trimChar c (trimChar c cs) = trimChar c cs := by
  have hstops : Stops (· == c) (trimChar c cs) := by
    refine (stops_dropWhile _ cs).beginning ?_
    exact dropEndWhile_prefix (· == c) _
  rw [trimChar, dropWhile_of_stops hstops, trimChar, dropEndWhile_dropEndWhile]

theorem trimEnd_append_blank (cs : List Char) {c : Char} (h : isBlank c = true) :
    trimEnd (cs ++ [c]) = trimEnd cs := by
  simp [trimEnd, dropEndWhile, h]

theorem trimEnd_append_of_not_blank (cs : List Char) {c : Char} (h : isBlank c = false) :
    trimEnd (cs ++ [c]) = cs ++ [c] := by
  simp [trimEnd, dropEndWhile, h]

/-- A blank behind a text is trimmed off. -/
theorem trim_append_blank (cs : List Char) {c : Char} (h : isBlank c = true) :
    trim (cs ++ [c]) = trim cs := by
  rw [trim, trim, trimStart, trimStart, List.dropWhile_append]
  split
  · rename_i hall
    rw [List.isEmpty_iff.mp hall, List.dropWhile_cons_of_pos h]
    rfl
  · exact trimEnd_append_blank _ h

theorem trimStart_suffix (cs : List Char) : trimStart cs <:+ cs := List.dropWhile_suffix isBlank

theorem trimEnd_prefix (cs : List Char) : trimEnd cs <+: cs := dropEndWhile_prefix isBlank cs

theorem trimEnd_trimEnd (cs : List Char) : trimEnd (trimEnd cs) = trimEnd cs :=
  dropEndWhile_dropEndWhile isBlank cs

/-- Trimming twice is trimming. -/
theorem trim_trim (cs : List Char) : trim (trim cs) = trim cs := by
  have hfront : trim cs <+: trimStart cs := trimEnd_prefix _
  have hstops : Stops isBlank (trim cs) := (stops_dropWhile isBlank cs).beginning hfront
  rw [trim, trimStart, dropWhile_of_stops hstops, trim, trimEnd_trimEnd]

theorem trimmed_trimmed (s : String) : trimmed (trimmed s) = trimmed s := by
  rw [← String.toList_inj, toList_trimmed, toList_trimmed, trim_trim]

/-- Trimming adds nothing. -/
theorem trim_subset (cs : List Char) : trim cs ⊆ cs := by
  have hfront : trim cs <+: trimStart cs := trimEnd_prefix _
  intro c hc
  exact (trimStart_suffix cs).subset (hfront.subset hc)

/-- A trimmed text begins with no blank. -/
theorem stops_of_trim_eq_self {cs : List Char} (h : trim cs = cs) : Stops isBlank cs := by
  cases cs with
  | nil => simp [Stops]
  | cons c rest =>
    refine stops_cons.mpr (Bool.eq_false_iff.mpr fun hc => ?_)
    -- the first character would be lost
    have hlength : (trim (c :: rest)).length ≤ rest.length := by
      rw [trim, trimStart, List.dropWhile_cons_of_pos hc, trimEnd, dropEndWhile,
        List.length_reverse]
      have hend := (List.dropWhile_sublist (l := (rest.dropWhile isBlank).reverse)
        isBlank).length_le
      have hstart := (List.dropWhile_sublist (l := rest) isBlank).length_le
      rw [List.length_reverse] at hend
      exact Nat.le_trans hend hstart
    rw [h, List.length_cons] at hlength
    omega

theorem trimEnd_eq_self_of_trim {cs : List Char} (h : trim cs = cs) : trimEnd cs = cs := by
  rwa [trim, trimStart, dropWhile_of_stops (stops_of_trim_eq_self h)] at h

/-- A space before a trimmed text is trimmed off. -/
theorem trim_space_of_trim_eq_self {cs : List Char} (h : trim cs = cs) : trim (' ' :: cs) = cs := by
  rw [trim_space (stops_of_trim_eq_self h), trimEnd_eq_self_of_trim h]

/-- A trimmed text ends in no blank. -/
theorem exists_last_of_trim_eq_self {cs : List Char} (h : trim cs = cs) (hne : cs ≠ []) :
    ∃ before c, cs = before ++ [c] ∧ isBlank c = false := by
  obtain ⟨before, c, rfl⟩ := (List.eq_nil_or_concat cs).resolve_left hne
  rw [List.concat_eq_append] at h ⊢
  refine ⟨before, c, rfl, Bool.eq_false_iff.mpr fun hc => ?_⟩
  have hlength := congrArg List.length (trimEnd_eq_self_of_trim h)
  rw [trimEnd_append_blank before hc, trimEnd, dropEndWhile, List.length_reverse,
    List.length_append, List.length_singleton] at hlength
  have hle := (List.dropWhile_sublist (l := before.reverse) isBlank).length_le
  rw [List.length_reverse] at hle
  omega

end StaticSite.Text
