/-
Front matter that is written and read again, and the place of the body.

`FrontMatter.write` puts each pair on a line of its own, then the delimiter, then the body.  Main
statement: what is read from that text is what was written (`read_write`).  Values may hold colons,
hyphens and carriage returns, and the body may hold delimiter lines and lines that look like
metadata: a line with a colon is no delimiter, and nothing after the first delimiter is looked at.

A document is `textBeforeBody`, its body and blanks (`exists_blanks_after_body`), and nothing stands
before the body just if there is no front matter and no leading blank (`textBeforeBody_eq_nil_iff`).
-/
import Mathlib.Data.List.Basic
import StaticSite.Content.FrontMatter

namespace StaticSite.Content

/-! ## What can be written -/

/-- A key that a metadata line can hold. -/
structure IsKey (key : String) : Prop where
  ne_empty : key ≠ ""
  trimmed : Text.trimmed key = key
  no_colon : ':' ∉ key.toList
  no_feed : '\n' ∉ key.toList

/-- A value that a metadata line can hold. -/
structure IsValue (value : String) : Prop where
  ne_empty : value ≠ ""
  trimmed : Text.trimmed value = value
  no_feed : '\n' ∉ value.toList

instance (key : String) : Decidable (IsKey key) :=
  decidable_of_iff
    (key ≠ "" ∧ Text.trimmed key = key ∧ ':' ∉ key.toList ∧ '\n' ∉ key.toList)
    ⟨fun ⟨h₁, h₂, h₃, h₄⟩ => ⟨h₁, h₂, h₃, h₄⟩, fun h => ⟨h.1, h.2, h.3, h.4⟩⟩

instance (value : String) : Decidable (IsValue value) :=
  decidable_of_iff (value ≠ "" ∧ Text.trimmed value = value ∧ '\n' ∉ value.toList)
    ⟨fun ⟨h₁, h₂, h₃⟩ => ⟨h₁, h₂, h₃⟩, fun h => ⟨h.1, h.2, h.3⟩⟩

/-- The line of a pair, without its end. -/
def lineOf (pair : String × String) : String := pair.1 ++ ": " ++ pair.2

namespace FrontMatter

/-- The document with this front matter and body. -/
def write (m : FrontMatter) : String :=
  String.join (m.metadata.entries.map fun pair => lineOf pair ++ "\n") ++ "----\n" ++ m.body

/-- The keys are distinct, and keys, values and body are as reading leaves them. -/
structure IsWritable (m : FrontMatter) : Prop where
  nodup : m.metadata.keys.Nodup
  isKey : ∀ pair ∈ m.metadata.entries, IsKey pair.1
  isValue : ∀ pair ∈ m.metadata.entries, IsValue pair.2
  body : Text.trimmed m.body = m.body

instance (m : FrontMatter) : Decidable m.IsWritable :=
  decidable_of_iff
    (m.metadata.keys.Nodup ∧ (∀ pair ∈ m.metadata.entries, IsKey pair.1) ∧
      (∀ pair ∈ m.metadata.entries, IsValue pair.2) ∧ Text.trimmed m.body = m.body)
    ⟨fun ⟨h₁, h₂, h₃, h₄⟩ => ⟨h₁, h₂, h₃, h₄⟩, fun h => ⟨h.1, h.2, h.3, h.4⟩⟩

end FrontMatter

/-! ## Lines -/

section Line

variable {key value : String}

theorem trim_of_trimmed {s : String} (h : Text.trimmed s = s) : Text.trim s.toList = s.toList := by
  rw [← Text.toList_trimmed, h]

theorem toList_lineOf (key value : String) :
    (lineOf (key, value)).toList = key.toList ++ ':' :: ' ' :: value.toList := by
  simp [lineOf]

/-- A line ends as its value does. -/
theorem exists_last_lineOf (key : String) (hvalue : IsValue value) :
    ∃ before c, (lineOf (key, value)).toList = before ++ [c] ∧ Text.isBlank c = false := by
  obtain ⟨before, c, hlast, hc⟩ := Text.exists_last_of_trim_eq_self
    (trim_of_trimmed hvalue.trimmed) fun hnil => hvalue.ne_empty (String.toList_eq_nil_iff.mp hnil)
  exact ⟨key.toList ++ ':' :: ' ' :: before, c, by simp [toList_lineOf, hlast], hc⟩

theorem feed_not_mem_lineOf (hkey : IsKey key) (hvalue : IsValue value) :
    '\n' ∉ (lineOf (key, value)).toList := by
  simp [toList_lineOf, hkey.no_feed, hvalue.no_feed]

theorem getLast?_lineOf_ne (hvalue : IsValue value) :
    (lineOf (key, value)).toList.getLast? ≠ some '\r' := by
  obtain ⟨before, c, hlast, hc⟩ := exists_last_lineOf key hvalue
  rw [hlast, List.getLast?_concat]
  rintro ⟨⟩
  exact absurd hc (by decide)

/-- The line of a pair holds a colon, so it is not the delimiter. -/
theorem isDelimiter_lineOf (hvalue : IsValue value) :
    isDelimiter ((lineOf (key, value)).toList ++ ['\n']) = false := by
  obtain ⟨before, c, hlast, hc⟩ := exists_last_lineOf key hvalue
  have htrim : Text.trimEnd ((lineOf (key, value)).toList ++ ['\n']) =
      (lineOf (key, value)).toList := by
    rw [Text.trimEnd_append_blank _ (by decide), hlast, Text.trimEnd_append_of_not_blank before hc]
  refine Bool.eq_false_iff.mpr fun h => ?_
  have hcolon : ':' ∈ (lineOf (key, value)).toList := by simp [toList_lineOf]
  rw [← htrim, beq_iff_eq.mp h] at hcolon
  exact absurd hcolon (by decide)

/-- The line of a pair is read as that pair. -/
theorem metadataLine_lineOf (hkey : IsKey key) (hvalue : IsValue value) :
    metadataLine (lineOf (key, value)).toList = some (key, value) := by
  have hvalue' := trim_of_trimmed hvalue.trimmed
  have hcut : Text.splitFirst ':' (lineOf (key, value)).toList =
      some (key.toList, ' ' :: value.toList) := by
    rw [toList_lineOf]
    exact Text.splitFirst_append hkey.no_colon _
  have hafter : Text.trim (' ' :: value.toList) = value.toList :=
    Text.trim_space_of_trim_eq_self hvalue'
  have hkey' : key.toList ≠ [] := fun hnil => hkey.ne_empty (String.toList_eq_nil_iff.mp hnil)
  have hne : value.toList ≠ [] := fun hnil => hvalue.ne_empty (String.toList_eq_nil_iff.mp hnil)
  rw [metadataLine, hcut]
  simp [trim_of_trimmed hkey.trimmed, hafter, hkey', hne]

end Line

/-! ## Documents -/

/-- Lines without a delimiter, and then one, are cut at it. -/
theorem splitAtDelimiter_append {head rest : List (List Char)} {line : List Char}
    (hhead : ∀ l ∈ head, isDelimiter l = false) (hline : isDelimiter line = true) :
    splitAtDelimiter (head ++ line :: rest) = some (head, rest) := by
  induction head with
  | nil => rw [List.nil_append, splitAtDelimiter, if_pos hline]
  | cons first head ih =>
      obtain ⟨hfirst, hothers⟩ := List.forall_mem_cons.mp hhead
      rw [List.cons_append, splitAtDelimiter, if_neg (by simp [hfirst]), ih hothers]
      rfl

/-- Lines that end in line feeds are read one by one. -/
theorem linesInclusive_flatMap {lines : List (List Char)} (h : ∀ line ∈ lines, '\n' ∉ line)
    (rest : List Char) :
    Text.linesInclusive (lines.flatMap (· ++ ['\n']) ++ rest) =
      lines.map (· ++ ['\n']) ++ Text.linesInclusive rest := by
  induction lines with
  | nil => rfl
  | cons line lines ih =>
      obtain ⟨hline, hlines⟩ := List.forall_mem_cons.mp h
      rw [List.flatMap_cons, List.append_assoc, List.append_assoc, List.singleton_append,
        Text.linesInclusive_append_feed hline, ih hlines]
      rfl

namespace FrontMatter

variable {m : FrontMatter}

/-- The lines of the metadata. -/
def headLines (m : FrontMatter) : List (List Char) :=
  m.metadata.entries.map fun pair => (lineOf pair).toList

theorem toList_write (m : FrontMatter) :
    m.write.toList =
      m.headLines.flatMap (· ++ ['\n']) ++ (delimiter ++ '\n' :: m.body.toList) := by
  simp [write, headLines, delimiter, String.toList_join, List.flatMap_map]

namespace IsWritable

theorem feed_not_mem (h : m.IsWritable) : ∀ line ∈ m.headLines, '\n' ∉ line := by
  intro line hline
  obtain ⟨⟨key, value⟩, hpair, rfl⟩ := List.mem_map.mp hline
  exact feed_not_mem_lineOf (h.isKey _ hpair) (h.isValue _ hpair)

/-- The document is cut at the delimiter that was written. -/
theorem splitFrontMatter (h : m.IsWritable) :
    splitFrontMatter m.write.toList =
      some (m.headLines.flatMap (· ++ ['\n']), m.body.toList) := by
  have hhead : ∀ line ∈ m.headLines.map (· ++ ['\n']), isDelimiter line = false := by
    intro line hline
    obtain ⟨_, hmem, rfl⟩ := List.mem_map.mp hline
    obtain ⟨⟨key, value⟩, hpair, rfl⟩ := List.mem_map.mp hmem
    exact isDelimiter_lineOf (h.isValue _ hpair)
  have hdelimiter : isDelimiter (delimiter ++ ['\n']) = true := by decide
  rw [Content.splitFrontMatter, toList_write, linesInclusive_flatMap h.feed_not_mem,
    Text.linesInclusive_append_feed (by decide), splitAtDelimiter_append hhead hdelimiter,
    Option.map_some]
  dsimp only
  rw [Text.flatten_linesInclusive, List.flatMap_def]

/-- The lines of the metadata are read as the pairs that were written. -/
theorem readMetadata (h : m.IsWritable) :
    readMetadata (m.headLines.flatMap (· ++ ['\n'])) = m.metadata := by
  have hlines : Text.lines (m.headLines.flatMap (· ++ ['\n'])) = m.headLines := by
    have hfeeds := linesInclusive_flatMap h.feed_not_mem []
    rw [List.append_nil, Text.linesInclusive, List.append_nil] at hfeeds
    rw [Text.lines, hfeeds, List.map_map]
    refine (List.map_congr_left fun line hline => ?_).trans (List.map_id _)
    obtain ⟨⟨key, value⟩, hpair, rfl⟩ := List.mem_map.mp hline
    exact Text.dropLineEnd_append_feed (getLast?_lineOf_ne (h.isValue _ hpair))
  have hpairs : m.headLines.filterMap metadataLine = m.metadata.entries := by
    rw [headLines, List.filterMap_map]
    refine (List.filterMap_congr fun pair hpair => ?_).trans List.filterMap_some
    exact metadataLine_lineOf (h.isKey _ hpair) (h.isValue _ hpair)
  rw [Content.readMetadata, hlines, hpairs, OrderedMap.ofList_of_nodup h.nodup]

end IsWritable

/-- What is read from a written document is what was written. -/
theorem read_write (h : m.IsWritable) : FrontMatter.read m.write = m := by
  rw [read, h.splitFrontMatter]
  dsimp only
  rw [h.readMetadata, trim_of_trimmed h.body, String.ofList_toList]

/-- Keys and values that look like delimiters, values with colons and a carriage return, and a body
that looks like front matter. -/
def dashed : FrontMatter :=
  ⟨⟨[("----", "----"), ("a key", "b: c: d"), ("é", ":\r:")]⟩, "----\nkey: value\n----\nend"⟩

theorem read_write_dashed : dashed.IsWritable ∧ FrontMatter.read dashed.write = dashed := by
  have h : dashed.IsWritable := by decide
  exact ⟨h, read_write h⟩

end FrontMatter

/-! ## The place of the body -/

/-- The text of a document after its front matter; all of it if there is none. -/
def textAfterFront (source : List Char) : List Char :=
  match splitFrontMatter source with
  | some (_, rest) => rest
  | none => source

/-- The text of a document before its body: the front matter with its delimiter line, and the blanks
after that. -/
def textBeforeBody (source : List Char) : List Char :=
  source.take (source.length - (Text.trimStart (textAfterFront source)).length)

section Place

variable {source : List Char}

/-- Lines are cut at a delimiter line. -/
theorem exists_delimiter_of_splitAtDelimiter {lines head rest : List (List Char)}
    (h : splitAtDelimiter lines = some (head, rest)) :
    ∃ line, lines = head ++ line :: rest ∧ isDelimiter line = true := by
  induction lines generalizing head with
  | nil => cases h
  | cons line lines ih =>
      rw [splitAtDelimiter] at h
      split at h
      · rename_i hline
        cases h
        exact ⟨line, rfl, hline⟩
      · obtain ⟨⟨others, tail⟩, hsplit, heq⟩ := Option.map_eq_some_iff.mp h
        cases heq
        obtain ⟨found, rfl, hfound⟩ := ih hsplit
        exact ⟨found, rfl, hfound⟩

/-- Front matter takes at least its delimiter line. -/
theorem exists_front_of_splitFrontMatter {head rest : List Char}
    (h : splitFrontMatter source = some (head, rest)) :
    ∃ front, source = front ++ rest ∧ front ≠ [] := by
  obtain ⟨⟨before, after⟩, hsplit, heq⟩ := Option.map_eq_some_iff.mp h
  cases heq
  obtain ⟨line, hlines, hline⟩ := exists_delimiter_of_splitAtDelimiter hsplit
  have hflatten := Text.flatten_linesInclusive source
  rw [hlines, List.flatten_append, List.flatten_cons] at hflatten
  refine ⟨before.flatten ++ line, ?_, ?_⟩
  · rw [← hflatten, List.append_assoc]
  · intro hnil
    rw [(List.append_eq_nil_iff.mp hnil).2] at hline
    exact absurd hline (by decide)

theorem textAfterFront_suffix (source : List Char) : textAfterFront source <:+ source := by
  unfold textAfterFront
  split
  · rename_i head rest hsplit
    obtain ⟨front, heq, -⟩ := exists_front_of_splitFrontMatter hsplit
    exact ⟨front, heq.symm⟩
  · exact List.suffix_rfl

theorem textBeforeBody_append (source : List Char) :
    textBeforeBody source ++ Text.trimStart (textAfterFront source) = source := by
  have hsuffix : Text.trimStart (textAfterFront source) <:+ source :=
    (Text.trimStart_suffix _).trans (textAfterFront_suffix source)
  have hdrop := List.suffix_iff_eq_drop.mp hsuffix
  rw [textBeforeBody]
  calc source.take (source.length - (Text.trimStart (textAfterFront source)).length) ++
        Text.trimStart (textAfterFront source)
      = source.take (source.length - (Text.trimStart (textAfterFront source)).length) ++
        source.drop (source.length - (Text.trimStart (textAfterFront source)).length) := by
        rw [← hdrop]
    _ = source := List.take_append_drop _ _

/-- A document is the text before its body, the body and blanks. -/
theorem exists_blanks_after_body (source : String) :
    ∃ blanks, textBeforeBody source.toList ++ ((FrontMatter.read source).body.toList ++ blanks) =
      source.toList := by
  have hbody : (FrontMatter.read source).body.toList =
      Text.trimEnd (Text.trimStart (textAfterFront source.toList)) := by
    unfold FrontMatter.read textAfterFront
    cases splitFrontMatter source.toList with
    | none => exact String.toList_ofList
    | some parts => exact String.toList_ofList
  obtain ⟨blanks, hblanks⟩ := Text.trimEnd_prefix (Text.trimStart (textAfterFront source.toList))
  refine ⟨blanks, ?_⟩
  rw [hbody, hblanks]
  exact textBeforeBody_append source.toList

/-- Nothing stands before the body just if there is no front matter and no blank at the beginning. -/
theorem textBeforeBody_eq_nil_iff :
    textBeforeBody source = [] ↔
      splitFrontMatter source = none ∧ Text.Stops Text.isBlank source := by
  have happend := textBeforeBody_append source
  constructor
  · intro hnil
    rw [hnil, List.nil_append] at happend
    have hnone : splitFrontMatter source = none := by
      cases hsplit : splitFrontMatter source with
      | none => rfl
      | some parts =>
          obtain ⟨front, hsource, hfront⟩ := exists_front_of_splitFrontMatter hsplit
          have hrest : textAfterFront source = parts.2 := by rw [textAfterFront, hsplit]
          have hlength := (Text.trimStart_suffix (textAfterFront source)).length_le
          have hpositive := List.length_pos_iff.mpr hfront
          have htotal := congrArg List.length hsource
          rw [happend, hrest] at hlength
          rw [List.length_append] at htotal
          omega
    have hall : textAfterFront source = source := by rw [textAfterFront, hnone]
    rw [hall] at happend
    refine ⟨hnone, fun c hc => ?_⟩
    rw [← happend] at hc
    exact Text.stops_dropWhile Text.isBlank source c hc
  · rintro ⟨hnone, hstops⟩
    have hall : textAfterFront source = source := by rw [textAfterFront, hnone]
    rw [textBeforeBody, hall, Text.trimStart, Text.dropWhile_of_stops hstops, Nat.sub_self]
    rfl

end Place

end StaticSite.Content
