/-
What a document is cut into.

`IsFrontMatterOf` says it without reading from left to right.  The first line that is a delimiter but
for blanks at its end cuts the document: the lines before it give the metadata, each key once, where
its first pair stands and with the value of its last pair, and the text after it is the body.  Main
statement: a document is read so and in no other way (`isFrontMatterOf_iff`).

The lines are found by adding up their lengths in bytes, and head and rest are taken between the byte
offsets that come out (`FrontMatter.readBySlices`).  No such part begins or ends inside a character.
-/
import StaticSite.Proofs.Content.FrontMatter
import StaticSite.Proofs.OrderedMap
import StaticSite.Proofs.Template.ByteScan

namespace StaticSite

/-! ## Lines -/

namespace Text

/-- The lines of a text: each goes up to its line feed, and the last one may lack it. -/
inductive AreLines : List Char → List (List Char) → Prop
  | nil : AreLines [] []
  | last {line : List Char} : line ≠ [] → '\n' ∉ line → AreLines line [line]
  | feed {line rest : List Char} {lines : List (List Char)} : '\n' ∉ line → AreLines rest lines →
      AreLines (line ++ '\n' :: rest) ((line ++ ['\n']) :: lines)

theorem AreLines.flatten {cs : List Char} {lines : List (List Char)} (h : AreLines cs lines) :
    lines.flatten = cs := by
  induction h with
  | nil => rfl
  | last _ _ => simp
  | feed _ _ ih => simp [ih]

/-- The first lines are the lines of their text. -/
theorem AreLines.left {cs : List Char} {before after : List (List Char)}
    (h : AreLines cs (before ++ after)) : AreLines before.flatten before := by
  induction before generalizing cs with
  | nil => exact .nil
  | cons line before ih =>
      rw [List.cons_append] at h
      generalize hlines : before ++ after = lines at h
      cases h with
      | last hne hfeed =>
          obtain ⟨rfl, -⟩ := List.append_eq_nil_iff.mp hlines
          rw [List.flatten_cons, List.flatten_nil, List.append_nil]
          exact .last hne hfeed
      | feed hfeed hrest =>
          rw [List.flatten_cons, List.append_assoc, List.singleton_append]
          exact .feed hfeed (ih (hlines ▸ hrest))

/-- A character other than the line feed goes to the line that follows. -/
theorem AreLines.cons {c : Char} {cs line : List Char} {lines : List (List Char)}
    (h : AreLines cs (line :: lines)) (hc : c ≠ '\n') :
    AreLines (c :: cs) ((c :: line) :: lines) := by
  cases h with
  | last hne hfeed =>
      exact .last (List.cons_ne_nil _ _) (List.not_mem_cons_of_ne_of_not_mem (Ne.symm hc) hfeed)
  | feed hfeed hrest =>
      exact .feed (List.not_mem_cons_of_ne_of_not_mem (Ne.symm hc) hfeed) hrest

theorem areLines_linesInclusive (cs : List Char) : AreLines cs (linesInclusive cs) := by
  induction cs with
  | nil => exact .nil
  | cons c rest ih =>
      unfold linesInclusive
      split
      · rename_i hc
        rw [hc]
        exact .feed List.not_mem_nil ih
      · rename_i hc
        split
        · rename_i hnil
          rw [hnil] at ih
          obtain rfl := ih.flatten
          exact .last (List.cons_ne_nil _ _) (by simpa using Ne.symm hc)
        · rename_i hlines
          rw [hlines] at ih
          exact ih.cons hc

theorem AreLines.linesInclusive_eq {cs : List Char} {lines : List (List Char)}
    (h : AreLines cs lines) : linesInclusive cs = lines := by
  induction h with
  | nil => rfl
  | @last line hne hfeed =>
      have hlines := areLines_linesInclusive line
      generalize linesInclusive line = lines at hlines ⊢
      cases hlines with
      | nil => exact absurd rfl hne
      | last _ _ => rfl
      | feed _ _ => exact absurd (by simp) hfeed
  | feed hfeed _ ih => rw [linesInclusive_append_feed hfeed, ih]

end Text

/-! ## Pairs -/

namespace Content

/-- The line holds the pair: what stands before its first colon and after it, trimmed, and neither is
empty. -/
inductive HoldsPair : List Char → String × String → Prop
  | mk {before after : List Char} : ':' ∉ before → Text.trim before ≠ [] → Text.trim after ≠ [] →
      HoldsPair (before ++ ':' :: after)
        (String.ofList (Text.trim before), String.ofList (Text.trim after))

/-- The pairs of the lines that hold one, in their order. -/
inductive ArePairs : List (List Char) → List (String × String) → Prop
  | nil : ArePairs [] []
  | pair {line : List Char} {pair : String × String} {lines : List (List Char)}
      {pairs : List (String × String)} : HoldsPair line pair → ArePairs lines pairs →
      ArePairs (line :: lines) (pair :: pairs)
  | skip {line : List Char} {lines : List (List Char)} {pairs : List (String × String)} :
      (∀ pair, ¬ HoldsPair line pair) → ArePairs lines pairs → ArePairs (line :: lines) pairs

theorem metadataLine_eq_some {line : List Char} {pair : String × String} :
    metadataLine line = some pair ↔ HoldsPair line pair := by
  constructor
  · intro h
    unfold metadataLine at h
    split at h
    · cases h
    · rename_i before after hcut
      dsimp only at h
      split at h
      · cases h
      · rename_i hne
        cases h
        rw [Bool.or_eq_true, not_or, List.isEmpty_iff, List.isEmpty_iff] at hne
        rw [Text.eq_append_of_splitFirst hcut]
        exact .mk (Text.not_mem_of_splitFirst hcut) hne.1 hne.2
  · rintro ⟨hcolon, hkey, hvalue⟩
    rw [metadataLine, Text.splitFirst_append hcolon]
    simp [hkey, hvalue]

theorem arePairs_iff {lines : List (List Char)} {pairs : List (String × String)} :
    ArePairs lines pairs ↔ lines.filterMap metadataLine = pairs := by
  constructor
  · intro h
    induction h with
    | nil => rfl
    | pair hpair _ ih => rw [List.filterMap_cons_some (metadataLine_eq_some.mpr hpair), ih]
    | @skip line _ _ hnone _ ih =>
        have hline : metadataLine line = none :=
          Option.eq_none_iff_forall_ne_some.mpr fun pair hpair =>
            hnone pair (metadataLine_eq_some.mp hpair)
        rw [List.filterMap_cons_none hline, ih]
  · rintro rfl
    induction lines with
    | nil => exact .nil
    | cons line lines ih =>
        cases hline : metadataLine line with
        | none =>
            rw [List.filterMap_cons_none hline]
            refine .skip (fun pair hpair => ?_) ih
            rw [metadataLine_eq_some.mpr hpair] at hline
            cases hline
        | some pair =>
            rw [List.filterMap_cons_some hline]
            exact .pair (metadataLine_eq_some.mp hline) ih

/-- A blank other than a colon at the end of a line does not count. -/
theorem metadataLine_append_blank (line : List Char) {c : Char} (h : Text.isBlank c = true) :
    metadataLine (line ++ [c]) = metadataLine line := by
  have hc : c ≠ ':' := by
    rintro rfl
    exact absurd h (by decide)
  rw [metadataLine, metadataLine, Text.splitFirst_append_singleton hc]
  cases Text.splitFirst ':' line with
  | none => rfl
  | some parts =>
      rw [Option.map_some]
      dsimp only
      rw [Text.trim_append_blank parts.2 h]

/-- The end of a line does not count. -/
theorem metadataLine_dropLineEnd (line : List Char) :
    metadataLine (Text.dropLineEnd line) = metadataLine line := by
  unfold Text.dropLineEnd
  split
  · rename_i rest hline
    rw [← List.reverse_inj, List.reverse_reverse] at hline
    rw [hline, List.reverse_cons, List.reverse_cons, metadataLine_append_blank _ rfl,
      metadataLine_append_blank _ rfl]
  · rename_i rest _ hline
    rw [← List.reverse_inj, List.reverse_reverse] at hline
    rw [hline, List.reverse_cons, metadataLine_append_blank _ rfl]
  · rfl

/-- The metadata of a head is made of the pairs of its lines. -/
theorem readMetadata_eq {head : List Char} {lines : List (List Char)}
    (h : Text.AreLines head lines) :
    readMetadata head = OrderedMap.ofList (lines.filterMap metadataLine) := by
  rw [readMetadata, Text.lines, h.linesInclusive_eq, List.filterMap_map]
  exact congrArg OrderedMap.ofList
    (List.filterMap_congr fun line _ => metadataLine_dropLineEnd line)

/-! ## Head and body -/

theorem isDelimiter_iff {line : List Char} :
    isDelimiter line = true ↔ Text.trimEnd line = delimiter := beq_iff_eq

theorem isDelimiter_eq_false_iff {line : List Char} :
    isDelimiter line = false ↔ Text.trimEnd line ≠ delimiter := beq_eq_false_iff_ne

theorem splitAtDelimiter_of_none {lines : List (List Char)}
    (h : ∀ line ∈ lines, isDelimiter line = false) : splitAtDelimiter lines = none := by
  induction lines with
  | nil => rfl
  | cons line lines ih =>
      obtain ⟨hline, hlines⟩ := List.forall_mem_cons.mp h
      rw [splitAtDelimiter, if_neg (by simp [hline]), ih hlines]
      rfl

/-- There is no delimiter line, or a first one. -/
theorem exists_first_delimiter (lines : List (List Char)) :
    (∀ line ∈ lines, isDelimiter line = false) ∨
      ∃ before line after, lines = before ++ line :: after ∧
        (∀ l ∈ before, isDelimiter l = false) ∧ isDelimiter line = true := by
  induction lines with
  | nil => exact .inl fun _ h => absurd h List.not_mem_nil
  | cons first lines ih =>
      cases hfirst : isDelimiter first with
      | true => exact .inr ⟨[], first, lines, rfl, fun _ h => absurd h List.not_mem_nil, hfirst⟩
      | false =>
          rcases ih with hnone | ⟨before, line, after, rfl, hbefore, hline⟩
          · exact .inl (List.forall_mem_cons.mpr ⟨hfirst, hnone⟩)
          · exact .inr ⟨first :: before, line, after, rfl,
              List.forall_mem_cons.mpr ⟨hfirst, hbefore⟩, hline⟩

/-- What a document is cut into: without a delimiter line it is all body; otherwise it is the head,
the first such line and the rest. -/
inductive IsFrontMatterOf (source : List Char) : FrontMatter → Prop
  | body {lines : List (List Char)} : Text.AreLines source lines →
      (∀ line ∈ lines, Text.trimEnd line ≠ delimiter) →
      IsFrontMatterOf source ⟨∅, String.ofList (Text.trim source)⟩
  | split {head line rest : List Char} {headLines restLines : List (List Char)}
      {pairs : List (String × String)} {metadata : Metadata} : source = head ++ (line ++ rest) →
      Text.AreLines source (headLines ++ line :: restLines) → Text.AreLines head headLines →
      (∀ l ∈ headLines, Text.trimEnd l ≠ delimiter) → Text.trimEnd line = delimiter →
      ArePairs headLines pairs → metadata.Holds pairs →
      IsFrontMatterOf source ⟨metadata, String.ofList (Text.trim rest)⟩

namespace FrontMatter

theorem isFrontMatterOf_read (source : String) :
    IsFrontMatterOf source.toList (FrontMatter.read source) := by
  have hlines := Text.areLines_linesInclusive source.toList
  rcases exists_first_delimiter (Text.linesInclusive source.toList) with
    hnone | ⟨before, line, after, hcut, hbefore, hline⟩
  · have hread : FrontMatter.read source = ⟨∅, String.ofList (Text.trim source.toList)⟩ := by
      rw [FrontMatter.read, splitFrontMatter, splitAtDelimiter_of_none hnone]
      rfl
    rw [hread]
    exact .body hlines fun l hl => isDelimiter_eq_false_iff.mp (hnone l hl)
  · rw [hcut] at hlines
    have hread : FrontMatter.read source =
        ⟨readMetadata before.flatten, String.ofList (Text.trim after.flatten)⟩ := by
      rw [FrontMatter.read, splitFrontMatter, hcut, splitAtDelimiter_append hbefore hline]
      rfl
    have hsource : source.toList = before.flatten ++ (line ++ after.flatten) := by
      rw [← hlines.flatten, List.flatten_append, List.flatten_cons]
    rw [hread, readMetadata_eq hlines.left]
    exact .split hsource hlines hlines.left
      (fun l hl => isDelimiter_eq_false_iff.mp (hbefore l hl)) (isDelimiter_iff.mp hline)
      (arePairs_iff.mpr rfl) (OrderedMap.holds_ofList _)

theorem read_of_isFrontMatterOf {source : String} {m : FrontMatter}
    (h : IsFrontMatterOf source.toList m) : FrontMatter.read source = m := by
  cases h with
  | body hlines hnone =>
      rw [FrontMatter.read, splitFrontMatter, hlines.linesInclusive_eq,
        splitAtDelimiter_of_none fun l hl => isDelimiter_eq_false_iff.mpr (hnone l hl)]
      rfl
  | @split head line rest headLines restLines pairs metadata hsource hlines hhead hbefore hline
      hpairs hmetadata =>
      have hrest : restLines.flatten = rest := by
        have hflatten := hlines.flatten
        rw [List.flatten_append, List.flatten_cons, hhead.flatten, hsource] at hflatten
        exact List.append_cancel_left (List.append_cancel_left hflatten)
      have hread : readMetadata head = metadata := by
        rw [readMetadata_eq hhead, arePairs_iff.mp hpairs]
        exact (OrderedMap.holds_ofList pairs).unique hmetadata
      rw [FrontMatter.read, splitFrontMatter, hlines.linesInclusive_eq,
        splitAtDelimiter_append (fun l hl => isDelimiter_eq_false_iff.mpr (hbefore l hl))
          (isDelimiter_iff.mpr hline), Option.map_some]
      dsimp only
      rw [hhead.flatten, hrest, hread]

end FrontMatter

/-! ## Byte offsets -/

/-- The byte offsets at which the first delimiter line begins and ends, given the offset at which the
lines begin. -/
def delimiterAt? (offset : Nat) : List (List Char) → Option (Nat × Nat)
  | [] => none
  | line :: rest =>
    if isDelimiter line then some (offset, offset + Template.byteLength line)
    else delimiterAt? (offset + Template.byteLength line) rest

/-- Read a document by the byte offsets of its delimiter; there is no result if an offset lies beyond
the end or inside a character. -/
def FrontMatter.readBySlices (source : String) : Option FrontMatter :=
  let cs := source.toList
  match delimiterAt? 0 (Text.linesInclusive cs) with
  | none => some ⟨∅, String.ofList (Text.trim cs)⟩
  | some (start, stop) => do
    let head ← Template.slice? cs 0 start
    let rest ← Template.slice? cs stop (Template.byteLength cs)
    some ⟨readMetadata head, String.ofList (Text.trim rest)⟩

theorem delimiterAt?_of_none {lines : List (List Char)}
    (h : ∀ line ∈ lines, isDelimiter line = false) (offset : Nat) :
    delimiterAt? offset lines = none := by
  induction lines generalizing offset with
  | nil => rfl
  | cons line lines ih =>
      obtain ⟨hline, hlines⟩ := List.forall_mem_cons.mp h
      rw [delimiterAt?, if_neg (by simp [hline]), ih hlines]

/-- The offset goes on with the lengths of the lines. -/
theorem delimiterAt?_append {before after : List (List Char)} {line : List Char}
    (hbefore : ∀ l ∈ before, isDelimiter l = false) (hline : isDelimiter line = true)
    (offset : Nat) :
    delimiterAt? offset (before ++ line :: after) =
      some (offset + Template.byteLength before.flatten,
        offset + Template.byteLength before.flatten + Template.byteLength line) := by
  induction before generalizing offset with
  | nil => rw [List.nil_append, delimiterAt?, if_pos hline]; rfl
  | cons first before ih =>
      obtain ⟨hfirst, hothers⟩ := List.forall_mem_cons.mp hbefore
      rw [List.cons_append, delimiterAt?, if_neg (by simp [hfirst]), ih hothers, List.flatten_cons,
        Template.byteLength_append, Nat.add_assoc, Nat.add_assoc]

/-- Head and rest are taken at the ends of characters, and they are those that are read. -/
theorem FrontMatter.readBySlices_eq (source : String) :
    FrontMatter.readBySlices source = some (FrontMatter.read source) := by
  have hflatten := Text.flatten_linesInclusive source.toList
  rw [readBySlices, read, splitFrontMatter]
  dsimp only
  rcases exists_first_delimiter (Text.linesInclusive source.toList) with
    hnone | ⟨before, line, after, hcut, hbefore, hline⟩
  · rw [delimiterAt?_of_none hnone, splitAtDelimiter_of_none hnone]
    rfl
  · rw [hcut, List.flatten_append, List.flatten_cons] at hflatten
    have hhead : Template.slice? source.toList 0 (0 + Template.byteLength before.flatten) =
        some before.flatten := by
      rw [← hflatten]
      exact Template.slice?_append [] _ _
    have hrest : Template.slice? source.toList
        (0 + Template.byteLength before.flatten + Template.byteLength line)
        (Template.byteLength source.toList) = some after.flatten := by
      refine Template.slice?_eq_some.mpr ⟨before.flatten ++ line, [], ?_, ?_, ?_⟩
      · rw [← hflatten]
        simp
      · simp
      · rw [← hflatten]
        simp [Nat.add_assoc]
    rw [hcut, delimiterAt?_append hbefore hline, splitAtDelimiter_append hbefore hline]
    dsimp only
    rw [hhead, hrest]
    rfl

/-- A document is read as what it is cut into and as nothing else, and the offsets by which it is cut
are always those of whole characters. -/
theorem FrontMatter.isFrontMatterOf_iff (source : String) :
    FrontMatter.readBySlices source = some (FrontMatter.read source) ∧
      ∀ m, IsFrontMatterOf source.toList m ↔ FrontMatter.read source = m := by
  refine ⟨readBySlices_eq source, fun m => ⟨read_of_isFrontMatterOf, ?_⟩⟩
  rintro rfl
  exact isFrontMatterOf_read source

/-- A line that only begins like the delimiter is skipped, as are lines without a key or a value; a
key keeps its place and has its last value. -/
example : FrontMatter.read "é: 1\r\nb:\n----x\nk: v\n é : 2:3\n----\t\r\n\n----\n body " =
    ⟨⟨[("é", "2:3"), ("k", "v")]⟩, "----\n body"⟩ := by
  decide +kernel

end Content

end StaticSite
