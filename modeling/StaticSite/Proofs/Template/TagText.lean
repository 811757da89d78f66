/-
Tags as text.

Between the name of a tag and its closing brace stand its attributes, each after a space, and a
slash after one more space if the tag closes itself.  Main statements: such a tag is read back
whatever follows (`readTag_opener`, `readTag_closer`), its inside falls into the attributes and the
slash (`openerParts_insideOf`), and attributes without a repeated name are as they were written
(`ofItems_eq_attributesOf`).
-/
import Mathlib.Data.List.Induction
import Mathlib.Data.List.Nodup
import StaticSite.Proofs.Template.AttributeText
import StaticSite.Proofs.Template.Lexemes

namespace StaticSite.Template

/-- What is written between the name of a tag and its closing brace. -/
def insideOf (selfClosing : Bool) (items : List AttributeItem) : List Char :=
  (items.flatMap fun item => ' ' :: item.source) ++ if selfClosing then [' ', '/'] else []

theorem flatMap_source_cons (item : AttributeItem) (rest : List AttributeItem) :
    ((item :: rest).flatMap fun item => ' ' :: item.source) =
      ' ' :: attributeText (item :: rest) := by
  induction rest generalizing item with
  | nil => simp [attributeText]
  | cons next rest ih =>
      rw [List.flatMap_cons, ih, List.cons_append]
      rfl

/-! ## The inside and its slash -/

/-- The text ends in a character that is no blank, and in a slash only behind a bare character: no
part of its end is cut off. -/
def EndsWhole (cs : List Char) : Prop :=
  ∃ before c, cs = before ++ [c] ∧ Text.isBlank c = false ∧
    (c = '/' → ∃ first d, before = first ++ [d] ∧ AttributeItem.isBare d = true)

theorem EndsWhole.prepend {cs : List Char} (h : EndsWhole cs) (ds : List Char) :
    EndsWhole (ds ++ cs) := by
  obtain ⟨before, c, rfl, hc, hslash⟩ := h
  refine ⟨ds ++ before, c, by simp, hc, fun h => ?_⟩
  obtain ⟨first, d, rfl, hd⟩ := hslash h
  exact ⟨ds ++ first, d, by simp, hd⟩

theorem EndsWhole.trimEnd {cs : List Char} (h : EndsWhole cs) : Text.trimEnd cs = cs := by
  obtain ⟨before, c, rfl, hc, -⟩ := h
  exact Text.trimEnd_append_of_not_blank before hc

theorem EndsWhole.cutClosingSlash {cs : List Char} (h : EndsWhole cs) :
    cutClosingSlash cs = (cs, false) := by
  obtain ⟨before, c, rfl, -, hslash⟩ := h
  unfold Template.cutClosingSlash
  rw [Text.beforeSuffix?_append_singleton]
  by_cases hc : '/' = c
  · rw [if_pos hc]
    obtain ⟨first, d, rfl, hd⟩ := hslash hc.symm
    obtain ⟨hblank, -, hquote, -⟩ := AttributeItem.isBare_iff.mp hd
    have hascii : Text.isAsciiBlank d = false :=
      Bool.eq_false_iff.mpr fun h => by simp [Text.isBlank_of_isAsciiBlank h] at hblank
    simp [hascii, hquote]
  · rw [if_neg hc]

theorem cutClosingSlash_append_slash {cs : List Char} (h : EndsWhole cs) :
    cutClosingSlash (cs ++ [' ', '/']) = (cs, true) := by
  have hsplit : cs ++ [' ', '/'] = (cs ++ [' ']) ++ ['/'] := by simp
  have htrim : Text.trimEnd (cs ++ [' ']) = cs := by
    rw [Text.trimEnd_append_blank cs rfl, h.trimEnd]
  unfold Template.cutClosingSlash
  rw [hsplit, Text.beforeSuffix?_append_singleton, if_pos rfl]
  simp [htrim, Text.isAsciiBlank]

theorem endsWhole_quotedSource (cs : List Char) : EndsWhole (quotedSource cs) :=
  ⟨'"' :: escapeQuoted cs, '"', rfl, rfl, fun h => by cases h⟩

namespace AttributeItem

theorem endsWhole_source {item : AttributeItem} (h : item.IsWritable) : EndsWhole item.source := by
  cases item with
  | named key value =>
      have hvalue := (endsWhole_quotedSource value.toList).prepend (key.toList ++ ['='])
      simpa [source] using hvalue
  | word text =>
      obtain ⟨hne, hbare, hslash⟩ := h
      obtain ⟨before, c, htext⟩ := List.eq_nil_or_concat text.toList |>.resolve_left hne
      rw [List.concat_eq_append] at htext
      have hmem : ∀ d ∈ before ++ [c], isBare d = true := htext ▸ List.all_eq_true.mp hbare
      refine ⟨before, c, htext, (isBare_iff.mp (hmem c (by simp))).1, fun hc => ?_⟩
      rcases List.eq_nil_or_concat before with rfl | ⟨first, d, rfl⟩
      · rw [hc, List.nil_append] at htext
        exact absurd (String.toList_inj.mp htext) hslash
      · exact ⟨first, d, List.concat_eq_append, hmem d (by simp)⟩
  | quoted text => exact endsWhole_quotedSource text.toList

end AttributeItem

theorem endsWhole_attributeText {item : AttributeItem} {rest : List AttributeItem}
    (h : ∀ i ∈ item :: rest, i.IsWritable) : EndsWhole (attributeText (item :: rest)) := by
  induction rest generalizing item with
  | nil => exact AttributeItem.endsWhole_source (h item List.mem_cons_self)
  | cons next rest ih =>
      have hrest := ih (fun i hi => h i (List.mem_cons_of_mem _ hi))
      have hall := hrest.prepend (item.source ++ [' '])
      simpa [attributeText] using hall

theorem stops_attributeText {item : AttributeItem} (h : item.IsWritable)
    (rest : List AttributeItem) (after : List Char) :
    Text.Stops Text.isBlank (attributeText (item :: rest) ++ after) := by
  obtain ⟨c, tail, hsource, hblank, -⟩ := AttributeItem.readItem_source h beginsWithBlank_nil
  intro d hd
  cases rest <;> simp_all [attributeText]

/-- The inside of a tag falls into the text of its attributes and the slash. -/
theorem openerParts_insideOf {items : List AttributeItem} (h : ∀ item ∈ items, item.IsWritable)
    (selfClosing : Bool) :
    openerParts (insideOf selfClosing items) = (attributeText items, selfClosing) := by
  cases items with
  | nil => cases selfClosing <;> rfl
  | cons item rest =>
      have hwhole := endsWhole_attributeText h
      have hstops := stops_attributeText (h item List.mem_cons_self) rest
      unfold openerParts insideOf
      rw [flatMap_source_cons, List.cons_append, Text.trim_space (hstops _)]
      cases selfClosing with
      | false =>
          simp only [Bool.false_eq_true, if_false, List.append_nil]
          rw [hwhole.trimEnd, hwhole.cutClosingSlash]
      | true =>
          simp only [if_true]
          have hsplit : attributeText (item :: rest) ++ [' ', '/'] =
              (attributeText (item :: rest) ++ [' ']) ++ ['/'] := by simp
          rw [hsplit, Text.trimEnd_append_of_not_blank _ rfl, ← hsplit,
            cutClosingSlash_append_slash hwhole]

/-! ## A tag and what follows it -/

/-- The name is one that a tag can have. -/
def IsTagName (letters : List Char) : Prop := readName letters = some (letters, [])

theorem passes_insideOf {items : List AttributeItem} (h : ∀ item ∈ items, item.IsWritable)
    (selfClosing : Bool) : Passes (insideOf selfClosing items) := by
  have hspace : Passes [' '] := passes_char rfl (by decide)
  have hslash : Passes ['/'] := passes_char rfl (by decide)
  have hend : Passes (if selfClosing then [' ', '/'] else []) := by
    cases selfClosing with
    | false => exact passes_nil
    | true => exact hspace.append hslash
  refine Passes.append ?_ hend
  cases items with
  | nil => exact passes_nil
  | cons item rest =>
      rw [flatMap_source_cons]
      exact hspace.append (passes_attributeText h)

/-- An opening tag is read back whatever follows, if its inside begins like one and is passed over as
a whole. -/
theorem readTag_opener_of_passes {letters inner : List Char} (hletters : IsTagName letters)
    (hpasses : Passes inner) (hinner : ∀ c ∈ inner.head?, c = '/' ∨ Text.isAsciiBlank c = true)
    (after : List Char) :
    readTag ((Lexeme.opener letters inner).source ++ after) =
      .ok (some (.opener letters inner, after)) := by
  have hsource : (Lexeme.opener letters inner).source ++ after =
      '\x7b' :: '@' :: (letters ++ (inner ++ '\x7d' :: after)) := by
    simp [Lexeme.source]
  have hscan : scanInner none (inner ++ '\x7d' :: after) = .ok (inner, after) := by
    rw [hpasses]
    simp [scanInner, Except.map]
  have hfirst : ∃ c rest, inner ++ '\x7d' :: after = c :: rest ∧
      (c = '\x7d' ∨ c = '/' ∨ Text.isAsciiBlank c = true) := by
    cases inner with
    | nil => exact ⟨'\x7d', after, rfl, .inl rfl⟩
    | cons c inner => exact ⟨c, inner ++ '\x7d' :: after, rfl, .inr (hinner c rfl)⟩
  obtain ⟨c, rest, hrest, hc⟩ := hfirst
  have hstops : Text.Stops isNameChar (c :: rest) := by
    rw [Text.stops_cons]
    rcases hc with rfl | rfl | hc
    · rfl
    · rfl
    · simp only [Text.isAsciiBlank, Bool.or_eq_true, beq_iff_eq] at hc
      rcases hc with (((rfl | rfl) | rfl) | rfl) | rfl <;> rfl
  rw [hrest] at hsource hscan
  rw [hsource, readTag, if_pos ⟨rfl, rfl⟩]
  exact readOpener_eq_some.mpr
    ⟨letters, c, rest, inner, readName_append hletters hstops, hc, hscan, rfl⟩

/-- An opening tag is read back whatever follows. -/
theorem readTag_opener {letters : List Char} (hletters : IsTagName letters)
    {items : List AttributeItem} (h : ∀ item ∈ items, item.IsWritable) (selfClosing : Bool)
    (after : List Char) :
    readTag ((Lexeme.opener letters (insideOf selfClosing items)).source ++ after) =
      .ok (some (.opener letters (insideOf selfClosing items), after)) := by
  refine readTag_opener_of_passes hletters (passes_insideOf h selfClosing) (fun c hc => ?_) after
  cases items <;> cases selfClosing <;> cases hc <;> exact .inr rfl

/-- A closing tag is read back whatever follows. -/
theorem readTag_closer {letters : List Char} (hletters : IsTagName letters) (after : List Char) :
    readTag ((Lexeme.closer letters []).source ++ after) =
      .ok (some (.closer letters [], after)) := by
  have hsource : (Lexeme.closer letters []).source ++ after =
      '\x7b' :: '/' :: (letters ++ '\x7d' :: after) := by
    simp [Lexeme.source]
  have hname : readName (letters ++ '\x7d' :: after) = some (letters, '\x7d' :: after) :=
    readName_append hletters (Text.stops_cons.mpr rfl)
  have hread : readCloser (letters ++ '\x7d' :: after) = some (.closer letters [], after) :=
    readCloser_eq_some.mpr ⟨letters, _, hname, rfl, rfl⟩
  rw [hsource, readTag, if_neg (by decide), if_pos ⟨rfl, rfl⟩, hread]

/-! ## Attributes -/

/-- The attributes that items amount to: the pairs, the texts and the bare words, each in order. -/
def attributesOf (items : List AttributeItem) : Attributes where
  named := ⟨items.filterMap fun
    | .named key value => some (key, value)
    | _ => none⟩
  positional := items.filterMap fun
    | .named _ _ => none
    | .word text => some text
    | .quoted text => some text
  flags := items.filterMap fun
    | .word text => some text
    | _ => none

/-- No name is given twice. -/
def HasDistinctNames (items : List AttributeItem) : Prop := (attributesOf items).named.keys.Nodup

instance decHasDistinctNames (items : List AttributeItem) : Decidable (HasDistinctNames items) :=
  inferInstanceAs (Decidable (attributesOf items).named.keys.Nodup)

/-- A new name, or an item without a name, overwrites nothing. -/
theorem attributesOf_append_singleton {items : List AttributeItem} {item : AttributeItem}
    (h : HasDistinctNames (items ++ [item])) :
    attributesOf (items ++ [item]) = (attributesOf items).add item := by
  cases item with
  | named key value =>
      have hkey : key ∉ (attributesOf items).named.entries.map (·.1) := by
        have hnodup : ((attributesOf items).named.entries.map (·.1) ++ [key]).Nodup := by
          simpa [HasDistinctNames, attributesOf, OrderedMap.keys] using h
        exact fun hmem => List.disjoint_of_nodup_append hnodup hmem List.mem_cons_self
      have hput := OrderedMap.put_of_not_mem value hkey
      simp only [Attributes.add, OrderedMap.insert, hput]
      simp [attributesOf]
  | word text => simp [attributesOf, Attributes.add]
  | quoted text => simp [attributesOf, Attributes.add]

theorem HasDistinctNames.of_append {items rest : List AttributeItem}
    (h : HasDistinctNames (items ++ rest)) : HasDistinctNames items := by
  unfold HasDistinctNames OrderedMap.keys attributesOf at h ⊢
  rw [List.filterMap_append, List.map_append] at h
  exact h.of_append_left

/-- Items without a repeated name are collected as they were written. -/
theorem ofItems_eq_attributesOf {items : List AttributeItem} (h : HasDistinctNames items) :
    Attributes.ofItems items = attributesOf items := by
  induction items using List.reverseRecOn with
  | nil => rfl
  | append_singleton items item ih =>
      rw [attributesOf_append_singleton h, ← ih h.of_append, Attributes.ofItems, List.foldl_append]
      rfl

end StaticSite.Template
