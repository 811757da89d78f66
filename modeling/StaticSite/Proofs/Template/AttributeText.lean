/-
Attributes as text.

An attribute is written as a bare word, as a quoted text, or as a name with a quoted value; in
quotes a backslash stands before each quotation mark and each backslash.  Main statements: attributes
that are written one after the other are read back (`readItems_attributeText`), and the reader of
tags, which looks for the closing brace, passes over their text as a whole (`passes_attributeText`).
-/
import StaticSite.Outcome
import StaticSite.Proofs.Template.Lexemes
import StaticSite.Template.Attributes

namespace StaticSite.Template

/-! ## Writing -/

/-- The text with a backslash before each quotation mark and each backslash. -/
def escapeQuoted (cs : List Char) : List Char :=
  cs.flatMap fun c => if c = '"' ∨ c = '\\' then ['\\', c] else [c]

/-- The text in quotation marks. -/
def quotedSource (cs : List Char) : List Char := '"' :: (escapeQuoted cs ++ ['"'])

namespace AttributeItem

/-- The item as it is written. -/
def source : AttributeItem → List Char
  | .named key value => key.toList ++ '=' :: quotedSource value.toList
  | .word text => text.toList
  | .quoted text => quotedSource text.toList

/-- May the character stand in a bare word or a name? -/
def isBare (c : Char) : Bool := !Text.isBlank c && c != '=' && !isQuote c && c != '\x7d'

/-- Can the item be written so that it is read back? -/
def IsWritable : AttributeItem → Prop
  | .named key _ => key.toList ≠ [] ∧ key.toList.all isBare = true
  | .word text => text.toList ≠ [] ∧ text.toList.all isBare = true ∧ text ≠ "/"
  | .quoted _ => True

instance decIsWritable : (item : AttributeItem) → Decidable item.IsWritable
  | .named _ _ => inferInstanceAs (Decidable (_ ∧ _))
  | .word _ => inferInstanceAs (Decidable (_ ∧ _ ∧ _))
  | .quoted _ => inferInstanceAs (Decidable True)

end AttributeItem

/-- Items with a space between each two. -/
def attributeText : List AttributeItem → List Char
  | [] => []
  | [item] => item.source
  | item :: rest => item.source ++ ' ' :: attributeText rest

/-! ## Reading quoted text -/

@[simp] theorem escapeQuoted_nil : escapeQuoted [] = [] := rfl

theorem escapeQuoted_cons_escaped {c : Char} (h : c = '"' ∨ c = '\\') (cs : List Char) :
    escapeQuoted (c :: cs) = '\\' :: c :: escapeQuoted cs := by
  simp [escapeQuoted, h]

theorem escapeQuoted_cons_plain {c : Char} (h : ¬ (c = '"' ∨ c = '\\')) (cs : List Char) :
    escapeQuoted (c :: cs) = c :: escapeQuoted cs := by
  simp [escapeQuoted, h]

theorem readQuoted_char {quote c : Char} (h : c ≠ '\\') (rest : List Char) :
    readQuoted quote (c :: rest) = if c = quote then .ok ([], rest)
      else (readQuoted quote rest).map fun (value, after) => (c :: value, after) := by
  rw [readQuoted]
  · exact fun hc _ => h hc
  · exact fun _ _ hc _ => h hc

theorem readQuoted_escapeQuoted (cs rest : List Char) :
    readQuoted '"' (escapeQuoted cs ++ '"' :: rest) = .ok (cs, rest) := by
  induction cs with
  | nil => rfl
  | cons c cs ih =>
      by_cases hc : c = '"' ∨ c = '\\'
      · rw [escapeQuoted_cons_escaped hc, List.cons_append, List.cons_append, readQuoted, ih]
        rfl
      · rw [escapeQuoted_cons_plain hc, List.cons_append]
        have hquote : c ≠ '"' := fun h => hc (.inl h)
        have hslash : c ≠ '\\' := fun h => hc (.inr h)
        rw [readQuoted_char hslash, if_neg hquote, ih]
        rfl

/-! ## Passing over text

`scanInner` looks for the brace that closes a tag.  It passes over a text if it is outside of
quotation marks after the text as it was before it. -/

/-- The search for the closing brace goes on after the text as if it were not there. -/
def Passes (cs : List Char) : Prop :=
  ∀ rest, scanInner none (cs ++ rest) =
    (scanInner none rest).map fun (inner, after) => (cs ++ inner, after)

theorem passes_nil : Passes [] := by
  intro rest
  cases h : scanInner none rest <;> simp [h, Except.map]

theorem Passes.append {cs ds : List Char} (hcs : Passes cs) (hds : Passes ds) :
    Passes (cs ++ ds) := by
  intro rest
  rw [List.append_assoc, hcs, hds]
  cases h : scanInner none rest <;> simp [Except.map]

theorem passes_char {c : Char} (hquote : isQuote c = false) (hbrace : c ≠ '\x7d') : Passes [c] := by
  intro rest
  rw [List.singleton_append, scanInner_outside hbrace, hquote]
  rfl

theorem passes_of_forall {cs : List Char}
    (h : ∀ c ∈ cs, isQuote c = false ∧ c ≠ '\x7d') : Passes cs := by
  induction cs with
  | nil => exact passes_nil
  | cons c cs ih =>
      obtain ⟨hc, hcs⟩ := List.forall_mem_cons.mp h
      exact (passes_char hc.1 hc.2).append (ih hcs)

theorem scanInner_escapeQuoted (cs rest : List Char) :
    scanInner (some '"') (escapeQuoted cs ++ '"' :: rest) =
      (scanInner none rest).map fun (inner, after) => (escapeQuoted cs ++ '"' :: inner, after) := by
  induction cs with
  | nil =>
      rw [escapeQuoted_nil, List.nil_append, scanInner_char (by decide), if_pos rfl]
      rfl
  | cons c cs ih =>
      by_cases hc : c = '"' ∨ c = '\\'
      · rw [escapeQuoted_cons_escaped hc, List.cons_append, List.cons_append, scanInner_escaped, ih]
        cases scanInner none rest <;> rfl
      · have hquote : c ≠ '"' := fun h => hc (.inl h)
        have hslash : c ≠ '\\' := fun h => hc (.inr h)
        rw [escapeQuoted_cons_plain hc, List.cons_append, scanInner_char hslash, if_neg hquote, ih]
        cases scanInner none rest <;> rfl

theorem passes_quotedSource (cs : List Char) : Passes (quotedSource cs) := by
  intro rest
  have hsource : quotedSource cs ++ rest = '"' :: (escapeQuoted cs ++ '"' :: rest) := by
    simp [quotedSource]
  have hquote : isQuote '"' = true := rfl
  rw [hsource, scanInner_outside (by decide), hquote, if_pos rfl, scanInner_escapeQuoted]
  cases scanInner none rest with
  | error e => rfl
  | ok found => simp [Except.map, quotedSource]

namespace AttributeItem

theorem isBare_iff {c : Char} :
    isBare c = true ↔ Text.isBlank c = false ∧ c ≠ '=' ∧ isQuote c = false ∧ c ≠ '\x7d' := by
  simp [isBare, and_assoc]

theorem passes_bare {cs : List Char} (h : cs.all isBare = true) : Passes cs :=
  passes_of_forall fun c hc => (isBare_iff.mp (List.all_eq_true.mp h c hc)).2.2

theorem passes_source {item : AttributeItem} (h : item.IsWritable) : Passes item.source := by
  cases item with
  | named key value =>
      have heq : Passes ['='] := passes_char rfl (by decide)
      exact (passes_bare h.2).append (heq.append (passes_quotedSource value.toList))
  | word text => exact passes_bare h.2.1
  | quoted text => exact passes_quotedSource text.toList

end AttributeItem

theorem passes_attributeText {items : List AttributeItem} (h : ∀ item ∈ items, item.IsWritable) :
    Passes (attributeText items) := by
  induction items with
  | nil => exact passes_nil
  | cons item rest ih =>
      obtain ⟨hitem, hrest⟩ := List.forall_mem_cons.mp h
      cases rest with
      | nil => exact AttributeItem.passes_source hitem
      | cons next rest =>
          have hspace : Passes [' '] := passes_char rfl (by decide)
          exact (AttributeItem.passes_source hitem).append (hspace.append (ih hrest))

/-! ## Reading one item

A quotation mark at the beginning of an item or of a value counts as one; elsewhere it is a character
like any other. -/

section Item

variable {c : Char} {rest : List Char}

theorem isQuote_iff : isQuote c = true ↔ c = '"' ∨ c = '\'' := by simp [isQuote]

theorem readValue_quote (hc : isQuote c = true) : readValue (c :: rest) = readQuoted c rest :=
  if_pos (isQuote_iff.mp hc)

theorem readValue_bare (hc : isQuote c = false) :
    readValue (c :: rest) = .ok ((c :: rest).takeWhile fun d => !Text.isBlank d,
      (c :: rest).dropWhile fun d => !Text.isBlank d) :=
  if_neg fun h => Bool.eq_false_iff.mp hc (isQuote_iff.mpr h)

theorem readItem_quote (hc : isQuote c = true) :
    readItem c rest =
      (readQuoted c rest).map fun (text, after) => (.quoted (String.ofList text), after) :=
  if_pos (isQuote_iff.mp hc)

/-- An equals sign follows the word at the beginning of an item, or none does. -/
theorem equals_or_word (c : Char) (rest : List Char) :
    (∃ after, (c :: rest).dropWhile isWordPart = '=' :: after) ∨
      ∀ after, (c :: rest).dropWhile isWordPart ≠ '=' :: after := by
  by_cases h : ∃ after, (c :: rest).dropWhile isWordPart = '=' :: after
  · exact .inl h
  · exact .inr fun after hafter => h ⟨after, hafter⟩

theorem readItem_equals (hc : ¬ isQuote c = true) {after : List Char}
    (h : (c :: rest).dropWhile isWordPart = '=' :: after) :
    readItem c rest =
      if ((c :: rest).takeWhile isWordPart).isEmpty then .error .missingName
      else (readValue after).map fun (value, after) =>
        (.named (String.ofList ((c :: rest).takeWhile isWordPart)) (String.ofList value), after) := by
  unfold readItem
  rw [if_neg fun hquote => hc (isQuote_iff.mpr hquote)]
  simp only [h]

theorem readItem_word (hc : ¬ isQuote c = true)
    (h : ∀ after, (c :: rest).dropWhile isWordPart ≠ '=' :: after) :
    readItem c rest = .ok (.word (String.ofList ((c :: rest).takeWhile isWordPart)),
      (c :: rest).dropWhile isWordPart) := by
  unfold readItem
  rw [if_neg fun hquote => hc (isQuote_iff.mpr hquote)]
  dsimp only
  split
  · exact absurd ‹_› (h _)
  · rfl

end Item

/-! ## Reading items -/

theorem readItems_nil : readItems [] = .ok [] := by
  rw [readItems.eq_def]

theorem readItems_blank {c : Char} (h : Text.isBlank c = true) (rest : List Char) :
    readItems (c :: rest) = readItems rest := by
  rw [readItems.eq_def]
  exact dif_pos h

theorem readItems_item {c : Char} {rest after : List Char} {item : AttributeItem}
    (hc : Text.isBlank c = false) (h : readItem c rest = .ok (item, after)) :
    readItems (c :: rest) = (readItems after).map (item :: ·) := by
  rw [readItems.eq_def]
  dsimp only
  rw [dif_neg (by simp [hc])]
  split <;> simp_all

theorem readItems_fault {c : Char} {rest : List Char} {fault : AttributeFault}
    (hc : Text.isBlank c = false) (h : readItem c rest = .error fault) :
    readItems (c :: rest) = .error fault := by
  rw [readItems.eq_def]
  dsimp only
  rw [dif_neg (by simp [hc])]
  split <;> simp_all

/-- The text is empty or begins with a blank. -/
def BeginsWithBlank (cs : List Char) : Prop := ∀ c ∈ cs.head?, Text.isBlank c = true

theorem beginsWithBlank_nil : BeginsWithBlank [] := by
  intro c hc
  cases hc

theorem beginsWithBlank_space (cs : List Char) : BeginsWithBlank (' ' :: cs) := by
  intro c hc
  cases hc
  rfl

namespace AttributeItem

theorem isWordPart_of_isBare {c : Char} (h : isBare c = true) : isWordPart c = true := by
  obtain ⟨hblank, heq, -, -⟩ := isBare_iff.mp h
  simp [isWordPart, hblank, heq]

/-- A bare text is taken as a whole, up to an equals sign or a blank. -/
theorem stretch_bare {cs rest : List Char} (h : cs.all isBare = true)
    (hrest : Text.Stops isWordPart rest) :
    (cs ++ rest).takeWhile isWordPart = cs ∧ (cs ++ rest).dropWhile isWordPart = rest := by
  have hcs : ∀ c ∈ cs, isWordPart c = true := fun c hc =>
    isWordPart_of_isBare (List.all_eq_true.mp h c hc)
  exact ⟨Text.takeWhile_stretch hcs hrest, Text.dropWhile_stretch hcs hrest⟩

/-- A bare text begins with a character that is neither a blank nor a quotation mark. -/
theorem exists_cons_of_bare {cs : List Char} (hne : cs ≠ []) (h : cs.all isBare = true) :
    ∃ c tail, cs = c :: tail ∧ Text.isBlank c = false ∧ ¬ isQuote c = true := by
  obtain ⟨c, tail, rfl⟩ := List.exists_cons_of_ne_nil hne
  obtain ⟨hblank, -, hquote, -⟩ := isBare_iff.mp (List.all_eq_true.mp h c List.mem_cons_self)
  exact ⟨c, tail, rfl, hblank, by rw [hquote]; exact Bool.false_ne_true⟩

theorem readValue_quotedSource (cs rest : List Char) :
    readValue (quotedSource cs ++ rest) = .ok (cs, rest) := by
  have hsource : quotedSource cs ++ rest = '"' :: (escapeQuoted cs ++ '"' :: rest) := by
    simp [quotedSource]
  rw [hsource, readValue_quote rfl, readQuoted_escapeQuoted]

/-- What is written begins with the first character of the item, and the item is read from there. -/
theorem readItem_source {item : AttributeItem} (h : item.IsWritable) {rest : List Char}
    (hrest : BeginsWithBlank rest) :
    ∃ c tail, item.source = c :: tail ∧ Text.isBlank c = false ∧
      readItem c (tail ++ rest) = .ok (item, rest) := by
  cases item with
  | named key value =>
      obtain ⟨hne, hbare⟩ := h
      obtain ⟨c, tail, hkey, hblank, hquote⟩ := exists_cons_of_bare hne hbare
      refine ⟨c, tail ++ '=' :: quotedSource value.toList, by simp [source, hkey], hblank, ?_⟩
      have hequals : Text.Stops isWordPart ('=' :: (quotedSource value.toList ++ rest)) :=
        Text.stops_cons.mpr rfl
      obtain ⟨htake, hdrop⟩ := stretch_bare hbare hequals
      have hall : key.toList ++ '=' :: (quotedSource value.toList ++ rest) =
          c :: (tail ++ '=' :: quotedSource value.toList ++ rest) := by
        simp [hkey]
      rw [hall] at htake hdrop
      have hnamed : ¬ key.toList.isEmpty = true := by simpa using hne
      rw [readItem_equals hquote hdrop, htake, if_neg hnamed, readValue_quotedSource]
      simp [Except.map]
  | word text =>
      obtain ⟨hne, hbare, -⟩ := h
      obtain ⟨c, tail, htext, hblank, hquote⟩ := exists_cons_of_bare hne hbare
      have hstops : Text.Stops isWordPart rest := fun c hc => by simp [isWordPart, hrest c hc]
      obtain ⟨htake, hdrop⟩ := stretch_bare hbare hstops
      rw [htext, List.cons_append] at htake hdrop
      refine ⟨c, tail, htext, hblank, ?_⟩
      -- an equals sign does not follow, as what follows begins with a blank
      have hword : ∀ after, (c :: (tail ++ rest)).dropWhile isWordPart ≠ '=' :: after := by
        rintro after hafter
        rw [hdrop] at hafter
        have hequals := hrest '=' (by rw [hafter]; rfl)
        cases hequals
      rw [readItem_word hquote hword, htake, hdrop, ← htext, String.ofList_toList]
  | quoted text =>
      refine ⟨'"', escapeQuoted text.toList ++ ['"'], rfl, rfl, ?_⟩
      rw [readItem_quote rfl, List.append_assoc, List.singleton_append, readQuoted_escapeQuoted]
      simp [Except.map]

theorem readItems_source {item : AttributeItem} (h : item.IsWritable) {rest : List Char}
    (hrest : BeginsWithBlank rest) :
    readItems (item.source ++ rest) = (readItems rest).map (item :: ·) := by
  obtain ⟨c, tail, hsource, hblank, hread⟩ := readItem_source h hrest
  rw [hsource, List.cons_append, readItems_item hblank hread]

end AttributeItem

/-- Items that are written one after the other are read back. -/
theorem readItems_attributeText {items : List AttributeItem}
    (h : ∀ item ∈ items, item.IsWritable) : readItems (attributeText items) = .ok items := by
  induction items with
  | nil => exact readItems_nil
  | cons item rest ih =>
      obtain ⟨hitem, hrest⟩ := List.forall_mem_cons.mp h
      cases rest with
      | nil =>
          have hread := AttributeItem.readItems_source hitem beginsWithBlank_nil
          rw [List.append_nil] at hread
          rw [attributeText, hread, readItems_nil]
          rfl
      | cons next rest =>
          have hread := AttributeItem.readItems_source hitem
            (beginsWithBlank_space (attributeText (next :: rest)))
          rw [attributeText, hread, readItems_blank rfl, ih hrest]
          · rfl
          · exact List.cons_ne_nil _ _

end StaticSite.Template
