/-
Attributes with more behind them.

What begins with a blank does not change how the items before it are read, so that more items can be
written behind an attribute text (`readItems_append`).  Blanks alone hold no quotation mark either
that a quoted text could end with, so they change nothing at all (`readItems_append_blanks`).
-/
import StaticSite.Proofs.Template.Quotes

namespace StaticSite.Template

section Append

variable {q c : Char} {cs rest value after more : List Char} {item : AttributeItem}

theorem readQuoted_append (h : readQuoted q cs = .ok (value, after)) (more : List Char) :
    readQuoted q (cs ++ more) = .ok (value, after ++ more) := by
  fun_induction readQuoted q cs generalizing value after with
  | case1 => cases h
  | case2 => cases h
  | case3 c rest ih =>
      obtain ⟨⟨value', after'⟩, hrest, heq⟩ := Outcome.map_eq_ok.mp h
      cases heq
      rw [List.cons_append, List.cons_append, readQuoted, ih hrest]
      rfl
  | case4 rest hlast hpair =>
      cases h
      rw [List.cons_append, readQuoted_char (ne_backslash_of_cases hlast hpair), if_pos rfl]
  | case5 c rest hlast hpair hc ih =>
      obtain ⟨⟨value', after'⟩, hrest, heq⟩ := Outcome.map_eq_ok.mp h
      cases heq
      rw [List.cons_append, readQuoted_char (ne_backslash_of_cases hlast hpair), if_neg hc,
        ih hrest]
      rfl

/-- What begins with a blank is no part of a value before it. -/
theorem readValue_append (h : readValue cs = .ok (value, after)) (hmore : BeginsWithBlank more) :
    readValue (cs ++ more) = .ok (value, after ++ more) := by
  have hstops : Text.Stops (fun d => !Text.isBlank d) more := fun d hd => by simp [hmore d hd]
  have hbare : ∀ {ds}, (∀ d ∈ ds.head?, isQuote d = false) → readValue ds =
      .ok (ds.takeWhile fun d => !Text.isBlank d, ds.dropWhile fun d => !Text.isBlank d) := by
    intro ds hds
    cases ds with
    | nil => rfl
    | cons d ds => exact readValue_bare (hds d rfl)
  cases cs with
  | nil =>
      cases h
      rw [List.nil_append, hbare fun d hd => isQuote_of_isBlank (hmore d hd),
        Text.takeWhile_of_stops hstops, Text.dropWhile_of_stops hstops]
      rfl
  | cons c rest =>
      by_cases hc : isQuote c = true
      · rw [readValue_quote hc] at h
        rw [List.cons_append, readValue_quote hc, readQuoted_append h]
      · rw [Bool.not_eq_true] at hc
        rw [readValue_bare hc] at h
        cases h
        rw [List.cons_append, readValue_bare hc, ← List.cons_append,
          Text.takeWhile_append_of_stops hstops, Text.dropWhile_append_of_stops hstops]

theorem beginsWithBlank_of_forall (h : ∀ d ∈ more, Text.isBlank d = true) : BeginsWithBlank more :=
  fun d hd => h d (List.mem_of_mem_head? hd)

/-- What begins with a blank is no part of a word before it. -/
theorem stretch_append (hmore : BeginsWithBlank more) (c : Char) (rest : List Char) :
    (c :: (rest ++ more)).takeWhile isWordPart = (c :: rest).takeWhile isWordPart ∧
      (c :: (rest ++ more)).dropWhile isWordPart = (c :: rest).dropWhile isWordPart ++ more := by
  have hstops : Text.Stops isWordPart more := fun d hd => by simp [isWordPart, hmore d hd]
  rw [← List.cons_append]
  exact ⟨Text.takeWhile_append_of_stops hstops, Text.dropWhile_append_of_stops hstops⟩

/-- What begins with a blank brings no equals sign for the word before it. -/
theorem no_equals_append (hmore : BeginsWithBlank more)
    (hword : ∀ after, (c :: rest).dropWhile isWordPart ≠ '=' :: after) (after : List Char) :
    (c :: (rest ++ more)).dropWhile isWordPart ≠ '=' :: after := by
  intro hafter
  rw [(stretch_append hmore c rest).2] at hafter
  cases hleft : (c :: rest).dropWhile isWordPart with
  | nil =>
      rw [hleft, List.nil_append] at hafter
      have hequals : Text.isBlank '=' = true := hmore '=' (by rw [hafter]; rfl)
      cases hequals
  | cons d left =>
      rw [hleft] at hafter
      obtain ⟨rfl, -⟩ := List.cons.inj hafter
      exact hword left hleft

/-- What begins with a blank is no part of an item before it. -/
theorem readItem_append (h : readItem c rest = .ok (item, after)) (hmore : BeginsWithBlank more) :
    readItem c (rest ++ more) = .ok (item, after ++ more) := by
  by_cases hc : isQuote c = true
  · rw [readItem_quote hc] at h ⊢
    obtain ⟨⟨text, tail⟩, hread, heq⟩ := Outcome.map_eq_ok.mp h
    cases heq
    rw [readQuoted_append hread]
    rfl
  · obtain ⟨htake, hdrop⟩ := stretch_append hmore c rest
    rcases equals_or_word c rest with ⟨tail, htail⟩ | hword
    · rw [htail, List.cons_append] at hdrop
      rw [readItem_equals hc htail] at h
      rw [readItem_equals hc hdrop, htake]
      split at h
      · cases h
      · rename_i hname
        obtain ⟨⟨value, tail'⟩, hread, heq⟩ := Outcome.map_eq_ok.mp h
        cases heq
        rw [if_neg hname, readValue_append hread hmore]
        rfl
    · rw [readItem_word hc hword] at h
      cases h
      rw [readItem_word hc (no_equals_append hmore hword), htake, hdrop]

/-- What begins with a blank is read after the items before it. -/
theorem readItems_append {items : List AttributeItem} (h : readItems cs = .ok items)
    (hmore : BeginsWithBlank more) :
    readItems (cs ++ more) = (readItems more).map (items ++ ·) := by
  fun_induction readItems cs generalizing items with
  | case1 =>
      cases h
      rw [List.nil_append]
      cases readItems more <;> rfl
  | case2 c rest hc ih => rw [List.cons_append, readItems_blank hc, ih h]
  | case3 => cases h
  | case4 c rest hc item after hitem ih =>
      obtain ⟨others, hothers, rfl⟩ := Outcome.map_eq_ok.mp h
      rw [Bool.not_eq_true] at hc
      rw [List.cons_append, readItems_item hc (readItem_append hitem hmore), ih hothers]
      cases readItems more <;> rfl

/-! ### Faults -/

variable {fault : AttributeFault} {blanks : List Char}

/-- A quoted text does not end in text without a quotation mark either. -/
theorem readQuoted_append_fault (hq : isQuote q = true) (h : readQuoted q cs = .error fault)
    (hmore : ∀ d ∈ more, isQuote d = false) : readQuoted q (cs ++ more) = .error fault := by
  have hnot : q ∉ more := by
    intro hmem
    rw [hmore q hmem] at hq
    cases hq
  fun_induction readQuoted q cs with
  | case1 =>
      cases h
      exact readQuoted_of_not_mem hnot
  | case2 =>
      cases h
      refine readQuoted_of_not_mem fun hmem => ?_
      rcases List.mem_cons.mp hmem with rfl | hmem
      · cases hq
      · exact hnot hmem
  | case3 c rest ih =>
      rw [List.cons_append, List.cons_append, readQuoted, ih (Outcome.map_eq_error.mp h)]
      rfl
  | case4 => cases h
  | case5 c rest hlast hpair hc ih =>
      rw [List.cons_append, readQuoted_char (ne_backslash_of_cases hlast hpair), if_neg hc,
        ih (Outcome.map_eq_error.mp h)]
      rfl

theorem readValue_append_fault (h : readValue cs = .error fault)
    (hmore : ∀ d ∈ more, isQuote d = false) : readValue (cs ++ more) = .error fault := by
  cases cs with
  | nil => cases h
  | cons c rest =>
      by_cases hc : isQuote c = true
      · rw [readValue_quote hc] at h
        rw [List.cons_append, readValue_quote hc, readQuoted_append_fault hc h hmore]
      · rw [Bool.not_eq_true] at hc
        rw [readValue_bare hc] at h
        cases h

/-- An item that cannot be read still cannot with blanks behind it. -/
theorem readItem_append_fault (h : readItem c rest = .error fault)
    (hblanks : ∀ d ∈ blanks, Text.isBlank d = true) :
    readItem c (rest ++ blanks) = .error fault := by
  have hquotes : ∀ d ∈ blanks, isQuote d = false := fun d hd => isQuote_of_isBlank (hblanks d hd)
  by_cases hc : isQuote c = true
  · rw [readItem_quote hc, Outcome.map_eq_error] at h
    rw [readItem_quote hc, readQuoted_append_fault hc h hquotes]
    rfl
  · obtain ⟨htake, hdrop⟩ := stretch_append (beginsWithBlank_of_forall hblanks) c rest
    rcases equals_or_word c rest with ⟨tail, htail⟩ | hword
    · rw [htail, List.cons_append] at hdrop
      rw [readItem_equals hc htail] at h
      rw [readItem_equals hc hdrop, htake]
      split at h
      · rename_i hname
        rw [if_pos hname, h]
      · rename_i hname
        rw [if_neg hname, readValue_append_fault (Outcome.map_eq_error.mp h) hquotes]
        rfl
    · rw [readItem_word hc hword] at h
      cases h

theorem readItems_blanks (hblanks : ∀ d ∈ blanks, Text.isBlank d = true) (cs : List Char) :
    readItems (blanks ++ cs) = readItems cs := by
  induction blanks with
  | nil => rfl
  | cons d blanks ih =>
      obtain ⟨hd, hblanks⟩ := List.forall_mem_cons.mp hblanks
      rw [List.cons_append, readItems_blank hd, ih hblanks]

/-- Blanks behind an attribute text change nothing. -/
theorem readItems_append_blanks (hblanks : ∀ d ∈ blanks, Text.isBlank d = true) (cs : List Char) :
    readItems (cs ++ blanks) = readItems cs := by
  fun_induction readItems cs with
  | case1 =>
      have h := readItems_blanks hblanks []
      rw [List.append_nil, readItems_nil] at h
      exact h
  | case2 c rest hc ih => rw [List.cons_append, readItems_blank hc, ih]
  | case3 c rest hc fault hitem =>
      rw [Bool.not_eq_true] at hc
      exact readItems_fault hc (readItem_append_fault hitem hblanks)
  | case4 c rest hc item after hitem ih =>
      rw [Bool.not_eq_true] at hc
      have hitem' := readItem_append hitem (beginsWithBlank_of_forall hblanks)
      rw [List.cons_append, readItems_item hc hitem', ih]

end Append

/-- An item that is written behind an attribute text is added to the attributes. -/
theorem Attributes.parse_append {cs : List Char} {a : Attributes} {item : AttributeItem}
    (h : parse cs = .ok a) (hitem : item.IsWritable) :
    parse (cs ++ ' ' :: item.source) = .ok (a.add item) := by
  obtain ⟨items, hitems, rfl⟩ := Outcome.map_eq_ok.mp h
  have hlast : readItems (' ' :: item.source) = .ok [item] := by
    have hread := AttributeItem.readItems_source hitem beginsWithBlank_nil
    rw [List.append_nil, readItems_nil] at hread
    rw [readItems_blank rfl, hread]
    rfl
  rw [parse, readItems_append hitems (beginsWithBlank_space _), hlast]
  exact congrArg Except.ok (List.foldl_append (f := add))

end StaticSite.Template
