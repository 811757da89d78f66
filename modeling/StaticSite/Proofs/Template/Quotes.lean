/-
What is quoted.

Two readers decide where a quoted text begins.  The reader of tags, which looks for the closing
brace, takes every quotation mark for one.  The reader of attributes takes one only at the beginning
of an item and right after an equals sign; elsewhere it is a character of a bare word, a name or a
bare value (`bareText`).  Main statement: on a text without a quotation mark in its bare text, the
first reader ends within quotation marks just if the second one finds a quoted text that does not end
(`scanInner_of_readItems`).
-/
import Mathlib.Data.List.TakeWhile
import StaticSite.Proofs.Template.AttributeText

namespace StaticSite.Template

/-! ## The search for the closing brace -/

section Search

variable {quote : Option Char} {q c : Char} {cs : List Char} {isOpen : Bool}

theorem isQuote_of_isBlank (hc : Text.isBlank c = true) : isQuote c = false := by
  rw [← Bool.not_eq_true]
  intro hquote
  rcases isQuote_iff.mp hquote with rfl | rfl <;> cases hc

/-- A quotation mark is no backslash. -/
theorem ne_backslash_of_isQuote (h : isQuote c = true) : c ≠ '\\' := by
  rintro rfl
  cases h

/-- Behind a text in which every quotation mark is closed, the search goes on as before it. -/
theorem scanInner_append (h : scanInner quote cs = .error false) (rest : List Char) :
    scanInner quote (cs ++ rest) =
      (scanInner none rest).map fun (inner, after) => (cs ++ inner, after) := by
  fun_induction scanInner quote cs with
  | case1 quote =>
      cases quote with
      | none => exact passes_nil rest
      | some q => cases h
  | case2 => cases h
  | case3 c cs hc ih =>
      obtain h | ⟨⟨_, _⟩, -, h⟩ := Outcome.bind_eq_error.mp h
      · rw [List.cons_append, scanInner_outside hc, ih h]
        cases scanInner none rest <;> rfl
      · cases h
  | case4 => cases h
  | case5 q d cs ih =>
      obtain h | ⟨⟨_, _⟩, -, h⟩ := Outcome.bind_eq_error.mp h
      · rw [List.cons_append, List.cons_append, scanInner_escaped, ih h]
        cases scanInner none rest <;> rfl
      · cases h
  | case6 q c cs hlast hpair ih =>
      obtain h | ⟨⟨_, _⟩, -, h⟩ := Outcome.bind_eq_error.mp h
      · rw [List.cons_append, scanInner_char (ne_backslash_of_cases hlast hpair), ih h]
        cases scanInner none rest <;> rfl
      · cases h

/-- What has been read up to the closing brace has no open quotation mark and no brace. -/
theorem scanInner_of_eq_ok {inner after : List Char} (h : scanInner quote cs = .ok (inner, after)) :
    scanInner quote inner = .error false := by
  fun_induction scanInner quote cs generalizing inner after with
  | case1 => cases h
  | case2 =>
      cases h
      rfl
  | case3 c cs hc ih =>
      obtain ⟨⟨_, _⟩, hrest, h⟩ := Outcome.bind_eq_ok.mp h
      cases h
      rw [scanInner_outside hc, ih hrest]
      rfl
  | case4 => cases h
  | case5 q d cs ih =>
      obtain ⟨⟨_, _⟩, hrest, h⟩ := Outcome.bind_eq_ok.mp h
      cases h
      rw [scanInner_escaped, ih hrest]
      rfl
  | case6 q c cs hlast hpair ih =>
      obtain ⟨⟨_, _⟩, hrest, h⟩ := Outcome.bind_eq_ok.mp h
      cases h
      rw [scanInner_char (ne_backslash_of_cases hlast hpair), ih hrest]
      rfl

/-- A quoted text without its quotation mark does not end. -/
theorem readQuoted_of_not_mem (h : q ∉ cs) : readQuoted q cs = .error .unterminatedQuote := by
  fun_induction readQuoted q cs with
  | case1 => rfl
  | case2 => rfl
  | case3 c rest ih =>
      rw [ih fun hmem => h (by simp [hmem])]
      rfl
  | case4 => exact absurd List.mem_cons_self h
  | case5 c rest _ _ _ ih =>
      rw [ih fun hmem => h (List.mem_cons_of_mem _ hmem)]
      rfl

/-- Where a quoted text does not end, the search does not come out of it. -/
theorem scanInner_of_readQuoted_eq_error {fault : AttributeFault}
    (h : readQuoted q cs = .error fault) : scanInner (some q) cs = .error true := by
  fun_induction readQuoted q cs with
  | case1 => rfl
  | case2 => rfl
  | case3 c rest ih =>
      rw [scanInner_escaped, ih (Outcome.map_eq_error.mp h)]
      rfl
  | case4 => cases h
  | case5 c rest hlast hpair hc ih =>
      rw [scanInner_char (ne_backslash_of_cases hlast hpair), if_neg hc, ih (Outcome.map_eq_error.mp h)]
      rfl

/-- Where a quoted text ends, the search is outside of quotation marks. -/
theorem scanInner_of_readQuoted_eq_ok {value after : List Char}
    (h : readQuoted q cs = .ok (value, after)) (hscan : scanInner (some q) cs = .error isOpen) :
    scanInner none after = .error isOpen := by
  fun_induction readQuoted q cs generalizing value after with
  | case1 => cases h
  | case2 => cases h
  | case3 c rest ih =>
      obtain ⟨⟨_, _⟩, hrest, h⟩ := Outcome.map_eq_ok.mp h
      cases h
      rw [scanInner_escaped, Outcome.map_eq_error] at hscan
      exact ih hrest hscan
  | case4 rest hlast hpair =>
      cases h
      rw [scanInner_char (ne_backslash_of_cases hlast hpair), if_pos rfl, Outcome.map_eq_error] at hscan
      exact hscan
  | case5 c rest hlast hpair hc ih =>
      obtain ⟨⟨_, _⟩, hrest, h⟩ := Outcome.map_eq_ok.mp h
      cases h
      rw [scanInner_char (ne_backslash_of_cases hlast hpair), if_neg hc, Outcome.map_eq_error] at hscan
      exact ih hrest hscan

/-- An open quotation mark stays open over text without one. -/
theorem scanInner_append_of_open {tail : List Char} (hquote : ∀ q ∈ quote, isQuote q = true)
    (h : scanInner quote cs = .error true) (htail : ∀ d ∈ tail, isQuote d = false) :
    scanInner quote (cs ++ tail) = .error true := by
  have hnot : ∀ {q}, isQuote q = true → q ∉ tail := by
    intro q hq hmem
    rw [htail q hmem] at hq
    cases hq
  fun_induction scanInner quote cs with
  | case1 quote =>
      cases quote with
      | none => cases h
      | some q => exact scanInner_of_readQuoted_eq_error (readQuoted_of_not_mem (hnot (hquote q rfl)))
  | case2 => cases h
  | case3 c cs hc ih =>
      obtain h | ⟨⟨_, _⟩, -, h⟩ := Outcome.bind_eq_error.mp h
      · rw [List.cons_append, scanInner_outside hc, ih ?_ h]
        · rfl
        · intro q hq
          split at hq
          · cases hq
            assumption
          · cases hq
      · cases h
  | case4 q =>
      have hq := hnot (hquote q rfl)
      refine scanInner_of_readQuoted_eq_error (readQuoted_of_not_mem fun hmem => ?_)
      rcases List.mem_cons.mp hmem with rfl | hmem
      · exact ne_backslash_of_isQuote (hquote _ rfl) rfl
      · exact hq hmem
  | case5 q d cs ih =>
      obtain h | ⟨⟨_, _⟩, -, h⟩ := Outcome.bind_eq_error.mp h
      · rw [List.cons_append, List.cons_append, scanInner_escaped, ih hquote h]
        rfl
      · cases h
  | case6 q c cs hlast hpair ih =>
      obtain h | ⟨⟨_, _⟩, -, h⟩ := Outcome.bind_eq_error.mp h
      · rw [List.cons_append, scanInner_char (ne_backslash_of_cases hlast hpair), ih ?_ h]
        · rfl
        · intro r hr
          split at hr
          · cases hr
          · exact hquote r hr
      · cases h

/-! ### Steps of the search that are left of a failure -/

theorem scanInner_of_cons (hc : isQuote c = false) (h : scanInner none (c :: cs) = .error isOpen) :
    scanInner none cs = .error isOpen := by
  by_cases hbrace : c = '\x7d'
  · subst hbrace
    cases h
  · rw [scanInner_outside hbrace, hc, Outcome.map_eq_error] at h
    exact h

theorem scanInner_of_quote (hc : isQuote c = true) (h : scanInner none (c :: cs) = .error isOpen) :
    scanInner (some c) cs = .error isOpen := by
  have hbrace : c ≠ '\x7d' := by
    rintro rfl
    cases hc
  rw [scanInner_outside hbrace, if_pos hc, Outcome.map_eq_error] at h
  exact h

theorem scanInner_of_append {word : List Char} (hword : ∀ d ∈ word, isQuote d = false)
    (h : scanInner none (word ++ cs) = .error isOpen) : scanInner none cs = .error isOpen := by
  induction word with
  | nil => exact h
  | cons d word ih =>
      obtain ⟨hd, hword⟩ := List.forall_mem_cons.mp hword
      exact ih hword (scanInner_of_cons hd h)

end Search

/-! ## Bare text

The reader of attributes takes a quotation mark for one at the beginning of an item and right after
an equals sign.  Everywhere else it is a character like any other. -/

/-- What a value takes outside of quotation marks. -/
def bareValue : List Char → List Char
  | c :: rest => if isQuote c then [] else (c :: rest).takeWhile fun d => !Text.isBlank d
  | [] => []

/-- What an item takes outside of quotation marks. -/
def bareItem (c : Char) (rest : List Char) : List Char :=
  if isQuote c then []
  else (c :: rest).takeWhile isWordPart ++
    match (c :: rest).dropWhile isWordPart with
    | '=' :: after => bareValue after
    | _ => []

/-- What the items of an attribute text take outside of quotation marks, up to the end of the first
one that cannot be read. -/
def bareText (cs : List Char) : List Char :=
  match cs with
  | [] => []
  | c :: rest =>
    if _hc : Text.isBlank c then bareText rest
    else
      bareItem c rest ++
        match _h : readItem c rest with
        | .error _ => []
        | .ok (_, after) => bareText after
termination_by cs.length
decreasing_by
  · simp
  · exact readItem_length (by simpa using _hc) ‹_›

/-- No quotation mark stands in a bare word, a name or a bare value. -/
def QuotesDelimit (cs : List Char) : Prop := ∀ c ∈ bareText cs, isQuote c = false

instance decQuotesDelimit (cs : List Char) : Decidable (QuotesDelimit cs) :=
  List.decidableBAll (fun c => isQuote c = false) (bareText cs)

section Bare

variable {c : Char} {rest cs : List Char} {isOpen : Bool}

/-- A value without a quotation mark in its bare text ends where the search is in the same state. -/
theorem scanInner_of_readValue (hbare : ∀ d ∈ bareValue cs, isQuote d = false)
    (h : scanInner none cs = .error isOpen) :
    (∀ value after, readValue cs = .ok (value, after) → scanInner none after = .error isOpen) ∧
      ∀ fault, readValue cs = .error fault → isOpen = true := by
  cases cs with
  | nil =>
      refine ⟨fun value after hvalue => ?_, fun fault hvalue => by cases hvalue⟩
      cases hvalue
      exact h
  | cons c rest =>
      by_cases hc : isQuote c = true
      · have hopen := scanInner_of_quote hc h
        rw [readValue_quote hc]
        refine ⟨fun value after hvalue => scanInner_of_readQuoted_eq_ok hvalue hopen,
          fun fault hvalue => ?_⟩
        rw [scanInner_of_readQuoted_eq_error hvalue] at hopen
        exact (Except.error.inj hopen).symm
      · rw [Bool.not_eq_true] at hc
        rw [readValue_bare hc]
        refine ⟨fun value after hvalue => ?_, fun fault hvalue => by cases hvalue⟩
        cases hvalue
        rw [bareValue, if_neg (by simp [hc])] at hbare
        refine scanInner_of_append hbare ?_
        rw [List.takeWhile_append_dropWhile]
        exact h

/-- An item without a quotation mark in its bare text ends where the search is in the same state. -/
theorem scanInner_of_readItem (hbare : ∀ d ∈ bareItem c rest, isQuote d = false)
    (h : scanInner none (c :: rest) = .error isOpen) :
    (∀ item after, readItem c rest = .ok (item, after) → scanInner none after = .error isOpen) ∧
      (readItem c rest = .error .unterminatedQuote → isOpen = true) := by
  by_cases hc : isQuote c = true
  · have hopen := scanInner_of_quote hc h
    rw [readItem_quote hc]
    constructor
    · intro item after hitem
      obtain ⟨⟨text, after'⟩, hquoted, hitem⟩ := Outcome.map_eq_ok.mp hitem
      cases hitem
      exact scanInner_of_readQuoted_eq_ok hquoted hopen
    · intro hitem
      rw [scanInner_of_readQuoted_eq_error (Outcome.map_eq_error.mp hitem)] at hopen
      exact (Except.error.inj hopen).symm
  · rw [bareItem, if_neg hc] at hbare
    obtain ⟨hword, hvalue⟩ := List.forall_mem_append.mp hbare
    have hrest : scanInner none ((c :: rest).dropWhile isWordPart) = .error isOpen := by
      refine scanInner_of_append hword ?_
      rw [List.takeWhile_append_dropWhile]
      exact h
    rcases equals_or_word c rest with ⟨after, hafter⟩ | hword
    · rw [hafter] at hvalue hrest
      obtain ⟨hok, herror⟩ := scanInner_of_readValue hvalue (scanInner_of_cons rfl hrest)
      rw [readItem_equals hc hafter]
      split
      · exact ⟨nofun, nofun⟩
      · constructor
        · intro item after' hitem
          obtain ⟨⟨value, after''⟩, hvalue, hitem⟩ := Outcome.map_eq_ok.mp hitem
          cases hitem
          exact hok value _ hvalue
        · intro hitem
          exact herror _ (Outcome.map_eq_error.mp hitem)
    · rw [readItem_word hc hword]
      refine ⟨fun item after hitem => ?_, nofun⟩
      cases hitem
      exact hrest

theorem bareText_blank (hc : Text.isBlank c = true) : bareText (c :: rest) = bareText rest := by
  rw [bareText.eq_def]
  exact dif_pos hc

theorem bareText_item (hc : ¬ Text.isBlank c = true) {item : AttributeItem} {after : List Char}
    (h : readItem c rest = .ok (item, after)) :
    bareText (c :: rest) = bareItem c rest ++ bareText after := by
  rw [bareText.eq_def]
  dsimp only
  rw [dif_neg hc]
  split <;> simp_all

theorem bareText_fault (hc : ¬ Text.isBlank c = true) {fault : AttributeFault}
    (h : readItem c rest = .error fault) : bareText (c :: rest) = bareItem c rest := by
  rw [bareText.eq_def]
  dsimp only
  rw [dif_neg hc]
  split <;> simp_all

/-- Where no quotation mark stands in bare text, both readers find the same ones: the search ends
within quotation marks just if a quoted text of the attributes does not end. -/
theorem scanInner_of_readItems (hquotes : QuotesDelimit cs) (h : scanInner none cs = .error isOpen) :
    (∀ items, readItems cs = .ok items → isOpen = false) ∧
      (readItems cs = .error .unterminatedQuote → isOpen = true) := by
  unfold QuotesDelimit at hquotes
  fun_induction readItems cs with
  | case1 =>
      cases h
      exact ⟨fun _ _ => rfl, nofun⟩
  | case2 c rest hc ih =>
      rw [bareText_blank hc] at hquotes
      exact ih hquotes (scanInner_of_cons (isQuote_of_isBlank hc) h)
  | case3 c rest hc fault hitem =>
      rw [bareText_fault hc hitem] at hquotes
      refine ⟨nofun, fun hfault => ?_⟩
      cases hfault
      exact (scanInner_of_readItem hquotes h).2 hitem
  | case4 c rest hc item after hitem ih =>
      rw [bareText_item hc hitem] at hquotes
      obtain ⟨hbare, hquotes⟩ := List.forall_mem_append.mp hquotes
      obtain ⟨hok, herror⟩ := ih hquotes ((scanInner_of_readItem hbare h).1 item after hitem)
      refine ⟨fun items hitems => ?_, fun hfault => herror (Outcome.map_eq_error.mp hfault)⟩
      obtain ⟨others, hothers, -⟩ := Outcome.map_eq_ok.mp hitems
      exact hok others hothers

end Bare

end StaticSite.Template
