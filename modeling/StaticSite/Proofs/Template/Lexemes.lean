/-
Text that is put together from pieces.

A list of pieces is `Separate` if each can be told from what follows it: a tag is read back whatever
follows, and a stretch of text has no tag in it and ends at a tag or at the end.  Main statement:
the sources of separate pieces, one after the other, are cut into just these pieces.
-/
import Mathlib.Data.List.TakeWhile
import StaticSite.Template.Token

namespace StaticSite.Template

/-! ## One step of `tokenizeFrom` -/

theorem tokenizeFrom_tag {offset : Nat} {cs after : List Char} {lexeme : Lexeme}
    (h : readTag cs = .ok (some (lexeme, after))) :
    tokenizeFrom offset cs =
      (tokenizeFrom (offset + byteLength lexeme.source) after).map (⟨lexeme, offset⟩ :: ·) := by
  cases cs with
  | nil => simp [readTag] at h
  | cons c rest =>
      rw [tokenizeFrom]
      split <;> simp_all

theorem tokenizeFrom_char {offset : Nat} {c : Char} {rest : List Char}
    (h : readTag (c :: rest) = .ok none) :
    tokenizeFrom offset (c :: rest) =
      (tokenizeFrom (offset + c.utf8Size) rest).map (pushChar c offset) := by
  rw [tokenizeFrom]
  split <;> simp_all

theorem tokenizeFrom_fault {offset : Nat} {c : Char} {rest : List Char} {fault : LexFault}
    (h : readTag (c :: rest) = .error fault) :
    tokenizeFrom offset (c :: rest) = .error ⟨offset, fault⟩ := by
  rw [tokenizeFrom]
  split <;> simp_all

/-! ## Stretches of text -/

/-- No tag begins in the text, and none is broken off in it. -/
def IsPlain : List Char → Prop
  | [] => True
  | c :: rest => readTag (c :: rest) = .ok none ∧ IsPlain rest

theorem isTag_of_mem_pushChar {c : Char} {offset : Nat} {tokens : List Token}
    (h : ∀ t ∈ pushChar c offset tokens, t.lexeme.isTag = false) :
    ∀ t ∈ tokens, t.lexeme.isTag = false := by
  unfold pushChar at h
  split at h
  · intro t ht
    rcases List.mem_cons.mp ht with rfl | ht
    · rfl
    · exact h t (List.mem_cons_of_mem _ ht)
  · exact fun t ht => h t (List.mem_cons_of_mem _ ht)

/-- A text that is cut into nothing but text is plain.  The induction is over the text: a character
of it begins no tag, since the tag would be a token. -/
theorem isPlain_of_tokenizeFrom {offset : Nat} {cs : List Char} {tokens : List Token}
    (h : tokenizeFrom offset cs = .ok tokens) (htext : ∀ t ∈ tokens, t.lexeme.isTag = false) :
    IsPlain cs := by
  induction cs generalizing offset tokens with
  | nil => trivial
  | cons c rest ih =>
      cases hread : readTag (c :: rest) with
      | error fault =>
          rw [tokenizeFrom_fault hread] at h
          cases h
      | ok found =>
          cases found with
          | some p =>
              obtain ⟨lexeme, after⟩ := p
              rw [tokenizeFrom_tag hread] at h
              obtain ⟨others, -, rfl⟩ := Outcome.map_eq_ok.mp h
              have htag := isTag_of_readTag hread
              rw [htext ⟨lexeme, offset⟩ List.mem_cons_self] at htag
              cases htag
          | none =>
              rw [tokenizeFrom_char hread] at h
              obtain ⟨others, hothers, rfl⟩ := Outcome.map_eq_ok.mp h
              exact ⟨hread, ih hothers (isTag_of_mem_pushChar htext)⟩

/-! ## Names -/

/-- A name is a letter with all the characters of a name that follow it. -/
theorem readName_eq_some {cs name rest : List Char} :
    readName cs = some (name, rest) ↔
      ∃ c letters, name = c :: letters ∧ cs = name ++ rest ∧ c.isAlpha = true ∧
        (∀ d ∈ letters, isNameChar d = true) ∧ Text.Stops isNameChar rest := by
  constructor
  · intro h
    obtain rfl := readName_source h
    unfold readName at h
    split at h
    · rename_i c tail _
      split at h
      · rename_i hc
        cases h
        exact ⟨c, _, rfl, rfl, hc, fun d hd => List.mem_takeWhile_imp hd,
          Text.stops_dropWhile isNameChar tail⟩
      · cases h
    · cases h
  · rintro ⟨c, letters, rfl, rfl, hc, hletters, hrest⟩
    rw [List.cons_append, readName, if_pos hc, Text.takeWhile_stretch hletters hrest,
      Text.dropWhile_stretch hletters hrest]

/-- Where no letter stands there is no name. -/
theorem readName_eq_none {cs : List Char} : readName cs = none ↔ Text.Stops Char.isAlpha cs := by
  cases cs with
  | nil => exact iff_of_true rfl nofun
  | cons c cs => by_cases hc : c.isAlpha = true <;> simp [readName, Text.stops_cons, hc]

/-! ## Steps of the search for the closing brace -/

section Search

variable {quote c : Char}

theorem scanInner_outside (h : c ≠ '\x7d') (rest : List Char) :
    scanInner none (c :: rest) = (scanInner (if isQuote c then some c else none) rest).map
      fun (inner, after) => (c :: inner, after) := by
  rw [scanInner, if_neg h]
  generalize scanInner (if isQuote c then some c else none) rest = found
  cases found <;> rfl

theorem scanInner_escaped (rest : List Char) :
    scanInner (some quote) ('\\' :: c :: rest) =
      (scanInner (some quote) rest).map fun (inner, after) => ('\\' :: c :: inner, after) := by
  rw [scanInner]
  generalize scanInner (some quote) rest = found
  cases found <;> rfl

theorem scanInner_char (h : c ≠ '\\') (rest : List Char) :
    scanInner (some quote) (c :: rest) =
      (scanInner (if c = quote then none else some quote) rest).map
        fun (inner, after) => (c :: inner, after) := by
  rw [scanInner]
  · generalize scanInner (if c = quote then none else some quote) rest = found
    cases found <;> rfl
  · exact fun hc _ => h hc
  · exact fun _ _ hc _ => h hc

/-- In the last case of a reader of quoted text there is no backslash. -/
theorem ne_backslash_of_cases {cs : List Char} (hlast : c = '\\' → cs = [] → False)
    (hpair : ∀ d rest, c = '\\' → cs = d :: rest → False) : c ≠ '\\' := by
  intro hc
  cases cs with
  | nil => exact hlast hc rfl
  | cons d rest => exact hpair d rest hc rfl

end Search

/-! ## Text before a tag

A stretch of plain text is still plain when a tag follows: the brace of the tag completes nothing
that the text has begun. -/

/-- The text is empty or begins with a brace. -/
def BeginsWithBrace (cs : List Char) : Prop := ∀ c ∈ cs.head?, c = '\x7b'

theorem BeginsWithBrace.stops {p : Char → Bool} {cs : List Char} (h : BeginsWithBrace cs)
    (hp : p '\x7b' = false) : Text.Stops p cs := by
  intro c hc
  rw [h c hc]
  exact hp

theorem readName_append {cs name rest tail : List Char} (h : readName cs = some (name, rest))
    (htail : Text.Stops isNameChar tail) : readName (cs ++ tail) = some (name, rest ++ tail) := by
  obtain ⟨c, letters, hname, rfl, hc, hletters, hrest⟩ := readName_eq_some.mp h
  exact readName_eq_some.mpr
    ⟨c, letters, hname, List.append_assoc .., hc, hletters, hrest.append htail⟩

theorem readName_append_eq_none {cs tail : List Char} (h : readName cs = none)
    (htail : BeginsWithBrace tail) : readName (cs ++ tail) = none :=
  readName_eq_none.mpr ((readName_eq_none.mp h).append (htail.stops rfl))

theorem readOpener_eq_none {cs : List Char} : readOpener cs = .ok none ↔ readName cs = none := by
  unfold readOpener
  constructor
  · intro h
    split at h
    · assumption
    · dsimp only at h
      split at h
      · cases h
      · split at h
        · split at h <;> cases h
        · cases h
  · intro h
    rw [h]

theorem readCloser_append_eq_none {cs tail : List Char} (h : readCloser cs = none)
    (htail : BeginsWithBrace tail) : readCloser (cs ++ tail) = none := by
  cases hname : readName cs with
  | none =>
      unfold readCloser
      rw [readName_append_eq_none hname htail]
  | some p =>
      obtain ⟨name, rest⟩ := p
      have hrest : (rest ++ tail).dropWhile Text.isAsciiBlank =
          rest.dropWhile Text.isAsciiBlank ++ tail :=
        Text.dropWhile_append_of_stops (htail.stops (by decide))
      unfold readCloser at h ⊢
      rw [readName_append hname (htail.stops (by decide))]
      simp only [hname] at h
      simp only [hrest]
      cases hdrop : rest.dropWhile Text.isAsciiBlank with
      | nil =>
          -- the blanks run up to the end, and the brace that follows is an opening one
          cases tail with
          | nil => rfl
          | cons c tail =>
              have hc : c = '\x7b' := htail c rfl
              subst hc
              rfl
      | cons c after =>
          simp only [hdrop] at h
          by_cases hc : c = '\x7d'
          · simp [hc] at h
          · simp [hc]

theorem readTag_append_eq_none {c : Char} {cs tail : List Char} (h : readTag (c :: cs) = .ok none)
    (htail : BeginsWithBrace tail) : readTag (c :: (cs ++ tail)) = .ok none := by
  cases cs with
  | nil =>
      cases tail with
      | nil => rfl
      | cons b tail =>
          have hb : b = '\x7b' := htail b rfl
          subst hb
          simp [readTag]
  | cons d cs =>
      simp only [readTag, List.cons_append] at h ⊢
      by_cases hopen : c = '\x7b' ∧ d = '@'
      · rw [if_pos hopen] at h ⊢
        exact readOpener_eq_none.mpr (readName_append_eq_none (readOpener_eq_none.mp h) htail)
      · rw [if_neg hopen] at h ⊢
        by_cases hclose : c = '\x7b' ∧ d = '/'
        · rw [if_pos hclose] at h ⊢
          injection h with h
          rw [readCloser_append_eq_none h htail]
        · rw [if_neg hclose]

/-- Plain text before a tag becomes a token of its own. -/
theorem tokenizeFrom_plain {offset : Nat} {cs tail : List Char} {tokens : List Token}
    (hcs : cs ≠ []) (hplain : IsPlain cs) (htail : BeginsWithBrace tail)
    (h : tokenizeFrom (offset + byteLength cs) tail = .ok tokens)
    (htag : ∀ t ∈ tokens.head?, t.lexeme.isTag = true) :
    tokenizeFrom offset (cs ++ tail) = .ok (⟨.text cs, offset⟩ :: tokens) := by
  induction cs generalizing offset with
  | nil => exact absurd rfl hcs
  | cons c rest ih =>
      have hchar : tokenizeFrom offset (c :: (rest ++ tail)) =
          (tokenizeFrom (offset + c.utf8Size) (rest ++ tail)).map (pushChar c offset) :=
        tokenizeFrom_char (readTag_append_eq_none hplain.1 htail)
      cases rest with
      | nil =>
          rw [byteLength_cons, byteLength_nil, Nat.add_zero] at h
          rw [List.cons_append, hchar, List.nil_append, h]
          -- the last character starts a token: the first one after it is no text to join
          cases tokens with
          | nil => rfl
          | cons t tokens =>
              obtain ⟨lexeme, start⟩ := t
              have hlexeme : lexeme.isTag = true := htag _ rfl
              cases lexeme with
              | text content => cases hlexeme
              | opener name inner => rfl
              | closer name blanks => rfl
      | cons d rest =>
          rw [byteLength_cons, ← Nat.add_assoc] at h
          rw [List.cons_append, hchar, ih (by simp) hplain.2 h]
          rfl

/-- Plain text is one token. -/
theorem tokenize_of_isPlain {content : String} (hne : content.toList ≠ [])
    (hplain : IsPlain content.toList) : tokenize content = .ok [⟨.text content.toList, 0⟩] := by
  have hnil : ∀ offset, tokenizeFrom offset [] = .ok [] := by
    intro offset
    rw [tokenizeFrom]
  have hall : tokenizeFrom 0 (content.toList ++ []) = .ok [⟨.text content.toList, 0⟩] :=
    tokenizeFrom_plain hne hplain (fun c hc => by cases hc) (hnil _) (fun t ht => by cases ht)
  rwa [List.append_nil] at hall

/-! ## Pieces in a row -/

/-- Each piece can be told from what follows it. -/
inductive Separate : List Lexeme → Prop
  | nil : Separate []
  | text {content : List Char} {rest : List Lexeme} : content ≠ [] → IsPlain content →
      (∀ l ∈ rest.head?, l.isTag = true) → Separate rest → Separate (.text content :: rest)
  | tag {lexeme : Lexeme} {rest : List Lexeme} :
      (∀ after, readTag (lexeme.source ++ after) = .ok (some (lexeme, after))) →
      Separate rest → Separate (lexeme :: rest)

/-- Pieces in a row as tokens, from a byte offset. -/
def placed (offset : Nat) : List Lexeme → List Token
  | [] => []
  | lexeme :: rest => ⟨lexeme, offset⟩ :: placed (offset + byteLength lexeme.source) rest

/-- The text of pieces in a row. -/
def sourceOf (lexemes : List Lexeme) : List Char := lexemes.flatMap Lexeme.source

@[simp] theorem sourceOf_nil : sourceOf [] = [] := rfl

@[simp] theorem sourceOf_cons (lexeme : Lexeme) (rest : List Lexeme) :
    sourceOf (lexeme :: rest) = lexeme.source ++ sourceOf rest := by
  simp [sourceOf]

@[simp] theorem sourceOf_append (ls ms : List Lexeme) :
    sourceOf (ls ++ ms) = sourceOf ls ++ sourceOf ms := by
  simp [sourceOf]

theorem placed_append (offset : Nat) (ls ms : List Lexeme) :
    placed offset (ls ++ ms) =
      placed offset ls ++ placed (offset + byteLength (sourceOf ls)) ms := by
  induction ls generalizing offset with
  | nil => rfl
  | cons l ls ih => simp [placed, ih, Nat.add_assoc]

theorem map_lexeme_placed (offset : Nat) (lexemes : List Lexeme) :
    (placed offset lexemes).map Token.lexeme = lexemes := by
  induction lexemes generalizing offset with
  | nil => rfl
  | cons lexeme rest ih => rw [placed, List.map_cons, ih]

theorem lexeme_mem_of_mem_placed {offset : Nat} {lexemes : List Lexeme} {t : Token}
    (h : t ∈ placed offset lexemes) : t.lexeme ∈ lexemes := by
  have hmem := List.mem_map_of_mem (f := Token.lexeme) h
  rwa [map_lexeme_placed] at hmem

/-- Each tag among separate pieces is read back whatever follows. -/
theorem Separate.readTag_of_mem {lexemes : List Lexeme} (h : Separate lexemes) {lexeme : Lexeme}
    (hmem : lexeme ∈ lexemes) (htag : lexeme.isTag = true) (after : List Char) :
    readTag (lexeme.source ++ after) = .ok (some (lexeme, after)) := by
  induction h with
  | nil => cases hmem
  | text _ _ _ _ ih =>
      rcases List.mem_cons.mp hmem with rfl | hmem
      · cases htag
      · exact ih hmem
  | tag hread _ ih =>
      rcases List.mem_cons.mp hmem with rfl | hmem
      · exact hread after
      · exact ih hmem

/-- Separate pieces stay so before a tag and what follows it. -/
theorem Separate.append_tag {ls ms : List Lexeme} {lexeme : Lexeme} (hls : Separate ls)
    (htag : lexeme.isTag = true) (hms : Separate (lexeme :: ms)) :
    Separate (ls ++ lexeme :: ms) := by
  induction hls with
  | nil => exact hms
  | @text content rest hne hplain hrest _ ih =>
      refine .text hne hplain (fun l hl => ?_) ih
      cases rest with
      | nil =>
          cases hl
          exact htag
      | cons next rest => exact hrest l hl
  | tag hread _ ih => exact .tag hread ih

theorem beginsWithBrace_sourceOf {lexemes : List Lexeme}
    (h : ∀ l ∈ lexemes.head?, l.isTag = true) : BeginsWithBrace (sourceOf lexemes) := by
  intro c hc
  cases lexemes with
  | nil => cases hc
  | cons l rest =>
      obtain ⟨tail, htail⟩ := Lexeme.source_of_isTag (h l rfl)
      rw [sourceOf_cons, htail] at hc
      cases hc
      rfl

/-- Separate pieces are read back from their text. -/
theorem tokenizeFrom_sourceOf {lexemes : List Lexeme} (h : Separate lexemes) (offset : Nat) :
    tokenizeFrom offset (sourceOf lexemes) = .ok (placed offset lexemes) := by
  induction h generalizing offset with
  | nil =>
      rw [sourceOf_nil, tokenizeFrom]
      rfl
  | @text content rest hne hplain hrest _ ih =>
      rw [sourceOf_cons]
      refine tokenizeFrom_plain hne hplain (beginsWithBrace_sourceOf hrest) (ih _) fun t ht => ?_
      cases rest with
      | nil => cases ht
      | cons next rest =>
          cases ht
          exact hrest next rfl
  | tag hread _ ih =>
      rw [sourceOf_cons, tokenizeFrom_tag (hread _), ih]
      rfl

end StaticSite.Template
