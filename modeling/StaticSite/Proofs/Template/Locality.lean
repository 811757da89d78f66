/-
Reading is local.

What is read of a template depends on nothing beyond the next tag.  A tag that has been read is read
again before any other text (`readTag_before`), and text before a tag is still text when it ends
there (`readTag_of_append_eq_none`).  Main statement: a text is cut into tokens just if it is put
together from separate pieces, and then these are its tokens.  So every stretch of the tokens of a
text is what the stretch of text itself is cut into.
-/
import Mathlib.Data.List.TakeWhile
import StaticSite.Proofs.Template.Lexemes

namespace StaticSite.Template

/-! ## Tags before any text

Where a tag has been read, it is read again before any other text: nothing after its closing brace
has been looked at. -/

theorem readName_self {cs name rest : List Char} (h : readName cs = some (name, rest)) :
    readName name = some (name, []) := by
  obtain ⟨c, letters, hname, -, hc, hletters, -⟩ := readName_eq_some.mp h
  exact readName_eq_some.mpr ⟨c, letters, hname, (List.append_nil name).symm, hc, hletters, nofun⟩

theorem stops_of_readName {cs name rest : List Char} (h : readName cs = some (name, rest)) :
    Text.Stops isNameChar rest := by
  obtain ⟨c, letters, -, -, -, -, hrest⟩ := readName_eq_some.mp h
  exact hrest

theorem scanInner_of_ok {quote : Option Char} {cs inner after : List Char}
    (h : scanInner quote cs = .ok (inner, after)) (other : List Char) :
    scanInner quote (inner ++ '\x7d' :: other) = .ok (inner, other) := by
  fun_induction scanInner quote cs generalizing inner after with
  | case1 => cases h
  | case2 rest =>
    cases h
    simp [scanInner]
  | case3 c rest hc ih =>
    obtain ⟨⟨_, _⟩, hrest, h⟩ := Outcome.bind_eq_ok.mp h
    cases h
    rw [List.cons_append, scanInner_outside hc, ih hrest]
    rfl
  | case4 => cases h
  | case5 q d rest ih =>
    obtain ⟨⟨_, _⟩, hrest, h⟩ := Outcome.bind_eq_ok.mp h
    cases h
    rw [List.cons_append, List.cons_append, scanInner_escaped, ih hrest]
    rfl
  | case6 q c rest hlast hpair ih =>
    obtain ⟨⟨_, _⟩, hrest, h⟩ := Outcome.bind_eq_ok.mp h
    cases h
    rw [List.cons_append, scanInner_char (ne_backslash_of_cases hlast hpair), ih hrest]
    rfl

/-- What is read up to a piece begins with the same character before any other text. -/
theorem exists_append_eq_cons {c d : Char} {tail inner after : List Char}
    (h : c :: tail = inner ++ d :: after) (other : List Char) :
    ∃ tail', inner ++ d :: other = c :: tail' := by
  cases inner with
  | nil =>
      obtain ⟨rfl, -⟩ := List.cons.inj h
      exact ⟨other, rfl⟩
  | cons e inner =>
      obtain ⟨rfl, -⟩ := List.cons.inj h
      exact ⟨inner ++ d :: other, rfl⟩

theorem readOpener_before {cs after : List Char} {lexeme : Lexeme}
    (h : readOpener cs = .ok (some (lexeme, after))) (other : List Char) :
    readTag (lexeme.source ++ other) = .ok (some (lexeme, other)) := by
  obtain ⟨name, c, tail, inner, hname, hc, hscan, rfl⟩ := readOpener_eq_some.mp h
  obtain ⟨tail', htail⟩ := exists_append_eq_cons (scanInner_source hscan) other
  have hstops : Text.Stops isNameChar (c :: tail') :=
    Text.stops_cons.mpr (Text.stops_cons.mp (stops_of_readName hname))
  have hname' : readName (name ++ c :: tail') = some (name, c :: tail') :=
    readName_append (readName_self hname) hstops
  have hscan' : scanInner none (c :: tail') = .ok (inner, other) :=
    htail ▸ scanInner_of_ok hscan other
  have hsource : (Lexeme.opener name inner).source ++ other =
      '\x7b' :: '@' :: (name ++ c :: tail') := by
    rw [← htail]
    simp [Lexeme.source]
  rw [hsource, readTag, if_pos ⟨rfl, rfl⟩]
  exact readOpener_eq_some.mpr ⟨name, c, tail', inner, hname', hc, hscan', rfl⟩

theorem readCloser_before {cs after : List Char} {lexeme : Lexeme}
    (h : readCloser cs = some (lexeme, after)) (other : List Char) :
    readTag (lexeme.source ++ other) = .ok (some (lexeme, other)) := by
  obtain ⟨name, rest, hname, hdrop, rfl⟩ := readCloser_eq_some.mp h
  have hrest : rest = rest.takeWhile Text.isAsciiBlank ++ '\x7d' :: after := by
    rw [← hdrop, List.takeWhile_append_dropWhile]
  have hall : ∀ d ∈ rest.takeWhile Text.isAsciiBlank, Text.isAsciiBlank d = true :=
    fun d hd => List.mem_takeWhile_imp hd
  generalize rest.takeWhile Text.isAsciiBlank = blanks at hrest hall ⊢
  have hbrace : Text.Stops Text.isAsciiBlank ('\x7d' :: other) := Text.stops_cons.mpr rfl
  have hblanks : (blanks ++ '\x7d' :: other).takeWhile Text.isAsciiBlank = blanks :=
    Text.takeWhile_stretch hall hbrace
  have hdrop' : (blanks ++ '\x7d' :: other).dropWhile Text.isAsciiBlank = '\x7d' :: other :=
    Text.dropWhile_stretch hall hbrace
  have hstops : Text.Stops isNameChar (blanks ++ '\x7d' :: other) := by
    have hold := hrest ▸ stops_of_readName hname
    cases blanks with
    | nil => exact Text.stops_cons.mpr rfl
    | cons b blanks => exact Text.stops_cons.mpr (Text.stops_cons.mp hold)
  have hname' : readName (name ++ (blanks ++ '\x7d' :: other)) =
      some (name, blanks ++ '\x7d' :: other) :=
    readName_append (readName_self hname) hstops
  have hread : readCloser (name ++ (blanks ++ '\x7d' :: other)) =
      some (.closer name blanks, other) :=
    readCloser_eq_some.mpr ⟨name, _, hname', hdrop', by rw [hblanks]⟩
  have hsource : (Lexeme.closer name blanks).source ++ other =
      '\x7b' :: '/' :: (name ++ (blanks ++ '\x7d' :: other)) := by
    simp [Lexeme.source]
  rw [hsource, readTag, if_neg (by decide), if_pos ⟨rfl, rfl⟩, hread]

/-- A tag that has been read is read again before any other text. -/
theorem readTag_before {cs after : List Char} {lexeme : Lexeme}
    (h : readTag cs = .ok (some (lexeme, after))) (other : List Char) :
    readTag (lexeme.source ++ other) = .ok (some (lexeme, other)) := by
  unfold readTag at h
  split at h
  · split at h
    · exact readOpener_before h other
    · split at h
      · injection h with h
        exact readCloser_before h other
      · cases h
  · cases h

/-! ## Text before a tag, without the tag -/

theorem readName_of_append_eq_none {cs tail : List Char} (h : readName (cs ++ tail) = none) :
    readName cs = none :=
  readName_eq_none.mpr ((readName_eq_none.mp h).beginning ⟨tail, rfl⟩)

theorem readCloser_of_append_eq_none {cs tail : List Char} (h : readCloser (cs ++ tail) = none)
    (htail : BeginsWithBrace tail) : readCloser cs = none := by
  cases hname : readName cs with
  | none =>
      unfold readCloser
      rw [hname]
  | some p =>
      obtain ⟨name, rest⟩ := p
      have hrest : (rest ++ tail).dropWhile Text.isAsciiBlank =
          rest.dropWhile Text.isAsciiBlank ++ tail :=
        Text.dropWhile_append_of_stops (htail.stops (by decide))
      unfold readCloser at h ⊢
      rw [readName_append hname (htail.stops (by decide))] at h
      simp only [hrest] at h
      simp only [hname]
      cases hdrop : rest.dropWhile Text.isAsciiBlank with
      | nil => rfl
      | cons c after =>
          by_cases hc : c = '\x7d'
          · simp [hdrop, hc] at h
          · simp [hc]

/-- A character that begins no tag begins none where the text ends before the next tag. -/
theorem readTag_of_append_eq_none {c : Char} {cs tail : List Char}
    (h : readTag (c :: (cs ++ tail)) = .ok none) (htail : BeginsWithBrace tail) :
    readTag (c :: cs) = .ok none := by
  cases cs with
  | nil => rfl
  | cons d cs =>
      simp only [readTag, List.cons_append] at h ⊢
      by_cases hopen : c = '\x7b' ∧ d = '@'
      · rw [if_pos hopen] at h ⊢
        exact readOpener_eq_none.mpr (readName_of_append_eq_none (readOpener_eq_none.mp h))
      · rw [if_neg hopen] at h ⊢
        by_cases hclose : c = '\x7b' ∧ d = '/'
        · rw [if_pos hclose] at h ⊢
          injection h with h
          rw [readCloser_of_append_eq_none h htail]
        · rw [if_neg hclose]

/-! ## Tokens as separate pieces -/

/-- A character that begins no tag is a piece of its own, or part of the text it stands before. -/
theorem Separate.exists_pushChar {c : Char} {offset : Nat} {lexemes : List Lexeme}
    (h : Separate lexemes) (hread : readTag (c :: sourceOf lexemes) = .ok none) :
    ∃ ls, Separate ls ∧ sourceOf ls = c :: sourceOf lexemes ∧
      placed offset ls = pushChar c offset (placed (offset + c.utf8Size) lexemes) := by
  have halone : readTag [c] = .ok none := rfl
  cases h with
  | nil => exact ⟨[.text [c]], .text (by simp) ⟨halone, trivial⟩ (by simp) .nil, rfl, rfl⟩
  | @text content rest hne hplain hrest hsep =>
      have hc : readTag (c :: content) = .ok none :=
        readTag_of_append_eq_none hread (beginsWithBrace_sourceOf hrest)
      refine ⟨.text (c :: content) :: rest, .text (by simp) ⟨hc, hplain⟩ hrest hsep, rfl, ?_⟩
      simp [placed, pushChar, Lexeme.source, Nat.add_assoc]
  | @tag lexeme rest htag hsep =>
      have his : lexeme.isTag = true := isTag_of_readTag (htag [])
      refine ⟨.text [c] :: lexeme :: rest, .text (by simp) ⟨halone, trivial⟩ ?_ (.tag htag hsep),
        rfl, ?_⟩
      · intro l hl
        cases hl
        exact his
      · cases lexeme with
        | text content => cases his
        | opener name inner => simp [placed, pushChar, Lexeme.source]
        | closer name blanks => simp [placed, pushChar, Lexeme.source]

/-- A text that can be cut into tokens is cut into separate pieces. -/
theorem exists_separate_of_tokenizeFrom {offset : Nat} {cs : List Char} {tokens : List Token}
    (h : tokenizeFrom offset cs = .ok tokens) :
    ∃ lexemes, Separate lexemes ∧ sourceOf lexemes = cs ∧ placed offset lexemes = tokens := by
  fun_induction tokenizeFrom offset cs generalizing tokens with
  | case1 offset =>
      cases h
      exact ⟨[], .nil, rfl, rfl⟩
  | case2 => cases h
  | case3 offset c rest lexeme after hread ih =>
      obtain ⟨others, hothers, rfl⟩ := Outcome.map_eq_ok.mp h
      obtain ⟨ls, hsep, rfl, rfl⟩ := ih hothers
      exact ⟨lexeme :: ls, .tag (readTag_before hread) hsep, (readTag_source hread).symm, rfl⟩
  | case4 offset c rest hread ih =>
      obtain ⟨others, hothers, rfl⟩ := Outcome.map_eq_ok.mp h
      obtain ⟨ls, hsep, rfl, rfl⟩ := ih hothers
      exact hsep.exists_pushChar hread

theorem Separate.of_cons {lexeme : Lexeme} {rest : List Lexeme} (h : Separate (lexeme :: rest)) :
    Separate rest := by
  cases h with
  | text _ _ _ hrest => exact hrest
  | tag _ hrest => exact hrest

/-- Both parts of separate pieces are separate. -/
theorem Separate.of_append {ls ms : List Lexeme} (h : Separate (ls ++ ms)) :
    Separate ls ∧ Separate ms := by
  induction ls with
  | nil => exact ⟨.nil, h⟩
  | cons l ls ih =>
      rw [List.cons_append] at h
      obtain ⟨hls, hms⟩ := ih h.of_cons
      refine ⟨?_, hms⟩
      cases h with
      | text hne hplain hrest _ =>
          refine .text hne hplain (fun next hnext => hrest next ?_) hls
          rw [List.head?_append, Option.mem_def.mp hnext]
          rfl
      | tag hread _ => exact .tag hread hls

/-- A text is cut into tokens just if it is put together from separate pieces, which then are its
tokens. -/
theorem tokenizeFrom_eq_ok {offset : Nat} {cs : List Char} {tokens : List Token} :
    tokenizeFrom offset cs = .ok tokens ↔
      ∃ lexemes, Separate lexemes ∧ sourceOf lexemes = cs ∧ placed offset lexemes = tokens := by
  constructor
  · exact exists_separate_of_tokenizeFrom
  · rintro ⟨lexemes, hsep, rfl, rfl⟩
    exact tokenizeFrom_sourceOf hsep offset

end StaticSite.Template
