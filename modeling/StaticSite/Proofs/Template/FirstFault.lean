/-
The first fault of a template.

`Offends` says what is wrong with a token in the light of the tokens before it, by the tags that are
still open there: the innermost open tag is the last opening one with balanced brackets behind it.
The loop over the tokens fails at a token just if the token offends (`parseToken_eq_error_iff`), so
it fails at the first token that does.  Main statement: parsing fails at the first tag that cannot be
read; or else at the first token that offends; or else at the innermost tag that stays open; and the
error names the place where this tag begins (`parseWith_fails_at_first_fault`).
-/
import StaticSite.Proofs.Template.Body
import StaticSite.Proofs.Template.Places

namespace StaticSite.Template

/-! ## Open tags -/

/-- A balanced stretch changes nothing about what open tags demand. -/
theorem closes_append_balanced {inside : List Bracket} (h : Balanced inside) (names : List String)
    (bs : List Bracket) : Closes names (inside ++ bs) ↔ Closes names bs := by
  induction h generalizing names bs with
  | nil => exact Iff.rfl
  | @pair name inner after _ _ ihi iha =>
      have hcut : .opens name :: inner ++ .closes name :: after ++ bs =
          .opens name :: (inner ++ .closes name :: (after ++ bs)) := by simp
      rw [hcut, closes_opens, ihi, closes_closes, iha]
      exact ⟨fun h => h.2, fun h => ⟨rfl, h⟩⟩

/-- With an open tag before a balanced stretch at the end, something stays open. -/
theorem not_closes_append_opens {inside : List Bracket} (h : Balanced inside) (name : String)
    (names : List String) (bs : List Bracket) :
    ¬ Closes names (bs ++ .opens name :: inside) := by
  induction bs generalizing names with
  | nil =>
      rw [List.nil_append, closes_opens, ← List.append_nil inside, closes_append_balanced h]
      exact not_closes_cons_nil name names
  | cons b bs ih =>
      rw [List.cons_append]
      cases b with
      | opens n =>
          rw [closes_opens]
          exact ih (n :: names)
      | closes n =>
          cases names with
          | nil => exact not_closes_nil_closes n _
          | cons innermost outer =>
              rw [closes_closes]
              exact fun hclosed => ih outer hclosed.2

theorem bracketsOf_append (ts us : List Token) :
    bracketsOf (ts ++ us) = bracketsOf ts ++ bracketsOf us :=
  List.filterMap_append

/-- The token opens a tag with the name, and behind it all brackets are balanced. -/
structure IsInnermostOpen (tokens : List Token) (opener : Token) (name : String) : Prop where
  opens : opener.lexeme.bracket? = some (.opens name)
  last : ∃ before inside, tokens = before ++ opener :: inside ∧ Balanced (bracketsOf inside)

namespace IsInnermostOpen

variable {tokens : List Token} {opener other : Token} {name name' : String}

/-- Where a tag is open, not all brackets are balanced. -/
theorem not_balanced (h : IsInnermostOpen tokens opener name) : ¬ Balanced (bracketsOf tokens) := by
  obtain ⟨before, inside, rfl, hinside⟩ := h.last
  rw [bracketsOf_append, bracketsOf_cons, h.opens]
  exact not_closes_append_opens hinside name [] (bracketsOf before)

/-- There is just one innermost open tag: of two, the later one would stand open behind the earlier
one. -/
theorem unique (h : IsInnermostOpen tokens opener name) (h' : IsInnermostOpen tokens other name') :
    opener = other ∧ name = name' := by
  have hsame : opener = other := by
    obtain ⟨before, inside, rfl, hinside⟩ := h.last
    obtain ⟨before', inside', heq, hinside'⟩ := h'.last
    rcases List.append_eq_append_iff.mp heq with ⟨between, -, hrest⟩ | ⟨between, -, hrest⟩
    · cases between with
      | nil => exact (List.cons.inj hrest).1
      | cons t between =>
          obtain ⟨rfl, rfl⟩ := List.cons.inj hrest
          exact absurd hinside (not_balanced ⟨h'.opens, between, inside', rfl, hinside'⟩)
    · cases between with
      | nil => exact (List.cons.inj hrest).1.symm
      | cons t between =>
          obtain ⟨rfl, rfl⟩ := List.cons.inj hrest
          exact absurd hinside' (not_balanced ⟨h.opens, between, inside, rfl, hinside⟩)
  subst hsame
  have hname := h.opens.symm.trans h'.opens
  injection hname with hname
  injection hname with hname
  exact ⟨rfl, hname⟩

end IsInnermostOpen

/-! ## Tokens at fault -/

/-- What is wrong with a token of a file that follows others. -/
inductive Offends (registry : TagRegistry) (file : String) (source : List Char)
    (before : List Token) : Token → RenderError → Prop
  /-- An opening tag whose name is not registered. -/
  | unknownTag {letters inner : List Char} {start : Nat} :
      registry.lookup? (tagName letters) = none →
      Offends registry file source before ⟨.opener letters inner, start⟩
        (.unknownTag file (Position.locate source start) (tagName letters))
  /-- An opening tag whose attributes cannot be read. -/
  | attributes {letters inner : List Char} {start : Nat} {kind : TagKind} {fault : AttributeFault} :
      registry.lookup? (tagName letters) = some kind →
      Attributes.parse (openerParts inner).1 = .error fault →
      Offends registry file source before ⟨.opener letters inner, start⟩
        (.malformed file (Position.locate source start) (.attributes fault))
  /-- A closing tag where no tag is open. -/
  | strayCloser {letters blanks : List Char} {start : Nat} :
      Balanced (bracketsOf before) →
      Offends registry file source before ⟨.closer letters blanks, start⟩
        (.malformed file (Position.locate source start) (.strayCloser (tagName letters)))
  /-- A closing tag with another name than the innermost open tag. -/
  | mismatchedCloser {letters blanks : List Char} {start : Nat} {opener : Token} {name : String} :
      IsInnermostOpen before opener name → name ≠ tagName letters →
      Offends registry file source before ⟨.closer letters blanks, start⟩
        (.malformed file (Position.locate source start)
          (.mismatchedCloser (tagName letters) name (Position.locate source opener.start)))

/-- None of the tokens offends. -/
def HasNoOffence (registry : TagRegistry) (file : String) (source : List Char)
    (tokens : List Token) : Prop :=
  ∀ before t after, tokens = before ++ t :: after → ∀ e, ¬ Offends registry file source before t e

section Parsing

variable {registry : TagRegistry} {file : String} {source : List Char}

theorem Offends.isTag {before : List Token} {t : Token} {e : RenderError}
    (h : Offends registry file source before t e) : t.lexeme.isTag = true := by
  cases h <;> rfl

/-- The error of a token names the file and the place of the token. -/
theorem Offends.names {before : List Token} {t : Token} {e : RenderError}
    (h : Offends registry file source before t e) :
    e.file = file ∧ e.position? = some (Position.locate source t.start) := by
  cases h <;> exact ⟨rfl, rfl⟩

theorem hasNoOffence_nil : HasNoOffence registry file source [] := by
  intro before t after heq
  cases before <;> cases heq

theorem hasNoOffence_concat {tokens : List Token} {t : Token} :
    HasNoOffence registry file source (tokens ++ [t]) ↔
      HasNoOffence registry file source tokens ∧ ∀ e, ¬ Offends registry file source tokens t e := by
  constructor
  · intro h
    refine ⟨fun before u after heq => ?_, h tokens t [] rfl⟩
    exact h before u (after ++ [t]) (by simp [heq])
  · rintro ⟨h, ht⟩ before u after heq
    rcases List.eq_nil_or_concat after with rfl | ⟨after, last, rfl⟩
    · obtain ⟨rfl, hu⟩ := List.append_inj' heq rfl
      cases hu
      exact ht
    · rw [List.concat_eq_append, ← List.cons_append, ← List.append_assoc] at heq
      exact h before u after (List.append_inj' heq rfl).1

/-! ## The loop over the tokens -/

/-- The frame on top of the stack is the innermost open tag. -/
theorem ReadUpTo.exists_innermost {tokens : List Token} {frame : Frame} {outer : List Frame}
    {nodes : List Node} (h : ReadUpTo registry file source tokens (frame :: outer) nodes) :
    ∃ opener, IsInnermostOpen tokens opener frame.tag.name ∧
      frame.tag.position = Position.locate source opener.start := by
  cases h with
  | @opened before inside opener _ _ _ _ hopen _ _ hinside =>
      exact ⟨opener, ⟨hopen.bracket?_eq, before, inside, rfl, hinside.balanced⟩,
        Token.StandsFor.position_eq (.inr hopen)⟩

/-- Nothing is on the stack where all brackets are balanced. -/
theorem ReadUpTo.frames_eq_nil_iff {tokens : List Token} {frames : List Frame} {nodes : List Node}
    (h : ReadUpTo registry file source tokens frames nodes) :
    frames = [] ↔ Balanced (bracketsOf tokens) := by
  cases h with
  | closed hread => exact ⟨fun _ => hread.balanced, fun _ => rfl⟩
  | opened hbefore hopen hsource hbody hinside =>
      obtain ⟨opener, hinnermost, -⟩ :=
        (ReadUpTo.opened hbefore hopen hsource hbody hinside).exists_innermost
      exact ⟨fun hnil => absurd hnil (List.cons_ne_nil _ _),
        fun hbalanced => absurd hbalanced hinnermost.not_balanced⟩

theorem readOpeningTag_eq_error {tokens : List Token} {letters inner : List Char} {start : Nat}
    {e : RenderError} :
    readOpeningTag registry file (Position.locate source start) letters inner = .error e ↔
      Offends registry file source tokens ⟨.opener letters inner, start⟩ e := by
  unfold readOpeningTag
  dsimp only
  constructor
  · intro h
    split at h
    · rename_i hkind
      cases h
      exact .unknownTag hkind
    · rename_i kind hkind
      split at h
      · rename_i fault hfault
        cases h
        exact .attributes hkind hfault
      · cases h
  · intro h
    cases h with
    | unknownTag hkind => rw [hkind]
    | attributes hkind hfault => simp only [hkind, hfault]

theorem closeTag_eq_error {tokens : List Token} {s : ParseState}
    (hread : ReadUpTo registry file source tokens s.frames s.nodes)
    {letters blanks written : List Char} {start : Nat} {e : RenderError} :
    closeTag file (Position.locate source start) letters written s = .error e ↔
      Offends registry file source tokens ⟨.closer letters blanks, start⟩ e := by
  obtain ⟨frames, nodes⟩ := s
  cases frames with
  | nil =>
      have hbalanced := hread.frames_eq_nil_iff.mp rfl
      constructor
      · intro h
        cases h
        exact .strayCloser hbalanced
      · intro h
        cases h with
        | strayCloser _ => rfl
        | mismatchedCloser hopen _ => exact absurd hbalanced hopen.not_balanced
  | cons frame outer =>
      obtain ⟨opener, hopen, hposition⟩ := hread.exists_innermost
      unfold closeTag
      dsimp only
      constructor
      · intro h
        split at h
        · cases h
        · rename_i hname
          cases h
          rw [hposition]
          exact .mismatchedCloser hopen hname
      · intro h
        cases h with
        | strayCloser hbalanced => exact absurd hbalanced hopen.not_balanced
        | mismatchedCloser hother hname =>
            obtain ⟨rfl, rfl⟩ := hopen.unique hother
            rw [if_neg hname, hposition]

/-- A token cannot be read after others just if it offends. -/
theorem parseToken_eq_error {tokens : List Token} {s : ParseState}
    (hread : ReadUpTo registry file source tokens s.frames s.nodes) {t : Token} {e : RenderError} :
    parseToken registry file source s t = .error e ↔ Offends registry file source tokens t e := by
  obtain ⟨lexeme, start⟩ := t
  cases lexeme with
  | text content =>
      constructor
      · intro h
        cases h
      · intro h
        cases h
  | opener letters inner =>
      rw [← readOpeningTag_eq_error]
      show (readOpeningTag registry file (Position.locate source start) letters inner >>= _) = _ ↔ _
      rw [Outcome.bind_eq_error]
      refine or_iff_left ?_
      rintro ⟨⟨tag, closed⟩, -, h⟩
      dsimp only at h
      split at h <;> cases h
  | closer letters blanks => exact closeTag_eq_error hread

theorem foldlM_parseToken_concat (tokens : List Token) (t : Token) (s : ParseState) :
    (tokens ++ [t]).foldlM (parseToken registry file source) s =
      tokens.foldlM (parseToken registry file source) s >>=
        fun next => parseToken registry file source next t := by
  rw [List.foldlM_append]
  refine congrArg _ (funext fun next => ?_)
  rw [List.foldlM_cons]
  exact bind_pure _

/-- What the loop has been through is on the stack. -/
theorem readUpTo_of_foldlM {tokens : List Token} {s : ParseState}
    (h : tokens.foldlM (parseToken registry file source) .start = .ok s) :
    ReadUpTo registry file source tokens s.frames s.nodes := by
  have hstart : ReadUpTo registry file source [] ParseState.start.frames ParseState.start.nodes :=
    .closed .nil
  exact hstart.parseTokens h

/-- The loop gets through tokens just if none of them offends.  The induction is from the end, since
what offends depends on the tokens before. -/
theorem exists_foldlM_parseToken_iff {tokens : List Token} :
    (∃ s, tokens.foldlM (parseToken registry file source) .start = .ok s) ↔
      HasNoOffence registry file source tokens := by
  induction tokens using List.reverseRecOn with
  | nil => exact ⟨fun _ => hasNoOffence_nil, fun _ => ⟨.start, rfl⟩⟩
  | append_singleton tokens t ih =>
      rw [hasNoOffence_concat, ← ih]
      constructor
      · rintro ⟨s', h⟩
        rw [foldlM_parseToken_concat] at h
        obtain ⟨s, hs, ht⟩ := Outcome.bind_eq_ok.mp h
        refine ⟨⟨s, hs⟩, fun e he => ?_⟩
        rw [(parseToken_eq_error (readUpTo_of_foldlM hs)).mpr he] at ht
        cases ht
      · rintro ⟨⟨s, hs⟩, hnone⟩
        cases ht : parseToken registry file source s t with
        | error e => exact absurd ((parseToken_eq_error (readUpTo_of_foldlM hs)).mp ht) (hnone e)
        | ok s' =>
            rw [foldlM_parseToken_concat]
            exact ⟨s', Outcome.bind_eq_ok.mpr ⟨s, hs, ht⟩⟩

/-- The loop fails just at the first token that offends. -/
theorem foldlM_parseToken_eq_error {tokens : List Token} {e : RenderError} :
    tokens.foldlM (parseToken registry file source) .start = .error e ↔
      ∃ before t after, tokens = before ++ t :: after ∧
        HasNoOffence registry file source before ∧ Offends registry file source before t e := by
  constructor
  · intro h
    induction tokens using List.reverseRecOn with
    | nil => cases h
    | append_singleton tokens t ih =>
        rw [foldlM_parseToken_concat] at h
        rcases Outcome.bind_eq_error.mp h with hearlier | ⟨s, hs, ht⟩
        · obtain ⟨before, u, after, rfl, hnone, hu⟩ := ih hearlier
          exact ⟨before, u, after ++ [t], by simp, hnone, hu⟩
        · exact ⟨tokens, t, [], rfl, exists_foldlM_parseToken_iff.mp ⟨s, hs⟩,
            (parseToken_eq_error (readUpTo_of_foldlM hs)).mp ht⟩
  · rintro ⟨before, t, after, rfl, hnone, ht⟩
    obtain ⟨s, hs⟩ := exists_foldlM_parseToken_iff.mpr hnone
    rw [foldlM_parseToken_append hs, List.foldlM_cons,
      (parseToken_eq_error (readUpTo_of_foldlM hs)).mpr ht]
    rfl

end Parsing

/-! ## The error of a template -/

/-- What is wrong with a template. -/
inductive IsFirstFault (registry : TagRegistry) (source file : String) : RenderError → Prop
  /-- The text cannot be cut into tokens: the first tag that cannot be read. -/
  | unreadable {e : LexError} : IsFirstUnreadable source.toList e →
      IsFirstFault registry source file
        (.malformed file (Position.locate source.toList e.offset) (.lexical e.fault))
  /-- The first token that offends. -/
  | offence {before after : List Token} {t : Token} {e : RenderError} :
      tokenize source = .ok (before ++ t :: after) →
      HasNoOffence registry file source.toList before →
      Offends registry file source.toList before t e → IsFirstFault registry source file e
  /-- No token offends, but a tag stays open. -/
  | neverClosed {tokens : List Token} {opener : Token} {name : String} :
      tokenize source = .ok tokens → HasNoOffence registry file source.toList tokens →
      IsInnermostOpen tokens opener name →
      IsFirstFault registry source file
        (.malformed file (Position.locate source.toList opener.start) (.neverClosed name))

section Template

variable {registry : TagRegistry} {source file : String} {e : RenderError}

theorem parseWith_of_tokenize {tokens : List Token} (h : tokenize source = .ok tokens) :
    parseWith registry source file =
      tokens.foldlM (parseToken registry file source.toList) .start >>= ParseState.finish file := by
  unfold parseWith
  dsimp only
  rw [h]

theorem parseWith_of_tokenize_error {l : LexError} (h : tokenize source = .error l) :
    parseWith registry source file =
      .error (.malformed file (Position.locate source.toList l.offset) (.lexical l.fault)) := by
  unfold parseWith
  dsimp only
  rw [h]

/-- At the end the innermost open tag is at fault, if there is one. -/
theorem finish_eq_error {tokens : List Token} {s : ParseState} {cs : List Char}
    (hread : ReadUpTo registry file cs tokens s.frames s.nodes) :
    s.finish file = .error e ↔ ∃ opener name, IsInnermostOpen tokens opener name ∧
      e = .malformed file (Position.locate cs opener.start) (.neverClosed name) := by
  obtain ⟨frames, nodes⟩ := s
  cases frames with
  | nil =>
      have hbalanced := hread.frames_eq_nil_iff.mp rfl
      constructor
      · intro h
        cases h
      · rintro ⟨opener, name, hopen, -⟩
        exact absurd hbalanced hopen.not_balanced
  | cons frame outer =>
      obtain ⟨opener, hopen, hposition⟩ := hread.exists_innermost
      constructor
      · intro h
        cases h
        exact ⟨opener, frame.tag.name, hopen, by rw [hposition]⟩
      · rintro ⟨other, name, hother, rfl⟩
        obtain ⟨rfl, rfl⟩ := hopen.unique hother
        rw [← hposition]
        rfl

/-- The error of a template is its first fault. -/
theorem parseWith_eq_error :
    parseWith registry source file = .error e ↔ IsFirstFault registry source file e := by
  constructor
  · intro h
    cases htokens : tokenize source with
    | error l =>
        rw [parseWith_of_tokenize_error htokens] at h
        cases h
        exact .unreadable (tokenize_eq_error.mp htokens)
    | ok tokens =>
        rw [parseWith_of_tokenize htokens] at h
        rcases Outcome.bind_eq_error.mp h with hloop | ⟨s, hs, hend⟩
        · obtain ⟨before, t, after, rfl, hnone, ht⟩ := foldlM_parseToken_eq_error.mp hloop
          exact .offence htokens hnone ht
        · obtain ⟨opener, name, hopen, rfl⟩ := (finish_eq_error (readUpTo_of_foldlM hs)).mp hend
          exact .neverClosed htokens (exists_foldlM_parseToken_iff.mp ⟨s, hs⟩) hopen
  · intro h
    cases h with
    | unreadable hfirst => exact parseWith_of_tokenize_error (tokenize_eq_error.mpr hfirst)
    | offence htokens hnone ht =>
        rw [parseWith_of_tokenize htokens, Outcome.bind_eq_error]
        exact .inl (foldlM_parseToken_eq_error.mpr ⟨_, _, _, rfl, hnone, ht⟩)
    | neverClosed htokens hnone hopen =>
        obtain ⟨s, hs⟩ := exists_foldlM_parseToken_iff.mpr hnone
        rw [parseWith_of_tokenize htokens, Outcome.bind_eq_error]
        exact .inr ⟨s, hs, (finish_eq_error (readUpTo_of_foldlM hs)).mpr ⟨_, _, hopen, rfl⟩⟩

/-- The innermost open tag is one of the tokens. -/
theorem IsInnermostOpen.mem {tokens : List Token} {opener : Token} {name : String}
    (h : IsInnermostOpen tokens opener name) : opener ∈ tokens ∧ opener.lexeme.isTag = true := by
  obtain ⟨before, inside, rfl, -⟩ := h.last
  refine ⟨by simp, ?_⟩
  have hopens := h.opens
  cases hlexeme : opener.lexeme with
  | text content =>
      rw [hlexeme] at hopens
      cases hopens
  | opener letters inner => rfl
  | closer letters blanks => rfl

/-- The error of a first fault names the file and the place of a tag in it. -/
theorem IsFirstFault.exists_isTagPlace (h : IsFirstFault registry source file e) :
    e.file = file ∧ ∃ p, e.position? = some p ∧ IsTagPlace source.toList p := by
  cases h with
  | unreadable hfirst => exact ⟨rfl, _, rfl, hfirst.isTagPlace⟩
  | offence htokens _ ht =>
      obtain ⟨hfile, hposition⟩ := ht.names
      exact ⟨hfile, _, hposition, isTagPlace_of_mem htokens (by simp) ht.isTag⟩
  | neverClosed htokens _ hopen =>
      obtain ⟨hmem, htag⟩ := hopen.mem
      exact ⟨rfl, _, rfl, isTagPlace_of_mem htokens hmem htag⟩

/-- A parse fails with the first fault of the template and with nothing else, and the error names the
file and the position of a tag: what stands there begins with the brace and the sign of a tag, and
offset, line and column are those of the brace. -/
theorem parseWith_fails_at_first_fault (h : parseWith registry source file = .error e) :
    (∀ e', IsFirstFault registry source file e' ↔ e' = e) ∧ e.file = file ∧
      ∃ p, e.position? = some p ∧ IsTagPlace source.toList p := by
  refine ⟨fun e' => ?_, (parseWith_eq_error.mp h).exists_isTagPlace⟩
  rw [← parseWith_eq_error, h, Except.error.injEq, eq_comm]

/-! A closing tag with another name, in the second line and behind an accented letter; the unknown tag
after it and the tag that stays open do not count. -/

def mismatchedPage : String := "\u00e9\n\u00e9\x7b@tag p\x7dx\x7b/Loop\x7d\x7b@bogus\x7d"

/-- The tag that stays open. -/
def openTagToken : Token := ⟨.opener "tag".toList " p".toList, 5⟩

/-- The tokens before the closing tag. -/
def tokensBeforeCloser : List Token :=
  [⟨.text "\u00e9\n\u00e9".toList, 0⟩, openTagToken, ⟨.text "x".toList, 13⟩]

theorem hasNoOffence_tokensBeforeCloser :
    HasNoOffence .standard "page.html" mismatchedPage.toList tokensBeforeCloser := by
  have hattributes : Attributes.parse (openerParts " p".toList).1 = .ok (.ofItems [.word "p"]) := by
    decide +kernel
  have hopens : openTagToken.StandsFor .standard "page.html" mismatchedPage.toList
      (.opens ⟨"tag", .element, .ofItems [.word "p"], "page.html",
        Position.locate mismatchedPage.toList 5⟩) :=
    .opens (by decide) hattributes (by decide)
  have hread : ∃ s, tokensBeforeCloser.foldlM
      (parseToken .standard "page.html" mismatchedPage.toList) .start = .ok s :=
    ⟨_, (foldlM_parseToken_cons rfl).trans
      ((foldlM_parseToken_cons (parseToken_of_opens hopens _)).trans rfl)⟩
  exact exists_foldlM_parseToken_iff.mp hread

theorem parseWith_mismatchedPage :
    parseWith .standard mismatchedPage "page.html" =
      .error (.malformed "page.html" ⟨14, 2, 11⟩ (.mismatchedCloser "loop" "tag" ⟨5, 2, 2⟩)) := by
  have htokens : tokenize mismatchedPage = .ok (tokensBeforeCloser ++
      ⟨.closer "Loop".toList [], 14⟩ :: [⟨.opener "bogus".toList [], 21⟩]) := by
    decide +kernel
  have hinnermost : IsInnermostOpen tokensBeforeCloser openTagToken "tag" :=
    ⟨by decide +kernel, [⟨.text "\u00e9\n\u00e9".toList, 0⟩], [⟨.text "x".toList, 13⟩], rfl, .nil⟩
  have hloop : tagName "Loop".toList = "loop" := by decide +kernel
  have hcloser : Position.locate mismatchedPage.toList 14 = ⟨14, 2, 11⟩ := by decide +kernel
  have hopener : Position.locate mismatchedPage.toList openTagToken.start = ⟨5, 2, 2⟩ := by
    decide +kernel
  rw [← hloop, ← hcloser, ← hopener, parseWith_eq_error]
  exact .offence htokens hasNoOffence_tokensBeforeCloser
    (.mismatchedCloser hinnermost (by rw [hloop]; decide))

theorem parseWith_fails_at_first_fault_mismatched :
    ∃ page e, page = "\u00e9\n\u00e9\x7b@tag p\x7dx\x7b/Loop\x7d\x7b@bogus\x7d" ∧
      parseWith .standard page "page.html" = .error e ∧
      e = .malformed "page.html" ⟨14, 2, 11⟩ (.mismatchedCloser "loop" "tag" ⟨5, 2, 2⟩) ∧
      (∀ e', IsFirstFault .standard page "page.html" e' ↔ e' = e) ∧ e.file = "page.html" ∧
      ∃ p, e.position? = some p ∧ IsTagPlace page.toList p :=
  ⟨mismatchedPage, _, rfl, parseWith_mismatchedPage, rfl,
    parseWith_fails_at_first_fault parseWith_mismatchedPage⟩

end Template

end StaticSite.Template
