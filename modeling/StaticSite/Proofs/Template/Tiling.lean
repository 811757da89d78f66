/-
The tokens of a template cover it.

Main statements: `scan`, which goes by byte offsets, finds the tokens that `tokenize` reads
(`scan_eq`), so it never takes a part of the source that is not there; and the tokens are the source,
cut into pieces without a gap, a piece of text never beside another one
(`scan_tiles`).
-/
import Mathlib.Data.List.Chain
import StaticSite.Proofs.Template.ByteReading
import StaticSite.Proofs.Template.Locality

namespace StaticSite.Template

/-! ## Pending text

A scan gives a stretch of text as one token when it ends; `tokenize` puts its characters together one
after the other. -/

section Source

variable {source : String} {before cs : List Char}

/-- The tokens with a stretch of text in front. -/
def pushText (offset : Nat) : List Char → List Token → List Token
  | [], tokens => tokens
  | c :: rest, tokens => pushChar c offset (pushText (offset + c.utf8Size) rest tokens)

theorem pushText_append (offset : Nat) (cs ds : List Char) (tokens : List Token) :
    pushText offset (cs ++ ds) tokens =
      pushText offset cs (pushText (offset + byteLength cs) ds tokens) := by
  induction cs generalizing offset with
  | nil => rfl
  | cons c cs ih => rw [List.cons_append, pushText, ih, byteLength_cons, ← Nat.add_assoc, pushText]

/-- Text before a tag or the end is a token of its own. -/
theorem pushText_of_isTag {offset : Nat} {cs : List Char} {tokens : List Token} (hcs : cs ≠ [])
    (htokens : ∀ t ∈ tokens.head?, t.lexeme.isTag = true) :
    pushText offset cs tokens = ⟨.text cs, offset⟩ :: tokens := by
  induction cs generalizing offset with
  | nil => exact absurd rfl hcs
  | cons c cs ih =>
      rw [pushText]
      cases cs with
      | cons d cs =>
          rw [ih (List.cons_ne_nil _ _)]
          rfl
      | nil =>
          cases tokens with
          | nil => rfl
          | cons t tokens =>
              obtain ⟨lexeme, start⟩ := t
              have htag : lexeme.isTag = true := htokens _ rfl
              cases lexeme with
              | text content => cases htag
              | opener name inner => rfl
              | closer name blanks => rfl

/-- A tag cuts text off from what follows. -/
theorem pushText_eq_append {tokens : List Token} (htokens : ∀ t ∈ tokens.head?, t.lexeme.isTag = true)
    (offset : Nat) (cs : List Char) : pushText offset cs tokens = pushText offset cs [] ++ tokens := by
  cases cs with
  | nil => rfl
  | cons c cs =>
      rw [pushText_of_isTag (List.cons_ne_nil c cs) htokens,
        pushText_of_isTag (List.cons_ne_nil c cs) (by simp)]
      rfl

/-- The tokens of a reading as a scan gives them. -/
def spansOf : Except LexError (List Token) → Except ScanFault (List Span)
  | .error e => .error (.lexical e)
  | .ok tokens => .ok (tokens.map Token.span)

theorem spansOf_map_pushText_nil (offset : Nat) (read : Except LexError (List Token)) :
    spansOf (read.map (pushText offset [])) = spansOf read := by
  cases read <;> rfl

/-- A tag ends the pending text. -/
theorem spansOf_map_tag {t : Token} (ht : t.lexeme.isTag = true) (offset : Nat)
    (pending : List Char) (read : Except LexError (List Token)) :
    spansOf ((read.map (t :: ·)).map (pushText offset pending)) =
      (spansOf read).map fun rest => (pushText offset pending []).map Token.span ++ t.span :: rest := by
  cases read with
  | error e => rfl
  | ok tokens =>
      have hhead : ∀ t' ∈ (t :: tokens).head?, t'.lexeme.isTag = true := by
        intro t' ht'
        cases ht'
        exact ht
      show Except.ok ((pushText offset pending (t :: tokens)).map _) = _
      rw [pushText_eq_append hhead, List.map_append]
      rfl

/-- A character that begins no tag belongs to the pending text. -/
theorem map_pushChar (c : Char) (offset : Nat) (pending : List Char)
    (read : Except LexError (List Token)) :
    (read.map (pushChar c (offset + byteLength pending))).map (pushText offset pending) =
      read.map (pushText offset (pending ++ [c])) := by
  cases read with
  | error e => rfl
  | ok tokens =>
      show Except.ok _ = Except.ok _
      rw [pushText_append]
      rfl

/-- What a scan gives at the end of a stretch of text. -/
theorem textBetween_eq {pending : List Char} (h : source.toList = before ++ (pending ++ cs)) :
    textBetween source (byteLength before) (byteLength (before ++ pending)) =
      .ok ((pushText (byteLength before) pending []).map Token.span) := by
  rw [textBetween, byteLength_append]
  cases pending with
  | nil =>
      rw [if_neg (by simp)]
      rfl
  | cons c pending =>
      have hsize := c.utf8Size_pos
      rw [if_pos (by rw [byteLength_cons]; omega), slice_eq h,
        pushText_of_isTag (List.cons_ne_nil _ _) (by simp)]
      rfl

/-! ## One step of a scan -/

/-- Only a brace begins a tag. -/
theorem eq_brace_of_readTag {c : Char} (h : readTag (c :: cs) ≠ .ok none) : c = '\x7b' := by
  by_contra hc
  refine h ?_
  cases cs with
  | nil => rfl
  | cons d cs => rw [readTag, if_neg fun h => hc h.1, if_neg fun h => hc h.1]

theorem Token.stop_span (t : Token) : t.span.stop = t.stop := by
  obtain ⟨lexeme, start⟩ := t
  cases lexeme <;> rfl

theorem lt_length_of_brace (h : source.toList = before ++ '\x7b' :: cs) :
    byteLength before < (Text.bytes source).length :=
  (List.getElem?_eq_some_iff.mp ((bytesFrom_bytes h).getElem?_ascii (by decide))).1

theorem byteAtIs_brace (h : source.toList = before ++ '\x7b' :: cs) :
    byteAtIs (· == '\x7b') (Text.bytes source) (byteLength before) = true :=
  (bytesFrom_bytes h).byteAtIs_cons (isAscii_beq (by decide))

/-- A scan ends at a tag that cannot be read. -/
theorem scanFrom_fault {c : Char} {fault : LexFault} (h : source.toList = before ++ c :: cs)
    (hread : readTag (c :: cs) = .error fault) (textStart : Nat) :
    scanFrom source textStart (byteLength before) =
      .error (.lexical ⟨byteLength before, fault⟩) := by
  obtain rfl := eq_brace_of_readTag (by rw [hread]; exact nofun)
  have htag : tagAt source (byteLength before) = .error (.lexical ⟨byteLength before, fault⟩) := by
    rw [tagAt_eq h, hread]
    rfl
  rw [scanFrom, dif_pos (lt_length_of_brace h), if_pos (byteAtIs_brace h)]
  split <;> simp_all

/-- A scan goes on behind a tag. -/
theorem scanFrom_tag {c : Char} {lexeme : Lexeme} {after : List Char}
    (h : source.toList = before ++ c :: cs)
    (hread : readTag (c :: cs) = .ok (some (lexeme, after))) (textStart : Nat) :
    scanFrom source textStart (byteLength before) = (do
      let text ← textBetween source textStart (byteLength before)
      let rest ← scanFrom source (byteLength before + byteLength lexeme.source)
        (byteLength before + byteLength lexeme.source)
      .ok (text ++ Token.span ⟨lexeme, byteLength before⟩ :: rest)) := by
  obtain rfl := eq_brace_of_readTag (by rw [hread]; exact nofun)
  have htag : tagAt source (byteLength before) =
      .ok (some (Token.span ⟨lexeme, byteLength before⟩)) := by
    rw [tagAt_eq h, hread]
    rfl
  have hstop : (Token.span ⟨lexeme, byteLength before⟩).stop =
      byteLength before + byteLength lexeme.source := Token.stop_span _
  rw [scanFrom, dif_pos (lt_length_of_brace h), if_pos (byteAtIs_brace h)]
  split <;> simp_all

/-- Where no tag begins, the scan goes on with the next byte. -/
theorem scanFrom_next {textStart i : Nat} (hi : i < (Text.bytes source).length)
    (htag : byteAtIs (· == '\x7b') (Text.bytes source) i = true → tagAt source i = .ok none) :
    scanFrom source textStart i = scanFrom source textStart (i + 1) := by
  rw [scanFrom, dif_pos hi]
  split
  · split <;> simp_all
  · rfl

theorem length_bytes (source : String) :
    (Text.bytes source).length = byteLength source.toList := by
  rw [Text.bytes_eq, length_flatMap_utf8EncodeChar]

/-- Where no tag begins, the scan goes on with the next character. -/
theorem scanFrom_char {c : Char} {textStart : Nat} (h : source.toList = before ++ c :: cs)
    (hread : readTag (c :: cs) = .ok none) :
    scanFrom source textStart (byteLength before) =
      scanFrom source textStart (byteLength before + c.utf8Size) := by
  have hbytes := bytesFrom_bytes h
  by_cases hlt : c.toNat < 128
  · have hi := (List.getElem?_eq_some_iff.mp (hbytes.getElem?_ascii hlt)).1
    rw [utf8Size_of_lt hlt]
    refine scanFrom_next hi fun hbrace => ?_
    rw [hbytes.byteAtIs_cons (isAscii_beq (by decide)), beq_iff_eq] at hbrace
    subst hbrace
    rw [tagAt_eq h, hread]
    rfl
  · refine hbytes.skip (Nat.le_of_not_lt hlt) (fun j b hb hle => ?_) (Nat.le_refl _)
    refine scanFrom_next (List.getElem?_eq_some_iff.mp hb).1 fun hbrace => ?_
    rw [byteAtIs, hb, Option.any_some, byteIs_of_le hle] at hbrace
    cases hbrace

/-! ## The whole scan -/

/-- A scan finds what `tokenize` reads.  The induction is on the reading; `pending` is the text
between the last tag and the place where the reading goes on. -/
theorem scanFrom_eq {pending : List Char} {i : Nat} (hi : byteLength (before ++ pending) = i)
    (h : source.toList = before ++ pending ++ cs) :
    scanFrom source (byteLength before) i =
      spansOf ((tokenizeFrom i cs).map (pushText (byteLength before) pending)) := by
  have htext : textBetween source (byteLength before) i =
      .ok ((pushText (byteLength before) pending []).map Token.span) :=
    hi ▸ textBetween_eq (h.trans (List.append_assoc ..))
  fun_induction tokenizeFrom i cs generalizing before pending with
  | case1 i =>
      have hlength : i = (Text.bytes source).length := by
        rw [length_bytes, h, List.append_nil, hi]
      rw [scanFrom, dif_neg (by omega), ← hlength, htext]
      rfl
  | case2 i c rest fault hread =>
      have hfault := scanFrom_fault h hread (byteLength before)
      rw [hi] at hfault
      exact hfault
  | case3 i c rest lexeme after hread ih =>
      have hstop : byteLength (before ++ pending ++ lexeme.source) = i + byteLength lexeme.source := by
        rw [byteLength_append _ lexeme.source, hi]
      have hrest := @ih (before ++ pending ++ lexeme.source) []
        (by rw [List.append_nil, hstop])
        (by rw [h, readTag_source hread, List.append_nil, List.append_assoc _ lexeme.source])
        (by rw [textBetween, hstop, if_neg (Nat.lt_irrefl _)]; rfl)
      have htag := scanFrom_tag h hread (byteLength before)
      rw [hi, htext] at htag
      rw [hstop, spansOf_map_pushText_nil] at hrest
      rw [htag, hrest, spansOf_map_tag (isTag_of_readTag hread)]
      rfl
  | case4 i c rest hread ih =>
      have hnext : byteLength (before ++ (pending ++ [c])) = i + c.utf8Size := by
        rw [← List.append_assoc, byteLength_append _ [c], hi, byteLength_cons, byteLength_nil, Nat.add_zero]
      have hsource : source.toList = before ++ (pending ++ [c]) ++ rest := by
        rw [h]
        simp
      have hchar : scanFrom source (byteLength before) (byteLength (before ++ pending)) = _ :=
        scanFrom_char h hread
      rw [hi] at hchar
      rw [hchar, ih hnext hsource
        (hnext ▸ textBetween_eq (hsource.trans (List.append_assoc ..))), ← map_pushChar,
        ← byteLength_append, hi]

/-- A scan finds what `tokenize` reads; no part of the source is ever missing. -/
theorem scan_eq (source : String) : scan source = spansOf (tokenize source) := by
  have hall : scanFrom source 0 0 = spansOf ((tokenizeFrom 0 source.toList).map (pushText 0 [])) :=
    @scanFrom_eq source [] source.toList [] 0 rfl rfl
  rw [scan, hall, tokenize, spansOf_map_pushText_nil]

end Source

/-! ## Pieces of the source -/

namespace Span

/-- Is the token a piece of text? -/
def isText : Span → Bool
  | text _ _ => true
  | _ => false

/-- The token stands for the piece of the source. -/
def StandsFor : Span → List Char → Prop
  | text content _, piece => content ≠ [] ∧ piece = content
  | opener name attributes selfClosing _ _, piece =>
    ∃ inner, piece = ['\x7b', '@'] ++ name ++ inner ++ ['\x7d'] ∧
      openerParts inner = (attributes, selfClosing)
  | closer name _ _, piece =>
    ∃ blanks, piece = ['\x7b', '/'] ++ name ++ blanks ++ ['\x7d'] ∧
      blanks.all Text.isAsciiBlank = true

/-- Each token begins where the one before it ends, the first one at one offset, and the last one
ends at another. -/
inductive Cover : Nat → List Span → Nat → Prop
  | nil {offset : Nat} : Cover offset [] offset
  | cons {span : Span} {rest : List Span} {last : Nat} :
      Cover span.stop rest last → Cover span.start (span :: rest) last

end Span

theorem Token.start_span (t : Token) : t.span.start = t.start := by
  obtain ⟨lexeme, start⟩ := t
  cases lexeme <;> rfl

theorem Token.isText_span (t : Token) : t.span.isText = !t.lexeme.isTag := by
  obtain ⟨lexeme, start⟩ := t
  cases lexeme <;> rfl

/-- Pieces in a row cover the text that they are put together to. -/
theorem cover_placed (offset : Nat) (lexemes : List Lexeme) :
    Span.Cover offset ((placed offset lexemes).map Token.span)
      (offset + byteLength (sourceOf lexemes)) := by
  induction lexemes generalizing offset with
  | nil => exact .nil
  | cons lexeme rest ih =>
      rw [sourceOf_cons, byteLength_append, ← Nat.add_assoc]
      have hstart : (Token.span ⟨lexeme, offset⟩).start = offset := Token.start_span _
      have hstop : (Token.span ⟨lexeme, offset⟩).stop = offset + byteLength lexeme.source :=
        Token.stop_span _
      have hcover := Span.Cover.cons (hstop ▸ ih (offset + byteLength lexeme.source))
      rw [hstart, hstop] at hcover
      exact hcover

/-- A piece in a row stands in the text where its token says. -/
theorem exists_of_mem_placed {offset : Nat} {lexemes : List Lexeme} {t : Token}
    (h : t ∈ placed offset lexemes) :
    ∃ before after, sourceOf lexemes = before ++ (t.lexeme.source ++ after) ∧
      offset + byteLength before = t.start := by
  induction lexemes generalizing offset with
  | nil => cases h
  | cons lexeme rest ih =>
      rcases List.mem_cons.mp h with rfl | h
      · exact ⟨[], sourceOf rest, sourceOf_cons .., rfl⟩
      · obtain ⟨before, after, hsource, hstart⟩ := ih h
        refine ⟨lexeme.source ++ before, after, ?_, ?_⟩
        · rw [sourceOf_cons, hsource, List.append_assoc]
        · rw [byteLength_append, ← Nat.add_assoc, hstart]

theorem all_blank_of_readTag {name blanks after : List Char}
    (h : readTag ((Lexeme.closer name blanks).source ++ after) =
      .ok (some (.closer name blanks, after))) : blanks.all Text.isAsciiBlank = true := by
  have hsource : (Lexeme.closer name blanks).source ++ after =
      '\x7b' :: '/' :: (name ++ blanks ++ ['\x7d'] ++ after) := rfl
  rw [hsource, readTag, if_neg (by decide), if_pos ⟨rfl, rfl⟩] at h
  injection h with h
  obtain ⟨name', rest, -, -, hlexeme⟩ := readCloser_eq_some.mp h
  injection hlexeme with _ hblanks
  rw [hblanks, List.all_eq_true]
  exact fun c hc => List.mem_takeWhile_imp hc

/-- Each of separate pieces is what its token stands for. -/
theorem Separate.standsFor {lexemes : List Lexeme} (h : Separate lexemes) {lexeme : Lexeme}
    (hmem : lexeme ∈ lexemes) (start : Nat) :
    (Token.span ⟨lexeme, start⟩).StandsFor lexeme.source := by
  induction h with
  | nil => cases hmem
  | text hne _ _ _ ih =>
      rcases List.mem_cons.mp hmem with rfl | hmem
      · exact ⟨hne, rfl⟩
      · exact ih hmem
  | @tag tag rest hread _ ih =>
      rcases List.mem_cons.mp hmem with rfl | hmem
      · cases lexeme with
        | text content => cases isTag_of_readTag (hread [])
        | opener name inner => exact ⟨inner, by simp [Lexeme.source], rfl⟩
        | closer name blanks =>
            exact ⟨blanks, by simp [Lexeme.source], all_blank_of_readTag (hread [])⟩
      · exact ih hmem

/-- Of separate pieces no two beside one another are text. -/
theorem Separate.isChain {lexemes : List Lexeme} (h : Separate lexemes) :
    lexemes.IsChain fun l m => l.isTag || m.isTag := by
  induction h with
  | nil => exact .nil
  | @text content rest _ _ hrest _ ih =>
      cases rest with
      | nil => exact .singleton _
      | cons next rest => exact .cons_cons (hrest next rfl) ih
  | @tag tag rest hread _ ih =>
      cases rest with
      | nil => exact .singleton _
      | cons next rest =>
          exact .cons_cons (by rw [isTag_of_readTag (hread []), Bool.true_or]) ih

theorem Separate.isChain_placed {lexemes : List Lexeme} (h : Separate lexemes) (offset : Nat) :
    ((placed offset lexemes).map Token.span).IsChain fun s t => !(s.isText && t.isText) := by
  have hchain := h.isChain
  rw [← map_lexeme_placed offset lexemes, List.isChain_map] at hchain
  rw [List.isChain_map]
  refine hchain.imp fun s t hst => ?_
  rwa [Token.isText_span, Token.isText_span, Bool.not_and, Bool.not_not, Bool.not_not]

theorem byteLength_toList (source : String) : byteLength source.toList = source.utf8ByteSize := by
  rw [← length_bytes]
  rfl

/-- The tokens of a template cover it.  The scan never takes a part of the source whose offsets are
out of order, beyond the end or inside a character, and it gives the tokens of `tokenize`: they go
from the first byte to the last one without a gap; each lies between two boundaries of characters,
is no empty text, and is written there as the tag or the text that it stands for; and no text stands
beside another one. -/
theorem scan_tiles (source : String) :
    (∀ first last, scan source ≠ .error (.badSlice first last)) ∧
    ∀ tokens, tokenize source = .ok tokens → ∃ spans, scan source = .ok spans ∧
      spans = tokens.map Token.span ∧
      Span.Cover 0 spans source.utf8ByteSize ∧
      (∀ span ∈ spans, ∃ piece, slice? source.toList span.start span.stop = some piece ∧
        span.StandsFor piece) ∧
      spans.IsChain fun s t => !(s.isText && t.isText) := by
  rw [scan_eq]
  constructor
  · intro first last h
    cases htokens : tokenize source with
    | error e =>
        rw [htokens] at h
        cases h
    | ok tokens =>
        rw [htokens] at h
        cases h
  · intro tokens htokens
    obtain ⟨lexemes, hsep, hsource, hplaced⟩ := tokenizeFrom_eq_ok.mp htokens
    subst hplaced
    have hcover := cover_placed 0 lexemes
    rw [hsource, Nat.zero_add, byteLength_toList] at hcover
    refine ⟨_, by rw [htokens]; rfl, rfl, hcover, fun span hspan => ?_, hsep.isChain_placed 0⟩
    obtain ⟨t, ht, rfl⟩ := List.mem_map.mp hspan
    obtain ⟨before, after, hpieces, hstart⟩ := exists_of_mem_placed ht
    refine ⟨t.lexeme.source, ?_, hsep.standsFor (lexeme_mem_of_mem_placed ht) t.start⟩
    rw [Token.start_span, Token.stop_span, Token.stop, ← hstart, Nat.zero_add, ← hsource, hpieces]
    exact slice?_append before t.lexeme.source after

/-! A backslash before a character of two bytes hides neither a quotation mark nor a brace, and a
closing tag that breaks off is text. -/

def accentedPage : String := "\u00e9\x7b@a k='\\\u00e9\x7d'\x7d" ++ "\x7b/b\x7b/a \x7d"

def accentedTokens : List Token :=
  [⟨.text ['\u00e9'], 0⟩, ⟨.opener ['a'] " k='\\\u00e9\x7d'".toList, 2⟩,
    ⟨.text "\x7b/b".toList, 15⟩, ⟨.closer ['a'] [' '], 18⟩]

theorem scan_tiles_accented :
    ∃ source tokens spans, source = "\u00e9\x7b@a k='\\\u00e9\x7d'\x7d" ++ "\x7b/b\x7b/a \x7d" ∧
      tokenize source = .ok tokens ∧ scan source = .ok spans ∧
      spans = [.text ['\u00e9'] 0, .opener ['a'] "k='\\\u00e9\x7d'".toList false 2 15,
        .text "\x7b/b".toList 15, .closer ['a'] 18 23] ∧
      Span.Cover 0 spans source.utf8ByteSize ∧
      (∀ span ∈ spans, ∃ piece, slice? source.toList span.start span.stop = some piece ∧
        span.StandsFor piece) ∧
      spans.IsChain fun s t => !(s.isText && t.isText) := by
  have htokens : tokenize accentedPage = .ok accentedTokens := by decide +kernel
  obtain ⟨spans, hscan, hspans, htiles⟩ := (scan_tiles accentedPage).2 accentedTokens htokens
  exact ⟨accentedPage, accentedTokens, spans, rfl, htokens, hscan, hspans.trans (by decide +kernel), htiles⟩

end StaticSite.Template
