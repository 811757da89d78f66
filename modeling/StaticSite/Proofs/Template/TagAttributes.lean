/-
Attributes in a tag.

The attribute text of a tag is what stands between its name and its end, without the blanks around
it and without a closing slash, and reading attributes does not mind blanks around them
(`readItems_trim`).  Main statement: attributes are read back from a tag, and no tag that has been
read holds a quoted text that does not end, as long as no quotation mark stands in a bare word or a
bare value (`quotes_agree`); one that does breaks both (`quote_in_bare_text`).
-/
import StaticSite.Proofs.Template.Locality
import StaticSite.Proofs.Template.MoreAttributes
import StaticSite.Proofs.Template.TagText
import StaticSite.Template.TagKind

namespace StaticSite.Template

/-! ## Blanks around attributes -/

/-- The blanks that are trimmed off at the end. -/
theorem exists_trimEnd (cs : List Char) :
    ∃ blanks, cs = Text.trimEnd cs ++ blanks ∧ ∀ d ∈ blanks, Text.isBlank d = true := by
  refine ⟨(cs.reverse.takeWhile Text.isBlank).reverse, ?_, fun d hd => ?_⟩
  · rw [Text.trimEnd, Text.dropEndWhile, ← List.reverse_append, List.takeWhile_append_dropWhile,
      List.reverse_reverse]
  · exact List.mem_takeWhile_imp (List.mem_reverse.mp hd)

/-- The blanks that are trimmed off at both ends. -/
theorem exists_trim (cs : List Char) :
    ∃ before after, cs = before ++ Text.trim cs ++ after ∧
      (∀ d ∈ before, Text.isBlank d = true) ∧ ∀ d ∈ after, Text.isBlank d = true := by
  obtain ⟨after, hafter, hblanks⟩ := exists_trimEnd (Text.trimStart cs)
  refine ⟨cs.takeWhile Text.isBlank, after, ?_, fun d hd => List.mem_takeWhile_imp hd, hblanks⟩
  rw [List.append_assoc, Text.trim, ← hafter, Text.trimStart, List.takeWhile_append_dropWhile]

/-- An attribute text is read the same when it is trimmed. -/
theorem readItems_trim (cs : List Char) : readItems (Text.trim cs) = readItems cs := by
  obtain ⟨before, after, hcs, hbefore, hafter⟩ := exists_trim cs
  conv => rhs; rw [hcs]
  rw [List.append_assoc, readItems_blanks hbefore, readItems_append_blanks hafter]

/-! ## Attributes in a tag -/

/-- Behind the attribute text of a tag stand blanks and slashes, and before it blanks. -/
theorem exists_openerParts (inner : List Char) :
    ∃ before after, inner = before ++ (openerParts inner).1 ++ after ∧
      (∀ d ∈ before, isQuote d = false) ∧ ∀ d ∈ after, isQuote d = false := by
  obtain ⟨before, after, hinner, hbefore, hafter⟩ := exists_trim inner
  have hbefore' : ∀ d ∈ before, isQuote d = false := fun d hd => isQuote_of_isBlank (hbefore d hd)
  have hafter' : ∀ d ∈ after, isQuote d = false := fun d hd => isQuote_of_isBlank (hafter d hd)
  obtain ⟨tail, htail, hquote⟩ : ∃ tail, Text.trim inner = (openerParts inner).1 ++ tail ∧
      ∀ d ∈ tail, isQuote d = false := by
    unfold openerParts cutClosingSlash
    rcases List.eq_nil_or_concat (Text.trim inner) with hnil | ⟨front, c, hconcat⟩
    · rw [hnil]
      exact ⟨[], rfl, nofun⟩
    · rw [hconcat, List.concat_eq_append, Text.beforeSuffix?_append_singleton]
      by_cases hc : '/' = c
      · subst hc
        rw [if_pos rfl]
        dsimp only
        cases hlast : front.getLast? with
        | none =>
            obtain rfl := List.getLast?_eq_none_iff.mp hlast
            exact ⟨['/'], rfl, List.forall_mem_singleton.mpr rfl⟩
        | some d =>
            dsimp only
            split
            · obtain ⟨blanks, hfront, hblanks⟩ := exists_trimEnd front
              refine ⟨blanks ++ ['/'], by rw [← List.append_assoc, ← hfront], ?_⟩
              refine List.forall_mem_append.mpr
                ⟨fun e he => ?_, List.forall_mem_singleton.mpr rfl⟩
              exact isQuote_of_isBlank (hblanks e he)
            · exact ⟨[], (List.append_nil _).symm, nofun⟩
      · rw [if_neg hc]
        exact ⟨[], (List.append_nil _).symm, nofun⟩
  refine ⟨before, tail ++ after, ?_, hbefore', List.forall_mem_append.mpr ⟨hquote, hafter'⟩⟩
  rw [List.append_assoc, ← List.append_assoc _ tail, ← htail, ← List.append_assoc, ← hinner]

/-- The search over the attribute text of a tag ends outside of quotation marks, as that over the
inside of the tag does. -/
theorem scanInner_openerParts {inner : List Char} (h : scanInner none inner = .error false) :
    scanInner none (openerParts inner).1 = .error false := by
  obtain ⟨before, after, hinner, hbefore, hafter⟩ := exists_openerParts inner
  rw [hinner, List.append_assoc] at h
  have hrest := scanInner_of_append hbefore h
  cases hscan : scanInner none (openerParts inner).1 with
  | error isOpen =>
      cases isOpen with
      | false => rfl
      | true =>
          rw [scanInner_append_of_open (fun q hq => by cases hq) hscan hafter] at hrest
          cases hrest
  | ok found =>
      obtain ⟨front, back⟩ := found
      rw [scanInner_source hscan, List.append_assoc] at hrest
      rw [List.cons_append, scanInner_of_ok hscan] at hrest
      cases hrest

/-- The inside of a tag that closes itself, with attributes between two spaces. -/
theorem openerParts_closed (cs : List Char) :
    openerParts (' ' :: (cs ++ [' ', '/'])) = (Text.trim cs, true) := by
  have hsplit : ' ' :: (cs ++ [' ', '/']) = ' ' :: (cs ++ [' ']) ++ ['/'] := by simp
  have hslash : Text.trimStart (' ' :: (cs ++ [' ']) ++ ['/']) =
      Text.trimStart (cs ++ [' ']) ++ ['/'] :=
    Text.dropWhile_append_of_stops (Text.stops_cons.mpr rfl)
  have hspace : Text.trimStart (cs ++ [' ']) =
      if (Text.trimStart cs).isEmpty then [] else Text.trimStart cs ++ [' '] :=
    List.dropWhile_append
  rw [openerParts, Text.trim, hsplit, hslash, Text.trimEnd_append_of_not_blank _ rfl,
    cutClosingSlash, Text.beforeSuffix?_append_singleton, if_pos rfl, hspace, Text.trim]
  cases hcs : Text.trimStart cs with
  | nil => rfl
  | cons c rest =>
      rw [List.isEmpty_cons, if_neg Bool.false_ne_true]
      dsimp only
      rw [List.getLast?_concat]
      dsimp only
      rw [if_pos (by decide), Text.trimEnd_append_blank _ rfl]

/-- A tag that closes itself, with a name and an attribute text. -/
def closedTag (name text : String) : String := "\x7b@" ++ name ++ " " ++ text ++ " /\x7d"

theorem toList_closedTag (name text : String) :
    (closedTag name text).toList =
      (Lexeme.opener name.toList (' ' :: (text.toList ++ [' ', '/']))).source := by
  simp [closedTag, Lexeme.source]

/-- The tag is read as a single token that closes itself and has the attributes of the text. -/
def IsReadBack (name text : String) : Prop :=
  ∃ inner, tokenize (closedTag name text) = .ok [⟨.opener name.toList inner, 0⟩] ∧
    (openerParts inner).2 = true ∧
    Attributes.parse (openerParts inner).1 = Attributes.parse text.toList

section Registered

variable {name text : String}

theorem isAlpha_of_toLower {c : Char} (h : c.toLower.isAlpha = true) : c.isAlpha = true := by
  by_cases hupper : c.isUpper = true
  · exact Bool.or_eq_true_iff.mpr (.inl hupper)
  · have hc : c.toLower = c := dif_neg fun hc => hupper (decide_eq_true hc)
    rwa [hc] at h

theorem all_isAlpha_name (kind : TagKind) : kind.name.toList.all Char.isAlpha = true := by
  cases kind <;> rfl

/-- A registered name, in capital or small letters, is one that a tag can have. -/
theorem isTagName_of_lookup? (h : (TagRegistry.standard.lookup? name).isSome = true) :
    IsTagName name.toList := by
  obtain ⟨kind, hkind⟩ := Option.isSome_iff_exists.mp h
  have hmem : (Text.asciiLowercase name, kind) ∈ TagKind.all.map fun kind => (kind.name, kind) :=
    OrderedMap.mem_of_find?_eq_some hkind
  obtain ⟨other, -, heq⟩ := List.mem_map.mp hmem
  have hname : other.name.toList = name.toList.map Char.toLower := by
    rw [(Prod.mk.inj heq).1, Text.asciiLowercase, String.toList_ofList]
  have halpha : ∀ c ∈ name.toList, c.isAlpha = true := by
    intro c hc
    refine isAlpha_of_toLower (List.all_eq_true.mp (all_isAlpha_name other) _ ?_)
    rw [hname]
    exact List.mem_map_of_mem hc
  have hne : name.toList ≠ [] := by
    intro hnil
    rw [hnil, List.map_nil] at hname
    cases other <;> cases hname
  obtain ⟨c, cs, hcs⟩ := List.exists_cons_of_ne_nil hne
  rw [hcs, List.forall_mem_cons] at halpha
  have hall : ∀ d ∈ cs, isNameChar d = true := by
    intro d hd
    rw [isNameChar, Char.isAlphanum, halpha.2 d hd]
    rfl
  rw [hcs]
  exact readName_eq_some.mpr ⟨c, cs, rfl, (List.append_nil _).symm, halpha.1, hall, nofun⟩

/-- Without a closing brace the search fails. -/
theorem exists_scanInner_eq_error (quote : Option Char) {cs : List Char} (h : '\x7d' ∉ cs) :
    ∃ isOpen, scanInner quote cs = .error isOpen := by
  cases hscan : scanInner quote cs with
  | error isOpen => exact ⟨isOpen, rfl⟩
  | ok found =>
      refine absurd ?_ h
      rw [scanInner_source hscan]
      simp

/-- Attributes in which every quotation mark is closed are read back from a tag. -/
theorem isReadBack_of_closed (hname : IsTagName name.toList)
    (htext : scanInner none text.toList = .error false) : IsReadBack name text := by
  have hspace : Passes [' '] := passes_char rfl (by decide)
  have hslash : Passes [' ', '/'] := hspace.append (passes_char rfl (by decide))
  have hpasses : Passes (' ' :: (text.toList ++ [' ', '/'])) :=
    hspace.append (Passes.append (scanInner_append htext) hslash)
  have hread := readTag_opener_of_passes hname hpasses (fun c hc => by cases hc; exact .inr rfl) []
  rw [List.append_nil] at hread
  refine ⟨' ' :: (text.toList ++ [' ', '/']), ?_, ?_, ?_⟩
  · rw [tokenize, toList_closedTag, tokenizeFrom_tag hread, tokenizeFrom]
    rfl
  · rw [openerParts_closed]
  · rw [openerParts_closed, Attributes.parse, readItems_trim, Attributes.parse]

/-- An attribute text in which a quotation mark is open makes the tag unreadable. -/
theorem tokenize_of_open (hname : IsTagName name.toList)
    (htext : scanInner none text.toList = .error true) :
    tokenize (closedTag name text) = .error ⟨0, .unterminatedQuote name⟩ := by
  have hscan : scanInner none (' ' :: (text.toList ++ [' ', '/', '\x7d'])) = .error true := by
    rw [scanInner_outside (by decide), Outcome.map_eq_error]
    exact scanInner_append_of_open (fun q hq => by cases hq) htext (by simp [isQuote])
  have hstops : Text.Stops isNameChar (' ' :: (text.toList ++ [' ', '/', '\x7d'])) :=
    Text.stops_cons.mpr rfl
  have hsource : (closedTag name text).toList =
      '\x7b' :: '@' :: (name.toList ++ ' ' :: (text.toList ++ [' ', '/', '\x7d'])) := by
    simp [closedTag]
  have hread : readTag (closedTag name text).toList = .error (.unterminatedQuote name) := by
    rw [hsource, readTag, if_pos ⟨rfl, rfl⟩, readOpener, readName_append hname hstops]
    dsimp only
    rw [List.nil_append]
    dsimp only
    rw [if_pos (by decide), hscan, String.ofList_toList]
  rw [tokenize, hsource, tokenizeFrom_fault (hsource ▸ hread)]

end Registered

/-- The search over the attribute text of a token ends outside of quotation marks. -/
theorem scanInner_of_mem_tokens {source : String} {tokens : List Token} {t : Token}
    {name inner : List Char} (h : tokenize source = .ok tokens) (ht : t ∈ tokens)
    (hlexeme : t.lexeme = .opener name inner) :
    scanInner none (openerParts inner).1 = .error false := by
  obtain ⟨lexemes, hsep, -, rfl⟩ := tokenizeFrom_eq_ok.mp h
  have hmem := lexeme_mem_of_mem_placed ht
  rw [hlexeme] at hmem
  have hread : readOpener (name ++ inner ++ ['\x7d'] ++ []) = _ := hsep.readTag_of_mem hmem rfl []
  obtain ⟨_, c, tail, _, -, -, hscan, heq⟩ := readOpener_eq_some.mp hread
  cases heq
  exact scanInner_openerParts (scanInner_of_eq_ok hscan)

/-- The reader of tags and the reader of attributes agree on what is quoted, unless a quotation mark
stands in a bare word, a name or a bare value.  Any attributes that can be read and have no closing
brace are then read back from a tag with a registered name; with such a quotation mark they are, or
it counts as open and the tag cannot be read.  And in no tag that has been read do the attributes
have a quoted text that does not end, unless there is such a quotation mark. -/
theorem quotes_agree (name text source : String) :
    ((TagRegistry.standard.lookup? name).isSome = true →
      ∀ attributes, Attributes.parse text.toList = .ok attributes → '\x7d' ∉ text.toList →
        (QuotesDelimit text.toList → IsReadBack name text) ∧
        (IsReadBack name text ∨
          tokenize (closedTag name text) = .error ⟨0, .unterminatedQuote name⟩)) ∧
    (∀ tokens, tokenize source = .ok tokens → ∀ t ∈ tokens, ∀ letters inner,
      t.lexeme = .opener letters inner → QuotesDelimit (openerParts inner).1 →
        Attributes.parse (openerParts inner).1 ≠ .error .unterminatedQuote) := by
  constructor
  · intro hregistered attributes hparse hbrace
    have hname := isTagName_of_lookup? hregistered
    obtain ⟨items, hitems, -⟩ := Outcome.map_eq_ok.mp hparse
    obtain ⟨isOpen, hscan⟩ := exists_scanInner_eq_error none hbrace
    constructor
    · intro hquotes
      obtain rfl := (scanInner_of_readItems hquotes hscan).1 items hitems
      exact isReadBack_of_closed hname hscan
    · cases isOpen with
      | false => exact .inl (isReadBack_of_closed hname hscan)
      | true => exact .inr (tokenize_of_open hname hscan)
  · intro tokens htokens t ht letters inner hlexeme hquotes hparse
    have hscan := scanInner_of_mem_tokens htokens ht hlexeme
    have hopen := (scanInner_of_readItems hquotes hscan).2 (Outcome.map_eq_error.mp hparse)
    cases hopen

/-! Each kind of quotation mark hides the other one, and an escaped one of its own. -/

def quotedText : String := "label=\"it's\" alt='a \\' \"' wide"

/-- The text between the name of a tag and its closing brace. -/
def quotedInner : List Char := " \"it's \x7d\" /".toList

def quotedPage : String := "a\x7b@" ++ "echo \"it's \x7d\" /\x7db"

def quotedTokens : List Token :=
  [⟨.text ['a'], 0⟩, ⟨.opener "echo".toList quotedInner, 1⟩, ⟨.text ['b'], 19⟩]

theorem quotes_agree_nested :
    ∃ name text attributes source tokens inner, name = "Link" ∧
      text = "label=\"it's\" alt='a \\' \"' wide" ∧
      (TagRegistry.standard.lookup? name).isSome = true ∧
      Attributes.parse text.toList = .ok attributes ∧ '\x7d' ∉ text.toList ∧
      QuotesDelimit text.toList ∧ IsReadBack name text ∧
      source = "a\x7b@" ++ "echo \"it's \x7d\" /\x7db" ∧
      tokenize source = .ok tokens ∧ ⟨.opener "echo".toList inner, 1⟩ ∈ tokens ∧
      QuotesDelimit (openerParts inner).1 ∧
      Attributes.parse (openerParts inner).1 ≠ .error .unterminatedQuote := by
  have hregistered : (TagRegistry.standard.lookup? "Link").isSome = true := by decide +kernel
  have hparse : Attributes.parse quotedText.toList =
      .ok ⟨⟨[("label", "it's"), ("alt", "a ' \"")]⟩, ["wide"], ["wide"]⟩ := by
    decide +kernel
  have hbrace : '\x7d' ∉ quotedText.toList := by decide
  have hquotes : QuotesDelimit quotedText.toList := by decide +kernel
  have htokens : tokenize quotedPage = .ok quotedTokens := by decide +kernel
  have hmem : (⟨.opener "echo".toList quotedInner, 1⟩ : Token) ∈ quotedTokens := by decide
  have hinner : QuotesDelimit (openerParts quotedInner).1 := by decide +kernel
  have hagree := quotes_agree "Link" quotedText quotedPage
  exact ⟨"Link", quotedText, _, quotedPage, quotedTokens, quotedInner, rfl, rfl, hregistered, hparse, hbrace, hquotes,
    (hagree.1 hregistered _ hparse hbrace).1 hquotes, rfl, htokens, hmem, hinner,
    hagree.2 quotedTokens htokens _ hmem _ quotedInner rfl hinner⟩

/-- A quotation mark in a bare value is read as a part of it, but the tag around it cannot be read;
and two of them can hide the end of a quoted text. -/
theorem quote_in_bare_text :
    Attributes.parse "label=it's".toList = .ok ⟨⟨[("label", "it's")]⟩, [], []⟩ ∧
      ¬ IsReadBack "link" "label=it's" ∧
      tokenize (closedTag "link" "label=it's") = .error ⟨0, .unterminatedQuote "link"⟩ ∧
      tokenize ("\x7b@" ++ "echo a'b \"c' d\x7d") =
        .ok [⟨.opener "echo".toList " a'b \"c' d".toList, 0⟩] ∧
      Attributes.parse (openerParts " a'b \"c' d".toList).1 = .error .unterminatedQuote := by
  have hfault : tokenize (closedTag "link" "label=it's") =
      .error ⟨0, .unterminatedQuote "link"⟩ := by
    decide +kernel
  refine ⟨by decide +kernel, ?_, hfault, by decide +kernel, by decide +kernel⟩
  rintro ⟨inner, htokens, -⟩
  rw [hfault] at htokens
  cases htokens

end StaticSite.Template
