/-
Tokens of a template.

A template is text with tags: `{@name attributes}`, `{@name attributes /}` and `{/name}`.  A brace
that begins none of these is text.  `tokenize` cuts a template into tokens that cover it without
gaps, which is why a token keeps its exact source.  Quoted values hide braces.
-/
import StaticSite.Outcome
import StaticSite.Template.Position
import StaticSite.Text.Blank
import StaticSite.Text.Split

namespace StaticSite.Template

/-! ## Lexemes -/

/-- A piece of a template. -/
inductive Lexeme where
  /-- Text without tags. -/
  | text (content : List Char)
  /-- A tag that opens, with everything between its name and the closing brace. -/
  | opener (name inner : List Char)
  /-- A tag that closes, with the blanks before the closing brace. -/
  | closer (name blanks : List Char)
  deriving Repr, DecidableEq

/-- The piece as it is written. -/
def Lexeme.source : Lexeme → List Char
  | .text content => content
  | .opener name inner => '\x7b' :: '@' :: (name ++ inner ++ ['\x7d'])
  | .closer name blanks => '\x7b' :: '/' :: (name ++ blanks ++ ['\x7d'])

/-- A piece of a template with the byte offset at which it begins. -/
structure Token where
  lexeme : Lexeme
  start : Nat
  deriving Repr, DecidableEq

/-- The byte offset at which the token ends. -/
def Token.stop (t : Token) : Nat := t.start + byteLength t.lexeme.source

/-- Why a tag cannot be read. -/
inductive LexFault where
  /-- The name is followed by a character that ends no name. -/
  | strayCharacter (name : String)
  /-- The closing brace is missing. -/
  | unterminatedTag (name : String)
  /-- The closing quotation mark is missing. -/
  | unterminatedQuote (name : String)
  deriving Repr, DecidableEq

/-- The text of a fault. -/
def LexFault.message : LexFault → String
  | .strayCharacter name => "invalid character after tag name \x60" ++ name ++ "\x60"
  | .unterminatedTag name => "unterminated tag \x60\x7b@" ++ name ++ "\x60"
  | .unterminatedQuote name => "unterminated quoted value in tag \x60\x7b@" ++ name ++ "\x60"

/-- A fault with the byte offset of its tag. -/
structure LexError where
  offset : Nat
  fault : LexFault
  deriving Repr, DecidableEq

/-! ## Reading one tag -/

/-- May the character follow the first letter of a tag name? -/
def isNameChar (c : Char) : Bool := c.isAlphanum || c == '_' || c == '-'

/-- The tag name at the front of a text, with what follows. -/
def readName : List Char → Option (List Char × List Char)
  | c :: rest =>
    if c.isAlpha then some (c :: rest.takeWhile isNameChar, rest.dropWhile isNameChar) else none
  | [] => none

/-- Is the character a quotation mark? -/
def isQuote (c : Char) : Bool := c == '"' || c == '\''

/-- The text up to the brace that closes a tag, and what follows the brace; quotation marks hide
braces, and inside of them a backslash hides a quotation mark.  Without such a brace, the answer is
whether a quotation mark is open at the end. -/
def scanInner : Option Char → List Char → Except Bool (List Char × List Char)
  | quote, [] => .error quote.isSome
  | none, c :: rest =>
    if c = '\x7d' then .ok ([], rest)
    else do
      let (inner, after) ← scanInner (if isQuote c then some c else none) rest
      .ok (c :: inner, after)
  | some _, ['\\'] => .error true
  | some q, '\\' :: d :: rest => do
    let (inner, after) ← scanInner (some q) rest
    .ok ('\\' :: d :: inner, after)
  | some q, c :: rest => do
    let (inner, after) ← scanInner (if c = q then none else some q) rest
    .ok (c :: inner, after)

/-- The tag that opens after `{@`, if a name follows. -/
def readOpener (cs : List Char) : Except LexFault (Option (Lexeme × List Char)) :=
  match readName cs with
  | none => .ok none
  | some (name, rest) =>
    let shown := String.ofList name
    match rest with
    | [] => .error (.unterminatedTag shown)
    | c :: _ =>
      if c = '\x7d' ∨ c = '/' ∨ Text.isAsciiBlank c then
        match scanInner none rest with
        | .ok (inner, after) => .ok (some (.opener name inner, after))
        | .error true => .error (.unterminatedQuote shown)
        | .error false => .error (.unterminatedTag shown)
      else .error (.strayCharacter shown)

/-- The tag that closes after `{/`, if a name, blanks and a closing brace follow. -/
def readCloser (cs : List Char) : Option (Lexeme × List Char) :=
  match readName cs with
  | none => none
  | some (name, rest) =>
    match rest.dropWhile Text.isAsciiBlank with
    | c :: after =>
      if c = '\x7d' then some (.closer name (rest.takeWhile Text.isAsciiBlank), after) else none
    | [] => none

/-- The tag at the front of a text, if one begins there. -/
def readTag : List Char → Except LexFault (Option (Lexeme × List Char))
  | b :: c :: rest =>
    if b = '\x7b' ∧ c = '@' then readOpener rest
    else if b = '\x7b' ∧ c = '/' then .ok (readCloser rest)
    else .ok none
  | _ => .ok none

/-! ## What is read is the source

Each reader gives back a piece and the rest whose concatenation is what it was given; in particular
the rest is shorter, which is why `tokenize` ends. -/

theorem readName_source {cs name rest : List Char} (h : readName cs = some (name, rest)) :
    cs = name ++ rest := by
  unfold readName at h
  split at h
  · split at h
    · injection h with h
      obtain ⟨rfl, rfl⟩ := Prod.mk.injEq .. ▸ h
      simp [List.takeWhile_append_dropWhile]
    · cases h
  · cases h

theorem scanInner_source {quote : Option Char} {cs inner after : List Char}
    (h : scanInner quote cs = .ok (inner, after)) : cs = inner ++ '\x7d' :: after := by
  fun_induction scanInner quote cs generalizing inner after with
  | case1 => cases h
  | case2 rest => cases h; simp_all
  | case3 c rest hc ih =>
    obtain ⟨⟨i, a⟩, h1, h2⟩ := Outcome.bind_eq_ok.mp h
    cases h2
    rw [ih h1]; rfl
  | case4 => cases h
  | case5 q d rest ih =>
    obtain ⟨⟨i, a⟩, h1, h2⟩ := Outcome.bind_eq_ok.mp h
    cases h2
    rw [ih h1]; rfl
  | case6 q c rest _ _ ih =>
    obtain ⟨⟨i, a⟩, h1, h2⟩ := Outcome.bind_eq_ok.mp h
    cases h2
    rw [ih h1]; rfl

/-- What an opening tag is read from. -/
theorem readOpener_eq_some {cs after : List Char} {lexeme : Lexeme} :
    readOpener cs = .ok (some (lexeme, after)) ↔
      ∃ name c tail inner, readName cs = some (name, c :: tail) ∧
        (c = '\x7d' ∨ c = '/' ∨ Text.isAsciiBlank c = true) ∧
        scanInner none (c :: tail) = .ok (inner, after) ∧ lexeme = .opener name inner := by
  constructor
  · intro h
    unfold readOpener at h
    split at h
    · cases h
    · rename_i name rest hname
      dsimp only at h
      split at h
      · cases h
      · rename_i c tail
        split at h
        · rename_i hc
          split at h
          · rename_i inner rest' hscan
            cases h
            exact ⟨name, c, tail, inner, hname, hc, hscan, rfl⟩
          · cases h
          · cases h
        · cases h
  · rintro ⟨name, c, tail, inner, hname, hc, hscan, rfl⟩
    simp only [readOpener, hname, if_pos hc, hscan]

/-- What a closing tag is read from. -/
theorem readCloser_eq_some {cs after : List Char} {lexeme : Lexeme} :
    readCloser cs = some (lexeme, after) ↔
      ∃ name rest, readName cs = some (name, rest) ∧
        rest.dropWhile Text.isAsciiBlank = '\x7d' :: after ∧
        lexeme = .closer name (rest.takeWhile Text.isAsciiBlank) := by
  constructor
  · intro h
    unfold readCloser at h
    split at h
    · cases h
    · rename_i name rest hname
      split at h
      · rename_i c tail hdrop
        split at h
        · rename_i hc
          cases h
          exact ⟨name, rest, hname, hc ▸ hdrop, rfl⟩
        · cases h
      · cases h
  · rintro ⟨name, rest, hname, hdrop, rfl⟩
    simp only [readCloser, hname, hdrop, if_true]

theorem readOpener_source {cs after : List Char} {lexeme : Lexeme}
    (h : readOpener cs = .ok (some (lexeme, after))) :
    '\x7b' :: '@' :: cs = lexeme.source ++ after := by
  obtain ⟨name, c, tail, inner, hname, -, hscan, rfl⟩ := readOpener_eq_some.mp h
  rw [readName_source hname, scanInner_source hscan]
  simp [Lexeme.source]

theorem readCloser_source {cs after : List Char} {lexeme : Lexeme}
    (h : readCloser cs = some (lexeme, after)) :
    '\x7b' :: '/' :: cs = lexeme.source ++ after := by
  obtain ⟨name, rest, hname, hdrop, rfl⟩ := readCloser_eq_some.mp h
  have hrest : rest = rest.takeWhile Text.isAsciiBlank ++ '\x7d' :: after := by
    rw [← hdrop, List.takeWhile_append_dropWhile]
  rw [readName_source hname]
  simpa [Lexeme.source] using hrest

theorem readTag_source {cs after : List Char} {lexeme : Lexeme}
    (h : readTag cs = .ok (some (lexeme, after))) : cs = lexeme.source ++ after := by
  unfold readTag at h
  split at h
  · split at h
    · rename_i hb
      obtain ⟨rfl, rfl⟩ := hb
      exact readOpener_source h
    · split at h
      · rename_i hb
        obtain ⟨rfl, rfl⟩ := hb
        injection h with h
        exact readCloser_source h
      · cases h
  · cases h

/-- Is the piece a tag? -/
def Lexeme.isTag : Lexeme → Bool
  | .text _ => false
  | _ => true

theorem isTag_of_readOpener {cs after : List Char} {lexeme : Lexeme}
    (h : readOpener cs = .ok (some (lexeme, after))) : lexeme.isTag = true := by
  obtain ⟨name, c, tail, inner, -, -, -, rfl⟩ := readOpener_eq_some.mp h
  rfl

theorem isTag_of_readCloser {cs after : List Char} {lexeme : Lexeme}
    (h : readCloser cs = some (lexeme, after)) : lexeme.isTag = true := by
  obtain ⟨name, rest, -, -, rfl⟩ := readCloser_eq_some.mp h
  rfl

/-- The pieces that `readTag` gives are tags. -/
theorem isTag_of_readTag {cs after : List Char} {lexeme : Lexeme}
    (h : readTag cs = .ok (some (lexeme, after))) : lexeme.isTag = true := by
  unfold readTag at h
  split at h
  · split at h
    · exact isTag_of_readOpener h
    · split at h
      · injection h with h
        exact isTag_of_readCloser h
      · cases h
  · cases h

/-- A tag is written with a brace first. -/
theorem Lexeme.source_of_isTag {lexeme : Lexeme} (h : lexeme.isTag = true) :
    ∃ rest, lexeme.source = '\x7b' :: rest := by
  cases lexeme with
  | text content => cases h
  | opener name inner => exact ⟨_, rfl⟩
  | closer name blanks => exact ⟨_, rfl⟩

theorem length_lt_of_readTag {cs after : List Char} {lexeme : Lexeme}
    (h : readTag cs = .ok (some (lexeme, after))) : after.length < cs.length := by
  obtain ⟨rest, hrest⟩ := Lexeme.source_of_isTag (isTag_of_readTag h)
  rw [readTag_source h, hrest]
  simp only [List.cons_append, List.length_cons, List.length_append]
  omega

/-! ## Reading all tags -/

/-- Put a character in front of tokens: it joins the text that they begin with. -/
def pushChar (c : Char) (offset : Nat) : List Token → List Token
  | ⟨.text content, _⟩ :: rest => ⟨.text (c :: content), offset⟩ :: rest
  | tokens => ⟨.text [c], offset⟩ :: tokens

/-- The tokens of a text that begins at a byte offset. -/
def tokenizeFrom (offset : Nat) (cs : List Char) : Except LexError (List Token) :=
  match cs with
  | [] => .ok []
  | c :: rest =>
    match _h : readTag (c :: rest) with
    | .error fault => .error ⟨offset, fault⟩
    | .ok (some (lexeme, after)) =>
      (tokenizeFrom (offset + byteLength lexeme.source) after).map (⟨lexeme, offset⟩ :: ·)
    | .ok none => (tokenizeFrom (offset + c.utf8Size) rest).map (pushChar c offset)
termination_by cs.length
decreasing_by
  · exact length_lt_of_readTag ‹_›
  · simp

/-- The tokens of a template. -/
def tokenize (source : String) : Except LexError (List Token) := tokenizeFrom 0 source.toList

/-! ## The inside of a tag -/

/-- The attribute text of a tag and whether the tag closes itself.  A final slash closes a tag only
when it stands apart: alone, after a blank or after a quotation mark. -/
def cutClosingSlash (inner : List Char) : List Char × Bool :=
  match Text.beforeSuffix? ['/'] inner with
  | none => (inner, false)
  | some before =>
    match before.getLast? with
    | none => ([], true)
    | some c =>
      if Text.isAsciiBlank c || isQuote c then (Text.trimEnd before, true) else (inner, false)

/-- The attribute text of an opening tag and whether the tag closes itself. -/
def openerParts (inner : List Char) : List Char × Bool := cutClosingSlash (Text.trim inner)

end StaticSite.Template
