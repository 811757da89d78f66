/-
The grammar of templates.

`parseWith` accepts a template just if three things hold: it can be cut into tokens, every opening
tag has a registered name and readable attributes, and the tags that do not close themselves are
`Balanced`.  The tree of an accepted template, written out in document order, is the sequence of its
tokens; so nothing is lost, doubled, moved or put under another tag.

Both halves rest on one invariant of the loop over the tokens.  `Closes` says what the open tags
still demand of the brackets to come, and `ParseState.pieces` is what has been read so far, open
tags included.
-/
import Mathlib.Data.List.Forall2
import StaticSite.Template.Node

namespace StaticSite.Template

/-! ## Brackets -/

/-- A tag that opens or closes, with the name that has to agree. -/
inductive Bracket where
  | opens (name : String)
  | closes (name : String)
  deriving Repr, DecidableEq

/-- The bracket that a piece of a template is; text and tags that close themselves are none. -/
def Lexeme.bracket? : Lexeme → Option Bracket
  | .text _ => none
  | .opener letters inner =>
      if (openerParts inner).2 then none else some (.opens (tagName letters))
  | .closer letters _ => some (.closes (tagName letters))

/-- Every closing bracket has the name of the innermost open one, and none stays open. -/
inductive Balanced : List Bracket → Prop
  | nil : Balanced []
  | pair {name : String} {inside after : List Bracket} : Balanced inside → Balanced after →
      Balanced (.opens name :: inside ++ .closes name :: after)

/-- What open tags, innermost first, demand of the brackets to come: each is closed after a balanced
stretch, and the stretch after the outermost is balanced too. -/
def Closes : List String → List Bracket → Prop
  | [], bs => Balanced bs
  | name :: outer, bs =>
      ∃ inside after, bs = inside ++ .closes name :: after ∧ Balanced inside ∧ Closes outer after

theorem not_closes_cons_nil (name : String) (outer : List String) :
    ¬ Closes (name :: outer) [] := by
  rintro ⟨inside, after, heq, -⟩
  cases inside <;> cases heq

theorem not_closes_nil_closes (name : String) (bs : List Bracket) :
    ¬ Closes [] (.closes name :: bs) := by
  intro h
  cases h

/-- An opening bracket becomes the innermost open one. -/
theorem closes_opens {names : List String} {name : String} {bs : List Bracket} :
    Closes names (.opens name :: bs) ↔ Closes (name :: names) bs := by
  constructor
  · intro h
    cases names with
    | nil =>
        cases h with
        | pair hi ha => exact ⟨_, _, rfl, hi, ha⟩
    | cons outermost outer =>
        obtain ⟨inside, after, heq, hi, ho⟩ := h
        -- the bracket begins the stretch up to the close of `outermost`, so it is closed within it
        cases hi with
        | nil => cases heq
        | @pair n inner next hinner hnext =>
            simp only [List.cons_append, List.append_assoc, List.cons.injEq,
              Bracket.opens.injEq] at heq
            obtain ⟨rfl, rfl⟩ := heq
            exact ⟨inner, next ++ .closes outermost :: after, rfl, hinner,
              next, after, rfl, hnext, ho⟩
  · rintro ⟨inner, rest, rfl, hinner, hrest⟩
    cases names with
    | nil => exact .pair hinner hrest
    | cons outermost outer =>
        obtain ⟨next, after, rfl, hnext, ho⟩ := hrest
        refine ⟨.opens name :: inner ++ .closes name :: next, after, ?_, .pair hinner hnext, ho⟩
        simp

/-- A closing bracket ends the innermost open one, whose name it must have. -/
theorem closes_closes {innermost name : String} {outer : List String} {bs : List Bracket} :
    Closes (innermost :: outer) (.closes name :: bs) ↔ innermost = name ∧ Closes outer bs := by
  constructor
  · rintro ⟨inside, after, heq, hi, ho⟩
    cases hi with
    | nil =>
        injection heq with hn hbs
        injection hn with hn
        exact ⟨hn.symm, hbs ▸ ho⟩
    | pair => cases heq
  · rintro ⟨rfl, ho⟩
    exact ⟨[], bs, rfl, .nil, ho⟩

/-! ## Trees in document order -/

/-- One step through a tree in document order. -/
inductive Piece where
  | text (content : String)
  /-- A tag that closes itself. -/
  | single (tag : Tag)
  | opens (tag : Tag)
  | closes (name : String)
  deriving Repr, DecidableEq

mutual

/-- A node in document order. -/
def Node.pieces : Node → List Piece
  | .text content => [.text content]
  | .single tag => [.single tag]
  | .paired tag _ children => .opens tag :: (piecesOf children ++ [.closes tag.name])

/-- Nodes in document order. -/
def piecesOf : List Node → List Piece
  | [] => []
  | node :: rest => node.pieces ++ piecesOf rest

end

@[simp] theorem piecesOf_append (ns ms : List Node) :
    piecesOf (ns ++ ms) = piecesOf ns ++ piecesOf ms := by
  induction ns with
  | nil => rfl
  | cons n ns ih => simp [piecesOf, ih]

/-- What a token of a text stands for.  The tag of an opening token has its name in small letters,
the kind that the name is registered for, the attributes that are written in it, and its place. -/
inductive Token.StandsFor (registry : TagRegistry) (file : String) (source : List Char) :
    Token → Piece → Prop
  | text {content : List Char} {start : Nat} :
      StandsFor registry file source ⟨.text content, start⟩ (.text (String.ofList content))
  | single {letters inner : List Char} {start : Nat} {kind : TagKind} {attributes : Attributes} :
      registry.lookup? (tagName letters) = some kind →
      Attributes.parse (openerParts inner).1 = .ok attributes → (openerParts inner).2 = true →
      StandsFor registry file source ⟨.opener letters inner, start⟩
        (.single ⟨tagName letters, kind, attributes, file, Position.locate source start⟩)
  | opens {letters inner : List Char} {start : Nat} {kind : TagKind} {attributes : Attributes} :
      registry.lookup? (tagName letters) = some kind →
      Attributes.parse (openerParts inner).1 = .ok attributes → (openerParts inner).2 = false →
      StandsFor registry file source ⟨.opener letters inner, start⟩
        (.opens ⟨tagName letters, kind, attributes, file, Position.locate source start⟩)
  | closes {letters blanks : List Char} {start : Nat} :
      StandsFor registry file source ⟨.closer letters blanks, start⟩ (.closes (tagName letters))

/-- An opening tag has a registered name and readable attributes. -/
def Lexeme.IsReadable (registry : TagRegistry) : Lexeme → Prop
  | .opener letters inner =>
      (∃ kind, registry.lookup? (tagName letters) = some kind) ∧
        ∃ attributes, Attributes.parse (openerParts inner).1 = .ok attributes
  | _ => True

/-- The bracket that a step through a tree is. -/
def Piece.bracket? : Piece → Option Bracket
  | .opens tag => some (.opens tag.name)
  | .closes name => some (.closes name)
  | _ => none

/-! ## The state of a parse -/

/-- Open tags with what is in them so far, in document order. -/
def framePieces : List Frame → List Piece
  | [] => []
  | frame :: outer => framePieces outer ++ .opens frame.tag :: piecesOf frame.children

namespace ParseState

/-- What has been read, in document order. -/
def pieces (s : ParseState) : List Piece := piecesOf s.nodes ++ framePieces s.frames

/-- The names of the open tags, innermost first. -/
def openNames (s : ParseState) : List String := s.frames.map (·.tag.name)

@[simp] theorem pieces_push (s : ParseState) (node : Node) (source : List Char) :
    (s.push node source).pieces = s.pieces ++ node.pieces := by
  obtain ⟨frames, nodes⟩ := s
  cases frames <;> simp [push, pieces, framePieces, piecesOf]

@[simp] theorem openNames_push (s : ParseState) (node : Node) (source : List Char) :
    (s.push node source).openNames = s.openNames := by
  obtain ⟨frames, nodes⟩ := s
  cases frames <;> simp [push, openNames]

theorem finish_eq_ok {file : String} {s : ParseState} {nodes : List Node} :
    s.finish file = .ok nodes ↔ s.frames = [] ∧ s.nodes = nodes := by
  obtain ⟨frames, ns⟩ := s
  cases frames <;> simp [finish]

/-- Nothing is open just if the open tags demand nothing more. -/
theorem closes_openNames_nil {s : ParseState} : Closes s.openNames [] ↔ s.frames = [] := by
  obtain ⟨frames, nodes⟩ := s
  cases frames with
  | nil => exact ⟨fun _ => rfl, fun _ => .nil⟩
  | cons frame outer =>
      exact ⟨fun h => absurd h (not_closes_cons_nil _ _), fun h => by cases h⟩

end ParseState

/-! ## One token -/

section Token

variable {registry : TagRegistry} {file : String} {source : List Char}

theorem Token.StandsFor.isReadable {token : Token} {piece : Piece}
    (h : token.StandsFor registry file source piece) : token.lexeme.IsReadable registry := by
  cases h with
  | text => trivial
  | single hkind hattr => exact ⟨⟨_, hkind⟩, _, hattr⟩
  | opens hkind hattr => exact ⟨⟨_, hkind⟩, _, hattr⟩
  | closes => trivial

theorem Token.StandsFor.bracket?_eq {token : Token} {piece : Piece}
    (h : token.StandsFor registry file source piece) : token.lexeme.bracket? = piece.bracket? := by
  cases h with
  | text => rfl
  | single _ _ hclosed => simp [Lexeme.bracket?, Piece.bracket?, hclosed]
  | opens _ _ hopen => simp [Lexeme.bracket?, Piece.bracket?, hopen]
  | closes => rfl

/-- The tag of an opening token, from its name and its attributes. -/
theorem readOpeningTag_eq_ok {position : Position} {letters inner : List Char} {tag : Tag}
    {closed : Bool} :
    readOpeningTag registry file position letters inner = .ok (tag, closed) ↔
      ∃ kind attributes, registry.lookup? (tagName letters) = some kind ∧
        Attributes.parse (openerParts inner).1 = .ok attributes ∧
        tag = ⟨tagName letters, kind, attributes, file, position⟩ ∧
        closed = (openerParts inner).2 := by
  unfold readOpeningTag
  dsimp only
  cases hk : registry.lookup? (tagName letters) with
  | none => simp
  | some kind =>
      cases ha : Attributes.parse (openerParts inner).1 with
      | error fault => simp
      | ok attributes => simp [eq_comm]

/-- A closing token fits just if it names the innermost open tag, and then it ends that tag. -/
theorem closeTag_eq_ok {position : Position} {letters written : List Char} {s s' : ParseState} :
    closeTag file position letters written s = .ok s' ↔
      ∃ frame outer, s.frames = frame :: outer ∧ frame.tag.name = tagName letters ∧
        s' = ParseState.push ⟨outer, s.nodes⟩
          (.paired frame.tag (String.ofList frame.body) frame.children)
          (frame.source ++ frame.body ++ written) := by
  unfold closeTag
  dsimp only
  cases hf : s.frames with
  | nil => simp
  | cons frame outer =>
      by_cases hn : frame.tag.name = tagName letters
      · simp [hn, eq_comm]
      · simp [hn]

/-- What reading a token does: text and tags that close themselves are added to the innermost open
tag, an opening tag becomes the innermost one, and a closing tag ends it. -/
theorem parseToken_cases {token : Token} {s s' : ParseState}
    (h : parseToken registry file source s token = .ok s') :
    (∃ content start, token = ⟨.text content, start⟩ ∧
      s' = s.push (.text (String.ofList content)) content) ∨
    (∃ tag, token.StandsFor registry file source (.single tag) ∧
      s' = s.push (.single tag) token.lexeme.source) ∨
    (∃ tag, token.StandsFor registry file source (.opens tag) ∧
      s' = { s with frames := ⟨tag, token.lexeme.source, [], []⟩ :: s.frames }) ∨
    ∃ frame outer, token.StandsFor registry file source (.closes frame.tag.name) ∧
      s.frames = frame :: outer ∧
      s' = ParseState.push ⟨outer, s.nodes⟩
        (.paired frame.tag (String.ofList frame.body) frame.children)
        (frame.source ++ frame.body ++ token.lexeme.source) := by
  obtain ⟨lexeme, start⟩ := token
  cases lexeme with
  | text content =>
      cases h
      exact .inl ⟨content, start, rfl, rfl⟩
  | opener letters inner =>
      obtain ⟨⟨tag, closed⟩, hread, hs⟩ := Outcome.bind_eq_ok.mp h
      obtain ⟨kind, attributes, hkind, hattr, rfl, rfl⟩ := readOpeningTag_eq_ok.mp hread
      dsimp only at hs
      split at hs
      · rename_i hclosed
        cases hs
        exact .inr (.inl ⟨_, .single hkind hattr hclosed, rfl⟩)
      · rename_i hopen
        cases hs
        exact .inr (.inr (.inl ⟨_, .opens hkind hattr (by simpa using hopen), rfl⟩))
  | closer letters blanks =>
      obtain ⟨frame, outer, hframes, hname, rfl⟩ := closeTag_eq_ok.mp h
      exact .inr (.inr (.inr ⟨frame, outer, hname ▸ .closes, hframes, rfl⟩))

/-- A token that can be read in a state adds the piece that it stands for, and leaves to the tokens
after it what it does not fulfil itself. -/
theorem parseToken_ok {token : Token} {s s' : ParseState}
    (h : parseToken registry file source s token = .ok s') :
    token.lexeme.IsReadable registry ∧
      (∃ piece, token.StandsFor registry file source piece ∧ s'.pieces = s.pieces ++ [piece]) ∧
      ∀ bs, Closes s.openNames (token.lexeme.bracket?.toList ++ bs) ↔ Closes s'.openNames bs := by
  rcases parseToken_cases h with ⟨content, start, rfl, rfl⟩ | ⟨tag, htag, rfl⟩ | ⟨tag, htag, rfl⟩ |
    ⟨frame, outer, hclose, hframes, rfl⟩
  · exact ⟨trivial, ⟨_, .text, by simp [Node.pieces]⟩, by simp [Lexeme.bracket?]⟩
  · exact ⟨htag.isReadable, ⟨_, htag, by simp [Node.pieces]⟩, by
      simp [htag.bracket?_eq, Piece.bracket?]⟩
  · refine ⟨htag.isReadable, ⟨_, htag, ?_⟩, fun bs => ?_⟩
    · simp [ParseState.pieces, framePieces, piecesOf]
    · simpa [htag.bracket?_eq, Piece.bracket?, ParseState.openNames] using closes_opens
  · refine ⟨hclose.isReadable, ⟨_, hclose, ?_⟩, fun bs => ?_⟩
    · rw [ParseState.pieces_push]
      simp [ParseState.pieces, hframes, framePieces, Node.pieces]
    · have hnames : s.openNames = frame.tag.name :: outer.map (·.tag.name) := by
        simp [ParseState.openNames, hframes]
      simp only [hclose.bracket?_eq, Piece.bracket?, Option.toList_some, List.singleton_append,
        hnames, closes_closes, ParseState.openNames_push]
      exact ⟨fun h => h.2, fun h => ⟨trivial, h⟩⟩

/-- A readable token can be read in a state whose open tags it fits. -/
theorem exists_parseToken {token : Token} {s : ParseState} {bs : List Bracket}
    (hread : token.lexeme.IsReadable registry)
    (hfits : Closes s.openNames (token.lexeme.bracket?.toList ++ bs)) :
    ∃ s', parseToken registry file source s token = .ok s' := by
  obtain ⟨lexeme, start⟩ := token
  cases lexeme with
  | text content => exact ⟨_, rfl⟩
  | opener letters inner =>
      obtain ⟨⟨kind, hkind⟩, attributes, hattr⟩ := hread
      let tag : Tag := ⟨tagName letters, kind, attributes, file, Position.locate source start⟩
      have htag : readOpeningTag registry file (Position.locate source start) letters inner =
          .ok (tag, (openerParts inner).2) :=
        readOpeningTag_eq_ok.mpr ⟨kind, attributes, hkind, hattr, rfl, rfl⟩
      by_cases hclosed : (openerParts inner).2 = true
      · exact ⟨_, Outcome.bind_eq_ok.mpr ⟨_, htag, if_pos hclosed⟩⟩
      · exact ⟨_, Outcome.bind_eq_ok.mpr ⟨_, htag, if_neg hclosed⟩⟩
  | closer letters blanks =>
      cases hframes : s.frames with
      | nil =>
          have hnames : s.openNames = [] := by simp [ParseState.openNames, hframes]
          rw [hnames] at hfits
          exact absurd hfits (not_closes_nil_closes _ _)
      | cons frame outer =>
          have hnames : s.openNames = frame.tag.name :: outer.map (·.tag.name) := by
            simp [ParseState.openNames, hframes]
          rw [hnames] at hfits
          exact ⟨_, closeTag_eq_ok.mpr ⟨frame, outer, hframes, (closes_closes.mp hfits).1, rfl⟩⟩

end Token

/-! ## All tokens -/

section Tokens

variable {registry : TagRegistry} {file : String} {source : List Char}

/-- The brackets of tokens, in order. -/
def bracketsOf (tokens : List Token) : List Bracket := tokens.filterMap (·.lexeme.bracket?)

theorem bracketsOf_cons (token : Token) (rest : List Token) :
    bracketsOf (token :: rest) = token.lexeme.bracket?.toList ++ bracketsOf rest := by
  unfold bracketsOf
  cases h : token.lexeme.bracket? <;> simp [h]

/-- What holds after tokens have been read: they were readable, their pieces have been added, and
their brackets fulfil what the open tags demanded. -/
theorem parseTokens_ok {tokens : List Token} {s s' : ParseState}
    (h : tokens.foldlM (parseToken registry file source) s = .ok s') :
    (∀ t ∈ tokens, t.lexeme.IsReadable registry) ∧
      (∃ pieces, List.Forall₂ (Token.StandsFor registry file source) tokens pieces ∧
        s'.pieces = s.pieces ++ pieces) ∧
      ∀ bs, Closes s.openNames (bracketsOf tokens ++ bs) ↔ Closes s'.openNames bs := by
  induction tokens generalizing s with
  | nil =>
      cases h
      exact ⟨by simp, ⟨[], .nil, by simp⟩, fun bs => Iff.rfl⟩
  | cons token rest ih =>
      rw [List.foldlM_cons] at h
      obtain ⟨next, hnext, hrest⟩ := Outcome.bind_eq_ok.mp h
      obtain ⟨hread, ⟨piece, hpiece, hadd⟩, hclose⟩ := parseToken_ok hnext
      obtain ⟨hreads, ⟨pieces, hpieces, hadds⟩, hcloses⟩ := ih hrest
      refine ⟨List.forall_mem_cons.mpr ⟨hread, hreads⟩, ⟨piece :: pieces, .cons hpiece hpieces, ?_⟩,
        fun bs => ?_⟩
      · rw [hadds, hadd, List.append_assoc, List.singleton_append]
      · rw [bracketsOf_cons, List.append_assoc, hclose, hcloses]

/-- Readable tokens whose brackets fit the open tags can all be read. -/
theorem exists_parseTokens {tokens : List Token} {s : ParseState}
    (hread : ∀ t ∈ tokens, t.lexeme.IsReadable registry)
    (hfits : Closes s.openNames (bracketsOf tokens)) :
    ∃ s', tokens.foldlM (parseToken registry file source) s = .ok s' := by
  induction tokens generalizing s with
  | nil => exact ⟨s, rfl⟩
  | cons token rest ih =>
      obtain ⟨hhead, htail⟩ := List.forall_mem_cons.mp hread
      rw [bracketsOf_cons] at hfits
      obtain ⟨next, hnext⟩ : ∃ next, parseToken registry file source s token = .ok next :=
        exists_parseToken hhead hfits
      have hrest : Closes next.openNames (bracketsOf rest) := ((parseToken_ok hnext).2.2 _).mp hfits
      obtain ⟨s', hs'⟩ := ih htail hrest
      rw [List.foldlM_cons]
      exact ⟨s', Outcome.bind_eq_ok.mpr ⟨next, hnext, hs'⟩⟩

end Tokens

/-- A parse succeeds just if there are tokens that can be read up to a state without open tags,
whose nodes are then the result. -/
theorem parseWith_eq_ok {registry : TagRegistry} {source file : String} {nodes : List Node} :
    parseWith registry source file = .ok nodes ↔
      ∃ tokens s, tokenize source = .ok tokens ∧
        tokens.foldlM (parseToken registry file source.toList) .start = .ok s ∧
        s.frames = [] ∧ s.nodes = nodes := by
  unfold parseWith
  dsimp only
  cases htokens : tokenize source with
  | error e => simp
  | ok tokens => simp [Outcome.bind_eq_ok, ParseState.finish_eq_ok]

/-- The grammar of templates, and the tree of a template as its tokens. -/
theorem parseWith_accepts_grammar (registry : TagRegistry) (source file : String) :
    ((∃ nodes, parseWith registry source file = .ok nodes) ↔
      ∃ tokens, tokenize source = .ok tokens ∧ (∀ t ∈ tokens, t.lexeme.IsReadable registry) ∧
        Balanced (bracketsOf tokens)) ∧
    ∀ nodes, parseWith registry source file = .ok nodes →
      ∃ tokens, tokenize source = .ok tokens ∧
        List.Forall₂ (Token.StandsFor registry file source.toList) tokens (piecesOf nodes) := by
  refine ⟨⟨?_, ?_⟩, ?_⟩
  · rintro ⟨nodes, h⟩
    obtain ⟨tokens, s, htokens, hs, hframes, -⟩ := parseWith_eq_ok.mp h
    obtain ⟨hread, -, hclose⟩ := parseTokens_ok hs
    have hbalanced := (hclose []).mpr (ParseState.closes_openNames_nil.mpr hframes)
    rw [List.append_nil] at hbalanced
    exact ⟨tokens, htokens, hread, hbalanced⟩
  · rintro ⟨tokens, htokens, hread, hbalanced⟩
    obtain ⟨s, hs⟩ : ∃ s, tokens.foldlM (parseToken registry file source.toList) .start = .ok s :=
      exists_parseTokens hread hbalanced
    have hclose := (parseTokens_ok hs).2.2 []
    rw [List.append_nil] at hclose
    have hframes : s.frames = [] := ParseState.closes_openNames_nil.mp (hclose.mp hbalanced)
    exact ⟨s.nodes, parseWith_eq_ok.mpr ⟨tokens, s, htokens, hs, hframes, rfl⟩⟩
  · intro nodes h
    obtain ⟨tokens, s, htokens, hs, hframes, rfl⟩ := parseWith_eq_ok.mp h
    obtain ⟨-, ⟨pieces, hpieces, hadd⟩, -⟩ := parseTokens_ok hs
    have hall : piecesOf s.nodes = pieces := by
      simpa [ParseState.pieces, ParseState.start, hframes, framePieces, piecesOf] using hadd
    exact ⟨tokens, htokens, hall ▸ hpieces⟩

end StaticSite.Template
