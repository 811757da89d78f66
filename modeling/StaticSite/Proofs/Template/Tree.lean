/-
Trees of tokens.

`ReadAs` says what tree tokens stand for, by the structure of the tree: a pair stands for its
opening token, the tokens of its children and its closing token, and its body is what the tokens in
between are written as.  Main statement: a template is parsed to just the nodes that its tokens read
as.

The parser keeps the open tags on a stack.  `ReadUpTo` says what stands behind every one of them,
and one token keeps it; in the other direction, tokens that read as nodes add these nodes whatever
is on the stack.
-/
import StaticSite.Proofs.Template.Grammar
import StaticSite.Proofs.Template.Lexemes

namespace StaticSite.Template

/-! ## One token -/

section Token

variable {registry : TagRegistry} {file : String} {source : List Char}

/-- A tag that closes itself is added to the innermost open tag. -/
theorem parseToken_of_single {token : Token} {tag : Tag}
    (h : token.StandsFor registry file source (.single tag)) (s : ParseState) :
    parseToken registry file source s token =
      .ok (s.push (.single tag) token.lexeme.source) := by
  cases h with
  | single hkind hattr hclosed =>
      exact Outcome.bind_eq_ok.mpr
        ⟨_, readOpeningTag_eq_ok.mpr ⟨_, _, hkind, hattr, rfl, rfl⟩, if_pos hclosed⟩

/-- A tag that stays open becomes the innermost open tag. -/
theorem parseToken_of_opens {token : Token} {tag : Tag}
    (h : token.StandsFor registry file source (.opens tag)) (s : ParseState) :
    parseToken registry file source s token =
      .ok { s with frames := ⟨tag, token.lexeme.source, [], []⟩ :: s.frames } := by
  cases h with
  | opens hkind hattr hopen =>
      exact Outcome.bind_eq_ok.mpr
        ⟨_, readOpeningTag_eq_ok.mpr ⟨_, _, hkind, hattr, rfl, rfl⟩, if_neg (by simp [hopen])⟩

/-- A closing tag ends the innermost open tag, if it has its name. -/
theorem parseToken_of_closes {token : Token} {frame : Frame}
    (h : token.StandsFor registry file source (.closes frame.tag.name)) (outer : List Frame)
    (nodes : List Node) :
    parseToken registry file source ⟨frame :: outer, nodes⟩ token =
      .ok (ParseState.push ⟨outer, nodes⟩
        (.paired frame.tag (String.ofList frame.body) frame.children)
        (frame.source ++ frame.body ++ token.lexeme.source)) := by
  generalize hname : frame.tag.name = name at h
  cases h with
  | @closes letters blanks start =>
      exact (closeTag_eq_ok (s := ⟨frame :: outer, nodes⟩)).mpr ⟨frame, outer, rfl, hname, rfl⟩

end Token

/-! ## Tokens as trees -/

/-- The text that tokens are written as. -/
def writtenAs (tokens : List Token) : List Char := sourceOf (tokens.map (·.lexeme))

@[simp] theorem writtenAs_nil : writtenAs [] = [] := rfl

@[simp] theorem writtenAs_cons (token : Token) (rest : List Token) :
    writtenAs (token :: rest) = token.lexeme.source ++ writtenAs rest := by
  simp [writtenAs]

@[simp] theorem writtenAs_append (ts us : List Token) :
    writtenAs (ts ++ us) = writtenAs ts ++ writtenAs us := by
  simp [writtenAs]

@[simp] theorem writtenAs_placed (offset : Nat) (lexemes : List Lexeme) :
    writtenAs (placed offset lexemes) = sourceOf lexemes := by
  induction lexemes generalizing offset with
  | nil => rfl
  | cons lexeme rest ih => simp [placed, ih]

/-- Tokens of a text read as nodes.  The body of a pair is what the tokens between its tags are
written as, and its children are what these tokens read as. -/
inductive ReadAs (registry : TagRegistry) (file : String) (source : List Char) :
    List Token → List Node → Prop
  | nil : ReadAs registry file source [] []
  | text {content : List Char} {start : Nat} {rest : List Token} {nodes : List Node} :
      ReadAs registry file source rest nodes →
      ReadAs registry file source (⟨.text content, start⟩ :: rest)
        (.text (String.ofList content) :: nodes)
  | single {token : Token} {tag : Tag} {rest : List Token} {nodes : List Node} :
      token.StandsFor registry file source (.single tag) →
      ReadAs registry file source rest nodes →
      ReadAs registry file source (token :: rest) (.single tag :: nodes)
  | paired {opener closer : Token} {tag : Tag} {inside rest : List Token}
      {children nodes : List Node} :
      opener.StandsFor registry file source (.opens tag) →
      closer.StandsFor registry file source (.closes tag.name) →
      ReadAs registry file source inside children → ReadAs registry file source rest nodes →
      ReadAs registry file source (opener :: (inside ++ closer :: rest))
        (.paired tag (String.ofList (writtenAs inside)) children :: nodes)

namespace ReadAs

variable {registry : TagRegistry} {file : String} {source : List Char}

theorem append {ts us : List Token} {ns ms : List Node} (hts : ReadAs registry file source ts ns)
    (hus : ReadAs registry file source us ms) :
    ReadAs registry file source (ts ++ us) (ns ++ ms) := by
  induction hts with
  | nil => exact hus
  | text _ ih => exact .text ih
  | single htag _ ih => exact .single htag ih
  | paired hopen hclose hinside _ _ ih =>
      simpa using ReadAs.paired hopen hclose hinside ih

/-- The brackets of tokens that read as nodes are balanced. -/
theorem balanced {ts : List Token} {ns : List Node} (h : ReadAs registry file source ts ns) :
    Balanced (bracketsOf ts) := by
  induction h with
  | nil => exact .nil
  | text _ ih => exact ih
  | single htag _ ih =>
      rw [bracketsOf_cons, htag.bracket?_eq]
      exact ih
  | @paired opener closer tag inside rest children nodes hopen hclose _ _ ihi ihr =>
      have hbrackets : bracketsOf (opener :: (inside ++ closer :: rest)) =
          .opens tag.name :: bracketsOf inside ++ .closes tag.name :: bracketsOf rest := by
        rw [bracketsOf_cons, hopen.bracket?_eq]
        simp only [bracketsOf, List.filterMap_append, List.filterMap_cons, hclose.bracket?_eq]
        rfl
      rw [hbrackets]
      exact .pair ihi ihr

end ReadAs

/-! ## Parsing as reading -/

namespace ParseState

/-- Add nodes with their source to the innermost open tag. -/
def pushAll (s : ParseState) (nodes : List Node) (source : List Char) : ParseState :=
  match s.frames with
  | [] => { s with nodes := s.nodes ++ nodes }
  | frame :: outer =>
      { s with frames :=
        { frame with body := frame.body ++ source, children := frame.children ++ nodes } :: outer }

theorem pushAll_nil (s : ParseState) : s.pushAll [] [] = s := by
  obtain ⟨frames, nodes⟩ := s
  cases frames <;> simp [pushAll]

theorem pushAll_push (s : ParseState) (node : Node) (nodes : List Node)
    (source rest : List Char) :
    (s.push node source).pushAll nodes rest = s.pushAll (node :: nodes) (source ++ rest) := by
  obtain ⟨frames, ns⟩ := s
  cases frames <;> simp [pushAll, push]

end ParseState

section Parsing

variable {registry : TagRegistry} {file : String} {source : List Char}

theorem foldlM_parseToken_cons {token : Token} {rest : List Token} {s next : ParseState}
    (h : parseToken registry file source s token = .ok next) :
    (token :: rest).foldlM (parseToken registry file source) s =
      rest.foldlM (parseToken registry file source) next := by
  rw [List.foldlM_cons, h]
  rfl

theorem foldlM_parseToken_append {tokens rest : List Token} {s next : ParseState}
    (h : tokens.foldlM (parseToken registry file source) s = .ok next) :
    (tokens ++ rest).foldlM (parseToken registry file source) s =
      rest.foldlM (parseToken registry file source) next := by
  rw [List.foldlM_append, h]
  rfl

/-- The loop over tokens that read as nodes adds the nodes, with what the tokens are written as, to
the innermost open tag.  The induction is for every state, since the tokens between two tags are
read with these on the stack. -/
theorem ReadAs.foldlM_parseToken {tokens : List Token} {nodes : List Node}
    (h : ReadAs registry file source tokens nodes) (s : ParseState) :
    tokens.foldlM (parseToken registry file source) s =
      .ok (s.pushAll nodes (writtenAs tokens)) := by
  induction h generalizing s with
  | nil =>
      rw [writtenAs_nil, ParseState.pushAll_nil]
      rfl
  | text _ ih =>
      rw [writtenAs_cons, ← ParseState.pushAll_push]
      exact (foldlM_parseToken_cons rfl).trans (ih _)
  | single htag _ ih =>
      rw [writtenAs_cons, ← ParseState.pushAll_push]
      exact (foldlM_parseToken_cons (parseToken_of_single htag s)).trans (ih _)
  | @paired opener closer tag inside rest children nodes hopen hclose _ _ ihi ihr =>
      have hwritten : writtenAs (opener :: (inside ++ closer :: rest)) =
          opener.lexeme.source ++ writtenAs inside ++ closer.lexeme.source ++ writtenAs rest := by
        simp
      have hinside := ihi { s with frames := ⟨tag, opener.lexeme.source, [], []⟩ :: s.frames }
      let frame : Frame := ⟨tag, opener.lexeme.source, writtenAs inside, children⟩
      have hname : closer.StandsFor registry file source (.closes frame.tag.name) := hclose
      have hend := parseToken_of_closes hname s.frames s.nodes
      rw [hwritten, ← ParseState.pushAll_push, ← ihr]
      exact (foldlM_parseToken_cons (parseToken_of_opens hopen s)).trans
        ((foldlM_parseToken_append hinside).trans (foldlM_parseToken_cons hend))

/-- What has been read when tags are open: what stands before the outermost one, and for every open
tag its opening token and what stands behind that. -/
inductive ReadUpTo (registry : TagRegistry) (file : String) (source : List Char) :
    List Token → List Frame → List Node → Prop
  | closed {tokens : List Token} {nodes : List Node} :
      ReadAs registry file source tokens nodes → ReadUpTo registry file source tokens [] nodes
  | opened {before inside : List Token} {opener : Token} {frame : Frame} {outer : List Frame}
      {nodes : List Node} :
      ReadUpTo registry file source before outer nodes →
      opener.StandsFor registry file source (.opens frame.tag) →
      frame.source = opener.lexeme.source → frame.body = writtenAs inside →
      ReadAs registry file source inside frame.children →
      ReadUpTo registry file source (before ++ opener :: inside) (frame :: outer) nodes

/-- A node that is added has been read from the tokens at the end. -/
theorem ReadUpTo.push {tokens new : List Token} {s : ParseState} {node : Node}
    (h : ReadUpTo registry file source tokens s.frames s.nodes)
    (hnew : ReadAs registry file source new [node]) :
    ReadUpTo registry file source (tokens ++ new) (s.push node (writtenAs new)).frames
      (s.push node (writtenAs new)).nodes := by
  obtain ⟨frames, nodes⟩ := s
  cases h with
  | closed hread => exact .closed (hread.append hnew)
  | opened hbefore hopen hsource hbody hinside =>
      rw [List.append_assoc, List.cons_append]
      refine .opened hbefore hopen hsource ?_ (hinside.append hnew)
      rw [writtenAs_append, hbody]

/-- One token keeps the account of what has been read. -/
theorem ReadUpTo.parseToken {tokens : List Token} {token : Token} {s s' : ParseState}
    (h : ReadUpTo registry file source tokens s.frames s.nodes)
    (hs : parseToken registry file source s token = .ok s') :
    ReadUpTo registry file source (tokens ++ [token]) s'.frames s'.nodes := by
  rcases parseToken_cases hs with ⟨content, start, rfl, rfl⟩ | ⟨tag, htag, rfl⟩ | ⟨tag, htag, rfl⟩ |
    ⟨frame, outer, hclose, hframes, rfl⟩
  · have htext : ReadAs registry file source [⟨.text content, start⟩]
        [.text (String.ofList content)] := .text .nil
    simpa [Lexeme.source] using h.push htext
  · have hsingle : ReadAs registry file source [token] [.single tag] := .single htag .nil
    simpa using h.push hsingle
  · exact .opened h htag rfl rfl .nil
  · rw [hframes] at h
    cases h with
    | @opened before inside opener _ _ _ hbefore hopen hsource hbody hinside =>
        have hpair : ReadAs registry file source (opener :: (inside ++ [token]))
            [.paired frame.tag (String.ofList frame.body) frame.children] := by
          rw [hbody]
          exact .paired hopen hclose hinside .nil
        have hclosed :
            ReadUpTo registry file source (before ++ opener :: (inside ++ [token])) _ _ :=
          ReadUpTo.push (s := ⟨outer, s.nodes⟩) hbefore hpair
        simpa [hsource, hbody] using hclosed

/-- All tokens keep the account of what has been read. -/
theorem ReadUpTo.parseTokens {before tokens : List Token} {s s' : ParseState}
    (h : ReadUpTo registry file source before s.frames s.nodes)
    (hs : tokens.foldlM (Template.parseToken registry file source) s = .ok s') :
    ReadUpTo registry file source (before ++ tokens) s'.frames s'.nodes := by
  induction tokens generalizing before s with
  | nil =>
      cases hs
      rwa [List.append_nil]
  | cons token rest ih =>
      rw [List.foldlM_cons] at hs
      obtain ⟨next, hnext, hrest⟩ := Outcome.bind_eq_ok.mp hs
      have hall := ih (h.parseToken hnext) hrest
      rwa [List.append_assoc] at hall

/-- A template is parsed to the nodes that its tokens read as. -/
theorem parseWith_eq_ok_iff_readAs {text : String} {nodes : List Node} :
    parseWith registry text file = .ok nodes ↔
      ∃ tokens, tokenize text = .ok tokens ∧ ReadAs registry file text.toList tokens nodes := by
  rw [parseWith_eq_ok]
  constructor
  · rintro ⟨tokens, s, htokens, hs, hframes, rfl⟩
    have hread := ReadUpTo.parseTokens (.closed .nil) hs
    rw [hframes] at hread
    cases hread with
    | closed hread => exact ⟨tokens, htokens, hread⟩
  · rintro ⟨tokens, htokens, hread⟩
    exact ⟨tokens, _, htokens, hread.foldlM_parseToken .start, rfl, rfl⟩

end Parsing

end StaticSite.Template
