/-
Bodies of pairs.

The body of a pair of tags is the text between its tags, and parsing it on its own gives the
children of the pair, at any depth of a template (`body_of_parseWith`).  Only positions differ:
offsets in the body count from its beginning.

The tokens between the two tags read as the children wherever they stand (`ReadAs.exists_moved`),
and reading is local, so they are the tokens of the body.
-/
import StaticSite.Proofs.Template.Locality
import StaticSite.Proofs.Template.Tree

namespace StaticSite.Template

/-! ## Nodes within a tree -/

/-- The node is one of the nodes or stands within one of them, at any depth. -/
inductive Node.Occurs (node : Node) : List Node → Prop
  | here {nodes : List Node} : node ∈ nodes → Node.Occurs node nodes
  | within {tag : Tag} {body : String} {children nodes : List Node} :
      .paired tag body children ∈ nodes → Node.Occurs node children → Node.Occurs node nodes

section Pair

variable {registry : TagRegistry} {file : String} {source : List Char}

/-- A pair among nodes stands for its two tokens and the tokens between them. -/
theorem ReadAs.exists_of_mem {tokens : List Token} {nodes : List Node} {tag : Tag} {body : String}
    {children : List Node} (h : ReadAs registry file source tokens nodes)
    (hmem : Node.paired tag body children ∈ nodes) :
    ∃ before opener inside closer after, tokens = before ++ opener :: (inside ++ closer :: after) ∧
      opener.StandsFor registry file source (.opens tag) ∧
      closer.StandsFor registry file source (.closes tag.name) ∧
      body = String.ofList (writtenAs inside) ∧ ReadAs registry file source inside children := by
  induction h with
  | nil => cases hmem
  | @text content start rest nodes _ ih =>
      rcases List.mem_cons.mp hmem with heq | hmem
      · cases heq
      · obtain ⟨before, opener, inside, closer, after, rfl, h⟩ := ih hmem
        exact ⟨⟨.text content, start⟩ :: before, opener, inside, closer, after, rfl, h⟩
  | @single token _ rest nodes _ _ ih =>
      rcases List.mem_cons.mp hmem with heq | hmem
      · cases heq
      · obtain ⟨before, opener, inside, closer, after, rfl, h⟩ := ih hmem
        exact ⟨token :: before, opener, inside, closer, after, rfl, h⟩
  | @paired first last _ between rest _ nodes hopen hclose hbetween _ _ ih =>
      rcases List.mem_cons.mp hmem with heq | hmem
      · cases heq
        exact ⟨[], first, between, last, rest, rfl, hopen, hclose, rfl, hbetween⟩
      · obtain ⟨before, opener, inside, closer, after, rfl, h⟩ := ih hmem
        refine ⟨first :: (between ++ last :: before), opener, inside, closer, after, ?_, h⟩
        simp

/-- A pair within a tree stands for its two tokens and the tokens between them. -/
theorem ReadAs.exists_of_occurs {tokens : List Token} {nodes : List Node} {tag : Tag}
    {body : String} {children : List Node} (h : ReadAs registry file source tokens nodes)
    (hoccurs : (Node.paired tag body children).Occurs nodes) :
    ∃ before opener inside closer after, tokens = before ++ opener :: (inside ++ closer :: after) ∧
      opener.StandsFor registry file source (.opens tag) ∧
      closer.StandsFor registry file source (.closes tag.name) ∧
      body = String.ofList (writtenAs inside) ∧ ReadAs registry file source inside children := by
  induction hoccurs generalizing tokens with
  | here hmem => exact h.exists_of_mem hmem
  | within hmem _ ih =>
      obtain ⟨before, opener, inside, closer, after, rfl, -, -, -, hinside⟩ := h.exists_of_mem hmem
      obtain ⟨before', opener', inside', closer', after', rfl, hpair⟩ := ih hinside
      refine ⟨before ++ opener :: before', opener', inside', closer',
        after' ++ closer :: after, ?_, hpair⟩
      simp

end Pair

/-! ## Stretches of tokens -/

/-- A stretch of pieces in a row begins where the pieces before it end. -/
theorem exists_of_placed_eq_append {offset : Nat} {lexemes : List Lexeme} {ts us : List Token}
    (h : placed offset lexemes = ts ++ us) :
    ∃ ls ms, lexemes = ls ++ ms ∧ placed offset ls = ts ∧
      placed (offset + byteLength (sourceOf ls)) ms = us := by
  induction ts generalizing offset lexemes with
  | nil => exact ⟨[], lexemes, rfl, rfl, h⟩
  | cons t ts ih =>
      cases lexemes with
      | nil => cases h
      | cons lexeme rest =>
          injection h with ht hrest
          obtain ⟨ls, ms, rfl, rfl, rfl⟩ := ih hrest
          refine ⟨lexeme :: ls, ms, rfl, by rw [placed, ht], ?_⟩
          rw [sourceOf_cons, byteLength_append, Nat.add_assoc]

theorem exists_of_placed_eq_cons {offset : Nat} {lexemes : List Lexeme} {t : Token}
    {ts : List Token} (h : placed offset lexemes = t :: ts) :
    ∃ rest, lexemes = t.lexeme :: rest ∧ t.start = offset ∧ placed t.stop rest = ts := by
  cases lexemes with
  | nil => cases h
  | cons lexeme rest =>
      injection h with ht hrest
      subst ht
      exact ⟨rest, rfl, rfl, hrest⟩

/-- The tokens between two tokens of a text are separate pieces, put together to the text between
the two. -/
theorem exists_separate_between {cs : List Char} {before inside after : List Token}
    {opener closer : Token}
    (h : tokenizeFrom 0 cs = .ok (before ++ opener :: (inside ++ closer :: after))) :
    ∃ front between back, Separate between ∧ inside = placed opener.stop between ∧
      cs = front ++ sourceOf between ++ back ∧ byteLength front = opener.stop ∧
      closer.start = opener.stop + byteLength (sourceOf between) ∧
      opener.start ≤ opener.stop := by
  obtain ⟨lexemes, hsep, rfl, hplaced⟩ := tokenizeFrom_eq_ok.mp h
  obtain ⟨front, _, rfl, -, hopener⟩ := exists_of_placed_eq_append hplaced
  obtain ⟨_, rfl, hstart, hbehind⟩ := exists_of_placed_eq_cons hopener
  obtain ⟨between, _, rfl, rfl, hcloser⟩ := exists_of_placed_eq_append hbehind
  obtain ⟨back, rfl, hend, -⟩ := exists_of_placed_eq_cons hcloser
  refine ⟨sourceOf front ++ opener.lexeme.source, between, closer.lexeme.source ++ sourceOf back,
    hsep.of_append.2.of_cons.of_append.1, rfl, by simp, ?_, hend, Nat.le_add_right _ _⟩
  rw [byteLength_append, Token.stop, hstart, Nat.zero_add]

/-! ## Trees that are moved

A tree that is read from another part of a text differs in its positions.  Offsets move along with
the text; lines and columns are left aside. -/

/-- The tag with its offset counted from the given number of bytes before, and no line or column. -/
def Tag.shifted (bytes : Nat) (tag : Tag) : Tag :=
  { tag with position := ⟨bytes + tag.position.offset, 0, 0⟩ }

mutual

/-- The node with all offsets counted from the given number of bytes before. -/
def Node.shifted (bytes : Nat) : Node → Node
  | .text content => .text content
  | .single tag => .single (tag.shifted bytes)
  | .paired tag body children => .paired (tag.shifted bytes) body (shiftedOf bytes children)

/-- The nodes with all offsets counted from the given number of bytes before. -/
def shiftedOf (bytes : Nat) : List Node → List Node
  | [] => []
  | node :: rest => node.shifted bytes :: shiftedOf bytes rest

end

/-- The token, so many bytes further on. -/
def Token.moved (bytes : Nat) (token : Token) : Token := ⟨token.lexeme, bytes + token.start⟩

theorem placed_add (bytes offset : Nat) (lexemes : List Lexeme) :
    placed (bytes + offset) lexemes = (placed offset lexemes).map (Token.moved bytes) := by
  induction lexemes generalizing offset with
  | nil => rfl
  | cons lexeme rest ih => simp [placed, Token.moved, ← ih, Nat.add_assoc]

/-- Pieces in a row begin within the text that they are put together to. -/
theorem start_le_of_mem_placed {offset : Nat} {lexemes : List Lexeme} {token : Token}
    (h : token ∈ placed offset lexemes) :
    token.start ≤ offset + byteLength (sourceOf lexemes) := by
  induction lexemes generalizing offset with
  | nil => cases h
  | cons lexeme rest ih =>
      rw [sourceOf_cons, byteLength_append]
      rcases List.mem_cons.mp h with rfl | h
      · exact Nat.le_add_right _ _
      · have := ih h
        omega

section Moved

variable {registry : TagRegistry} {file : String} {source : List Char}

/-- The step with the position of its tag, if it has one, replaced. -/
def Piece.placedAt (position : Position) : Piece → Piece
  | .text content => .text content
  | .single tag => .single { tag with position := position }
  | .opens tag => .opens { tag with position := position }
  | .closes name => .closes name

/-- What a token stands for depends on its place only in its position. -/
theorem Token.StandsFor.elsewhere {token : Token} {piece : Piece}
    (h : token.StandsFor registry file source piece) (other : List Char) (start : Nat) :
    Token.StandsFor registry file other ⟨token.lexeme, start⟩
      (piece.placedAt (Position.locate other start)) := by
  cases h with
  | text => exact .text
  | single hkind hattr hclosed => exact .single hkind hattr hclosed
  | opens hkind hattr hopen => exact .opens hkind hattr hopen
  | closes => exact .closes

theorem Token.StandsFor.position_eq {token : Token} {tag : Tag}
    (h : token.StandsFor registry file source (.single tag) ∨
      token.StandsFor registry file source (.opens tag)) :
    tag.position = Position.locate source token.start := by
  rcases h with h | h <;> cases h <;> rfl

/-- The tag of a token is the same elsewhere, moved along with the token. -/
theorem Tag.shifted_eq {token : Token} {tag : Tag} {other : List Char} {bytes : Nat}
    (h : (token.moved bytes).StandsFor registry file source (.single tag) ∨
      (token.moved bytes).StandsFor registry file source (.opens tag))
    (hstart : bytes + token.start ≤ byteLength source) (hother : token.start ≤ byteLength other) :
    Tag.shifted bytes { tag with position := Position.locate other token.start } =
      Tag.shifted 0 tag := by
  have hposition := Token.StandsFor.position_eq h
  simp only [Tag.shifted, hposition, Token.moved, Position.offset_locate hstart,
    Position.offset_locate hother, Nat.zero_add]

/-- Tokens that read as nodes read as the same nodes where they stand in another text, up to
positions. -/
theorem ReadAs.exists_moved {bytes : Nat} {moved : List Token} {nodes : List Node}
    (h : ReadAs registry file source moved nodes) (other : List Char) {tokens : List Token}
    (hmoved : moved = tokens.map (Token.moved bytes))
    (hstart : ∀ t ∈ tokens, bytes + t.start ≤ byteLength source ∧ t.start ≤ byteLength other) :
    ∃ found, ReadAs registry file other tokens found ∧
      shiftedOf bytes found = shiftedOf 0 nodes := by
  induction h generalizing tokens with
  | nil =>
      obtain rfl := List.map_eq_nil_iff.mp hmoved.symm
      exact ⟨[], .nil, rfl⟩
  | text _ ih =>
      obtain ⟨⟨lexeme, start⟩, ts, rfl, htoken, hrest⟩ := List.map_eq_cons_iff.mp hmoved.symm
      cases htoken
      obtain ⟨found, hfound, heq⟩ := ih hrest.symm fun t ht => hstart t (List.mem_cons_of_mem _ ht)
      exact ⟨_, .text hfound, by rw [shiftedOf, shiftedOf, heq]; rfl⟩
  | single htag _ ih =>
      obtain ⟨token, ts, rfl, rfl, hrest⟩ := List.map_eq_cons_iff.mp hmoved.symm
      obtain ⟨found, hfound, heq⟩ := ih hrest.symm fun t ht => hstart t (List.mem_cons_of_mem _ ht)
      obtain ⟨hsource, hother⟩ := hstart token List.mem_cons_self
      refine ⟨_, .single (htag.elsewhere other token.start) hfound, ?_⟩
      rw [shiftedOf, shiftedOf, heq, Node.shifted, Node.shifted,
        Tag.shifted_eq (.inl htag) hsource hother]
  | paired hopen hclose _ _ ihi ihr =>
      obtain ⟨opener, rest, rfl, rfl, hrest⟩ := List.map_eq_cons_iff.mp hmoved.symm
      obtain ⟨inside, behind, rfl, hinside, hbehind⟩ := List.map_eq_append_iff.mp hrest
      obtain ⟨closer, after, rfl, rfl, hafter⟩ := List.map_eq_cons_iff.mp hbehind
      obtain ⟨inner, hinner, heqi⟩ := ihi hinside.symm fun t ht => hstart t (by simp [ht])
      obtain ⟨found, hfound, heqr⟩ := ihr hafter.symm fun t ht => hstart t (by simp [ht])
      obtain ⟨hsource, hother⟩ := hstart opener List.mem_cons_self
      have hpair := ReadAs.paired (hopen.elsewhere other opener.start)
        (hclose.elsewhere other closer.start) hinner hfound
      refine ⟨_, hpair, ?_⟩
      have hbody : writtenAs inside = writtenAs (inside.map (Token.moved bytes)) := by
        simp [writtenAs, Token.moved, Function.comp_def]
      rw [shiftedOf, shiftedOf, heqr, Node.shifted, Node.shifted, heqi, hbody, hinside,
        Tag.shifted_eq (.inr hopen) hsource hother]

end Moved

/-! ## The body of a pair -/

/-- The part of a text between two byte offsets. -/
def IsBetween (cs : List Char) (start stop : Nat) (part : List Char) : Prop :=
  ∃ before after, cs = before ++ part ++ after ∧ byteLength before = start ∧
    byteLength (before ++ part) = stop

/-- The body of a pair is the text from the end of its opening tag to the start of the closing tag
that matches it: the tags in between are balanced.  The body on its own is parsed to the children of
the pair, with offsets from the beginning of the body. -/
theorem body_of_parseWith {registry : TagRegistry} {source file : String} {nodes : List Node}
    {tag : Tag} {body : String} {children : List Node}
    (h : parseWith registry source file = .ok nodes)
    (hpair : (Node.paired tag body children).Occurs nodes) :
    ∃ before opener inside closer after,
      tokenize source = .ok (before ++ opener :: (inside ++ closer :: after)) ∧
      opener.StandsFor registry file source.toList (.opens tag) ∧
      tag.position.offset = opener.start ∧
      closer.StandsFor registry file source.toList (.closes tag.name) ∧
      Balanced (bracketsOf inside) ∧
      IsBetween source.toList opener.stop closer.start body.toList ∧
      ∃ parsed, parseWith registry body file = .ok parsed ∧
        shiftedOf opener.stop parsed = shiftedOf 0 children := by
  obtain ⟨tokens, htokens, hread⟩ := parseWith_eq_ok_iff_readAs.mp h
  obtain ⟨before, opener, inside, closer, after, rfl, hopen, hclose, rfl, hinside⟩ :=
    hread.exists_of_occurs hpair
  have hbalanced := hinside.balanced
  obtain ⟨front, between, back, hbetween, rfl, hall, hfront, hend, hstart⟩ :=
    exists_separate_between htokens
  have hbody : writtenAs (placed opener.stop between) = sourceOf between := writtenAs_placed _ _
  have hlength : opener.stop + byteLength (sourceOf between) ≤ byteLength source.toList := by
    rw [hall, byteLength_append, byteLength_append, hfront]
    exact Nat.le_add_right _ _
  -- the pieces between the tags are what the body is cut into
  have hcut : tokenizeFrom 0 (sourceOf between) = .ok (placed 0 between) :=
    tokenizeFrom_sourceOf hbetween 0
  obtain ⟨found, hfound, hshifted⟩ :=
    hinside.exists_moved (sourceOf between) (placed_add opener.stop 0 between) fun t ht => by
      have := start_le_of_mem_placed ht
      omega
  refine ⟨before, opener, _, closer, after, htokens, hopen, ?_, hclose, hbalanced, ?_, found, ?_,
    hshifted⟩
  · rw [Token.StandsFor.position_eq (.inr hopen)]
    exact Position.offset_locate (by omega)
  · rw [String.toList_ofList, hbody]
    exact ⟨front, back, hall, hfront, by rw [byteLength_append, hfront, hend]⟩
  · rw [hbody]
    exact parseWith_eq_ok_iff_readAs.mpr ⟨_, by rwa [tokenize, String.toList_ofList],
      by rwa [String.toList_ofList]⟩

/-! A pair within a pair, with a quoted value that looks like a closing tag and a brace that begins no
tag right before one. -/

def nestedPage : String :=
  "\x7b@tag\x7da\x7b@Tag k=\"\x7b/tag\x7d\"\x7d\x7b@" ++ "\x7b/TAG \x7d\x7b/tag\x7d"

/-- The text of the attributes of the inner tag. -/
def nestedContent : List Char := " k=\"\x7b/tag\x7d\"".toList

def nestedInside : List Token :=
  [⟨.opener "Tag".toList nestedContent, 7⟩, ⟨.text "\x7b@".toList, 24⟩,
    ⟨.closer "TAG".toList [' '], 26⟩]

def nestedTokens : List Token :=
  ⟨.opener "tag".toList [], 0⟩ :: ⟨.text "a".toList, 6⟩ ::
    (nestedInside ++ [⟨.closer "tag".toList [], 33⟩])

def innerTag : Tag :=
  ⟨"tag", .element, ⟨⟨[("k", "\x7b/tag\x7d")]⟩, [], []⟩, "page.html",
    Position.locate nestedPage.toList 7⟩

def outerTag : Tag := ⟨"tag", .element, .empty, "page.html", Position.locate nestedPage.toList 0⟩

def innerPair : Node := .paired innerTag "\x7b@" [.text "\x7b@"]

def nestedNodes : List Node :=
  [.paired outerTag ("a\x7b@Tag k=\"\x7b/tag\x7d\"\x7d\x7b@" ++ "\x7b/TAG \x7d")
    [.text "a", innerPair]]

theorem readAs_nestedInside :
    ReadAs .standard "page.html" nestedPage.toList nestedInside [innerPair] := by
  have hcontent : Attributes.parse (openerParts nestedContent).1 =
      .ok ⟨⟨[("k", "\x7b/tag\x7d")]⟩, [], []⟩ := by
    decide +kernel
  have hopens : Token.StandsFor .standard "page.html" nestedPage.toList
      ⟨.opener "Tag".toList nestedContent, 7⟩ (.opens innerTag) :=
    .opens (by decide) hcontent (by decide)
  have hcloses : Token.StandsFor .standard "page.html" nestedPage.toList
      ⟨.closer "TAG".toList [' '], 26⟩ (.closes (tagName "TAG".toList)) := .closes
  rw [show tagName "TAG".toList = innerTag.name by decide] at hcloses
  exact .paired hopens hcloses (.text .nil) .nil

theorem readAs_nestedTokens :
    ReadAs .standard "page.html" nestedPage.toList nestedTokens nestedNodes := by
  have hcontent : Attributes.parse (openerParts []).1 = .ok .empty := by decide +kernel
  have hopens : Token.StandsFor .standard "page.html" nestedPage.toList
      ⟨.opener "tag".toList [], 0⟩ (.opens outerTag) := .opens (by decide) hcontent (by decide)
  have hcloses : Token.StandsFor .standard "page.html" nestedPage.toList
      ⟨.closer "tag".toList [], 33⟩ (.closes (tagName "tag".toList)) := .closes
  rw [show tagName "tag".toList = outerTag.name by decide] at hcloses
  exact .paired hopens hcloses (.text readAs_nestedInside) .nil

theorem parseWith_nestedPage :
    parseWith .standard nestedPage "page.html" = .ok nestedNodes := by
  have htokens : tokenize nestedPage = .ok nestedTokens := by decide +kernel
  exact parseWith_eq_ok_iff_readAs.mpr ⟨_, htokens, readAs_nestedTokens⟩

theorem body_of_parseWith_nested :
    ∃ page nodes tag,
      page = "\x7b@tag\x7da\x7b@Tag k=\"\x7b/tag\x7d\"\x7d\x7b@" ++ "\x7b/TAG \x7d\x7b/tag\x7d" ∧
      parseWith .standard page "page.html" = .ok nodes ∧
      (Node.paired tag "\x7b@" [.text "\x7b@"]).Occurs nodes ∧
      ∃ before opener inside closer after,
        tokenize page = .ok (before ++ opener :: (inside ++ closer :: after)) ∧
        opener.StandsFor .standard "page.html" page.toList (.opens tag) ∧
        tag.position.offset = opener.start ∧
        closer.StandsFor .standard "page.html" page.toList (.closes tag.name) ∧
        Balanced (bracketsOf inside) ∧
        IsBetween page.toList opener.stop closer.start "\x7b@".toList ∧
        ∃ parsed, parseWith .standard "\x7b@" "page.html" = .ok parsed ∧
          shiftedOf opener.stop parsed = shiftedOf 0 [.text "\x7b@"] := by
  have hoccurs : innerPair.Occurs nestedNodes :=
    .within List.mem_cons_self (.here (List.mem_cons_of_mem _ List.mem_cons_self))
  exact ⟨nestedPage, nestedNodes, innerTag, rfl, parseWith_nestedPage, hoccurs,
    body_of_parseWith parseWith_nestedPage hoccurs⟩

end StaticSite.Template
