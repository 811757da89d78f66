/-
Places that errors of a rendering name.

An error of a rendering that has a position is at fault with a text that was read (`Reads`): it is
the error of parsing the text, or one of the tags in the text raises it and is named by it
(`IsFaultOf`).  `exists_isFaultOf` says so for every rendering, by induction on the levels that are
left; so the error names a place in this text where a tag begins.

The body of a document is rendered as a text of its own.  Main statement: an error that cites the
source file of a document names the place in its body, which is the place in the file only if nothing
stands before the body (`renderTag_content_error_place`).
-/
import StaticSite.Proofs.Content.FrontMatter
import StaticSite.Proofs.Render.Depth
import StaticSite.Proofs.Template.FirstFault

namespace StaticSite

open Content Template Render

namespace Template

/-! ## Tags in a tree -/

section Tags

variable {registry : TagRegistry} {file : String} {source : List Char} {tokens : List Token}
  {nodes : List Node} {node : Node} {tag : Tag} {children : Option (List Node)}

/-- The tag of a node stands for a token. -/
theorem ReadAs.exists_token_of_mem (h : ReadAs registry file source tokens nodes)
    (hmem : node ∈ nodes) (htag : tagOf? node = some (tag, children)) :
    ∃ token ∈ tokens, token.StandsFor registry file source (.single tag) ∨
      token.StandsFor registry file source (.opens tag) := by
  induction h with
  | nil => cases hmem
  | text _ ih =>
      rcases List.mem_cons.mp hmem with rfl | hrest
      · cases htag
      · obtain ⟨token, htoken, hstands⟩ := ih hrest
        exact ⟨token, List.mem_cons_of_mem _ htoken, hstands⟩
  | single hsingle _ ih =>
      rcases List.mem_cons.mp hmem with rfl | hrest
      · cases htag
        exact ⟨_, List.mem_cons_self, .inl hsingle⟩
      · obtain ⟨token, htoken, hstands⟩ := ih hrest
        exact ⟨token, List.mem_cons_of_mem _ htoken, hstands⟩
  | paired hopen _ _ _ _ ih =>
      rcases List.mem_cons.mp hmem with rfl | hrest
      · cases htag
        exact ⟨_, List.mem_cons_self, .inr hopen⟩
      · obtain ⟨token, htoken, hstands⟩ := ih hrest
        exact ⟨token, by simp [htoken], hstands⟩

/-- The tag of a node stands for a token, at any depth. -/
theorem ReadAs.exists_token_of_occurs (h : ReadAs registry file source tokens nodes)
    (hoccurs : node.Occurs nodes) (htag : tagOf? node = some (tag, children)) :
    ∃ token ∈ tokens, token.StandsFor registry file source (.single tag) ∨
      token.StandsFor registry file source (.opens tag) := by
  induction hoccurs generalizing tokens with
  | here hmem => exact h.exists_token_of_mem hmem htag
  | within hmem _ ih =>
      obtain ⟨before, opener, inside, closer, after, rfl, -, -, -, hinside⟩ := h.exists_of_mem hmem
      obtain ⟨token, htoken, hstands⟩ := ih hinside
      exact ⟨token, by simp [htoken], hstands⟩

/-- The tag of a node has the file of the text and begins where its position says. -/
theorem isTagPlace_of_occurs {text : String} (h : parseWith registry text file = .ok nodes)
    (hoccurs : node.Occurs nodes) (htag : tagOf? node = some (tag, children)) :
    tag.file = file ∧ IsTagPlace text.toList tag.position := by
  obtain ⟨tokens, htokens, hread⟩ := parseWith_eq_ok_iff_readAs.mp h
  obtain ⟨token, hmem, hstands⟩ := hread.exists_token_of_occurs hoccurs htag
  have htagToken : tag.file = file ∧ token.lexeme.isTag = true := by
    rcases hstands with hsingle | hopens
    · cases hsingle
      exact ⟨rfl, rfl⟩
    · cases hopens
      exact ⟨rfl, rfl⟩
  refine ⟨htagToken.1, ?_⟩
  rw [Token.StandsFor.position_eq hstands]
  exact isTagPlace_of_mem htokens hmem htagToken.2

end Tags

end Template

namespace Render

/-! ## Texts that are read -/

/-- The documents that a rendering for a document may come to: itself, and through loops the entries
of the site. -/
inductive Reaches (ctx : Context) (d : Document) : Document → Prop
  | refl : Reaches ctx d d
  | entry {entry : Entry} : entry ∈ ctx.collection.entries → Reaches ctx d entry.toDocument

/-- The files and texts that a rendering for a document may read: templates, and the bodies of the
documents that it may come to. -/
inductive Reads (ctx : Context) (d : Document) : String → String → Prop
  | body {d' : Document} : Reaches ctx d d' → Reads ctx d d'.sourcePath d'.body
  | template {name : String} {t : NamedTemplate} : ctx.templates.get? name = some t →
      Reads ctx d t.file t.source

/-- A nested rendering, below a number of other renderings. -/
def descendAt (ctx : Context) (depth : Nat) (file : String) (d : Document)
    (source : Except RenderError (List Node)) : Except RenderError String :=
  if depth + 1 ≤ depthLimit then do renderNodesAt ctx (depth + 1) d (← source)
  else .error (.tooDeep file)

/-- The state in which tags are rendered for a document, below a number of other renderings. -/
def scopeAt (ctx : Context) (depth : Nat) (d : Document) : Scope := ⟨ctx, d, descendAt ctx depth⟩

theorem renderNodesAt_eq_renderList (ctx : Context) (depth : Nat) (d : Document)
    (nodes : List Node) : renderNodesAt ctx depth d nodes = renderList (scopeAt ctx depth d) nodes :=
  renderNodesAt_eq ctx depth d nodes

/-- What is wrong with the text of a file: it cannot be parsed, or rendering one of its tags raises
an error that names this tag. -/
inductive IsFaultOf (ctx : Context) (file text : String) (e : RenderError) : Prop
  | parsing : parse text file = .error e → IsFaultOf ctx file text e
  | rendering {nodes : List Node} {node : Node} {tag : Tag} {children : Option (List Node)}
      {depth : Nat} {d : Document} : parse text file = .ok nodes → node.Occurs nodes →
      tagOf? node = some (tag, children) →
      renderTag (scopeAt ctx depth d) tag children = .error e → Names tag e →
      IsFaultOf ctx file text e

/-- An error of a text names its file and a place in it where a tag begins. -/
theorem IsFaultOf.exists_isTagPlace {ctx : Context} {file text : String} {e : RenderError}
    (h : IsFaultOf ctx file text e) :
    e.file = file ∧ ∃ p, e.position? = some p ∧ IsTagPlace text.toList p := by
  cases h with
  | parsing hparse => exact (parseWith_eq_error.mp hparse).exists_isTagPlace
  | rendering hparse hoccurs htag _ hnames =>
      obtain ⟨hfile, hplace⟩ := isTagPlace_of_occurs hparse hoccurs htag
      exact ⟨hnames.1.trans hfile, _, hnames.2, hplace⟩

/-- Nodes of a text that is read: all of them, or those of a pair of tags in it. -/
def AreRead (ctx : Context) (d : Document) (nodes : List Node) : Prop :=
  ∃ file text all, Reads ctx d file text ∧ parse text file = .ok all ∧
    ∀ node, Node.Occurs node nodes → Node.Occurs node all

section Run

variable {ctx : Context} {d d' : Document} {depth : Nat} {e : RenderError}

/-- What a tag has rendered below it is a text that is read, or the nodes between its two tags. -/
theorem TagStarts.reads {tag : Tag} {children : Option (List Node)} {file : String}
    {d'' : Document} {source : Except RenderError (List Node)} (hd : Reaches ctx d d')
    (h : TagStarts ctx d' tag children file d'' source) :
    Reaches ctx d d'' ∧ ((∃ text, Reads ctx d file text ∧ source = parse text file) ∨
      ∃ nested, children = some nested ∧ source = .ok nested) := by
  cases h with
  | body _ _ => exact ⟨hd, .inl ⟨_, .body hd, rfl⟩⟩
  | bodyTemplate _ _ ht => exact ⟨hd, .inl ⟨_, .template ht, rfl⟩⟩
  | inclusion _ _ ht => exact ⟨hd, .inl ⟨_, .template ht, rfl⟩⟩
  | loopTemplate _ _ ht hentry => exact ⟨.entry hentry, .inl ⟨_, .template ht, rfl⟩⟩
  | loopNodes _ _ hchildren hentry => exact ⟨.entry hentry, .inr ⟨_, hchildren, rfl⟩⟩
  | elementNodes _ hchildren => exact ⟨hd, .inr ⟨_, hchildren, rfl⟩⟩
  | linkNodes _ hchildren => exact ⟨hd, .inr ⟨_, hchildren, rfl⟩⟩

/-- The nodes between the two tags of a node that is read are read. -/
theorem AreRead.children {nodes nested : List Node} {node : Node} {tag : Tag}
    (h : AreRead ctx d nodes) (hnode : node ∈ nodes) (htag : tagOf? node = some (tag, some nested)) :
    AreRead ctx d nested := by
  obtain ⟨file, text, all, hreads, hparse, hpart⟩ := h
  refine ⟨file, text, all, hreads, hparse, fun inner hinner => hpart inner ?_⟩
  cases node with
  | text content => cases htag
  | single own => cases htag
  | paired own body between =>
      cases htag
      exact .within hnode hinner

/-- An error of a nested rendering is that of the limit, of reading the nodes, or of the nodes. -/
theorem descendAt_eq_error {file : String} {source : Except RenderError (List Node)}
    (h : descendAt ctx depth file d source = .error e) :
    e = .tooDeep file ∨ depth + 1 ≤ depthLimit ∧ (source = .error e ∨
      ∃ nodes, source = .ok nodes ∧ renderNodesAt ctx (depth + 1) d nodes = .error e) := by
  unfold descendAt at h
  split at h
  · rename_i hdepth
    exact .inr ⟨hdepth, Outcome.bind_eq_error.mp h⟩
  · cases h
    exact .inl rfl

/-- One level: an error with a position comes from a text that is read, if this is so one level
deeper. -/
theorem exists_isFaultOf_of_deeper {nodes : List Node} (hd : Reaches ctx d d')
    (hnodes : AreRead ctx d nodes) (h : renderNodesAt ctx depth d' nodes = .error e)
    (hplace : e.position?.isSome)
    (hdeeper : ∀ d'' nested, depth + 1 ≤ depthLimit → Reaches ctx d d'' → AreRead ctx d nested →
      renderNodesAt ctx (depth + 1) d'' nested = .error e →
      ∃ text, Reads ctx d e.file text ∧ IsFaultOf ctx e.file text e) :
    ∃ text, Reads ctx d e.file text ∧ IsFaultOf ctx e.file text e := by
  rw [renderNodesAt_eq_renderList] at h
  obtain ⟨node, hnode, tag, children, htag, herror⟩ := renderList_eq_error h
  rcases renderTag_eq_error (f := descendAt ctx depth) herror with hnames | ⟨file, d'', source, hstarts, hnested⟩
  · obtain ⟨file, text, all, hreads, hparse, hpart⟩ := hnodes
    have hoccurs : node.Occurs all := hpart node (.here hnode)
    have hfile : e.file = file :=
      hnames.1.trans (isTagPlace_of_occurs hparse hoccurs htag).1
    subst hfile
    exact ⟨text, hreads, .rendering hparse hoccurs htag herror hnames⟩
  · obtain ⟨hd'', htext | ⟨nested, rfl, rfl⟩⟩ := hstarts.reads hd
    · obtain ⟨text, hreads, rfl⟩ := htext
      rcases descendAt_eq_error hnested with rfl | ⟨hdepth, hparse | ⟨all, hparse, hall⟩⟩
      · cases hplace
      · obtain ⟨rfl, -⟩ := (parseWith_eq_error.mp hparse).exists_isTagPlace
        exact ⟨text, hreads, .parsing hparse⟩
      · exact hdeeper d'' all hdepth hd'' ⟨file, text, all, hreads, hparse, fun _ h => h⟩ hall
    · rcases descendAt_eq_error hnested with rfl | ⟨hdepth, hnone | ⟨all, heq, hall⟩⟩
      · cases hplace
      · cases hnone
      · cases heq
        exact hdeeper d'' nested hdepth hd'' (hnodes.children hnode htag) hall

/-- An error with a position comes from a text that is read.  The induction is on the levels that
are left. -/
theorem exists_isFaultOf {nodes : List Node} (hd : Reaches ctx d d') (hnodes : AreRead ctx d nodes)
    (h : renderNodesAt ctx depth d' nodes = .error e) (hplace : e.position?.isSome) :
    ∃ text, Reads ctx d e.file text ∧ IsFaultOf ctx e.file text e := by
  induction hlevels : depthLimit - depth generalizing depth d' nodes with
  | zero =>
      refine exists_isFaultOf_of_deeper hd hnodes h hplace ?_
      intro d'' nested hdepth
      omega
  | succ levels ih =>
      refine exists_isFaultOf_of_deeper hd hnodes h hplace ?_
      intro d'' nested _ hd'' hnested hdeeper
      exact ih hd'' hnested hdeeper (by omega)

end Run

/-! ## Bodies of documents -/

section Body

variable {ctx : Context} {d : Document} {tag : Tag} {children : Option (List Node)} {depth : Nat}
  {e : RenderError}

/-- Where a tag renders the body of the document, its errors are those of rendering the body one
level deeper. -/
theorem descendAt_of_renderContent (hkind : tag.kind = .content)
    (hbody : tag.attributes.get? "template" = none)
    (h : renderTag (scopeAt ctx depth d) tag children = .error e) :
    descendAt ctx depth d.sourcePath d (parse d.body d.sourcePath) = .error e := by
  unfold renderTag renderContent at h
  rw [hkind] at h
  dsimp only at h
  rw [hbody] at h
  rcases Outcome.bind_eq_error.mp h with hnested | ⟨markup, -, hmarkup⟩
  · exact hnested
  · split at hmarkup <;> cases hmarkup

/-- An error of the body comes from a text that is read. -/
theorem exists_isFaultOf_body (hkind : tag.kind = .content)
    (hbody : tag.attributes.get? "template" = none)
    (h : renderTag (scopeAt ctx depth d) tag children = .error e) (hplace : e.position?.isSome) :
    ∃ text, Reads ctx d e.file text ∧ IsFaultOf ctx e.file text e := by
  have hreads : Reads ctx d d.sourcePath d.body := .body .refl
  rcases descendAt_eq_error (descendAt_of_renderContent hkind hbody h) with
    rfl | ⟨-, hparse | ⟨nodes, hparse, hnodes⟩⟩
  · cases hplace
  · have hfile := (parseWith_eq_error.mp hparse).exists_isTagPlace.1
    rw [hfile]
    exact ⟨d.body, hreads, .parsing hparse⟩
  · exact exists_isFaultOf .refl ⟨_, _, nodes, hreads, hparse, fun _ h => h⟩ hnodes hplace

/-- An error that a `content` tag raises for the body of a document and that cites the source file
of the document, when no other text is read under this name, is at fault with the body: its position
is the place in the body where the tag at fault begins.  In the file the tag begins there just if the
body stands at the beginning of the file, that is without front matter and without blanks before
it. -/
theorem renderTag_content_error_place {source : String} {location : Location} {renderer : Renderer}
    {p : Position} (hd : d = .read source location renderer)
    (hkind : tag.kind = .content) (hbody : tag.attributes.get? "template" = none)
    (honly : ∀ text, Reads ctx d d.sourcePath text → text = d.body)
    (h : renderTag (scopeAt ctx depth d) tag children = .error e)
    (hfile : e.file = d.sourcePath) (hp : e.position? = some p) :
    IsFaultOf ctx d.sourcePath d.body e ∧
    ∃ before, p = Position.behind before ∧ HasTagBehind d.body.toList before ∧
      HasTagBehind source.toList (textBeforeBody source.toList ++ before) ∧
      (p = Position.behind (textBeforeBody source.toList ++ before) ↔
        splitFrontMatter source.toList = none ∧ Text.Stops Text.isBlank source.toList) := by
  have hplace : e.position?.isSome := by rw [hp]; rfl
  obtain ⟨text, hreads, hfault⟩ := exists_isFaultOf_body hkind hbody h hplace
  rw [hfile] at hreads hfault
  obtain rfl := honly text hreads
  obtain ⟨-, q, hq, before, htag, hbehind⟩ := hfault.exists_isTagPlace
  obtain rfl : p = q := Option.some.inj (hp.symm.trans hq)
  obtain ⟨blanks, hblanks⟩ := exists_blanks_after_body source
  have hread : (FrontMatter.read source).body = d.body := by rw [hd]; rfl
  have hsource := htag.within (textBeforeBody source.toList) blanks
  rw [← hread, hblanks] at hsource
  refine ⟨hfault, before, hbehind, htag, hsource, ?_⟩
  rw [hbehind, Position.behind_eq_append_iff]
  exact textBeforeBody_eq_nil_iff

end Body

/-! Documents with a fault in the body, one behind a blank line, one behind front matter. -/

/-- A document of a site with nothing else. -/
def loneDocument (source : String) : Document :=
  .read source ⟨"a.md", "source/a.md", "public/a/index.html", "/a/", 0⟩ .passthrough

/-- The site of the document. -/
def loneSite (source : String) : Context :=
  ⟨{}, ⟨[.document (loneDocument source)]⟩, .empty, ⟨[]⟩, .passthrough, 0⟩

/-- The tag that renders the body. -/
def bodyTag : Tag := ⟨"content", .content, .empty, "page.html", ⟨0, 1, 1⟩⟩

theorem eq_body_of_reads_loneSite {source text : String}
    (h : Reads (loneSite source) (loneDocument source) (loneDocument source).sourcePath text) :
    text = (loneDocument source).body := by
  generalize (loneDocument source).sourcePath = file at h
  cases h with
  | body hreaches =>
      cases hreaches with
      | refl => rfl
      | entry hentry =>
          obtain rfl := List.mem_singleton.mp hentry
          rfl
  | template ht => cases ht

/-- A body that cannot be read is an error of the tag that renders it. -/
theorem renderTag_bodyTag_of_unreadable {source : String} {e : RenderError}
    (h : parse (loneDocument source).body (loneDocument source).sourcePath = .error e) :
    renderTag (scopeAt (loneSite source) 0 (loneDocument source)) bodyTag none = .error e := by
  show ((parse (loneDocument source).body (loneDocument source).sourcePath >>= _) >>= _) = _
  rw [h]
  rfl

/-- An error of the nodes of a body is an error of the tag that renders it. -/
theorem renderTag_bodyTag_of_error {source : String} {nodes : List Node} {e : RenderError}
    (h : parse (loneDocument source).body (loneDocument source).sourcePath = .ok nodes)
    (hnodes : renderNodesAt (loneSite source) 1 (loneDocument source) nodes = .error e) :
    renderTag (scopeAt (loneSite source) 0 (loneDocument source)) bodyTag none = .error e := by
  show ((parse (loneDocument source).body (loneDocument source).sourcePath >>=
    renderNodesAt (loneSite source) 1 (loneDocument source)) >>= _) = _
  rw [h]
  show (renderNodesAt (loneSite source) 1 (loneDocument source) nodes >>= _) = _
  rw [hnodes]
  rfl

/-- A stylesheet without a name, behind a blank line and an accented letter. -/
def namelessStyle : String := "\n\u00e9\x7b@css /\x7d"

/-- The body of such a document. -/
def namelessBody : String := "\u00e9\x7b@css /\x7d"

def namelessTag : Tag :=
  ⟨"css", .css, .empty, "source/a.md", Position.locate namelessBody.toList 2⟩

theorem body_namelessStyle : (loneDocument namelessStyle).body = namelessBody := by
  decide +kernel

theorem parse_namelessStyle :
    parse (loneDocument namelessStyle).body (loneDocument namelessStyle).sourcePath =
      .ok [.text (String.ofList ['\u00e9']), .single namelessTag] := by
  have htokens : tokenize namelessBody =
      .ok [⟨.text ['\u00e9'], 0⟩, ⟨.opener "css".toList " /".toList, 2⟩] := by
    decide +kernel
  have hattributes : Attributes.parse (openerParts " /".toList).1 = .ok .empty := by decide +kernel
  have htag : Token.StandsFor .standard "source/a.md" namelessBody.toList
      ⟨.opener "css".toList " /".toList, 2⟩ (.single namelessTag) :=
    .single (by decide) hattributes (by decide)
  rw [body_namelessStyle]
  exact parseWith_eq_ok_iff_readAs.mpr ⟨_, htokens, .text (.single htag .nil)⟩

theorem renderTag_content_error_place_css :
    ∃ source e, source = "\n\u00e9\x7b@css /\x7d" ∧
      renderTag (scopeAt (loneSite source) 0 (loneDocument source)) bodyTag none = .error e ∧
      e = .malformed "source/a.md" ⟨2, 1, 2⟩ (.shortcutWithoutName "css") ∧
      IsFaultOf (loneSite source) "source/a.md" (loneDocument source).body e ∧
      ∃ before, ⟨2, 1, 2⟩ = Position.behind before ∧
        HasTagBehind (loneDocument source).body.toList before ∧
        HasTagBehind source.toList (textBeforeBody source.toList ++ before) ∧
        (⟨2, 1, 2⟩ = Position.behind (textBeforeBody source.toList ++ before) ↔
          splitFrontMatter source.toList = none ∧ Text.Stops Text.isBlank source.toList) := by
  have hplace : Position.locate namelessBody.toList 2 = ⟨2, 1, 2⟩ := by decide +kernel
  have herror : renderTag (scopeAt (loneSite namelessStyle) 0 (loneDocument namelessStyle)) bodyTag
      none = .error (.malformed "source/a.md" ⟨2, 1, 2⟩ (.shortcutWithoutName "css")) := by
    refine renderTag_bodyTag_of_error parse_namelessStyle ?_
    rw [← hplace]
    rfl
  exact ⟨namelessStyle, _, rfl, herror, rfl, renderTag_content_error_place rfl rfl rfl
    (fun _ => eq_body_of_reads_loneSite) herror rfl rfl⟩

/-- An unknown tag in the third line of a file, behind front matter. -/
def unknownBelowFields : String := "title: T\n----\n\x7b@bogus /\x7d"

theorem parse_unknownBelowFields :
    parse (loneDocument unknownBelowFields).body (loneDocument unknownBelowFields).sourcePath =
      .error (.unknownTag "source/a.md" ⟨0, 1, 1⟩ "bogus") := by
  have hbody : (loneDocument unknownBelowFields).body = "\x7b@bogus /\x7d" := by decide +kernel
  have htokens : tokenize "\x7b@bogus /\x7d" =
      .ok [⟨.opener "bogus".toList " /".toList, 0⟩] := by
    decide +kernel
  have hname : tagName "bogus".toList = "bogus" := by decide +kernel
  have hplace : Position.locate "\x7b@bogus /\x7d".toList 0 = ⟨0, 1, 1⟩ := by decide +kernel
  have hfault : Offends .standard "source/a.md" "\x7b@bogus /\x7d".toList []
      ⟨.opener "bogus".toList " /".toList, 0⟩ (.unknownTag "source/a.md"
        (Position.locate "\x7b@bogus /\x7d".toList 0) (tagName "bogus".toList)) :=
    .unknownTag (by decide +kernel)
  rw [hname, hplace] at hfault
  rw [hbody]
  exact parseWith_eq_error.mpr (.offence htokens hasNoOffence_nil hfault)

/-- The tag is said to be at the very beginning of the file, where no tag begins. -/
theorem content_error_misplaced :
    ∃ source e, source = "title: T\n----\n\x7b@bogus /\x7d" ∧
      renderTag (scopeAt (loneSite source) 0 (loneDocument source)) bodyTag none = .error e ∧
      e = .unknownTag "source/a.md" ⟨0, 1, 1⟩ "bogus" ∧
      e.file = (loneDocument source).sourcePath ∧
      ¬ IsTagPlace source.toList ⟨0, 1, 1⟩ ∧ IsTagPlace source.toList ⟨14, 3, 1⟩ := by
  have hfirst : unknownBelowFields.toList.head? = some 't' := by decide +kernel
  refine ⟨unknownBelowFields, _, rfl, renderTag_bodyTag_of_unreadable parse_unknownBelowFields, rfl,
    rfl, ?_, ?_⟩
  · rintro ⟨before, ⟨c, rest, hsource, -⟩, hbehind⟩
    have happend : Position.behind [] = Position.behind (before ++ []) := by
      rw [List.append_nil]
      exact hbehind
    obtain rfl := Position.behind_eq_append_iff.mp happend
    rw [hsource] at hfirst
    exact absurd (Option.some.inj hfirst) (by decide)
  · refine ⟨"title: T\n----\n".toList, ⟨'@', "bogus /\x7d".toList, ?_, .inl rfl⟩, ?_⟩
    · decide +kernel
    · decide +kernel

end Render

end StaticSite
