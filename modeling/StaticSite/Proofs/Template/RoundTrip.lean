/-
Printing and parsing.

An outline is a template as a tree: texts, tags that close themselves, and pairs of tags.  It is
printed tag by tag, and parsing what is printed gives the same tree (`parse_print_of_writable`).

The tokens of the printed text are the pieces it was put together from, since these are `Separate`,
and they read as the nodes of the outline (`readAs_lexemesOf`).
-/
import StaticSite.Proofs.Template.TagText
import StaticSite.Proofs.Template.Tree

namespace StaticSite.Template

/-! ## Outlines -/

/-- An opening tag as it is to be written. -/
structure TagOutline where
  name : String
  kind : TagKind
  items : List AttributeItem
  deriving Repr, DecidableEq

/-- A node of a template as it is to be written. -/
inductive Outline where
  | text (content : String)
  /-- A tag that closes itself. -/
  | single (tag : TagOutline)
  /-- A pair of tags with what is between them. -/
  | paired (tag : TagOutline) (children : List Outline)

namespace TagOutline

/-- The opening tag. -/
def opener (tag : TagOutline) (selfClosing : Bool) : Lexeme :=
  .opener tag.name.toList (insideOf selfClosing tag.items)

/-- The closing tag. -/
def closer (tag : TagOutline) : Lexeme := .closer tag.name.toList []

/-- The tag at a place. -/
def tagAt (tag : TagOutline) (file : String) (position : Position) : Tag :=
  ⟨tag.name, tag.kind, attributesOf tag.items, file, position⟩

/-- The name is registered, with small letters, for the kind; the attributes can be written, and no
name among them is repeated. -/
structure IsWritable (tag : TagOutline) : Prop where
  registered : TagRegistry.standard.lookup? tag.name = some tag.kind
  small : Text.asciiLowercase tag.name = tag.name
  items : ∀ item ∈ tag.items, item.IsWritable
  names : HasDistinctNames tag.items

instance decIsWritable (tag : TagOutline) : Decidable tag.IsWritable :=
  decidable_of_iff
    (TagRegistry.standard.lookup? tag.name = some tag.kind ∧
      Text.asciiLowercase tag.name = tag.name ∧ (∀ item ∈ tag.items, item.IsWritable) ∧
      HasDistinctNames tag.items)
    ⟨fun ⟨hr, hs, hi, hn⟩ => ⟨hr, hs, hi, hn⟩, fun h => ⟨h.registered, h.small, h.items, h.names⟩⟩

end TagOutline

mutual

/-- The pieces of a node in order. -/
def Outline.lexemes : Outline → List Lexeme
  | .text content => [.text content.toList]
  | .single tag => [tag.opener true]
  | .paired tag children => tag.opener false :: (lexemesOf children ++ [tag.closer])

/-- The pieces of nodes in order. -/
def lexemesOf : List Outline → List Lexeme
  | [] => []
  | outline :: rest => outline.lexemes ++ lexemesOf rest

end

@[simp] theorem lexemesOf_text (content : String) (rest : List Outline) :
    lexemesOf (.text content :: rest) = .text content.toList :: lexemesOf rest := rfl

@[simp] theorem lexemesOf_single (tag : TagOutline) (rest : List Outline) :
    lexemesOf (.single tag :: rest) = tag.opener true :: lexemesOf rest := rfl

@[simp] theorem lexemesOf_paired (tag : TagOutline) (children rest : List Outline) :
    lexemesOf (.paired tag children :: rest) =
      tag.opener false :: (lexemesOf children ++ tag.closer :: lexemesOf rest) := by
  simp [lexemesOf, Outline.lexemes]

/-- The text of an outline. -/
def print (outlines : List Outline) : String := String.ofList (sourceOf (lexemesOf outlines))

/-- Is the node a text? -/
def Outline.isText : Outline → Bool
  | .text _ => true
  | _ => false

/-- Every text is cut into one token of text, no two texts are adjacent, and every tag can be
written. -/
inductive Writable : List Outline → Prop
  | nil : Writable []
  | text {content : String} {rest : List Outline} {start : Nat} :
      tokenize content = .ok [⟨.text content.toList, start⟩] →
      (∀ o ∈ rest.head?, o.isText = false) → Writable rest → Writable (.text content :: rest)
  | single {tag : TagOutline} {rest : List Outline} :
      tag.IsWritable → Writable rest → Writable (.single tag :: rest)
  | paired {tag : TagOutline} {children rest : List Outline} :
      tag.IsWritable → Writable children → Writable rest → Writable (.paired tag children :: rest)

/-! ## Trees without places -/

/-- The tag without its file and position. -/
def Tag.unplaced (tag : Tag) : Tag := { tag with file := "", position := ⟨0, 0, 0⟩ }

mutual

/-- The node without files and positions. -/
def Node.unplaced : Node → Node
  | .text content => .text content
  | .single tag => .single tag.unplaced
  | .paired tag body children => .paired tag.unplaced body (unplacedOf children)

/-- The nodes without files and positions. -/
def unplacedOf : List Node → List Node
  | [] => []
  | node :: rest => node.unplaced :: unplacedOf rest

end

mutual

/-- The node of an outline, without a place.  The body of a pair is what is printed between its
tags. -/
def Outline.node : Outline → Node
  | .text content => .text content
  | .single tag => .single (tag.tagAt "" ⟨0, 0, 0⟩)
  | .paired tag children => .paired (tag.tagAt "" ⟨0, 0, 0⟩) (print children) (nodesOf children)

/-- The nodes of outlines, without places. -/
def nodesOf : List Outline → List Node
  | [] => []
  | outline :: rest => outline.node :: nodesOf rest

end

/-! ## Tokens of what is printed -/

/-- A name that is registered is the name of its kind. -/
theorem eq_name_of_lookup?_standard {name : String} {kind : TagKind}
    (h : TagRegistry.standard.lookup? name = some kind)
    (hsmall : Text.asciiLowercase name = name) : name = kind.name := by
  unfold TagRegistry.lookup? at h
  rw [hsmall] at h
  have hmem : (name, kind) ∈ TagKind.all.map fun kind => (kind.name, kind) :=
    OrderedMap.mem_of_find?_eq_some h
  obtain ⟨other, -, heq⟩ := List.mem_map.mp hmem
  cases heq
  rfl

theorem isTagName_name (kind : TagKind) : IsTagName kind.name.toList := by
  cases kind <;> rfl

namespace TagOutline

variable {tag : TagOutline}

theorem IsWritable.isTagName (h : tag.IsWritable) : IsTagName tag.name.toList := by
  rw [eq_name_of_lookup?_standard h.registered h.small]
  exact isTagName_name tag.kind

theorem IsWritable.tagName (h : tag.IsWritable) : tagName tag.name.toList = tag.name := by
  rw [Template.tagName, String.ofList_toList, h.small]

/-- The tag is read from its opening tag. -/
theorem IsWritable.readOpeningTag (h : tag.IsWritable) (file : String) (position : Position)
    (selfClosing : Bool) :
    readOpeningTag .standard file position tag.name.toList (insideOf selfClosing tag.items) =
      .ok (tag.tagAt file position, selfClosing) := by
  have hattributes : Attributes.parse (attributeText tag.items) = .ok (attributesOf tag.items) := by
    rw [Attributes.parse, readItems_attributeText h.items, ← ofItems_eq_attributesOf h.names]
    rfl
  have hparts := openerParts_insideOf h.items selfClosing
  refine readOpeningTag_eq_ok.mpr ⟨tag.kind, attributesOf tag.items, ?_, ?_, ?_, ?_⟩
  · rw [h.tagName, h.registered]
  · rw [hparts, hattributes]
  · rw [h.tagName]
    rfl
  · rw [hparts]

end TagOutline

/-- What is printed after a text begins with a tag. -/
theorem isTag_head_lexemesOf {outlines : List Outline}
    (h : ∀ o ∈ outlines.head?, o.isText = false) :
    ∀ l ∈ (lexemesOf outlines).head?, l.isTag = true := by
  intro l hl
  cases outlines with
  | nil => cases hl
  | cons outline rest =>
      cases outline with
      | text content => cases h _ rfl
      | single tag =>
          cases hl
          rfl
      | paired tag children =>
          cases hl
          rfl

/-- The pieces of a writable outline can be told apart. -/
theorem separate_lexemesOf {outlines : List Outline} (h : Writable outlines) :
    Separate (lexemesOf outlines) := by
  induction h with
  | nil => exact .nil
  | @text content rest start htokens hnext _ ih =>
      have hplain : IsPlain content.toList := by
        refine isPlain_of_tokenizeFrom htokens fun t ht => ?_
        rw [List.mem_singleton.mp ht]
        rfl
      have hne : content.toList ≠ [] := by
        intro hnil
        rw [tokenize, hnil, tokenizeFrom] at htokens
        cases htokens
      exact .text hne hplain (isTag_head_lexemesOf hnext) ih
  | single htag _ ih => exact .tag (readTag_opener htag.isTagName htag.items true) ih
  | @paired tag children rest htag _ _ ihc ihr =>
      have hrest : Separate (tag.closer :: lexemesOf rest) :=
        .tag (readTag_closer htag.isTagName) ihr
      rw [lexemesOf_paired]
      exact .tag (readTag_opener htag.isTagName htag.items false) (ihc.append_tag rfl hrest)

/-! ## Trees of what is printed -/

section Tree

variable {tag : TagOutline}

theorem TagOutline.IsWritable.standsFor_single (h : tag.IsWritable) (file : String)
    (source : List Char) (start : Nat) :
    Token.StandsFor .standard file source ⟨tag.opener true, start⟩
      (.single (tag.tagAt file (Position.locate source start))) := by
  obtain ⟨kind, attributes, hkind, hattr, htag, hclosed⟩ :=
    readOpeningTag_eq_ok.mp (h.readOpeningTag file (Position.locate source start) true)
  rw [htag]
  exact .single hkind hattr hclosed.symm

theorem TagOutline.IsWritable.standsFor_opens (h : tag.IsWritable) (file : String)
    (source : List Char) (start : Nat) :
    Token.StandsFor .standard file source ⟨tag.opener false, start⟩
      (.opens (tag.tagAt file (Position.locate source start))) := by
  obtain ⟨kind, attributes, hkind, hattr, htag, hopen⟩ :=
    readOpeningTag_eq_ok.mp (h.readOpeningTag file (Position.locate source start) false)
  rw [htag]
  exact .opens hkind hattr hopen.symm

theorem TagOutline.IsWritable.standsFor_closes (h : tag.IsWritable) (file : String)
    (source : List Char) (start : Nat) :
    Token.StandsFor .standard file source ⟨tag.closer, start⟩ (.closes tag.name) :=
  h.tagName ▸ .closes

variable (file : String) (source : List Char)

/-- The tokens of a writable outline read as its nodes. -/
theorem readAs_lexemesOf {outlines : List Outline} (h : Writable outlines) (offset : Nat) :
    ∃ nodes, unplacedOf nodes = nodesOf outlines ∧
      ReadAs .standard file source (placed offset (lexemesOf outlines)) nodes := by
  induction h generalizing offset with
  | nil => exact ⟨[], rfl, .nil⟩
  | @text content rest start _ _ _ ih =>
      obtain ⟨nodes, hnodes, hread⟩ := ih (offset + byteLength content.toList)
      refine ⟨.text (String.ofList content.toList) :: nodes, ?_, .text hread⟩
      rw [unplacedOf, nodesOf, hnodes, String.ofList_toList]
      rfl
  | @single tag rest htag _ ih =>
      obtain ⟨nodes, hnodes, hread⟩ := ih (offset + byteLength (tag.opener true).source)
      refine ⟨_, ?_, .single (htag.standsFor_single file source offset) hread⟩
      rw [unplacedOf, nodesOf, hnodes]
      rfl
  | @paired tag children rest htag _ _ ihc ihr =>
      let inside := offset + byteLength (tag.opener false).source
      let behind := inside + byteLength (sourceOf (lexemesOf children))
      obtain ⟨inner, hinner, hinside⟩ := ihc inside
      obtain ⟨nodes, hnodes, hread⟩ := ihr (behind + byteLength tag.closer.source)
      have hpair := ReadAs.paired (htag.standsFor_opens file source offset)
        (htag.standsFor_closes file source behind) hinside hread
      rw [writtenAs_placed] at hpair
      rw [lexemesOf_paired, placed, placed_append]
      refine ⟨_, ?_, hpair⟩
      rw [unplacedOf, nodesOf, hnodes, Node.unplaced, hinner]
      rfl

/-- The tokens of a writable outline add its nodes, with what is printed as their source. -/
theorem parseTokens_lexemesOf {outlines : List Outline} (h : Writable outlines) (offset : Nat)
    (s : ParseState) :
    ∃ nodes, unplacedOf nodes = nodesOf outlines ∧
      (placed offset (lexemesOf outlines)).foldlM (parseToken .standard file source) s =
        .ok (s.pushAll nodes (sourceOf (lexemesOf outlines))) := by
  obtain ⟨nodes, hnodes, hread⟩ := readAs_lexemesOf file source h offset
  exact ⟨nodes, hnodes, writtenAs_placed offset (lexemesOf outlines) ▸ hread.foldlM_parseToken s⟩

end Tree

/-- Printing an outline and parsing the text gives the outline, up to files and positions. -/
theorem parse_print_of_writable {outlines : List Outline} (h : Writable outlines) (file : String) :
    (parse (print outlines) file).map unplacedOf = .ok (nodesOf outlines) := by
  have htokens : tokenize (print outlines) = .ok (placed 0 (lexemesOf outlines)) := by
    rw [tokenize, print, String.toList_ofList, tokenizeFrom_sourceOf (separate_lexemesOf h)]
  obtain ⟨nodes, hnodes, hloop⟩ := parseTokens_lexemesOf file (print outlines).toList h 0 .start
  have hparse : parse (print outlines) file = .ok nodes :=
    parseWith_eq_ok.mpr ⟨_, _, htokens, hloop, rfl, rfl⟩
  rw [hparse, Except.map, hnodes]

/-- Texts and values that look like tags, quotation marks or slashes are read back as they are. -/
theorem parse_print_of_lookalikes :
    (parse
        ("a \x7b@" ++ "\x7b@tag div \"\\\"\x7d \\\\\" k=\"\x7b/tag\x7d\" a/\x7d" ++ "\x7b/tag" ++
          "\x7b@echo /\x7d" ++ "\x7b/tag\x7d")
        "page.html").map unplacedOf =
      .ok [.text "a \x7b@",
        .paired
          ⟨"tag", .element, ⟨⟨[("k", "\x7b/tag\x7d")]⟩, ["div", "\"\x7d \\", "a/"], ["div", "a/"]⟩,
            "", ⟨0, 0, 0⟩⟩
          "\x7b/tag\x7b@echo /\x7d"
          [.text "\x7b/tag", .single ⟨"echo", .echo, .empty, "", ⟨0, 0, 0⟩⟩]] := by
  have htag : TagOutline.IsWritable ⟨"tag", .element,
      [.word "div", .quoted "\"\x7d \\", .named "k" "\x7b/tag\x7d", .word "a/"]⟩ := by decide
  have hecho : TagOutline.IsWritable ⟨"echo", .echo, []⟩ := by decide
  have hbefore : tokenize "a \x7b@" = .ok [⟨.text "a \x7b@".toList, 0⟩] :=
    tokenize_of_isPlain (by decide) ⟨rfl, rfl, rfl, rfl, trivial⟩
  have hinside : tokenize "\x7b/tag" = .ok [⟨.text "\x7b/tag".toList, 0⟩] :=
    tokenize_of_isPlain (by decide) ⟨rfl, rfl, rfl, rfl, rfl, trivial⟩
  have h := Writable.text hbefore (by decide)
    (.paired htag (.text hinside (by decide) (.single hecho .nil)) .nil)
  exact parse_print_of_writable h "page.html"

end StaticSite.Template
