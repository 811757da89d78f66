/-
The tree of a template.

`parseWith` reads the tokens from left to right and keeps the open tags on a stack: a closing tag
must name the innermost open one.  Every open tag collects the source of its body as well as its
children, so a body is the exact text between the tags.  `parse` reads with the standard names.
-/
import StaticSite.Template.Error
import StaticSite.Template.TagKind

namespace StaticSite.Template

/-- A tag of a template. -/
structure Tag where
  /-- The name in small letters. -/
  name : String
  kind : TagKind
  attributes : Attributes
  /-- The file that the tag is in. -/
  file : String
  /-- The position of its opening brace. -/
  position : Position
  deriving Repr, DecidableEq

namespace Tag

/-- The error of a fault in the tag. -/
def fault (tag : Tag) (f : TagFault) : RenderError := .malformed tag.file tag.position f

/-- The error of a reference that cannot be resolved. -/
def unresolved (tag : Tag) (reference : Reference) (name : String) : RenderError :=
  .unresolved tag.file tag.position reference name

/-- The value of a required attribute, which must not be empty. -/
def required (tag : Tag) (key : String) : Except RenderError String :=
  match tag.attributes.get? key with
  | some value =>
    if value.isEmpty then .error (tag.fault (.missingAttribute tag.name key)) else .ok value
  | none => .error (tag.fault (.missingAttribute tag.name key))

end Tag

/-- A node of a template. -/
inductive Node where
  /-- Text between tags. -/
  | text (content : String)
  /-- A tag that closes itself. -/
  | single (tag : Tag)
  /-- A pair of tags with the source and the nodes between them. -/
  | paired (tag : Tag) (body : String) (children : List Node)

/-! ## Parsing -/

/-- A tag that is still open. -/
structure Frame where
  tag : Tag
  /-- The source of the opening tag. -/
  source : List Char
  /-- The source after it. -/
  body : List Char
  /-- The nodes after it. -/
  children : List Node

/-- The state of a parse: the open tags, innermost first, and the nodes outside of all tags. -/
structure ParseState where
  frames : List Frame
  nodes : List Node

namespace ParseState

/-- The state before the first token. -/
def start : ParseState := ⟨[], []⟩

/-- Add a node with its source to the innermost open tag. -/
def push (s : ParseState) (node : Node) (source : List Char) : ParseState :=
  match s.frames with
  | [] => { s with nodes := s.nodes ++ [node] }
  | frame :: outer =>
    { s with frames :=
        { frame with body := frame.body ++ source, children := frame.children ++ [node] } :: outer }

end ParseState

/-- The name of a tag that is written with the given letters. -/
def tagName (letters : List Char) : String := Text.asciiLowercase (String.ofList letters)

/-- The tag that an opening token stands for, and whether it closes itself. -/
def readOpeningTag (registry : TagRegistry) (file : String) (position : Position)
    (letters inner : List Char) : Except RenderError (Tag × Bool) :=
  let name := tagName letters
  match registry.lookup? name with
  | none => .error (.unknownTag file position name)
  | some kind =>
    let (text, selfClosing) := openerParts inner
    match Attributes.parse text with
    | .error fault => .error (.malformed file position (.attributes fault))
    | .ok attributes => .ok (⟨name, kind, attributes, file, position⟩, selfClosing)

/-- The state after a closing token. -/
def closeTag (file : String) (position : Position) (letters source : List Char) (s : ParseState) :
    Except RenderError ParseState :=
  let name := tagName letters
  match s.frames with
  | [] => .error (.malformed file position (.strayCloser name))
  | frame :: outer =>
    if frame.tag.name = name then
      let node := Node.paired frame.tag (String.ofList frame.body) frame.children
      .ok (ParseState.push ⟨outer, s.nodes⟩ node (frame.source ++ frame.body ++ source))
    else
      .error (.malformed file position (.mismatchedCloser name frame.tag.name frame.tag.position))

/-- The state after one more token. -/
def parseToken (registry : TagRegistry) (file : String) (source : List Char) (s : ParseState)
    (token : Token) : Except RenderError ParseState :=
  match token.lexeme with
  | .text content => .ok (s.push (.text (String.ofList content)) content)
  | .opener letters inner => do
    let position := Position.locate source token.start
    let (tag, selfClosing) ← readOpeningTag registry file position letters inner
    if selfClosing then .ok (s.push (.single tag) token.lexeme.source)
    else .ok { s with frames := ⟨tag, token.lexeme.source, [], []⟩ :: s.frames }
  | .closer letters _ =>
    closeTag file (Position.locate source token.start) letters token.lexeme.source s

/-- The nodes of a parse that has seen all tokens. -/
def ParseState.finish (file : String) (s : ParseState) : Except RenderError (List Node) :=
  match s.frames with
  | [] => .ok s.nodes
  | frame :: _ => .error (.malformed file frame.tag.position (.neverClosed frame.tag.name))

/-- Parse the text of a file whose tags have the names of a registry. -/
def parseWith (registry : TagRegistry) (source file : String) : Except RenderError (List Node) :=
  let cs := source.toList
  match tokenize source with
  | .error e => .error (.malformed file (Position.locate cs e.offset) (.lexical e.fault))
  | .ok tokens => do (← tokens.foldlM (parseToken registry file cs) .start).finish file

/-- Parse the text of a file. -/
def parse (source file : String) : Except RenderError (List Node) :=
  parseWith .standard source file

end StaticSite.Template
