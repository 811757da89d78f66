/-
Errors of reading and rendering templates.

An error is a cause with the file and, where there is one, the position of the tag at fault.  The
wording of every cause is in `TagFault.message` and `RenderError.message`.
-/
import StaticSite.Artifact
import StaticSite.Template.Attributes
import StaticSite.Template.Token

namespace StaticSite.Template

/-- What a tag refers to by name. -/
inductive Reference where
  | template
  | asset (kind : AssetKind)
  deriving Repr, DecidableEq

/-- The word for what is referred to. -/
def Reference.name : Reference → String
  | .template => "template"
  | .asset kind => kind.name

/-- What is wrong with a tag. -/
inductive TagFault where
  /-- The tag cannot be read. -/
  | lexical (fault : LexFault)
  /-- The attributes cannot be read. -/
  | attributes (fault : AttributeFault)
  /-- A closing tag without an open tag. -/
  | strayCloser (name : String)
  /-- A closing tag with another name than the innermost open tag. -/
  | mismatchedCloser (name openName : String) (openedAt : Position)
  /-- An open tag that is never closed. -/
  | neverClosed (name : String)
  /-- A required attribute is missing or empty. -/
  | missingAttribute (tag key : String)
  /-- The type of an asset is unknown. -/
  | unsupportedAsset (type : String)
  /-- An asset without a name and a path. -/
  | assetWithoutName
  /-- A stylesheet or script without a name. -/
  | shortcutWithoutName (tag : String)
  /-- An echo without a variable. -/
  | echoWithoutVariable
  /-- A word that is no modifier. -/
  | unknownModifier (word : String)
  /-- An element without a name. -/
  | elementWithoutName
  /-- A text that is no element name. -/
  | invalidElementName (name : String)
  /-- An inclusion without a template name. -/
  | inclusionWithoutName
  /-- A word that is no sort order. -/
  | unknownOrder (word : String)
  /-- A page length that is no integer. -/
  | limitNotInteger (text : String)
  /-- A page number that is no natural number. -/
  | pageNotNatural (text : String)
  /-- A loop that shows nothing. -/
  | loopWithoutTemplate
  deriving Repr, DecidableEq

/-- A text between grave accents, as messages quote it. -/
def quoted (text : String) : String := "\x60" ++ text ++ "\x60"

/-- The text of the error for an unknown sort order. -/
def unknownOrderMessage (word : String) : String := "unknown sort order " ++ quoted word

/-- The text of a fault. -/
def TagFault.message : TagFault → String
  | lexical fault => fault.message
  | attributes fault => fault.message
  | strayCloser name => "closing tag " ++ quoted ("\x7b/" ++ name ++ "\x7d") ++ " has no open tag"
  | mismatchedCloser name openName openedAt =>
    "closing tag " ++ quoted ("\x7b/" ++ name ++ "\x7d") ++ " does not match " ++
      quoted ("\x7b@" ++ openName ++ "\x7d") ++ " opened at " ++ openedAt.text
  | neverClosed name =>
    "tag " ++ quoted ("\x7b@" ++ name ++ "\x7d") ++ " is never closed; expected " ++
      quoted ("\x7b/" ++ name ++ "\x7d") ++ " or a self-closing " ++ quoted "/\x7d"
  | missingAttribute tag key => quoted tag ++ " requires a " ++ quoted key ++ " attribute"
  | unsupportedAsset type => AssetKind.unsupported type
  | assetWithoutName =>
    quoted "asset" ++ " requires a " ++ quoted "name" ++ " or " ++ quoted "path" ++ " attribute"
  | shortcutWithoutName tag => quoted tag ++ " requires an asset name"
  | echoWithoutVariable =>
    quoted "echo" ++ " requires a " ++ quoted "node" ++ ", " ++ quoted "meta" ++ " or " ++
      quoted "global" ++ " attribute"
  | unknownModifier word => "unknown modifier " ++ quoted word
  | elementWithoutName => quoted "tag" ++ " requires an element name"
  | invalidElementName name => "invalid element name " ++ quoted name
  | inclusionWithoutName => quoted "template" ++ " requires a template name"
  | unknownOrder word => unknownOrderMessage word
  | limitNotInteger text => quoted "limit" ++ " must be an integer, got " ++ quoted text
  | pageNotNatural text => quoted "page" ++ " must be a non-negative integer, got " ++ quoted text
  | loopWithoutTemplate =>
    quoted "loop" ++ " requires a " ++ quoted "template" ++ " attribute or a body"

/-- The number of renderings that may be nested in each other. -/
def depthLimit : Nat := 50

/-- Why a template cannot be rendered. -/
inductive RenderError where
  /-- The file of a template cannot be read. -/
  | unreadable (path cause : String)
  /-- A tag is at fault. -/
  | malformed (file : String) (position : Position) (fault : TagFault)
  /-- No tag has this name. -/
  | unknownTag (file : String) (position : Position) (name : String)
  /-- There is no template or asset with this name. -/
  | unresolved (file : String) (position : Position) (reference : Reference) (name : String)
  /-- Renderings are nested too deeply. -/
  | tooDeep (file : String)
  deriving Repr, DecidableEq

namespace RenderError

/-- The text of an error. -/
def message : RenderError → String
  | unreadable path cause => "could not read template " ++ path ++ ": " ++ cause
  | malformed file position fault => file ++ ":" ++ position.text ++ ": " ++ fault.message
  | unknownTag file position name =>
    file ++ ":" ++ position.text ++ ": unknown tag " ++ quoted name ++
      " (offset " ++ toString position.offset ++ ")"
  | unresolved file position reference name =>
    file ++ ":" ++ position.text ++ ": unresolved " ++ reference.name ++ " " ++ quoted name
  | tooDeep file => file ++ ": template nesting deeper than " ++ toString depthLimit ++ " levels"

/-- The file that the error is in. -/
def file : RenderError → String
  | unreadable path _ => path
  | malformed file _ _ => file
  | unknownTag file _ _ => file
  | unresolved file _ _ _ => file
  | tooDeep file => file

/-- The position of the tag at fault. -/
def position? : RenderError → Option Position
  | malformed _ position _ => some position
  | unknownTag _ position _ => some position
  | unresolved _ position _ _ => some position
  | _ => none

end RenderError

end StaticSite.Template
