/-
Tags of HTML inside of a text.

The readers take the text after an opening angle bracket and give what follows the closing one.  A
block of markup begins with a line that `blockEnding?` knows, and says how it ends.
-/
import StaticSite.Markdown.Escape
import StaticSite.Text.Blank

namespace StaticSite.Markdown

/-- White space between the parts of a tag. -/
def isTagBlank (c : Char) : Bool := c == ' ' || c == '\t' || c == '\n' || c == '\x0b' || c == '\x0c'

/-- The text after the first occurrence of another one. -/
def afterText (part : List Char) : List Char → Option (List Char)
  | [] => if part.isEmpty then some [] else none
  | c :: rest =>
    match Text.afterPrefix? part (c :: rest) with
    | some after => some after
    | none => afterText part rest

/-- The text after the name of a tag. -/
def afterTagName : List Char → Option (List Char)
  | c :: rest => if c.isAlpha then some (rest.dropWhile fun d => d.isAlphanum || d == '-') else none
  | [] => none

/-- The text after a character up to which everything is skipped. -/
def afterChar (c : Char) (cs : List Char) : Option (List Char) := (Text.splitFirst c cs).map (·.2)

/-- May the character stand in a value without quotation marks? -/
def isBareValueChar (c : Char) : Bool :=
  !isTagBlank c && !("\"'=<>\x60".toList.contains c)

/-- The text after the value of an attribute. -/
def afterValue (cs : List Char) : Option (List Char) :=
  match cs with
  | '"' :: rest => afterChar '"' rest
  | '\'' :: rest => afterChar '\'' rest
  | c :: rest => if isBareValueChar c then some (rest.dropWhile isBareValueChar) else none
  | [] => none

/-- The text after an attribute, which begins with its name. -/
def afterAttribute (cs : List Char) : Option (List Char) :=
  match cs with
  | [] => none
  | c :: rest =>
    if c.isAlpha || c == '_' || c == ':' then
      let named := rest.dropWhile fun d => d.isAlphanum || "_:.-".toList.contains d
      match named.dropWhile isTagBlank with
      | '=' :: value => afterValue (value.dropWhile isTagBlank)
      | _ => some named
    else none

/-- The text after the attributes of an opening tag and its closing bracket; the bound is on the
number of attributes. -/
def afterAttributes : Nat → List Char → Option (List Char)
  | 0, _ => none
  | bound + 1, cs =>
    match cs.dropWhile isTagBlank with
    | '>' :: rest => some rest
    | '/' :: '>' :: rest => some rest
    | next =>
      if next.length < cs.length then (afterAttribute next).bind (afterAttributes bound) else none

/-- The text after an opening tag. -/
def afterOpenTag (cs : List Char) : Option (List Char) :=
  (afterTagName cs).bind fun rest => afterAttributes (rest.length + 1) rest

/-- The text after a closing tag, whose slash has been read. -/
def afterCloseTag (cs : List Char) : Option (List Char) :=
  match (afterTagName cs).map (·.dropWhile isTagBlank) with
  | some ('>' :: rest) => some rest
  | _ => none

/-- The text after a comment, a declaration or a section of data, whose exclamation mark has been
read. -/
def afterDeclaration (cs : List Char) : Option (List Char) :=
  match cs with
  | '-' :: '-' :: rest =>
    match rest with
    | '>' :: after => some after
    | '-' :: '>' :: after => some after
    | _ => afterText "-->".toList rest
  | '[' :: _ => (Text.afterPrefix? "[CDATA[".toList cs).bind (afterText "]]>".toList)
  | c :: rest => if c.isAlpha then afterChar '>' rest else none
  | [] => none

/-- The text after any tag. -/
def afterMarkup (cs : List Char) : Option (List Char) :=
  match cs with
  | '/' :: rest => afterCloseTag rest
  | '!' :: rest => afterDeclaration rest
  | '?' :: rest => afterText "?>".toList rest
  | _ => afterOpenTag cs

/-! ## Blocks of markup -/

/-- How a block of markup ends. -/
inductive HtmlEnding where
  /-- With the line that holds a text. -/
  | containing (text : List Char)
  /-- Before a blank line. -/
  | blankLine
  deriving Repr, DecidableEq

/-- Elements whose content is not markup. -/
def rawElements : List String := ["pre", "style", "script", "textarea"]

/-- Elements that begin a block. -/
def blockElements : List String :=
  ["address", "article", "aside", "base", "basefont", "blockquote", "body", "caption", "center",
    "col", "colgroup", "dd", "details", "dialog", "dir", "div", "dl", "dt", "fieldset",
    "figcaption", "figure", "footer", "form", "frame", "frameset", "h1", "h2", "h3", "h4", "h5",
    "h6", "head", "header", "hr", "html", "iframe", "legend", "li", "link", "main", "menu",
    "menuitem", "nav", "noframes", "ol", "optgroup", "option", "p", "param", "search", "section",
    "summary", "table", "tbody", "td", "tfoot", "th", "thead", "title", "tr", "track", "ul"]

/-- The text in small letters, as far as it is ASCII. -/
def smallLetters (cs : List Char) : String := String.ofList (cs.map Char.toLower)

/-- The end of a block that begins with a raw element, a comment, an instruction or a declaration,
after its opening bracket. -/
def explicitEnding? (cs : List Char) : Option HtmlEnding :=
  let name := smallLetters (cs.takeWhile fun c => !isTagBlank c && c != '>')
  if rawElements.contains name then some (.containing ("</" ++ name ++ ">").toList)
  else if (Text.afterPrefix? "!--".toList cs).isSome then some (.containing "-->".toList)
  else
    match cs with
    | '?' :: _ => some (.containing "?>".toList)
    | '!' :: c :: _ =>
      if (Text.afterPrefix? "![CDATA[".toList cs).isSome then some (.containing "]]>".toList)
      else if c.isAlpha then some (.containing ">".toList)
      else none
    | _ => none

/-- Does a block element begin, after its opening bracket? -/
def startsBlockElement (cs : List Char) : Bool :=
  let cs := match cs with
    | '/' :: rest => rest
    | _ => cs
  blockElements.contains (smallLetters (cs.takeWhile Char.isAlphanum)) &&
    match cs.dropWhile Char.isAlphanum with
    | [] => true
    | '/' :: '>' :: _ => true
    | c :: _ => c == ' ' || c == '\t' || c == '>'

/-- Is the line a single tag, after its opening bracket? -/
def isLoneTag (cs : List Char) : Bool :=
  let after := match cs with
    | '/' :: rest => afterCloseTag rest
    | _ => afterOpenTag cs
  match after with
  | some rest => rest.all isTagBlank
  | none => false

/-- The end of the block of markup that a line begins, if it begins one that may interrupt a
paragraph. -/
def interruptingEnding? (line : List Char) : Option HtmlEnding :=
  match line with
  | '<' :: rest =>
    match explicitEnding? rest with
    | some ending => some ending
    | none => if startsBlockElement rest then some .blankLine else none
  | _ => none

/-- The end of the block of markup that a line begins. -/
def blockEnding? (line : List Char) : Option HtmlEnding :=
  match interruptingEnding? line, line with
  | some ending, _ => some ending
  | none, '<' :: rest => if isLoneTag rest then some .blankLine else none
  | none, _ => none

end StaticSite.Markdown
