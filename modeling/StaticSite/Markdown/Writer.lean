/-
Events written as HTML.

The writer remembers whether the text so far ends in a line feed, because blocks begin on a line of
their own; the state of the current table; the labels of footnotes in the order in which they were
met, which are their numbers; and, inside of an image, how deeply its description is nested, because
a description is written as plain text.
-/
import StaticSite.Html
import StaticSite.Markdown.Event
import StaticSite.Text.Split

namespace StaticSite.Markdown

/-- The description of an image that is being written. -/
structure Description where
  /-- Beginnings inside of the description that have not ended. -/
  nesting : Nat
  title : String
  deriving Repr, DecidableEq

/-- The state of the writer. -/
structure WriterState where
  out : String
  atLineStart : Bool
  inTableHead : Bool
  alignments : List Alignment
  cell : Nat
  footnotes : List String
  description : Option Description
  deriving Repr, DecidableEq

/-! ## Text in markup -/

/-- Text between tags, where quotation marks need no entity. -/
def escapeBody (s : String) : String :=
  String.ofList (s.toList.flatMap fun c =>
    if c = '"' ∨ c = '\'' then [c] else Html.escapeChar c)

/-- A byte with a percent sign and two digits of base sixteen. -/
def percentByte (b : UInt8) : List Char :=
  let digit (n : Nat) : Char := if n < 10 then Char.ofNat (0x30 + n) else Char.ofNat (0x37 + n)
  ['%', digit (b.toNat / 16), digit (b.toNat % 16)]

/-- May the character stand in an address as it is? -/
def isAddressChar (c : Char) : Bool :=
  c.isAlphanum || "!#$%()*+,-./:;=?@_~".toList.contains c

/-- The text of an address. -/
def escapeAddress (s : String) : String :=
  String.ofList (s.toList.flatMap fun c =>
    if c = '&' then "&amp;".toList
    else if c = '\'' then "&#x27;".toList
    else if isAddressChar c then [c]
    else (String.singleton c).toUTF8.toList.flatMap percentByte)

namespace WriterState

/-- The state before the first event. -/
def initial : WriterState := ⟨"", true, false, [], 0, [], none⟩

/-- Write a text. -/
def write (w : WriterState) (s : String) : WriterState :=
  if s.isEmpty then w
  else { w with out := w.out ++ s, atLineStart := s.toList.getLast? == some '\n' }

/-- Write a text on a line of its own. -/
def writeBlock (w : WriterState) (s : String) : WriterState :=
  (if w.atLineStart then w else w.write "\n").write s

/-- The number of a footnote; a new label gets the next number. -/
def numbered (w : WriterState) (label : String) : WriterState × Nat :=
  match w.footnotes.findIdx? (· == label) with
  | some i => (w, i + 1)
  | none => ({ w with footnotes := w.footnotes ++ [label] }, w.footnotes.length + 1)

end WriterState

/-! ## Beginnings and ends -/

/-- An attribute with its value. -/
def attributeText (key value : String) : String := " " ++ key ++ "=\"" ++ Html.escape value ++ "\""

/-- The opening tag of a heading. -/
def headingTag (h : Heading) : String :=
  let id := (h.id.map (attributeText "id")).getD ""
  let classes := if h.classes.isEmpty then "" else attributeText "class" (" ".intercalate h.classes)
  let others := String.join (h.attributes.map fun (key, value) =>
    attributeText (Html.escape key) (value.getD ""))
  "<h" ++ toString h.level ++ id ++ classes ++ others ++ ">"

/-- The opening tags of code. -/
def codeTag (info : Option String) : String :=
  let language := match info with
    | some text => String.ofList (text.toList.takeWhile (· != ' '))
    | none => ""
  if language.isEmpty then "<pre><code>"
  else "<pre><code" ++ attributeText "class" ("language-" ++ language) ++ ">"

/-- The opening tag of a list. -/
def listTag : Option Nat → String
  | none => "<ul>\n"
  | some 1 => "<ol>\n"
  | some n => "<ol start=\"" ++ toString n ++ "\">\n"

/-- The opening tag of a table cell. -/
def cellTag (inHead : Bool) (alignment : Option Alignment) : String :=
  (if inHead then "<th" else "<td") ++
    match alignment with
    | some .left => " style=\"text-align: left\">"
    | some .center => " style=\"text-align: center\">"
    | some .right => " style=\"text-align: right\">"
    | _ => ">"

/-- A title as an attribute, unless it is empty. -/
def titleText (title : String) : String := if title.isEmpty then "" else attributeText "title" title

/-- Write a beginning. -/
def writeStart (w : WriterState) : Start → WriterState
  | .paragraph => w.writeBlock "<p>"
  | .heading h => w.writeBlock (headingTag h)
  | .quote => w.writeBlock "<blockquote>\n"
  | .code info => w.writeBlock (codeTag info)
  | .htmlBlock => w
  | .list first => w.writeBlock (listTag first)
  | .item => w.writeBlock "<li>"
  | .footnote label =>
    let w := w.writeBlock ("<div class=\"footnote-definition\" id=\"" ++ Html.escape label ++
      "\"><sup class=\"footnote-definition-label\">")
    let (w, number) := w.numbered label
    w.write (toString number ++ "</sup>")
  | .table alignments => { w with alignments := alignments }.write "<table>"
  | .tableHead => { w with inTableHead := true, cell := 0 }.write "<thead><tr>"
  | .tableRow => { w with cell := 0 }.write "<tr>"
  | .tableCell => w.write (cellTag w.inTableHead w.alignments[w.cell]?)
  | .emphasis => w.write "<em>"
  | .strong => w.write "<strong>"
  | .strikethrough => w.write "<del>"
  | .link target =>
    w.write ("<a href=\"" ++ (if target.mail then "mailto:" else "") ++ escapeAddress target.url ++
      "\"" ++ titleText target.title ++ ">")
  | .image target =>
    { w.write ("<img src=\"" ++ escapeAddress target.url ++ "\" alt=\"") with
      description := some ⟨0, target.title⟩ }

/-- Write an end. -/
def writeStop (w : WriterState) : Stop → WriterState
  | .paragraph => w.write "</p>\n"
  | .heading level => w.write ("</h" ++ toString level ++ ">\n")
  | .quote => w.write "</blockquote>\n"
  | .code => w.write "</code></pre>\n"
  | .htmlBlock => w
  | .list ordered => w.write (if ordered then "</ol>\n" else "</ul>\n")
  | .item => w.write "</li>\n"
  | .footnote => w.write "</div>\n"
  | .table => w.write "</tbody></table>\n"
  | .tableHead => { w.write "</tr></thead><tbody>\n" with inTableHead := false }
  | .tableRow => w.write "</tr>\n"
  | .tableCell => { w.write (if w.inTableHead then "</th>" else "</td>") with cell := w.cell + 1 }
  | .emphasis => w.write "</em>"
  | .strong => w.write "</strong>"
  | .strikethrough => w.write "</del>"
  | .link => w.write "</a>"
  | .image => w

/-! ## Events -/

/-- Write a text of the document, of which an empty one does not end in a line feed. -/
def writeText (w : WriterState) (shown : String) : WriterState :=
  { w with out := w.out ++ shown, atLineStart := shown.toList.getLast? == some '\n' }

/-- Write an event of the description of an image, as plain text. -/
def writeDescribed (w : WriterState) (d : Description) : Event → WriterState
  | .start _ => { w with description := some { d with nesting := d.nesting + 1 } }
  | .stop _ =>
    match d.nesting with
    | 0 => { w with description := none }.write ("\"" ++ titleText d.title ++ " />")
    | n + 1 => { w with description := some { d with nesting := n } }
  | .text s => writeText w (Html.escape s)
  | .code s => writeText w (Html.escape s)
  | .inlineHtml s => writeText w (Html.escape s)
  | .html _ => w
  | .softBreak => w.write " "
  | .hardBreak => w.write " "
  | .rule => w.write " "
  | .footnoteReference label =>
    let (w, number) := w.numbered label
    { w with out := w.out ++ "[" ++ toString number ++ "]" }
  | .taskMarker checked => w.write (if checked then "[x]" else "[ ]")

/-- Write an event. -/
def writeEvent (w : WriterState) (e : Event) : WriterState :=
  match w.description, e with
  | some d, e => writeDescribed w d e
  | none, .start s => writeStart w s
  | none, .stop s => writeStop w s
  | none, .text s => writeText w (escapeBody s)
  | none, .code s => w.write ("<code>" ++ escapeBody s ++ "</code>")
  | none, .html s => w.write s
  | none, .inlineHtml s => w.write s
  | none, .softBreak => w.write "\n"
  | none, .hardBreak => w.write "<br />\n"
  | none, .rule => w.writeBlock "<hr />\n"
  | none, .footnoteReference label =>
    let w := w.write ("<sup class=\"footnote-reference\"><a href=\"#" ++ Html.escape label ++ "\">")
    let (w, number) := w.numbered label
    w.write (toString number ++ "</a></sup>")
  | none, .taskMarker checked =>
    w.write (if checked then "<input disabled=\"\" type=\"checkbox\" checked=\"\"/>\n"
      else "<input disabled=\"\" type=\"checkbox\"/>\n")

/-- Events as HTML. -/
def writeHtml (events : List Event) : String := (events.foldl writeEvent .initial).out

end StaticSite.Markdown
