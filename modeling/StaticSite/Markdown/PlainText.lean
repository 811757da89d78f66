/-
Plain text of a document: its words without markup, one line for each paragraph, heading and item.
-/
import StaticSite.Html
import StaticSite.Markdown.Event

namespace StaticSite.Markdown

/-- The plain text of an event. -/
def Event.plainText : Event → String
  | .text s => s
  | .code s => s
  | .html s => Html.stripTags s
  | .inlineHtml s => Html.stripTags s
  | .softBreak => " "
  | .hardBreak => "\n"
  | .stop .paragraph => "\n"
  | .stop (.heading _) => "\n"
  | .stop .item => "\n"
  | .stop .code => "\n"
  | _ => ""

/-- The plain text of events. -/
def plainText (events : List Event) : String := String.join (events.map Event.plainText)

end StaticSite.Markdown
