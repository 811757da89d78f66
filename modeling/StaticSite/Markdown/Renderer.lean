/-
The renderer that reads document text as Markdown.
-/
import StaticSite.Content.Renderer
import StaticSite.Markdown.Document
import StaticSite.Markdown.HeadingIds
import StaticSite.Markdown.PlainText
import StaticSite.Markdown.Writer

namespace StaticSite.Markdown

/-- Markdown as HTML; headings get ids of their own if asked for. -/
def toHtml (headingIds : Bool) (text : String) : String :=
  writeHtml (if headingIds then identifyHeadings (eventsOf text) else eventsOf text)

/-- Markdown as plain text. -/
def toPlainText (text : String) : String := plainText (eventsOf text)

/-- The renderer of Markdown. -/
def renderer : Content.Renderer := ⟨toHtml true, toPlainText⟩

end StaticSite.Markdown
