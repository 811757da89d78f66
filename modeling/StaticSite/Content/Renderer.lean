/-
The renderer of document text: what turns marked text into HTML and into plain text.
-/
import StaticSite.Html

namespace StaticSite.Content

/-- A pair of functions on document text. -/
structure Renderer where
  /-- The text as HTML. -/
  render : String → String
  /-- The text without any markup, for excerpts. -/
  plainText : String → String

/-- The renderer that leaves text as it is and strips tags for plain text. -/
def Renderer.passthrough : Renderer := ⟨id, Html.stripTags⟩

end StaticSite.Content
