/-
Loops: one rendering for each entry that answers a query.
-/
import StaticSite.Query
import StaticSite.Render.Context

namespace StaticSite.Render

open StaticSite.Content StaticSite.Template

/-- The sort order of a loop. -/
def loopOrder (s : Scope) (tag : Tag) : Except RenderError SortOrder :=
  match s.attribute? tag "order" with
  | none => .ok Query.default.order
  | some word =>
    match SortOrder.parse word with
    | .ok order => .ok order
    | .error word => .error (tag.fault (.unknownOrder word))

/-- The page length of a loop. -/
def loopLimit (s : Scope) (tag : Tag) : Except RenderError Int :=
  match s.attribute? tag "limit" with
  | none => .ok Query.default.limit
  | some text =>
    match Text.readInt64 (Text.trim text.toList) with
    | some limit => .ok limit
    | none => .error (tag.fault (.limitNotInteger text))

/-- The page of a loop; an empty attribute asks for all entries. -/
def loopPage (s : Scope) (tag : Tag) : Except RenderError (Option Nat) :=
  match s.attribute? tag "page" with
  | none => .ok Query.default.page
  | some text =>
    let text := Text.trim text.toList
    if text.isEmpty then .ok none
    else
      match Text.readNat64 text with
      | some page => .ok (some page)
      | none => .error (tag.fault (.pageNotNatural (String.ofList text)))

/-- The query that a loop states. -/
def loopQuery (s : Scope) (tag : Tag) : Except RenderError Query := do
  let type ← tag.required "type"
  let sort := ((s.attribute? tag "sort").filter fun field => !field.isEmpty).getD
    Query.default.sort
  let order ← loopOrder s tag
  let limit ← loopLimit s tag
  let page ← loopPage s tag
  .ok { type := s.interpolate type, sort, order, limit, page
        keywords := s.attribute? tag "keywords"
        includeAssets := tag.attributes.isGiven "include_assets" }

/-- Render the matches of a query one after the other, up to the first error. -/
def renderEach (item : Document → Except RenderError String) :
    List Entry → Except RenderError String
  | [] => .ok ""
  | entry :: rest => do
    let first ← item entry.toDocument
    let others ← renderEach item rest
    .ok (first ++ others)

/-- How a loop renders one match: through its template, or else through its own nodes. -/
def loopItem (s : Scope) (tag : Tag) (children : Option (List Node)) :
    Except RenderError (Document → Except RenderError String) :=
  match tag.attributes.get? "template", children with
  | some name, _ => (s.template tag name).map fun t => s.descendInto t
  | none, some nodes => .ok fun d => s.descend tag.file d (.ok nodes)
  | none, none => .error (tag.fault .loopWithoutTemplate)

/-- Render a loop. -/
def renderLoop (s : Scope) (tag : Tag) (children : Option (List Node)) :
    Except RenderError String := do
  let query ← loopQuery s tag
  let item ← loopItem s tag children
  renderEach item (query.search s.context.collection)

end StaticSite.Render
