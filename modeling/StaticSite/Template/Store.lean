/-
The templates of a site, by name.

A template is named by the slug of its path without its ending, and every request is brought to that
form, so a template is found by its path with or without the ending and by its name.
-/
import StaticSite.Content.Slug
import StaticSite.OrderedMap
import StaticSite.Text.Split

namespace StaticSite.Template

/-- A template. -/
structure NamedTemplate where
  name : String
  /-- The file that errors refer to. -/
  file : String
  source : String
  deriving Repr, DecidableEq

/-- The ending of template files. -/
def ending : List Char := ".html".toList

theorem length_lt_of_beforeSuffix? {cs before : List Char}
    (h : Text.beforeSuffix? ending cs = some before) : before.length < cs.length := by
  unfold Text.beforeSuffix? List.isSuffixOf? at h
  simp only [Option.map_eq_some_iff] at h
  obtain ⟨tail, h1, rfl⟩ := h
  have h2 := congrArg List.length (Text.eq_append_of_afterPrefix? h1)
  have h0 : ending.reverse.length = 5 := by decide
  simp only [List.length_append, List.length_reverse, h0] at h2 ⊢
  simp only [List.length_reverse] at h0
  omega

/-- A text without the endings of template files. -/
def dropEndings (cs : List Char) : List Char :=
  match _h : Text.beforeSuffix? ending cs with
  | some before => dropEndings before
  | none => cs
termination_by cs.length
decreasing_by exact length_lt_of_beforeSuffix? ‹_›

/-- The name of the template at a path below the templates folder. -/
def templateName (path : String) : String :=
  String.ofList (Content.slugChars ((Text.beforeSuffix? ending path.toList).getD path.toList))

/-- The name that a request stands for. -/
def requestedName (request : String) : String :=
  String.ofList (Content.slugChars (dropEndings (Text.trim request.toList)))

/-- Templates by name. -/
structure TemplateStore where
  templates : OrderedMap String NamedTemplate
  deriving Repr, DecidableEq

namespace TemplateStore

/-- No templates. -/
def empty : TemplateStore := ⟨∅⟩

/-- Add a template; an earlier one of the same name is replaced. -/
def add (store : TemplateStore) (t : NamedTemplate) : TemplateStore :=
  ⟨store.templates.insert t.name t⟩

/-- Add a text as the template with the slug of a name. -/
def insert (store : TemplateStore) (name source : String) : TemplateStore :=
  let name := Content.slug name
  store.add ⟨name, name ++ ".html", source⟩

/-- The template that a request stands for. -/
def get? (store : TemplateStore) (request : String) : Option NamedTemplate :=
  store.templates.get? (requestedName request)

/-- The template of a content type, or else the default one. -/
def templateFor? (store : TemplateStore) (type defaultName : String) : Option NamedTemplate :=
  store.get? type <|> store.get? defaultName

/-- The names in order. -/
def names (store : TemplateStore) : List String :=
  store.templates.keys.mergeSort fun a b => a ≤ b

end TemplateStore

end StaticSite.Template
