/-
Variables in text: `$scope:name` with modifiers.

`segments` cuts a text into variables and the characters between them, from left to right; a
variable takes as much text as it can.  `interpolate` puts values in the place of variables, once:
a value that looks like a variable stays as it is.
-/
import StaticSite.Config
import StaticSite.Content.Document
import StaticSite.Template.Modifier
import StaticSite.Text.Property

namespace StaticSite.Template

open StaticSite.Content (Document)

/-- Where a variable is looked up. -/
inductive VariableScope where
  /-- Fields of the document, and its metadata after them. -/
  | node
  /-- Metadata of the document. -/
  | metadata
  /-- Values of the site. -/
  | global
  deriving Repr, DecidableEq

namespace VariableScope

/-- The word for a scope. -/
def name : VariableScope → String
  | node => "node"
  | metadata => "meta"
  | global => "global"

/-- All scopes. -/
def all : List VariableScope := [node, metadata, global]

/-- The scope with a name. -/
def ofName? (text : String) : Option VariableScope := all.find? fun scope => scope.name == text

/-- The text of the error for an unknown scope. -/
def unknown (text : String) : String := "unknown variable scope \x60" ++ text ++ "\x60"

end VariableScope

/-- A variable as it stands in a text. -/
structure Variable where
  scope : VariableScope
  name : String
  modifiers : List Modifier
  deriving Repr, DecidableEq

/-! ## Reading variables -/

/-- May the character stand in a part of a variable name? -/
def isVariableChar (c : Char) : Bool := c.isAlphanum || c == '_'

/-- The rest of a variable name: parts joined by single hyphens. -/
def readNameParts (cs : List Char) : List Char × List Char :=
  match cs with
  | '-' :: c :: rest =>
    if isVariableChar c then
      let part := (c :: rest).takeWhile isVariableChar
      let (more, after) := readNameParts ((c :: rest).dropWhile isVariableChar)
      ('-' :: part ++ more, after)
    else ([], cs)
  | _ => ([], cs)
termination_by cs.length
decreasing_by
  have := (List.dropWhile_sublist (l := c :: rest) isVariableChar).length_le
  simp only [List.length_cons] at this ⊢
  omega

/-- The variable name at the front of a text, as long as possible, with what follows. -/
def readVariableName (cs : List Char) : Option (List Char × List Char) :=
  let first := cs.takeWhile isVariableChar
  if first.isEmpty then none
  else
    let (more, after) := readNameParts (cs.dropWhile isVariableChar)
    some (first ++ more, after)

/-- The text of the modifier at the front of a text, with what follows: a colon and a whole word, or
a fallback with its argument. -/
def modifierText? : List Char → Option (List Char × List Char)
  | ':' :: rest =>
    let word := rest.takeWhile Text.isWordChar
    if (Modifier.ofWord? (String.ofList word)).isSome then
      some (':' :: word, rest.dropWhile Text.isWordChar)
    else do
      let tail ← Text.afterPrefix? Modifier.fallbackWord.toList rest
      let (argument, after) ← Modifier.readArgument tail
      some (':' :: (Modifier.fallbackWord.toList ++ '(' :: (argument ++ [')'])), after)
  | _ => none

/-- The text of a modifier is not empty, and what follows it is the rest. -/
theorem modifierText?_source {cs item after : List Char}
    (h : modifierText? cs = some (item, after)) : item ≠ [] ∧ cs = item ++ after := by
  unfold modifierText? at h
  split at h
  · rename_i rest
    dsimp only at h
    split at h
    · cases h
      refine ⟨List.cons_ne_nil _ _, ?_⟩
      rw [List.cons_append, List.takeWhile_append_dropWhile]
    · obtain ⟨tail, htail, h⟩ := Option.bind_eq_some_iff.mp h
      obtain ⟨⟨argument, after'⟩, hargument, h⟩ := Option.bind_eq_some_iff.mp h
      cases h
      refine ⟨List.cons_ne_nil _ _, ?_⟩
      rw [Text.eq_append_of_afterPrefix? htail, Modifier.readArgument_source hargument]
      simp
  · cases h

theorem modifierText?_length {cs item after : List Char}
    (h : modifierText? cs = some (item, after)) : after.length < cs.length := by
  obtain ⟨hitem, hsource⟩ := modifierText?_source h
  have hpos := List.length_pos_iff.mpr hitem
  rw [hsource, List.length_append]
  omega

/-- The chain of modifiers at the front of a text, as many as possible, with what follows. -/
def chainText (cs : List Char) : List Char × List Char :=
  match _h : modifierText? cs with
  | none => ([], cs)
  | some (item, rest) =>
    let (chain, after) := chainText rest
    (item ++ chain, after)
termination_by cs.length
decreasing_by exact modifierText?_length ‹_›

/-- The scope and the colon at the front of a text, with what follows. -/
def readScope (cs : List Char) : Option (VariableScope × List Char) :=
  VariableScope.all.findSome? fun scope =>
    (Text.afterPrefix? (scope.name.toList ++ [':']) cs).map fun rest => (scope, rest)

/-- The variable whose dollar sign stands before a text, with what follows. -/
def readVariable (cs : List Char) : Option (Variable × List Char) := do
  let (scope, cs) ← readScope cs
  let (name, cs) ← readVariableName cs
  let (chain, after) := chainText cs
  some (⟨scope, String.ofList name, Modifier.readChain chain⟩, after)

theorem readNameParts_length (cs : List Char) : (readNameParts cs).2.length ≤ cs.length := by
  fun_induction readNameParts cs with
  | case1 c rest _ _ more after hrec ih =>
    have := (List.dropWhile_sublist (l := c :: rest) isVariableChar).length_le
    rw [hrec] at ih
    simp only [List.length_cons] at *
    omega
  | case2 => simp
  | case3 => simp

theorem chainText_source (cs : List Char) : cs = (chainText cs).1 ++ (chainText cs).2 := by
  fun_induction chainText cs with
  | case1 => rfl
  | case2 cs item rest h chain after hrec ih =>
    rw [hrec] at ih
    rw [(modifierText?_source h).2, ih, List.append_assoc]

theorem readVariable_length {cs after : List Char} {v : Variable}
    (h : readVariable cs = some (v, after)) : after.length ≤ cs.length := by
  simp only [readVariable, Option.bind_eq_bind, Option.bind_eq_some_iff, Prod.exists,
    Option.some.injEq, Prod.mk.injEq] at h
  obtain ⟨scope, cs1, h1, name, cs2, h2, -, rfl⟩ := h
  have l1 : cs1.length ≤ cs.length := by
    simp only [readScope, List.findSome?_eq_some_iff, Option.map_eq_some_iff] at h1
    obtain ⟨_, s, _, _, ⟨a, ha, hs⟩, _⟩ := h1
    cases hs
    rw [Text.eq_append_of_afterPrefix? ha, List.length_append]
    exact Nat.le_add_left _ _
  have l2 : cs2.length ≤ cs1.length := by
    unfold readVariableName at h2
    dsimp only at h2
    split at h2
    · cases h2
    · injection h2 with h2
      have hp := readNameParts_length (cs1.dropWhile isVariableChar)
      have hd := (List.dropWhile_sublist (l := cs1) isVariableChar).length_le
      have := congrArg Prod.snd h2
      dsimp only at this
      rw [← this]
      omega
  have l3 := congrArg List.length (chainText_source cs2)
  rw [List.length_append] at l3
  omega

/-- A piece of a text with variables. -/
inductive Segment where
  | char (c : Char)
  | var (v : Variable)
  deriving Repr, DecidableEq

/-- The variables of a text and the characters between them. -/
def segments (cs : List Char) : List Segment :=
  match cs with
  | [] => []
  | c :: rest =>
    if c = '$' then
      match _h : readVariable rest with
      | some (v, after) => .var v :: segments after
      | none => .char c :: segments rest
    else .char c :: segments rest
termination_by cs.length
decreasing_by
  · have := readVariable_length ‹_›
    simp only [List.length_cons]; omega
  · simp
  · simp

/-! ## Values -/

/-- What variables are looked up in. -/
structure VariableContext where
  document : Document
  config : Config
  /-- The start of the pass in milliseconds. -/
  now : Int
  deriving Repr, DecidableEq

namespace VariableContext

/-- A value of the site itself. -/
def siteValue (ctx : VariableContext) (name : String) : Option String :=
  match name with
  | "title" => some ctx.config.site.title
  | "site_title" => some ctx.config.site.title
  | "root_url" => some ctx.config.site.rootUrl
  | "locale" => some ctx.config.site.locale
  | "now" => some (String.ofList (Text.decimalInt ctx.now))
  | _ => none

/-- The value of a name in a scope. -/
def lookup (ctx : VariableContext) (scope : VariableScope) (name : String) : Option String :=
  match scope with
  | .node => ctx.document.field name
  | .metadata => ctx.document.metadata.get? name
  | .global => ctx.config.globals.get? name <|> ctx.siteValue name

/-- A value after modifiers, from left to right. -/
def modified (ctx : VariableContext) (modifiers : List Modifier) (value : Option String) :
    Option String :=
  modifiers.foldl (fun value m => m.apply ctx.config.site.locale value) value

/-- The text of a variable; a missing value is empty. -/
def resolve (ctx : VariableContext) (v : Variable) : String :=
  (ctx.modified v.modifiers (ctx.lookup v.scope v.name)).getD ""

/-- The text of a segment. -/
def segmentText (ctx : VariableContext) : Segment → List Char
  | .char c => [c]
  | .var v => (ctx.resolve v).toList

/-- The text with values in the place of its variables. -/
def interpolate (ctx : VariableContext) (text : String) : String :=
  String.ofList ((segments text.toList).flatMap ctx.segmentText)

end VariableContext

end StaticSite.Template
