/-
Addresses, titles and labels of links.

A link says where it leads in parentheses or by a label; a definition `[label]: address "title"`
gives a label its meaning.  Labels are compared without regard to case and to the width of white
space.
-/
import StaticSite.Markdown.RawHtml
import StaticSite.Text.Case
import StaticSite.Text.Split

namespace StaticSite.Markdown

/-! ## Parts -/

/-- The address in angle brackets at the front of a text, with what follows. -/
def readBracketed : List Char → Option (List Char × List Char)
  | [] => none
  | '\\' :: c :: rest =>
    if c = '\n' then none
    else (readBracketed rest).map fun (address, after) => ('\\' :: c :: address, after)
  | c :: rest =>
    if c = '>' then some ([], rest)
    else if c = '<' ∨ c = '\n' then none
    else (readBracketed rest).map fun (address, after) => (c :: address, after)

/-- The bare address at the front of a text, with what follows: it ends at a blank, a control
character or a closing parenthesis that has no partner, and other parentheses are balanced. -/
def readBare (depth : Nat) : List Char → Option (List Char × List Char)
  | [] => if depth = 0 then some ([], []) else none
  | '\\' :: c :: rest =>
    if isAsciiPunctuation c then
      (readBare depth rest).map fun (address, after) => ('\\' :: c :: address, after)
    else if isTagBlank c ∨ c.toNat < 0x20 then
      if depth = 0 then some (['\\'], c :: rest) else none
    else (readBare depth rest).map fun (address, after) => ('\\' :: c :: address, after)
  | c :: rest =>
    if c = '(' then (readBare (depth + 1) rest).map fun (address, after) => (c :: address, after)
    else if c = ')' then
      match depth with
      | 0 => some ([], c :: rest)
      | d + 1 => (readBare d rest).map fun (address, after) => (c :: address, after)
    else if c = ' ' ∨ c.toNat < 0x20 ∨ c.toNat = 0x7f then
      if depth = 0 then some ([], c :: rest) else none
    else (readBare depth rest).map fun (address, after) => (c :: address, after)

/-- The address at the front of a text, with what follows. -/
def readAddress (cs : List Char) : Option (List Char × List Char) :=
  match cs with
  | '<' :: rest => readBracketed rest
  | _ => readBare 0 cs

/-- The rest of a title up to the mark that ends it, with what follows. -/
def readTitleRest (mark : Char) : List Char → Option (List Char × List Char)
  | [] => none
  | '\\' :: c :: rest =>
    (readTitleRest mark rest).map fun (title, after) => ('\\' :: c :: title, after)
  | c :: rest =>
    if c = mark then some ([], rest)
    else if mark = ')' ∧ c = '(' then none
    else (readTitleRest mark rest).map fun (title, after) => (c :: title, after)

/-- The title at the front of a text, with what follows. -/
def readTitle : List Char → Option (List Char × List Char)
  | '"' :: rest => readTitleRest '"' rest
  | '\'' :: rest => readTitleRest '\'' rest
  | '(' :: rest => readTitleRest ')' rest
  | _ => none

/-- The rest of a label up to its closing bracket, with what follows. -/
def readLabelRest : List Char → Option (List Char × List Char)
  | [] => none
  | '\\' :: c :: rest =>
    (readLabelRest rest).map fun (label, after) => ('\\' :: c :: label, after)
  | c :: rest =>
    if c = ']' then some ([], rest)
    else if c = '[' then none
    else (readLabelRest rest).map fun (label, after) => (c :: label, after)

/-- May the text be a label?  It is not blank and has less than a thousand characters. -/
def isLabelText (label : List Char) : Bool :=
  !(label.all Text.isBlank) && label.length < 1000

/-- The label whose opening bracket stands before a text, with what follows. -/
def readLabel (cs : List Char) : Option (List Char × List Char) :=
  (readLabelRest cs).filter fun (label, _) => isLabelText label

/-- The words of a text with single blanks between them. -/
def squeezeBlanks : List Char → List Char
  | [] => []
  | [c] => if Text.isBlank c then [' '] else [c]
  | c :: d :: rest =>
    if Text.isBlank c then
      if Text.isBlank d then squeezeBlanks (d :: rest) else ' ' :: squeezeBlanks (d :: rest)
    else c :: squeezeBlanks (d :: rest)

/-- The form in which labels are compared. -/
def labelKey (label : List Char) : List Char :=
  Text.uppercase (Text.lowercase (squeezeBlanks (Text.trim label)))

/-! ## Links and definitions -/

/-- Where a link leads, before escapes are resolved. -/
structure LinkText where
  url : List Char
  title : List Char
  deriving Repr, DecidableEq

/-- The target that a link text stands for. -/
def LinkText.target (l : LinkText) : String × String :=
  (String.ofList (unescape l.url), String.ofList (unescape l.title))

/-- The address and title in parentheses, of which the opening one has been read, with what
follows. -/
def readInlineTarget (cs : List Char) : Option (LinkText × List Char) :=
  let cs := cs.dropWhile isTagBlank
  match cs with
  | ')' :: rest => some (⟨[], []⟩, rest)
  | _ =>
    match readAddress cs with
    | none => none
    | some (url, after) =>
      let next := after.dropWhile isTagBlank
      match next with
      | ')' :: rest => some (⟨url, []⟩, rest)
      | _ =>
        if next.length < after.length then
          match readTitle next with
          | some (title, tail) =>
            match tail.dropWhile isTagBlank with
            | ')' :: rest => some (⟨url, title⟩, rest)
            | _ => none
          | none => none
        else none

/-- White space with at most one line feed. -/
def skipLineBlank (cs : List Char) : List Char :=
  let blank (c : Char) : Bool := isTagBlank c && c != '\n'
  match cs.dropWhile blank with
  | '\n' :: rest => rest.dropWhile blank
  | rest => rest

/-- What follows the line, if nothing but blanks is left on it. -/
def restOfBlankLine (cs : List Char) : Option (List Char) :=
  match cs.dropWhile fun c => isTagBlank c && c != '\n' with
  | [] => some []
  | '\n' :: rest => some rest
  | _ => none

/-- A label with what it stands for. -/
structure Definition where
  key : List Char
  link : LinkText
  deriving Repr, DecidableEq

/-- The title of a definition after its address, if it has one and the line ends after it, with what
follows. -/
def readDefinitionTitle (after : List Char) : Option (List Char × List Char) := do
  let next := skipLineBlank after
  let (title, tail) ← if next.length < after.length then readTitle next else none
  let rest ← restOfBlankLine tail
  some (title, rest)

/-- The definition at the front of a text, with what follows its last line. -/
def readDefinition (cs : List Char) : Option (Definition × List Char) := do
  let cs ← Text.afterPrefix? ['['] cs
  let (label, cs) ← readLabel cs
  let cs ← Text.afterPrefix? [':'] cs
  let cs := skipLineBlank cs
  let (url, after) ← readAddress cs
  if url.isEmpty && cs.head? != some '<' then none
  match readDefinitionTitle after with
  | some (title, rest) => some (⟨labelKey label, ⟨url, title⟩⟩, rest)
  | none => (restOfBlankLine after).map fun rest => (⟨labelKey label, ⟨url, []⟩⟩, rest)

/-- The definitions at the front of a text, at most as many as the bound, with what follows. -/
def readDefinitionsUpTo : Nat → List Char → List Definition × List Char
  | 0, cs => ([], cs)
  | bound + 1, cs =>
    match readDefinition cs with
    | none => ([], cs)
    | some (d, rest) =>
      let (more, after) := readDefinitionsUpTo bound rest
      (d :: more, after)

/-- All definitions at the front of a text, with what follows. -/
def readDefinitions (cs : List Char) : List Definition × List Char :=
  readDefinitionsUpTo cs.length cs

/-- The first definition of a label counts. -/
def findLink (definitions : List Definition) (label : List Char) : Option LinkText :=
  (definitions.find? fun d => d.key == labelKey label).map (·.link)

end StaticSite.Markdown
