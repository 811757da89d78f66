/-
Modifiers of variables.

A modifier maps a value that may be missing to one that may be missing: `fallback` supplies a text
for a missing or empty value, and every other modifier maps text to text and leaves a missing value
missing.
-/
import StaticSite.Content.Slug
import StaticSite.Content.Title
import StaticSite.Html
import StaticSite.Time.Format

namespace StaticSite.Template

open StaticSite.Time (DateStyle)

/-- A change to the value of a variable. -/
inductive Modifier where
  /-- Capital letters. -/
  | upper
  /-- Small letters. -/
  | lower
  /-- The slug of the text. -/
  | slug
  /-- Title case. -/
  | title
  /-- Special characters written as entities. -/
  | escape
  /-- A date in one of the styles. -/
  | date (style : DateStyle)
  /-- A text for a missing or empty value. -/
  | fallback (text : String)
  deriving Repr, DecidableEq

namespace Modifier

/-- The modifiers that are a single word. -/
def words : List (String × Modifier) :=
  [("upper", upper), ("lower", lower), ("slug", slug), ("title", title), ("escape", escape),
    ("year", date .year), ("date", date .date), ("longdate", date .long), ("iso", date .iso)]

/-- The modifier that is a single word. -/
def ofWord? (word : String) : Option Modifier := words.lookup word

/-- The word for a fallback. -/
def fallbackWord : String := "default"

/-- The modifier with a name and an argument, which only a fallback uses. -/
def ofName? (name : String) (argument : Option String) : Option Modifier :=
  if name = fallbackWord then some (fallback (argument.getD "")) else ofWord? name

/-- The text that a modifier makes of a text. -/
def onText (m : Modifier) (locale : String) (value : String) : String :=
  match m with
  | upper => String.ofList (Text.uppercase value.toList)
  | lower => String.ofList (Text.lowercase value.toList)
  | slug => Content.slug value
  | title => Content.titleCase value
  | escape => Html.escape value
  | date style => Time.dateText value style locale
  | fallback text => if value.isEmpty then text else value

/-- The value that a modifier makes of a value. -/
def apply (m : Modifier) (locale : String) (value : Option String) : Option String :=
  match m, value with
  | fallback text, none => some text
  | _, none => none
  | _, some v => some (m.onText locale v)

/-! ## Chains -/

/-- Is the character a small ASCII letter? -/
def isLetter (c : Char) : Bool := c.isLower

/-- The argument in parentheses at the front of a text, with what follows. -/
def readArgument : List Char → Option (List Char × List Char)
  | '(' :: rest => Text.splitFirst ')' rest
  | _ => none

theorem readArgument_source {cs argument after : List Char}
    (h : readArgument cs = some (argument, after)) : cs = '(' :: (argument ++ ')' :: after) := by
  unfold readArgument at h
  split at h
  · rw [Text.eq_append_of_splitFirst h]
  · cases h

theorem readArgument_length {cs argument after : List Char}
    (h : readArgument cs = some (argument, after)) : after.length < cs.length := by
  rw [readArgument_source h]
  simp only [List.length_append, List.length_cons]
  omega

/-- What follows a name in a chain: its argument, if it has one, and the rest. -/
def chainRest (cs : List Char) : Option String × List Char :=
  match readArgument cs with
  | some (argument, after) => (some (String.ofList argument), after)
  | none => (none, cs)

theorem chainRest_length (cs : List Char) : (chainRest cs).2.length ≤ cs.length := by
  unfold chainRest
  split
  · rename_i h
    exact Nat.le_of_lt (readArgument_length h)
  · simp

/-- The modifiers of a chain `:name:name(argument)…`; unknown names and other text are skipped. -/
def readChain (cs : List Char) : List Modifier :=
  match cs with
  | [] => []
  | c :: rest =>
    let name := rest.takeWhile isLetter
    if c = ':' ∧ name ≠ [] then
      let tail := chainRest (rest.dropWhile isLetter)
      (ofName? (String.ofList name) tail.1).toList ++ readChain tail.2
    else readChain rest
termination_by cs.length
decreasing_by
  · have h := chainRest_length (rest.dropWhile isLetter)
    have h' := (List.dropWhile_sublist (l := rest) isLetter).length_le
    simp only [List.length_cons]
    omega
  · simp

/-- The modifiers of a chain. -/
def parseChain (chain : String) : List Modifier := readChain chain.toList

end Modifier

end StaticSite.Template
