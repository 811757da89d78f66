/-
Attributes of a tag.

The attribute text is a list of items: `key="value"`, `key='value'` and `key=value` are named, any
other word and any quoted text is positional, and a bare word is a flag as well.  Inside quotation
marks a backslash takes the next character as it is.
-/
import StaticSite.OrderedMap
import StaticSite.Outcome
import StaticSite.Text.Blank

namespace StaticSite.Template

/-- One item of an attribute text. -/
inductive AttributeItem where
  | named (key value : String)
  | word (text : String)
  | quoted (text : String)
  deriving Repr, DecidableEq

/-- Why an attribute text cannot be read. -/
inductive AttributeFault where
  /-- An equals sign without a name before it. -/
  | missingName
  /-- The closing quotation mark is missing. -/
  | unterminatedQuote
  deriving Repr, DecidableEq

/-- The text of a fault. -/
def AttributeFault.message : AttributeFault → String
  | .missingName => "attribute value without a name"
  | .unterminatedQuote => "unterminated quoted value"

/-! ## Reading items -/

/-- Read the rest of a quoted text, up to its closing quotation mark. -/
def readQuoted (quote : Char) : List Char → Except AttributeFault (List Char × List Char)
  | [] => .error .unterminatedQuote
  | ['\\'] => .error .unterminatedQuote
  | '\\' :: c :: rest => (readQuoted quote rest).map fun (value, after) => (c :: value, after)
  | c :: rest =>
    if c = quote then .ok ([], rest)
    else (readQuoted quote rest).map fun (value, after) => (c :: value, after)

/-- May the character stand in a bare word before an equals sign? -/
def isWordPart (c : Char) : Bool := !Text.isBlank c && c != '='

/-- Read the value after an equals sign. -/
def readValue (cs : List Char) : Except AttributeFault (List Char × List Char) :=
  let bare := (cs.takeWhile fun c => !Text.isBlank c, cs.dropWhile fun c => !Text.isBlank c)
  match cs with
  | c :: rest => if c = '"' ∨ c = '\'' then readQuoted c rest else .ok bare
  | [] => .ok bare

/-- Read one item from a text that begins with its first character. -/
def readItem (c : Char) (rest : List Char) : Except AttributeFault (AttributeItem × List Char) :=
  if c = '"' ∨ c = '\'' then
    (readQuoted c rest).map fun (text, after) => (.quoted (String.ofList text), after)
  else
    let word := (c :: rest).takeWhile isWordPart
    match (c :: rest).dropWhile isWordPart with
    | '=' :: after =>
      if word.isEmpty then .error .missingName
      else (readValue after).map fun (value, after) =>
        (.named (String.ofList word) (String.ofList value), after)
    | after => .ok (.word (String.ofList word), after)

theorem readQuoted_length {quote : Char} {cs value after : List Char}
    (h : readQuoted quote cs = .ok (value, after)) : after.length < cs.length := by
  fun_induction readQuoted quote cs generalizing value after with
  | case1 => cases h
  | case2 => cases h
  | case3 c rest ih =>
    obtain ⟨⟨_, _⟩, hrest, h⟩ := Outcome.map_eq_ok.mp h
    cases h
    have := ih hrest
    simp only [List.length_cons]; omega
  | case4 => cases h; simp
  | case5 c rest _ _ hc ih =>
    obtain ⟨⟨_, _⟩, hrest, h⟩ := Outcome.map_eq_ok.mp h
    cases h
    have := ih hrest
    simp only [List.length_cons]; omega

theorem length_dropWhile_le (p : Char → Bool) (cs : List Char) :
    (cs.dropWhile p).length ≤ cs.length :=
  (List.dropWhile_sublist p).length_le

theorem readValue_length {cs value after : List Char}
    (h : readValue cs = .ok (value, after)) : after.length ≤ cs.length := by
  unfold readValue at h
  split at h
  · split at h
    · have := readQuoted_length h
      simp only [List.length_cons]; omega
    · cases h
      exact length_dropWhile_le _ _
  · cases h
    exact length_dropWhile_le _ _

/-- An item takes at least one character. -/
theorem readItem_length {c : Char} {rest after : List Char} {item : AttributeItem}
    (hc : Text.isBlank c = false) (h : readItem c rest = .ok (item, after)) :
    after.length < rest.length + 1 := by
  unfold readItem at h
  split at h
  · obtain ⟨⟨_, _⟩, hquoted, h⟩ := Outcome.map_eq_ok.mp h
    cases h
    have := readQuoted_length hquoted
    omega
  · dsimp only at h
    have hdrop := length_dropWhile_le isWordPart (c :: rest)
    split at h
    · rename_i tail htail
      rw [htail] at hdrop
      split at h
      · cases h
      · obtain ⟨⟨_, _⟩, hvalue, h⟩ := Outcome.map_eq_ok.mp h
        cases h
        have hle := readValue_length hvalue
        simp only [List.length_cons] at hdrop
        exact Nat.lt_succ_of_le (Nat.le_trans hle (Nat.le_of_succ_le_succ hdrop))
    · rename_i tail hne
      cases h
      by_cases hw : isWordPart c = true
      · rw [List.dropWhile_cons_of_pos hw]
        have := length_dropWhile_le isWordPart rest
        omega
      · exfalso
        have hceq : c = '=' := by
          simpa [isWordPart, hc] using hw
        subst hceq
        exact hne rest (by simp [isWordPart])

/-- The items of an attribute text. -/
def readItems (cs : List Char) : Except AttributeFault (List AttributeItem) :=
  match cs with
  | [] => .ok []
  | c :: rest =>
    if _hc : Text.isBlank c then readItems rest
    else
      match _h : readItem c rest with
      | .error fault => .error fault
      | .ok (item, after) => (readItems after).map (item :: ·)
termination_by cs.length
decreasing_by
  · simp
  · exact readItem_length (by simpa using _hc) ‹_›

/-! ## Attributes -/

/-- The attributes of a tag. -/
structure Attributes where
  /-- Values under names; the last value of a name counts. -/
  named : OrderedMap String String
  /-- Words and quoted texts in order. -/
  positional : List String
  /-- The bare words in order. -/
  flags : List String
  deriving Repr, DecidableEq

namespace Attributes

/-- No attributes. -/
def empty : Attributes := ⟨∅, [], []⟩

/-- The attributes with one more item. -/
def add (a : Attributes) : AttributeItem → Attributes
  | .named key value => { a with named := a.named.insert key value }
  | .word text => { a with positional := a.positional ++ [text], flags := a.flags ++ [text] }
  | .quoted text => { a with positional := a.positional ++ [text] }

/-- The attributes of a list of items. -/
def ofItems (items : List AttributeItem) : Attributes := items.foldl add empty

/-- Read an attribute text. -/
def parse (cs : List Char) : Except AttributeFault Attributes := (readItems cs).map ofItems

/-- Set the value of a name. -/
def insert (a : Attributes) (key value : String) : Attributes :=
  { a with named := a.named.insert key value }

/-- The value of a name. -/
def get? (a : Attributes) (key : String) : Option String := a.named.get? key

/-- Is the flag given as a bare word, or as a name with the value `true`? -/
def isGiven (a : Attributes) (flag : String) : Bool :=
  a.flags.contains flag || a.get? flag == some "true"

/-- The first positional text that is not one of the given ones. -/
def firstText? (a : Attributes) (skip : List String) : Option String :=
  a.positional.find? fun text => !skip.contains text

end Attributes

end StaticSite.Template
