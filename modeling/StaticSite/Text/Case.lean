/-
Letter case.

`lower` and `upper` map one character to one or more, as the Unicode standard lists them; on ASCII
they are the plain letter maps.  `lowercase` maps a whole text and writes a capital sigma that ends
a word in its final form.
-/
import StaticSite.Text.CaseTable
import StaticSite.Text.Property

namespace StaticSite.Text

/-- The image of a code point under a table of runs, with the listed expansions first. -/
def mapCase (runs : List CaseRun) (expansions : List (Nat × List Nat)) (c : Char) : List Char :=
  match expansions.lookup c.toNat with
  | some image => image.map Char.ofNat
  | none =>
    match runs.find? (·.covers c.toNat) with
    | some run => [Char.ofNat (run.image c.toNat)]
    | none => [c]

/-- The small form of a character. -/
def lower (c : Char) : List Char :=
  if c.toNat < 0x80 then [c.toLower] else mapCase lowerRuns lowerExpansions c

/-- The capital form of a character. -/
def upper (c : Char) : List Char :=
  if c.toNat < 0x80 then [c.toUpper] else mapCase upperRuns upperExpansions c

/-- The first character that counts for the end of a word has a case. -/
def meetsCased (cs : List Char) : Bool :=
  match cs.dropWhile isCaseIgnorable with
  | c :: _ => isCased c
  | [] => false

/-- Map a text to small letters, given the characters before it, nearest first. -/
def lowercaseAfter (before : List Char) : List Char → List Char
  | [] => []
  | c :: rest =>
    let image :=
      if c = 'Σ' then [if meetsCased before && !meetsCased rest then 'ς' else 'σ'] else lower c
    image ++ lowercaseAfter (c :: before) rest

/-- The text in small letters. -/
def lowercase (cs : List Char) : List Char := lowercaseAfter [] cs

/-- The text in capital letters. -/
def uppercase (cs : List Char) : List Char := cs.flatMap upper

/-- The text with its ASCII letters made small. -/
def asciiLowercase (s : String) : String := String.ofList (s.toList.map Char.toLower)

/-- Equality of texts that ignores the case of ASCII letters. -/
def equalIgnoringAsciiCase (s t : String) : Bool := asciiLowercase s == asciiLowercase t

/-- Only the empty text is the empty text but for the case of letters. -/
theorem eq_empty_of_asciiLowercase {s : String} (h : asciiLowercase s = asciiLowercase "") :
    s = "" := by
  unfold asciiLowercase at h
  rw [String.ofList_inj] at h
  exact String.toList_eq_nil_iff.mp (List.map_eq_nil_iff.mp h)

end StaticSite.Text
