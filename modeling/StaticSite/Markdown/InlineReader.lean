/-
Reading the parts of a text.

The text is read from front to back.  Code, markup, addresses in angle brackets and references to
characters are recognised where they begin; brackets are kept open until a closing one shows whether
they are a link.  A link inside of a link is not possible: when one is found, the brackets around it
become text.
-/
import StaticSite.Markdown.Inline
import StaticSite.Markdown.Line
import StaticSite.Markdown.Link
import StaticSite.Text.Property

namespace StaticSite.Markdown

/-- What labels stand for in a document. -/
structure Labels where
  definitions : List Definition
  footnotes : List (List Char)

/-- Is there a footnote with the label? -/
def Labels.hasFootnote (l : Labels) (label : List Char) : Bool :=
  l.footnotes.any fun known => labelKey known == labelKey label

/-! ## Leaves -/

/-- The text up to the next run of exactly `n` grave accents, and what follows the run; `k` of them
have been read before the text. -/
def splitAtTicks (n k : Nat) : List Char → Option (List Char × List Char)
  | [] => if k = n then some ([], []) else none
  | c :: rest =>
    if c = '\x60' then splitAtTicks n (k + 1) rest
    else if k = n then some ([], c :: rest)
    else
      (splitAtTicks n 0 rest).map fun (before, after) =>
        (List.replicate k '\x60' ++ c :: before, after)

/-- The code in a text between grave accents: lines are joined, and one space is dropped at both
ends if there is one at each, unless all is spaces. -/
def codeText (cs : List Char) : List Char :=
  let cs := cs.map fun c => if c = '\n' then ' ' else c
  if cs.head? = some ' ' ∧ cs.getLast? = some ' ' ∧ cs.any (· != ' ') then cs.tail.dropLast else cs

/-- The address with a scheme after an opening angle bracket, and what follows the closing one. -/
def readUri (cs : List Char) : Option (List Char × List Char) :=
  let scheme := cs.takeWhile fun c => c.isAlphanum || c == '.' || c == '-' || c == '+'
  match cs.drop scheme.length with
  | ':' :: rest =>
    let path := rest.takeWhile fun c => c != '<' && c != '>' && 0x20 < c.toNat
    match rest.drop path.length with
    | '>' :: after =>
      if scheme.head?.any Char.isAlpha ∧ 2 ≤ scheme.length ∧ scheme.length ≤ 32 then
        some (scheme ++ ':' :: path, after)
      else none
    | _ => none
  | _ => none

/-- May the text be a part of the domain of a mail address? -/
def isDomainLabel (cs : List Char) : Bool :=
  cs != [] && cs.length ≤ 63 && cs.head? != some '-' && cs.getLast? != some '-' &&
    cs.all fun c => c.isAlphanum || c == '-'

/-- The mail address after an opening angle bracket, and what follows the closing one. -/
def readMail (cs : List Char) : Option (List Char × List Char) :=
  let name := cs.takeWhile fun c =>
    c.isAlphanum || ".!#$%&'*+/=?^_\x60\x7b|\x7d~-".toList.contains c
  match cs.drop name.length with
  | '@' :: rest =>
    match Text.splitFirst '>' rest with
    | some (domain, after) =>
      if name ≠ [] ∧ (Text.splitOn '.' domain).all isDomainLabel then
        some (name ++ '@' :: domain, after)
      else none
    | none => none
  | _ => none

/-! ## Runs of marks -/

/-- Is the character white space or punctuation? -/
def isBoundary (c : Char) : Bool := Text.isBlank c || Text.isPunctuation c

/-- The run of `length` marks between two characters.  Asterisks and pairs of tildes may stand
inside of words, underscores and single tildes may not. -/
def Run.between (mark : Char) (length : Nat) (previous next : Option Char) : Run :=
  let inWords := mark == '*' || (mark == '~' && length > 1)
  let canOpen := match next with
    | none => false
    | some n =>
      !Text.isBlank n &&
        ((mark == '*' && !Text.isPunctuation n) || (mark == '~' && length > 1) ||
          previous.all isBoundary)
  let canClose := match previous with
    | none => false
    | some p =>
      !Text.isBlank p && ((inWords && !Text.isPunctuation p) || next.all isBoundary)
  ⟨mark, length, canOpen, canClose⟩

/-! ## Brackets -/

/-- A bracket that is open. -/
structure Bracket where
  /-- Is there an exclamation mark before it? -/
  image : Bool
  /-- Can it still begin a link? -/
  enabled : Bool
  /-- The text after it. -/
  after : List Char
  /-- The pieces after it, the last one first. -/
  pieces : List Piece

/-- The pieces so far: those after open brackets, the innermost one first, and those before. -/
structure Scan where
  brackets : List Bracket
  before : List Piece

namespace Scan

/-- Put pieces at the end, given with the last one first. -/
def append (s : Scan) (pieces : List Piece) : Scan :=
  match s.brackets with
  | b :: outer => { s with brackets := { b with pieces := pieces ++ b.pieces } :: outer }
  | [] => { s with before := pieces ++ s.before }

/-- Put a part at the end. -/
def push (s : Scan) (i : Inline) : Scan := s.append [.part i]

/-- Put text at the end. -/
def text (s : Scan) (cs : List Char) : Scan := s.push (.text cs)

/-- The innermost open bracket becomes text. -/
def giveUp (s : Scan) : Scan :=
  match s.brackets with
  | b :: outer =>
    { s with brackets := outer }.append
      (b.pieces ++ [Piece.part (.text (if b.image then ['!', '['] else ['[']))])
  | [] => s

/-- All open brackets become text. -/
def giveUpAll (s : Scan) : Scan := (List.range s.brackets.length).foldl (fun s _ => s.giveUp) s

/-- The pieces when there is nothing more to come. -/
def pieces (s : Scan) : List Piece := s.giveUpAll.before.reverse

/-- The innermost open bracket becomes a link or an image. -/
def finishLink (s : Scan) (link : LinkText) : Scan :=
  match s.brackets with
  | b :: outer =>
    let inner := resolve b.pieces.reverse
    let (url, title) := link.target
    let target : Target := ⟨url, title, false⟩
    let outer :=
      if b.image then outer else outer.map fun o => { o with enabled := o.enabled && o.image }
    { s with brackets := outer }.push (if b.image then .image target inner else .link target inner)
  | [] => s

/-- The innermost open bracket becomes a footnote reference; no bracket before it can be a link. -/
def finishFootnote (s : Scan) (label : List Char) : Scan :=
  match s.brackets with
  | b :: outer =>
    let s := { s with brackets := outer }.giveUpAll
    (if b.image then s.text ['!'] else s).push (.footnoteReference label)
  | [] => s

end Scan

/-- What a closing bracket makes of the text since the opening one. -/
inductive Closing where
  | link (link : LinkText) (after : List Char)
  | footnote (label : List Char)
  | text

/-- The label that a pair of brackets holds, if its text may be one. -/
def ownLabel? (b : Bracket) (rest : List Char) : Option (List Char) :=
  match readLabel b.after with
  | some (label, tail) => if tail.length = rest.length then some label else none
  | none => none

/-- The link by a label, if it has a definition. -/
def closingByLabel (labels : Labels) (label : Option (List Char)) (after : List Char) : Closing :=
  match label.bind (findLink labels.definitions) with
  | some link => .link link after
  | none => .text

/-- The link or footnote by the text in the brackets. -/
def closingByText (labels : Labels) (b : Bracket) (rest after : List Char) : Closing :=
  match ownLabel? b rest with
  | some ('^' :: label) => if labels.hasFootnote label then .footnote label else .text
  | label => closingByLabel labels label after

/-- What a closing bracket, with the text after it, makes of an open one. -/
def closingOf (labels : Labels) (b : Bracket) (rest : List Char) : Closing :=
  let inlineTarget := match rest with
    | '(' :: inner => readInlineTarget inner
    | _ => none
  match inlineTarget with
  | some (link, after) => .link link after
  | none =>
    match rest with
    | '[' :: ']' :: after => closingByText labels b rest after
    | '[' :: '^' :: _ => closingByText labels b rest rest
    | '[' :: inner =>
      match readLabel inner with
      | some (label, after) => closingByLabel labels (some label) after
      | none => closingByText labels b rest rest
    | _ => closingByText labels b rest rest

/-- Read a closing bracket, which stands before the text; what is left of the text. -/
def Scan.closeBracket (labels : Labels) (s : Scan) (rest : List Char) : Scan × List Char :=
  match s.brackets with
  | [] => (s.text [']'], rest)
  | b :: _ =>
    match if b.enabled then closingOf labels b rest else .text with
    | .link link after => (s.finishLink link, after)
    | .footnote label => (s.finishFootnote label, rest)
    | .text => (s.giveUp.text [']'], rest)

/-! ## The whole text -/

/-- Does the character begin something else than bare text? -/
def isSpecial (c : Char) : Bool := "\\\x60*_~<&![]\n".toList.contains c

/-- Read what an opening angle bracket begins. -/
def Scan.readAngle (s : Scan) (rest : List Char) : Scan × Char × List Char :=
  match readUri rest with
  | some (url, after) => (s.push (.link ⟨String.ofList url, "", false⟩ [.text url]), '>', after)
  | none =>
    match readMail rest with
    | some (url, after) => (s.push (.link ⟨String.ofList url, "", true⟩ [.text url]), '>', after)
    | none =>
      match afterMarkup rest with
      | some after =>
        (s.push (.html ('<' :: rest.take (rest.length - after.length))), '>', after)
      | none => (s.text ['<'], '<', rest)

/-- Read bare text.  Spaces at the end of a line are dropped; two or more of them break the line. -/
def Scan.readPlain (s : Scan) (cs : List Char) : Scan × Char × List Char :=
  let plain := cs.takeWhile (!isSpecial ·)
  let rest := cs.drop plain.length
  let shown := Text.dropEndWhile isLineBlank plain
  let last := plain.getLastD ' '
  match rest with
  | '\n' :: after =>
    if shown.length + 2 ≤ plain.length then ((s.text shown).push .hardBreak, '\n', after)
    else (s.text shown, last, rest)
  | [] => (s.text shown, last, [])
  | _ => (s.text plain, last, rest)

/-- Read the next piece of a text that begins with a character; the character before it may be
known.  The last character of the piece and what is left are given. -/
def Scan.readPiece (labels : Labels) (s : Scan) (previous : Option Char) (c : Char)
    (rest : List Char) : Scan × Char × List Char :=
  match c with
  | '\\' =>
    match rest with
    | '\n' :: after => (s.push .hardBreak, '\n', after)
    | d :: after =>
      if isAsciiPunctuation d then (s.text [d], d, after) else (s.text [c], c, rest)
    | [] => (s.text [c], c, rest)
  | '\x60' =>
    let n := 1 + (rest.takeWhile (· == '\x60')).length
    let inner := rest.drop (n - 1)
    match splitAtTicks n 0 inner with
    | some (code, after) => (s.push (.code (codeText code)), c, after)
    | none => (s.text (List.replicate n c), c, inner)
  | '<' => s.readAngle rest
  | '&' =>
    match readReference rest with
    | some (image, after) => (s.text image, ';', after)
    | none => (s.text [c], c, rest)
  | '\n' => (s.push .softBreak, c, rest)
  | '!' =>
    match rest with
    | '[' :: after => ({ s with brackets := ⟨true, true, after, []⟩ :: s.brackets }, '[', after)
    | _ => (s.text [c], c, rest)
  | '[' => ({ s with brackets := ⟨false, true, rest, []⟩ :: s.brackets }, c, rest)
  | ']' =>
    let (s, after) := s.closeBracket labels rest
    (s, if after.length = rest.length then ']' else ')', after)
  | _ =>
    if c == '*' || c == '_' || c == '~' then
      let n := 1 + (rest.takeWhile (· == c)).length
      let after := rest.drop (n - 1)
      let run := Run.between c n previous after.head?
      if (run.canOpen || run.canClose) && (c != '~' || n ≤ 2) then (s.append [.run run], c, after)
      else (s.text (List.replicate n c), c, after)
    else s.readPlain (c :: rest)

/-- Read pieces, at most as many as the bound. -/
def Scan.readPieces (labels : Labels) : Nat → Option Char → Scan → List Char → Scan
  | 0, _, s, _ => s
  | _, _, s, [] => s
  | bound + 1, previous, s, c :: rest =>
    let (s, last, after) := s.readPiece labels previous c rest
    readPieces labels bound (some last) s after

/-- The parts of a text. -/
def readInlines (labels : Labels) (cs : List Char) : List Inline :=
  resolve ((Scan.readPieces labels cs.length none ⟨[], []⟩ cs).pieces)

end StaticSite.Markdown
