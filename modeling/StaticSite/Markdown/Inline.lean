/-
The parts of a text: what it is made of, and how emphasis is found.

A text is first cut into pieces, of which some are runs of the marks of emphasis.  `resolve` turns
them into parts: a run that can close is matched with the nearest run before it that can open, as
long as there is one.  Marks without a match are text.
-/
import StaticSite.Markdown.Event

namespace StaticSite.Markdown

/-- A part of a text. -/
inductive Inline where
  | text (cs : List Char)
  | code (cs : List Char)
  | html (cs : List Char)
  | softBreak
  | hardBreak
  | footnoteReference (label : List Char)
  | emphasis (inner : List Inline)
  | strong (inner : List Inline)
  | strikethrough (inner : List Inline)
  | link (target : Target) (inner : List Inline)
  | image (target : Target) (inner : List Inline)

/-- Equal marks of emphasis one after the other. -/
structure Run where
  mark : Char
  length : Nat
  canOpen : Bool
  canClose : Bool
  deriving Repr, DecidableEq

/-- A piece of a text. -/
inductive Piece where
  | part (i : Inline)
  | run (r : Run)

/-- A run that has opened and not been closed, with the parts after it, the last one first. -/
structure OpenRun where
  run : Run
  /-- Marks that have no match. -/
  left : Nat
  inner : List Inline

/-- The parts so far: those in open runs, the innermost one first, and those before. -/
structure Emphasis where
  opened : List OpenRun
  before : List Inline

namespace Emphasis

/-- Put parts at the end, given with the last one first. -/
def append (e : Emphasis) (parts : List Inline) : Emphasis :=
  match e.opened with
  | o :: opened => { e with opened := { o with inner := parts ++ o.inner } :: opened }
  | [] => { e with before := parts ++ e.before }

/-- Marks as text, unless there are none. -/
def marks (c : Char) (n : Nat) : List Inline :=
  if n = 0 then [] else [.text (List.replicate n c)]

/-- The innermost open run becomes text. -/
def giveUp (e : Emphasis) : Emphasis :=
  match e.opened with
  | o :: opened => { e with opened }.append (o.inner ++ marks o.run.mark o.left)
  | [] => e

/-- Does a closing run match an open one?  If one of them could be either, their lengths must not
add up to a multiple of three, unless both are multiples. -/
def isMatch (r : Run) (o : OpenRun) : Bool :=
  let eitherIsBoth := r.canOpen || (o.run.canOpen && o.run.canClose)
  o.run.mark == r.mark && (r.mark != '~' || r.length == o.run.length) &&
    (!eitherIsBoth || (r.length + o.run.length) % 3 != 0 || r.length % 3 == 0)

/-- The parts between matched marks: pairs of marks are strong and are innermost, a single one is
emphasis. -/
def wrap (mark : Char) : Nat → List Inline → List Inline
  | 0, inner => inner
  | 1, inner => [if mark = '~' then .strikethrough inner else .emphasis inner]
  | n + 2, inner =>
    wrap mark n [if mark = '~' then .strikethrough inner else .strong inner]

/-- Match marks of a closing run as long as there is an open run for them; the number of marks that
are left. -/
def close (r : Run) : Nat → Emphasis → Emphasis × Nat
  | 0, e => (e, 0)
  | left + 1, e =>
    match e.opened.findIdx? (isMatch r) with
    | none => (e, left + 1)
    | some i =>
      let e := (List.range i).foldl (fun e _ => e.giveUp) e
      match e.opened with
      | [] => (e, left + 1)
      | o :: opened =>
        let taken := min (left + 1) o.left
        let parts := wrap r.mark taken o.inner.reverse
        if taken = 0 then (e, left + 1)
        else if taken < o.left then
          ({ e with opened := { o with left := o.left - taken, inner := parts } :: opened },
            0)
        else close r (left + 1 - taken) ({ e with opened }.append parts)
  termination_by left => left
  decreasing_by exact Nat.sub_lt (Nat.succ_pos left) (Nat.pos_of_ne_zero (by assumption))

/-- Take one more piece. -/
def take (e : Emphasis) : Piece → Emphasis
  | .part i => e.append [i]
  | .run r =>
    let (e, left) := if r.canClose then close r r.length e else (e, r.length)
    if left = 0 then e
    else if r.canOpen then { e with opened := ⟨r, left, []⟩ :: e.opened }
    else e.append (marks r.mark left)

/-- The parts when there is nothing more to come. -/
def parts (e : Emphasis) : List Inline :=
  ((List.range e.opened.length).foldl (fun e _ => e.giveUp) e).before.reverse

end Emphasis

/-- The parts that pieces make up. -/
def resolve (pieces : List Piece) : List Inline :=
  (pieces.foldl Emphasis.take ⟨[], []⟩).parts

/-! ## Events -/

mutual

/-- The events of a part. -/
def Inline.events : Inline → List Event
  | .text cs => [.text (String.ofList cs)]
  | .code cs => [.code (String.ofList cs)]
  | .html cs => [.inlineHtml (String.ofList cs)]
  | .softBreak => [.softBreak]
  | .hardBreak => [.hardBreak]
  | .footnoteReference label => [.footnoteReference (String.ofList label)]
  | .emphasis inner => Event.within .emphasis (eventsOfParts inner)
  | .strong inner => Event.within .strong (eventsOfParts inner)
  | .strikethrough inner => Event.within .strikethrough (eventsOfParts inner)
  | .link target inner => Event.within (.link target) (eventsOfParts inner)
  | .image target inner => Event.within (.image target) (eventsOfParts inner)

/-- The events of parts. -/
def eventsOfParts : List Inline → List Event
  | [] => []
  | i :: rest => i.events ++ eventsOfParts rest

end

end StaticSite.Markdown
