/-
Patterns of names and paths.

In a pattern `?` stands for one character, `*` for any run of characters, `[...]` for one of a class
and `[!...]` for one outside of it; none of these matches a slash.  `**` stands for whole folders:
it must be a component of its own, and matches nothing or any text that ends in a slash, or the rest
of the text where the pattern ends.  `Glob.compile` refuses other patterns and says where.
-/
import StaticSite.Outcome
import StaticSite.Text.Split

namespace StaticSite

/-- A range of code points. -/
structure CharRange where
  first : Char
  last : Char
  deriving Repr, DecidableEq

/-- Does the range hold the character? -/
def CharRange.holds (r : CharRange) (c : Char) : Bool := r.first ≤ c && c ≤ r.last

/-- A part of a pattern. -/
inductive GlobPart where
  /-- The character itself. -/
  | char (c : Char)
  /-- One character. -/
  | one
  /-- Any run of characters. -/
  | run
  /-- Any number of folders. -/
  | folders
  /-- One character of a class, or outside of it. -/
  | oneOf (negated : Bool) (ranges : List CharRange)
  deriving Repr, DecidableEq

/-- Does a part that stands for one character match it? -/
def GlobPart.accepts (part : GlobPart) (c : Char) : Bool :=
  match part with
  | .char d => c == d
  | .one => c != '/'
  | .oneOf negated ranges => c != '/' && (ranges.any (·.holds c) != negated)
  | _ => false

/-- A pattern. -/
abbrev Glob := List GlobPart

/-- Why a text is no pattern. -/
inductive GlobFault where
  /-- More than two stars. -/
  | wildcards
  /-- Two stars that are no component of their own. -/
  | recursiveWildcards
  /-- A class without an end. -/
  | unclosedRange
  deriving Repr, DecidableEq

/-- The text of a fault. -/
def GlobFault.message : GlobFault → String
  | wildcards => "wildcards are either regular \x60*\x60 or recursive \x60**\x60"
  | recursiveWildcards => "recursive wildcards must form a single path component"
  | unclosedRange => "invalid range pattern"

/-- A fault with its place, in characters from zero. -/
structure GlobError where
  position : Nat
  fault : GlobFault
  deriving Repr, DecidableEq

/-- The text of an error. -/
def GlobError.message (e : GlobError) : String :=
  "Pattern syntax error near position " ++ toString e.position ++ ": " ++ e.fault.message

namespace Glob

/-! ## Compiling -/

/-- The ranges of a class: `x-y`, or a character alone. -/
def classRanges : List Char → List CharRange
  | a :: '-' :: b :: rest => ⟨a, b⟩ :: classRanges rest
  | a :: rest => ⟨a, a⟩ :: classRanges rest
  | [] => []

/-- The class whose opening bracket stands before a text, with what follows.  The character after
the bracket, or after a mark of negation, belongs to the class even if it is a closing bracket. -/
def readClass (cs : List Char) : Option (GlobPart × List Char) :=
  let closed (negated : Bool) : List Char → Option (GlobPart × List Char)
    | [] => none
    | first :: rest =>
      (Text.splitFirst ']' rest).map fun (inside, after) =>
        (.oneOf negated (classRanges (first :: inside)), after)
  match cs with
  | '!' :: rest => closed true rest
  | rest => closed false rest

/-- What two stars stand for, given the character before them and the text after them, with what
follows. -/
def readFolders (position : Nat) (before : Option Char) (cs : List Char) :
    Except GlobError (List Char) :=
  if before = none ∨ before = some '/' then
    match cs with
    | [] => .ok []
    | '/' :: rest => .ok rest
    | _ => .error ⟨position + 2, .recursiveWildcards⟩
  else .error ⟨position - 1, .recursiveWildcards⟩

/-- The part at the front of a text that is not empty, with what follows. -/
def readPart (position : Nat) (before : Option Char) (c : Char) (rest : List Char) :
    Except GlobError (GlobPart × List Char) :=
  if c = '?' then .ok (.one, rest)
  else if c = '*' then
    let stars := rest.takeWhile (· == '*')
    let after := rest.dropWhile (· == '*')
    match stars with
    | [] => .ok (.run, after)
    | [_] => (readFolders position before after).map fun after => (.folders, after)
    | _ => .error ⟨position + 2, .wildcards⟩
  else if c = '[' then
    match readClass rest with
    | some found => .ok found
    | none => .error ⟨position, .unclosedRange⟩
  else .ok (.char c, rest)

theorem readClass_length {cs after : List Char} {part : GlobPart}
    (h : readClass cs = some (part, after)) : after.length ≤ cs.length := by
  unfold readClass at h
  dsimp only at h
  split at h <;> split at h
  all_goals first
    | cases h
    | (simp only [Option.map_eq_some_iff] at h
       obtain ⟨⟨b, a⟩, h1, h2⟩ := h
       cases h2
       rw [Text.eq_append_of_splitFirst h1]
       simp only [List.length_append, List.length_cons]
       omega)

theorem readFolders_length {position : Nat} {before : Option Char} {cs after : List Char}
    (h : readFolders position before cs = .ok after) : after.length ≤ cs.length := by
  unfold readFolders at h
  split at h
  · split at h
    · cases h; simp
    · cases h; simp
    · cases h
  · cases h

theorem readPart_length {position : Nat} {before : Option Char} {c : Char}
    {rest after : List Char} {part : GlobPart}
    (h : readPart position before c rest = .ok (part, after)) : after.length ≤ rest.length := by
  have hstars := (List.dropWhile_sublist (l := rest) (· == '*')).length_le
  unfold readPart at h
  split at h
  · cases h; simp
  · split at h
    · dsimp only at h
      split at h
      · cases h; exact hstars
      · obtain ⟨tail, htail, h⟩ := Outcome.map_eq_ok.mp h
        cases h
        exact Nat.le_trans (readFolders_length htail) hstars
      · cases h
    · split at h
      · split at h
        · rename_i hc
          cases h
          exact readClass_length hc
        · cases h
      · cases h; simp

/-- The parts of a text that begins at a position and follows a character. -/
def compileFrom (position : Nat) (before : Option Char) (cs : List Char) :
    Except GlobError Glob :=
  match cs with
  | [] => .ok []
  | c :: rest =>
    match _h : readPart position before c rest with
    | .error e => .error e
    | .ok (part, after) =>
      let consumed := cs.length - after.length
      (compileFrom (position + consumed) (cs.take consumed).getLast? after).map (part :: ·)
termination_by cs.length
decreasing_by
  have := readPart_length ‹_›
  simp only [List.length_cons]; omega

/-- The pattern that a text stands for. -/
def compile (pattern : String) : Except GlobError Glob := compileFrom 0 none pattern.toList

/-! ## Matching -/

/-- Does the rest of a pattern match after some characters without a slash? -/
def afterRun (rest : List Char → Bool) : List Char → Bool
  | [] => rest []
  | c :: cs => rest (c :: cs) || (c != '/' && afterRun rest cs)

/-- Does the rest of a pattern match after some slash, or at the end of the text? -/
def afterFolders (rest : List Char → Bool) : List Char → Bool
  | [] => rest []
  | c :: cs => (c == '/' && rest cs) || afterFolders rest cs

/-- Does the pattern match the whole text? -/
def matchChars : Glob → List Char → Bool
  | [], cs => cs.isEmpty
  | .run :: parts, cs => afterRun (matchChars parts) cs
  | .folders :: parts, cs => matchChars parts cs || afterFolders (matchChars parts) cs
  | part :: parts, c :: cs => part.accepts c && matchChars parts cs
  | _ :: _, [] => false

/-- Does the pattern match the text? -/
def covers (glob : Glob) (text : String) : Bool := matchChars glob text.toList

end Glob

/-- A list of patterns. -/
structure Globs where
  globs : List Glob
  deriving Repr, DecidableEq

namespace Globs

/-- Compile patterns; the first that is none is the error. -/
def compile (patterns : List String) : Except GlobError Globs :=
  (patterns.mapM Glob.compile).map fun globs => ⟨globs⟩

/-- Does some pattern match the text? -/
def covers (set : Globs) (text : String) : Bool := set.globs.any (·.covers text)

end Globs

end StaticSite
