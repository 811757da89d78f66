/-
Blocks of a document.

A block holds blocks or text; the text of paragraphs, headings and cells is not read any further
here.
-/
import StaticSite.Markdown.Event

namespace StaticSite.Markdown

/-- A block. -/
inductive Block where
  /-- A paragraph; if it begins an item with a task, it shows its state. -/
  | paragraph (task : Option Bool) (text : List Char)
  /-- The state of a task that has no paragraph. -/
  | task (checked : Bool)
  | heading (h : Heading) (text : List Char)
  | rule
  /-- Code, with the info text of its fence if it is fenced. -/
  | code (info : Option (List Char)) (text : List Char)
  /-- Pieces of markup, each after the number of spaces in front of it. -/
  | html (pieces : List (Nat × List Char))
  | table (alignments : List Alignment) (head : List (List Char)) (rows : List (List (List Char)))
  | quote (inner : List Block)
  /-- A list of items; the paragraphs of a tight one are shown as bare text. -/
  | list (first : Option Nat) (tight : Bool) (items : List Block)
  | item (inner : List Block)
  | footnote (label : List Char) (inner : List Block)

/-! ## Blocks that are open -/

/-- What holds the blocks that are being read. -/
inductive Container where
  | quote
  /-- A list with the mark and the first number of its items. -/
  | list (mark : Char) (first : Option Nat) (tight : Bool)
  /-- An item whose lines are indented; there may be nothing but its marker on the first one. -/
  | item (indent : Nat) (startsBlank : Bool)
  | footnote (label : List Char)
  deriving Repr, DecidableEq

/-- A container with the blocks that it has so far, the last one first. -/
structure Frame where
  container : Container
  blocks : List Block

/-- The block that a frame becomes. -/
def Frame.block (f : Frame) : Block :=
  match f.container with
  | .quote => .quote f.blocks.reverse
  | .list _ first tight => .list first tight f.blocks.reverse
  | .item _ _ => .item f.blocks.reverse
  | .footnote label => .footnote label f.blocks.reverse

/-- Open containers with their blocks, the innermost one first, and the blocks outside of them, the
last one first. -/
structure Nest where
  frames : List Frame
  outer : List Block

namespace Nest

/-- Nothing has been read. -/
def empty : Nest := ⟨[], []⟩

/-- Put a block at the end. -/
def add (n : Nest) (b : Block) : Nest :=
  match n.frames with
  | f :: frames => { n with frames := { f with blocks := b :: f.blocks } :: frames }
  | [] => { n with outer := b :: n.outer }

/-- Open a container. -/
def enter (n : Nest) (c : Container) : Nest := { n with frames := ⟨c, []⟩ :: n.frames }

/-- The innermost container. -/
def innermost? (n : Nest) : Option Container := n.frames.head?.map (·.container)

/-- Close the innermost container. -/
def leave (n : Nest) : Nest :=
  match n.frames with
  | f :: frames => add ⟨frames, n.outer⟩ f.block
  | [] => n

/-- Close containers until a number of them is open. -/
def leaveTo (count : Nat) (n : Nest) : Nest :=
  (List.range (n.frames.length - count)).foldl (fun n _ => n.leave) n

/-- The blocks, with all containers closed. -/
def blocks (n : Nest) : List Block := (n.leaveTo 0).outer.reverse

@[simp] theorem length_frames_add (n : Nest) (b : Block) :
    (n.add b).frames.length = n.frames.length := by
  unfold add
  split
  · rename_i h; simp [h]
  · rfl

@[simp] theorem length_frames_leave (n : Nest) :
    n.leave.frames.length = n.frames.length - 1 := by
  unfold leave
  split
  · rename_i h; simp [h]
  · rename_i h; simp [h]

/-- As many containers are left open as asked for, if there were so many. -/
theorem length_frames_leaveTo (count : Nat) (n : Nest) :
    (n.leaveTo count).frames.length = min n.frames.length count := by
  have fold (k : Nat) (n : Nest) :
      ((List.range k).foldl (fun n _ => n.leave) n).frames.length = n.frames.length - k := by
    induction k generalizing n with
    | zero => simp
    | succ k ih =>
      rw [List.range_succ, List.foldl_append]
      simp only [List.foldl_cons, List.foldl_nil, length_frames_leave, ih]
      omega
  rw [leaveTo, fold]
  omega

/-- All containers are closed at the end. -/
theorem frames_leaveTo_zero (n : Nest) : (n.leaveTo 0).frames = [] := by
  apply List.eq_nil_of_length_eq_zero
  rw [length_frames_leaveTo]
  omega

end Nest

end StaticSite.Markdown
