/-
Positions in template text.

An offset counts bytes of UTF-8; lines and columns are counted from one, columns in characters.
`Position.locate` gives the line and column of an offset: an offset beyond the end stands for the
end, and inside a character the column counts bytes of the line.
-/

namespace StaticSite.Template

/-- A place in a text. -/
structure Position where
  /-- Bytes from the start. -/
  offset : Nat
  /-- The line, from one. -/
  line : Nat
  /-- The column, from one. -/
  column : Nat
  deriving Repr, DecidableEq

/-- The number of bytes of a text. -/
def byteLength (cs : List Char) : Nat := cs.foldr (fun c n => c.utf8Size + n) 0

/-- Line and column as errors show them. -/
def Position.text (p : Position) : String := toString p.line ++ ":" ++ toString p.column

/-- The position of a byte offset, given the place that has been reached and the text after it. -/
def Position.scan (target offset line lineStart column : Nat) : List Char → Position
  | [] => ⟨offset, line, column⟩
  | c :: rest =>
    if target ≤ offset then ⟨target, line, column⟩
    else if target < offset + c.utf8Size then ⟨target, line, target - lineStart + 1⟩
    else if c = '\n' then Position.scan target (offset + 1) (line + 1) (offset + 1) 1 rest
    else Position.scan target (offset + c.utf8Size) line lineStart (column + 1) rest

/-- The position of a byte offset in a text. -/
def Position.locate (source : List Char) (offset : Nat) : Position :=
  Position.scan offset 0 1 0 1 source

@[simp] theorem byteLength_nil : byteLength [] = 0 := rfl

@[simp] theorem byteLength_cons (c : Char) (cs : List Char) :
    byteLength (c :: cs) = c.utf8Size + byteLength cs := by
  simp [byteLength]

@[simp] theorem byteLength_append (cs ds : List Char) :
    byteLength (cs ++ ds) = byteLength cs + byteLength ds := by
  induction cs with
  | nil => simp
  | cons c cs ih => rw [List.cons_append, byteLength_cons, byteLength_cons, ih, Nat.add_assoc]

theorem utf8Size_of_eq_feed {c : Char} (h : c = '\n') : c.utf8Size = 1 := by
  rw [h]
  rfl

/-- The position of an offset has this offset, unless it lies beyond the end. -/
theorem Position.offset_scan (cs : List Char) {target offset : Nat} (h : offset ≤ target)
    (line lineStart column : Nat) :
    (Position.scan target offset line lineStart column cs).offset =
      min target (offset + byteLength cs) := by
  induction cs generalizing offset line lineStart column with
  | nil =>
      rw [byteLength_nil, Nat.add_zero, Nat.min_eq_right h]
      rfl
  | cons c rest ih =>
      rw [Position.scan, byteLength_cons]
      split
      · rw [Nat.min_eq_left (by omega)]
      · split
        · rw [Nat.min_eq_left (by omega)]
        · split
          · rename_i hc
            rw [ih (by omega), utf8Size_of_eq_feed hc, Nat.add_assoc]
          · rw [ih (by omega), Nat.add_assoc]

theorem Position.offset_locate {source : List Char} {offset : Nat}
    (h : offset ≤ byteLength source) : (Position.locate source offset).offset = offset := by
  rw [Position.locate, Position.offset_scan source (Nat.zero_le offset), Nat.zero_add,
    Nat.min_eq_left h]

end StaticSite.Template
