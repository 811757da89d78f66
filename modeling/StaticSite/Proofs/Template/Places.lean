/-
Places of tags.

The position of an offset is a matter of the text before it: the line is one more than the line feeds
in it, and the column one more than the characters behind the last of them (`locate_append`).  Every
tag among the tokens of a text begins where its position says, with a brace and the sign of an
opening or a closing tag.  Main statement: a text cannot be cut into tokens just if some tag in it
cannot be read, and the error is that of the first such tag (`tokenize_eq_error`).
-/
import StaticSite.Proofs.Template.Tiling

namespace StaticSite.Template

/-! ## Lines and columns -/

/-- The characters behind the last line feed of a text. -/
def lastLine (before : List Char) : List Char := (before.reverse.takeWhile (· ≠ '\n')).reverse

/-- The position behind a text. -/
def Position.behind (before : List Char) : Position :=
  ⟨byteLength before, before.count '\n' + 1, (lastLine before).length + 1⟩

/-- The lines of a text before its last one, with their line feeds. -/
def earlierLines (before : List Char) : List Char :=
  (before.reverse.dropWhile (· ≠ '\n')).reverse

theorem earlierLines_append_lastLine (before : List Char) :
    earlierLines before ++ lastLine before = before := by
  rw [earlierLines, lastLine, ← List.reverse_append, List.takeWhile_append_dropWhile,
    List.reverse_reverse]

theorem lastLine_append_feed (before : List Char) : lastLine (before ++ ['\n']) = [] := by
  simp [lastLine]

theorem lastLine_append_char {c : Char} (h : c ≠ '\n') (before : List Char) :
    lastLine (before ++ [c]) = lastLine before ++ [c] := by
  simp [lastLine, h]

theorem earlierLines_append_feed (before : List Char) :
    earlierLines (before ++ ['\n']) = before ++ ['\n'] := by
  simp [earlierLines]

theorem earlierLines_append_char {c : Char} (h : c ≠ '\n') (before : List Char) :
    earlierLines (before ++ [c]) = earlierLines before := by
  simp [earlierLines, h]

/-- A search for a position keeps count of lines and columns on its way through a text.  The
induction is over the text that is still to be passed. -/
theorem Position.scan_append (passed before rest : List Char) {target : Nat}
    (h : byteLength (passed ++ before) ≤ target) :
    Position.scan target (byteLength passed) (passed.count '\n' + 1)
        (byteLength (earlierLines passed)) ((lastLine passed).length + 1) (before ++ rest) =
      Position.scan target (byteLength (passed ++ before)) ((passed ++ before).count '\n' + 1)
        (byteLength (earlierLines (passed ++ before)))
        ((lastLine (passed ++ before)).length + 1) rest := by
  induction before generalizing passed with
  | nil => rw [List.append_nil, List.nil_append]
  | cons c before ih =>
      have hsize := c.utf8Size_pos
      have hmore : passed ++ c :: before = passed ++ [c] ++ before := by simp
      have hlength : byteLength (passed ++ [c]) = byteLength passed + c.utf8Size := by simp
      have hle : byteLength (passed ++ [c]) ≤ target := by
        rw [hmore, byteLength_append _ before] at h
        exact (Nat.le_add_right _ _).trans h
      have hnext := ih (passed ++ [c]) (hmore ▸ h)
      rw [hmore, ← hnext, List.cons_append, Position.scan, if_neg (by omega), if_neg (by omega)]
      by_cases hc : c = '\n'
      · subst hc
        rw [if_pos rfl, lastLine_append_feed, earlierLines_append_feed, List.count_append, hlength]
        rfl
      · rw [if_neg hc, lastLine_append_char hc, earlierLines_append_char hc, List.count_append,
          List.count_singleton, if_neg (by simpa using hc), Nat.add_zero, hlength,
          List.length_append]
        rfl

/-- The position of an offset is the one behind the text before the offset. -/
theorem Position.locate_append (before rest : List Char) :
    Position.locate (before ++ rest) (byteLength before) = Position.behind before := by
  refine (Position.scan_append [] before rest (Nat.le_refl _)).trans ?_
  cases rest with
  | nil => rfl
  | cons c rest =>
      rw [Position.scan, if_pos (Nat.le_refl _)]
      rfl

/-- A tag begins in the text behind its first part: there stands a brace before the sign of an
opening or a closing tag. -/
def HasTagBehind (source before : List Char) : Prop :=
  ∃ c rest, source = before ++ '\x7b' :: c :: rest ∧ (c = '@' ∨ c = '/')

/-- A tag begins in the text at the position. -/
def IsTagPlace (source : List Char) (p : Position) : Prop :=
  ∃ before, HasTagBehind source before ∧ p = Position.behind before

/-- A tag of a part of a text is a tag of the text. -/
theorem HasTagBehind.within {part before : List Char} (h : HasTagBehind part before)
    (front back : List Char) : HasTagBehind (front ++ (part ++ back)) (front ++ before) := by
  obtain ⟨c, rest, rfl, hc⟩ := h
  exact ⟨c, rest ++ back, by simp, hc⟩

/-- Positions in a part of a text are positions in the text only if the part stands at its
beginning. -/
theorem Position.behind_eq_append_iff {front before : List Char} :
    Position.behind before = Position.behind (front ++ before) ↔ front = [] := by
  constructor
  · intro h
    have hoffset : byteLength before = byteLength (front ++ before) := congrArg Position.offset h
    cases front with
    | nil => rfl
    | cons c front =>
        have hsize := c.utf8Size_pos
        rw [byteLength_append, byteLength_cons] at hoffset
        omega
  · rintro rfl
    rfl

/-! ## Tags among tokens -/

/-- A tag is written with a brace and its sign first. -/
theorem Lexeme.exists_sign {lexeme : Lexeme} (h : lexeme.isTag = true) :
    ∃ c rest, lexeme.source = '\x7b' :: c :: rest ∧ (c = '@' ∨ c = '/') := by
  cases lexeme with
  | text content => cases h
  | opener name inner => exact ⟨'@', _, rfl, .inl rfl⟩
  | closer name blanks => exact ⟨'/', _, rfl, .inr rfl⟩

/-- A tag among the tokens of a text begins where its position says. -/
theorem isTagPlace_of_mem {source : String} {tokens : List Token} {t : Token}
    (h : tokenize source = .ok tokens) (ht : t ∈ tokens) (htag : t.lexeme.isTag = true) :
    IsTagPlace source.toList (Position.locate source.toList t.start) := by
  obtain ⟨lexemes, -, hsource, rfl⟩ := tokenizeFrom_eq_ok.mp h
  obtain ⟨before, after, hpieces, hstart⟩ := exists_of_mem_placed ht
  obtain ⟨c, rest, htext, hc⟩ := Lexeme.exists_sign htag
  rw [Nat.zero_add] at hstart
  have hall : source.toList = before ++ '\x7b' :: c :: (rest ++ after) := by
    rw [← hsource, hpieces, htext]
    rfl
  refine ⟨before, ⟨c, rest ++ after, hall, hc⟩, ?_⟩
  rw [hall, ← hstart]
  exact Position.locate_append before _

/-! ## Tags that cannot be read -/

/-- Only an opening tag can fail to be read. -/
theorem exists_sign_of_readTag {cs : List Char} {fault : LexFault} (h : readTag cs = .error fault) :
    ∃ rest, cs = '\x7b' :: '@' :: rest := by
  unfold readTag at h
  split at h
  · rename_i b c rest
    split at h
    · rename_i hopen
      obtain ⟨rfl, rfl⟩ := hopen
      exact ⟨rest, rfl⟩
    · split at h <;> cases h
  · cases h

/-- The first tag of a text that cannot be read is the one at the offset: everything before it is cut
into separate pieces. -/
def IsFirstUnreadable (source : List Char) (e : LexError) : Prop :=
  ∃ lexemes rest, source = sourceOf lexemes ++ rest ∧ Separate lexemes ∧
    readTag rest = .error e.fault ∧ e.offset = byteLength (sourceOf lexemes)

theorem beginsWithBrace_of_readTag {cs : List Char} {fault : LexFault}
    (h : readTag cs = .error fault) : BeginsWithBrace cs := by
  obtain ⟨rest, rfl⟩ := exists_sign_of_readTag h
  intro c hc
  cases hc
  rfl

/-- Plain text before a tag that cannot be read does not keep the error from being found. -/
theorem tokenizeFrom_plain_error {offset : Nat} {cs tail : List Char} {e : LexError}
    (hplain : IsPlain cs) (htail : BeginsWithBrace tail)
    (h : tokenizeFrom (offset + byteLength cs) tail = .error e) :
    tokenizeFrom offset (cs ++ tail) = .error e := by
  induction cs generalizing offset with
  | nil => exact h
  | cons c rest ih =>
      rw [byteLength_cons, ← Nat.add_assoc] at h
      rw [List.cons_append, tokenizeFrom_char (readTag_append_eq_none hplain.1 htail),
        Outcome.map_eq_error]
      exact ih hplain.2 h

/-- Separate pieces are passed on the way to a tag that cannot be read. -/
theorem tokenizeFrom_sourceOf_error {lexemes : List Lexeme} (hsep : Separate lexemes)
    {rest : List Char} {fault : LexFault} (hread : readTag rest = .error fault) (offset : Nat) :
    tokenizeFrom offset (sourceOf lexemes ++ rest) =
      .error ⟨offset + byteLength (sourceOf lexemes), fault⟩ := by
  induction hsep generalizing offset with
  | nil =>
      obtain ⟨tail, rfl⟩ := exists_sign_of_readTag hread
      exact tokenizeFrom_fault hread
  | @text content lexemes _ hplain hnext _ ih =>
      have htail : BeginsWithBrace (sourceOf lexemes ++ rest) := by
        cases lexemes with
        | nil => exact beginsWithBrace_of_readTag hread
        | cons l ls =>
            obtain ⟨tail, htail⟩ := Lexeme.source_of_isTag (hnext l rfl)
            intro c hc
            rw [sourceOf_cons, htail] at hc
            cases hc
            rfl
      rw [sourceOf_cons, byteLength_append, ← Nat.add_assoc, List.append_assoc]
      exact tokenizeFrom_plain_error hplain htail (ih _)
  | @tag lexeme lexemes htag _ ih =>
      rw [sourceOf_cons, byteLength_append, ← Nat.add_assoc, List.append_assoc,
        tokenizeFrom_tag (htag _), Outcome.map_eq_error]
      exact ih _

/-- Where cutting a text into tokens fails, the text before is cut into separate pieces. -/
theorem exists_separate_of_tokenizeFrom_error {offset : Nat} {cs : List Char} {e : LexError}
    (h : tokenizeFrom offset cs = .error e) :
    ∃ lexemes rest, cs = sourceOf lexemes ++ rest ∧ Separate lexemes ∧
      readTag rest = .error e.fault ∧ e.offset = offset + byteLength (sourceOf lexemes) := by
  fun_induction tokenizeFrom offset cs with
  | case1 => cases h
  | case2 offset c rest fault hread =>
      cases h
      exact ⟨[], c :: rest, rfl, .nil, hread, rfl⟩
  | case3 offset c rest lexeme after hread ih =>
      obtain ⟨lexemes, tail, rfl, hsep, hfault, hoffset⟩ := ih (Outcome.map_eq_error.mp h)
      refine ⟨lexeme :: lexemes, tail, ?_, .tag (readTag_before hread) hsep, hfault, ?_⟩
      · rw [sourceOf_cons, List.append_assoc]
        exact readTag_source hread
      · rw [sourceOf_cons, byteLength_append, ← Nat.add_assoc]
        exact hoffset
  | case4 offset c rest hread ih =>
      obtain ⟨lexemes, tail, rfl, hsep, hfault, hoffset⟩ := ih (Outcome.map_eq_error.mp h)
      have hchar : readTag (c :: sourceOf lexemes) = .ok none :=
        readTag_of_append_eq_none hread (beginsWithBrace_of_readTag hfault)
      obtain ⟨ls, hls, hsource, -⟩ := @Separate.exists_pushChar c offset lexemes hsep hchar
      refine ⟨ls, tail, ?_, hls, hfault, ?_⟩
      · rw [hsource]
        rfl
      · rw [hsource, byteLength_cons, ← Nat.add_assoc]
        exact hoffset

/-- A text cannot be cut into tokens just if some tag cannot be read, and then the first such tag is
the one at fault. -/
theorem tokenize_eq_error {source : String} {e : LexError} :
    tokenize source = .error e ↔ IsFirstUnreadable source.toList e := by
  constructor
  · intro h
    obtain ⟨lexemes, rest, hsource, hsep, hfault, hoffset⟩ :=
      exists_separate_of_tokenizeFrom_error h
    rw [Nat.zero_add] at hoffset
    exact ⟨lexemes, rest, hsource, hsep, hfault, hoffset⟩
  · obtain ⟨offset, fault⟩ := e
    rintro ⟨lexemes, rest, hsource, hsep, hfault, rfl⟩
    have hcut := tokenizeFrom_sourceOf_error hsep hfault 0
    rw [Nat.zero_add] at hcut
    rw [tokenize, hsource]
    exact hcut

/-- The tag that cannot be read begins at the offset. -/
theorem IsFirstUnreadable.isTagPlace {source : List Char} {e : LexError}
    (h : IsFirstUnreadable source e) : IsTagPlace source (Position.locate source e.offset) := by
  obtain ⟨lexemes, rest, rfl, -, hfault, hoffset⟩ := h
  obtain ⟨tail, rfl⟩ := exists_sign_of_readTag hfault
  refine ⟨sourceOf lexemes, ⟨'@', tail, rfl, .inl rfl⟩, ?_⟩
  rw [hoffset]
  exact Position.locate_append _ _

end StaticSite.Template
