/-
Cutting a template by byte offsets.

`scan` walks over the bytes of a text with an index and takes the pieces of the text between two
offsets (`slice`), which fails where an offset lies beyond the end or inside a character.  Within
quotation marks it skips one byte after a backslash, whatever the byte is.

Beside the definitions stand the facts about offsets that let `scan` end, and what the bytes of a
character are: one for a character of ASCII, and otherwise some that are all 128 or more.
-/
import StaticSite.Proofs.Template.Lexemes
import StaticSite.Proofs.Text.Order

namespace StaticSite.Template

/-! ## Text between offsets -/

/-- The text after a number of bytes, if they are those of whole characters. -/
def dropBytes? : Nat → List Char → Option (List Char)
  | 0, cs => some cs
  | _ + 1, [] => none
  | n + 1, c :: cs => if c.utf8Size ≤ n + 1 then dropBytes? (n + 1 - c.utf8Size) cs else none

/-- The characters of a number of bytes, if they are whole ones. -/
def takeBytes? : Nat → List Char → Option (List Char)
  | 0, _ => some []
  | _ + 1, [] => none
  | n + 1, c :: cs =>
    if c.utf8Size ≤ n + 1 then (takeBytes? (n + 1 - c.utf8Size) cs).map (c :: ·) else none

/-- The text between two byte offsets; there is none if they are out of order, beyond the end or
inside a character. -/
def slice? (cs : List Char) (first last : Nat) : Option (List Char) :=
  if first ≤ last then (dropBytes? first cs).bind (takeBytes? (last - first)) else none

theorem dropBytes?_size_add (c : Char) (n : Nat) (cs : List Char) :
    dropBytes? (c.utf8Size + n) (c :: cs) = dropBytes? n cs := by
  obtain ⟨m, hm⟩ : ∃ m, c.utf8Size + n = m + 1 :=
    Nat.exists_eq_succ_of_ne_zero (Nat.add_pos_left c.utf8Size_pos n).ne'
  rw [hm, dropBytes?, if_pos (by omega), ← hm, Nat.add_sub_cancel_left]

theorem takeBytes?_size_add (c : Char) (n : Nat) (cs : List Char) :
    takeBytes? (c.utf8Size + n) (c :: cs) = (takeBytes? n cs).map (c :: ·) := by
  obtain ⟨m, hm⟩ : ∃ m, c.utf8Size + n = m + 1 :=
    Nat.exists_eq_succ_of_ne_zero (Nat.add_pos_left c.utf8Size_pos n).ne'
  rw [hm, takeBytes?, if_pos (by omega), ← hm, Nat.add_sub_cancel_left]

theorem dropBytes?_append (before rest : List Char) :
    dropBytes? (byteLength before) (before ++ rest) = some rest := by
  induction before with
  | nil =>
      show dropBytes? 0 rest = some rest
      rw [dropBytes?]
  | cons c before ih => rw [byteLength_cons, List.cons_append, dropBytes?_size_add, ih]

theorem takeBytes?_append (piece rest : List Char) :
    takeBytes? (byteLength piece) (piece ++ rest) = some piece := by
  induction piece with
  | nil =>
      show takeBytes? 0 rest = some []
      rw [takeBytes?]
  | cons c piece ih =>
      rw [byteLength_cons, List.cons_append, takeBytes?_size_add, ih]
      rfl

/-- A part of a text lies between its offsets. -/
theorem slice?_append (before piece after : List Char) :
    slice? (before ++ (piece ++ after)) (byteLength before) (byteLength before + byteLength piece) =
      some piece := by
  rw [slice?, if_pos (Nat.le_add_right _ _), dropBytes?_append, Nat.add_sub_cancel_left]
  exact takeBytes?_append piece after

theorem eq_append_of_dropBytes? {n : Nat} {cs rest : List Char} (h : dropBytes? n cs = some rest) :
    ∃ before, cs = before ++ rest ∧ byteLength before = n := by
  fun_induction dropBytes? n cs with
  | case1 cs =>
      cases h
      exact ⟨[], rfl, rfl⟩
  | case2 => cases h
  | case3 n c cs hle ih =>
      obtain ⟨before, rfl, hbefore⟩ := ih h
      refine ⟨c :: before, rfl, ?_⟩
      rw [byteLength_cons, hbefore]
      omega
  | case4 => cases h

theorem eq_append_of_takeBytes? {n : Nat} {cs piece : List Char}
    (h : takeBytes? n cs = some piece) : ∃ after, cs = piece ++ after ∧ byteLength piece = n := by
  fun_induction takeBytes? n cs generalizing piece with
  | case1 cs =>
      cases h
      exact ⟨cs, rfl, rfl⟩
  | case2 => cases h
  | case3 n c cs hle ih =>
      obtain ⟨rest, hrest, rfl⟩ := Option.map_eq_some_iff.mp h
      obtain ⟨after, rfl, hafter⟩ := ih hrest
      refine ⟨after, rfl, ?_⟩
      rw [byteLength_cons, hafter]
      omega
  | case4 => cases h

/-- What lies between two offsets: the text is cut there into whole characters. -/
theorem slice?_eq_some {cs piece : List Char} {first last : Nat} :
    slice? cs first last = some piece ↔
      ∃ before after, cs = before ++ (piece ++ after) ∧ byteLength before = first ∧
        first + byteLength piece = last := by
  constructor
  · intro h
    unfold slice? at h
    split at h
    · obtain ⟨rest, hdrop, htake⟩ := Option.bind_eq_some_iff.mp h
      obtain ⟨before, rfl, hbefore⟩ := eq_append_of_dropBytes? hdrop
      obtain ⟨after, rfl, hpiece⟩ := eq_append_of_takeBytes? htake
      exact ⟨before, after, rfl, hbefore, by omega⟩
    · cases h
  · rintro ⟨before, after, rfl, rfl, rfl⟩
    exact slice?_append before piece after

/-! ## Scanning -/

/-- A token as a scan gives it, with the offsets of its ends. -/
inductive Span where
  | text (content : List Char) (start : Nat)
  | opener (name attributes : List Char) (selfClosing : Bool) (start stop : Nat)
  | closer (name : List Char) (start stop : Nat)
  deriving Repr, DecidableEq

namespace Span

/-- The offset at which the token begins. -/
def start : Span → Nat
  | text _ start => start
  | opener _ _ _ start _ => start
  | closer _ start _ => start

/-- The offset at which the token ends. -/
def stop : Span → Nat
  | text content start => start + byteLength content
  | opener _ _ _ _ stop => stop
  | closer _ _ stop => stop

end Span

/-- Why a scan gives no tokens. -/
inductive ScanFault where
  /-- A part of the text was asked for whose offsets bound none. -/
  | badSlice (first last : Nat)
  | lexical (e : LexError)
  deriving Repr, DecidableEq

/-- Is the byte an ASCII character of the class? -/
def byteIs (p : Char → Bool) (b : UInt8) : Bool := b.toNat < 128 && p (Char.ofNat b.toNat)

/-- Is there a byte at the offset, and is it an ASCII character of the class? -/
def byteAtIs (p : Char → Bool) (bytes : List UInt8) (i : Nat) : Bool := bytes[i]?.any (byteIs p)

theorem lt_length_of_byteAtIs {p : Char → Bool} {bytes : List UInt8} {i : Nat}
    (h : byteAtIs p bytes i = true) : i < bytes.length := by
  obtain ⟨b, hb, -⟩ := (Option.any_eq_true _ _).mp h
  exact (List.getElem?_eq_some_iff.mp hb).1

/-- The first offset from another one on at which there is no ASCII character of the class. -/
def stretchEnd (p : Char → Bool) (bytes : List UInt8) (i : Nat) : Nat :=
  if _h : byteAtIs p bytes i = true then stretchEnd p bytes (i + 1) else i
termination_by bytes.length - i
decreasing_by
  have hi := lt_length_of_byteAtIs _h
  omega

/-- The offset at which the tag name ends that begins at an offset. -/
def nameEnd? (bytes : List UInt8) (i : Nat) : Option Nat :=
  if byteAtIs Char.isAlpha bytes i then some (stretchEnd isNameChar bytes (i + 1)) else none

/-- The offset of the brace that closes a tag; without one, whether a quotation mark is open. -/
def closingBrace (bytes : List UInt8) (quote : Option UInt8) (i : Nat) : Except Bool Nat :=
  match _h : bytes[i]? with
  | none => .error quote.isSome
  | some b =>
    match quote with
    | some q =>
      if byteIs (· == '\\') b then closingBrace bytes (some q) (i + 2)
      else if b = q then closingBrace bytes none (i + 1)
      else closingBrace bytes (some q) (i + 1)
    | none =>
      if byteIs isQuote b then closingBrace bytes (some b) (i + 1)
      else if byteIs (· == '\x7d') b then .ok i
      else closingBrace bytes none (i + 1)
termination_by bytes.length - i
decreasing_by
  all_goals
    have hi := (List.getElem?_eq_some_iff.mp _h).1
    omega

section Source

variable (source : String)

/-- The part of the source between two offsets. -/
def slice (first last : Nat) : Except ScanFault (List Char) :=
  match slice? source.toList first last with
  | some piece => .ok piece
  | none => .error (.badSlice first last)

/-- The rest of the opening tag at an offset whose name ends at another one. -/
def insideAt (start : Nat) (name : List Char) (nameStop : Nat) : Except ScanFault (Option Span) :=
  let fail (fault : String → LexFault) : Except ScanFault (Option Span) :=
    .error (.lexical ⟨start, fault (String.ofList name)⟩)
  match (Text.bytes source)[nameStop]? with
  | none => fail .unterminatedTag
  | some b =>
    if byteIs (fun c => c == '\x7d' || c == '/' || Text.isAsciiBlank c) b then
      match closingBrace (Text.bytes source) none nameStop with
      | .ok brace => do
        let inner ← slice source nameStop brace
        let (attributes, selfClosing) := cutClosingSlash (Text.trim inner)
        .ok (some (.opener name attributes selfClosing start (brace + 1)))
      | .error true => fail .unterminatedQuote
      | .error false => fail .unterminatedTag
    else fail .strayCharacter

/-- The opening tag at an offset, at which `{@` stands. -/
def openerAt (start : Nat) : Except ScanFault (Option Span) :=
  match nameEnd? (Text.bytes source) (start + 2) with
  | none => .ok none
  | some nameStop => do
    let name ← slice source (start + 2) nameStop
    insideAt source start name nameStop

/-- The closing tag at an offset, at which `{/` stands. -/
def closerAt (start : Nat) : Except ScanFault (Option Span) :=
  match nameEnd? (Text.bytes source) (start + 2) with
  | none => .ok none
  | some nameStop =>
    let brace := stretchEnd Text.isAsciiBlank (Text.bytes source) nameStop
    if byteAtIs (· == '\x7d') (Text.bytes source) brace then do
      let name ← slice source (start + 2) nameStop
      .ok (some (.closer name start (brace + 1)))
    else .ok none

/-- The tag at the offset of a brace, if one begins there. -/
def tagAt (start : Nat) : Except ScanFault (Option Span) :=
  if byteAtIs (· == '@') (Text.bytes source) (start + 1) then openerAt source start
  else if byteAtIs (· == '/') (Text.bytes source) (start + 1) then closerAt source start
  else .ok none

/-- The text between two offsets as a token, unless it is empty. -/
def textBetween (first last : Nat) : Except ScanFault (List Span) :=
  if first < last then do
    let content ← slice source first last
    .ok [.text content first]
  else .ok []

end Source

/-! ### The offsets of what is found -/

theorem le_stretchEnd (p : Char → Bool) (bytes : List UInt8) (i : Nat) :
    i ≤ stretchEnd p bytes i := by
  fun_induction stretchEnd p bytes i with
  | case1 i _ ih => omega
  | case2 i _ => exact Nat.le_refl i

theorem le_of_nameEnd? {bytes : List UInt8} {i stop : Nat} (h : nameEnd? bytes i = some stop) :
    i ≤ stop := by
  unfold nameEnd? at h
  split at h
  · cases h
    have hle := le_stretchEnd isNameChar bytes (i + 1)
    omega
  · cases h

theorem le_of_closingBrace {bytes : List UInt8} {quote : Option UInt8} {i brace : Nat}
    (h : closingBrace bytes quote i = .ok brace) : i ≤ brace := by
  fun_induction closingBrace bytes quote i with
  | case1 => cases h
  | case2 i _ _ _ _ ih => exact Nat.le_trans (Nat.le_add_right i 2) (ih h)
  | case3 i _ _ _ ih => exact Nat.le_trans (Nat.le_add_right i 1) (ih h)
  | case4 i _ _ _ _ _ ih => exact Nat.le_trans (Nat.le_add_right i 1) (ih h)
  | case5 i _ _ _ ih => exact Nat.le_trans (Nat.le_add_right i 1) (ih h)
  | case6 i =>
      cases h
      exact Nat.le_refl _
  | case7 i _ _ _ _ ih => exact Nat.le_trans (Nat.le_add_right i 1) (ih h)

theorem lt_stop_of_insideAt {source : String} {start nameStop : Nat} {name : List Char}
    {span : Span} (hle : start < nameStop) (h : insideAt source start name nameStop = .ok (some span)) :
    start < span.stop := by
  unfold insideAt at h
  dsimp only at h
  split at h
  · cases h
  · split at h
    · split at h
      · rename_i brace hbrace
        obtain ⟨inner, -, h⟩ := Outcome.bind_eq_ok.mp h
        cases h
        have hle' := le_of_closingBrace hbrace
        show start < brace + 1
        omega
      · cases h
      · cases h
    · cases h

theorem lt_stop_of_openerAt {source : String} {start : Nat} {span : Span}
    (h : openerAt source start = .ok (some span)) : start < span.stop := by
  unfold openerAt at h
  split at h
  · cases h
  · rename_i nameStop hname
    obtain ⟨name, -, h⟩ := Outcome.bind_eq_ok.mp h
    have hle := le_of_nameEnd? hname
    exact lt_stop_of_insideAt (by omega) h

theorem lt_stop_of_closerAt {source : String} {start : Nat} {span : Span}
    (h : closerAt source start = .ok (some span)) : start < span.stop := by
  unfold closerAt at h
  dsimp only at h
  split at h
  · cases h
  · rename_i nameStop hname
    split at h
    · obtain ⟨name, -, h⟩ := Outcome.bind_eq_ok.mp h
      cases h
      have hle := le_of_nameEnd? hname
      have hle' := le_stretchEnd Text.isAsciiBlank (Text.bytes source) nameStop
      show start < stretchEnd Text.isAsciiBlank (Text.bytes source) nameStop + 1
      omega
    · cases h

/-- A tag ends behind the offset at which it begins. -/
theorem lt_stop_of_tagAt {source : String} {start : Nat} {span : Span}
    (h : tagAt source start = .ok (some span)) : start < span.stop := by
  unfold tagAt at h
  split at h
  · exact lt_stop_of_openerAt h
  · split at h
    · exact lt_stop_of_closerAt h
    · cases h

/-! ### All tags -/

/-- The tokens of the source from an offset on, given the offset at which the text before it
begins. -/
def scanFrom (source : String) (textStart i : Nat) : Except ScanFault (List Span) :=
  if _hi : i < (Text.bytes source).length then
    if byteAtIs (· == '\x7b') (Text.bytes source) i then
      match _h : tagAt source i with
      | .error fault => .error fault
      | .ok none => scanFrom source textStart (i + 1)
      | .ok (some span) => do
        let text ← textBetween source textStart i
        let rest ← scanFrom source span.stop span.stop
        .ok (text ++ span :: rest)
    else scanFrom source textStart (i + 1)
  else textBetween source textStart (Text.bytes source).length
termination_by (Text.bytes source).length - i
decreasing_by
  · omega
  · have hstop := lt_stop_of_tagAt _h
    omega
  · omega

/-- The tokens of a template, found by byte offsets. -/
def scan (source : String) : Except ScanFault (List Span) := scanFrom source 0 0

/-! ## Bytes of characters -/

/-- The byte of an ASCII character. -/
def byteOf (c : Char) : UInt8 := UInt8.ofNat c.toNat

theorem utf8EncodeChar_of_lt {c : Char} (h : c.toNat < 128) :
    String.utf8EncodeChar c = [byteOf c] := by
  have hv : c.val.toNat ≤ 127 := Nat.le_of_lt_succ h
  simp only [String.utf8EncodeChar, hv, if_true]
  rfl

/-- The bytes of a character that is not ASCII are none of ASCII. -/
theorem le_of_mem_utf8EncodeChar {c : Char} (h : 128 ≤ c.toNat) {b : UInt8}
    (hb : b ∈ String.utf8EncodeChar c) : 128 ≤ b.toNat := by
  have hv : ¬ c.val.toNat ≤ 127 := Nat.not_le_of_lt h
  simp only [String.utf8EncodeChar, hv, if_false] at hb
  split at hb
  · simp only [List.mem_cons, List.not_mem_nil, or_false] at hb
    rcases hb with rfl | rfl <;> simp <;> omega
  · split at hb
    · simp only [List.mem_cons, List.not_mem_nil, or_false] at hb
      rcases hb with rfl | rfl | rfl <;> simp <;> omega
    · simp only [List.mem_cons, List.not_mem_nil, or_false] at hb
      rcases hb with rfl | rfl | rfl | rfl <;> simp <;> omega

theorem toNat_byteOf {c : Char} (h : c.toNat < 128) : (byteOf c).toNat = c.toNat := by
  rw [byteOf, UInt8.toNat_ofNat', Nat.mod_eq_of_lt (by omega)]

theorem byteIs_byteOf {c : Char} (h : c.toNat < 128) (p : Char → Bool) :
    byteIs p (byteOf c) = p c := by
  rw [byteIs, toNat_byteOf h, Char.ofNat_toNat, decide_eq_true h, Bool.true_and]

theorem byteIs_of_le {b : UInt8} (h : 128 ≤ b.toNat) (p : Char → Bool) : byteIs p b = false := by
  rw [byteIs, decide_eq_false (Nat.not_lt_of_le h), Bool.false_and]

theorem byteOf_inj {c d : Char} (hc : c.toNat < 128) (hd : d.toNat < 128) :
    byteOf c = byteOf d ↔ c = d := by
  constructor
  · intro h
    have hnat := congrArg UInt8.toNat h
    rw [toNat_byteOf hc, toNat_byteOf hd] at hnat
    rw [← Char.ofNat_toNat c, hnat, Char.ofNat_toNat]
  · rintro rfl
    rfl

end StaticSite.Template
