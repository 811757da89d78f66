/-
Reading bytes and reading characters.

`BytesFrom bytes i cs` says that the bytes from an offset on are those of the characters.  From there
each loop over bytes finds what the reader of characters finds: a stretch of characters of a class, a
name, the brace that closes a tag; and a tag found by its bytes is the one that is read (`tagAt_eq`).

A test on a byte is a test on the character that begins there, since the classes that are asked for
have ASCII characters only (`BytesFrom.exists_byte`).  Over a character that is not ASCII a loop goes
byte by byte, and none of the bytes changes anything (`BytesFrom.skip`).  A backslash in quotation
marks skips one byte, of which the rest of the character is then passed over as well
(`closingBrace_char_escaped`).
-/
import StaticSite.Proofs.Template.ByteScan

namespace StaticSite.Template

/-! ## Bytes from an offset on -/

/-- The bytes from the offset on are those of the text. -/
def BytesFrom (bytes : List UInt8) (i : Nat) (cs : List Char) : Prop :=
  bytes.drop i = cs.flatMap String.utf8EncodeChar

/-- The class has ASCII characters only. -/
def IsAscii (p : Char → Bool) : Prop := ∀ c, p c = true → c.toNat < 128

theorem IsAscii.eq_false {p : Char → Bool} (hp : IsAscii p) {c : Char} (hc : 128 ≤ c.toNat) :
    p c = false := by
  rw [← Bool.not_eq_true]
  intro h
  exact absurd (hp c h) (Nat.not_lt_of_le hc)

theorem length_flatMap_utf8EncodeChar (cs : List Char) :
    (cs.flatMap String.utf8EncodeChar).length = byteLength cs := by
  induction cs with
  | nil => rfl
  | cons c cs ih =>
      rw [List.flatMap_cons, List.length_append, ih, String.length_utf8EncodeChar, byteLength_cons]

theorem utf8Size_of_lt {c : Char} (hc : c.toNat < 128) : c.utf8Size = 1 := by
  rw [← String.length_utf8EncodeChar, utf8EncodeChar_of_lt hc]
  rfl

section Reading

variable {bytes : List UInt8} {i : Nat} {c : Char} {cs : List Char}

namespace BytesFrom

theorem getElem?_eq (h : BytesFrom bytes i cs) (k : Nat) :
    bytes[i + k]? = (cs.flatMap String.utf8EncodeChar)[k]? := by
  rw [← h, List.getElem?_drop]

theorem append {before : List Char} (h : BytesFrom bytes i (before ++ cs)) :
    BytesFrom bytes (i + byteLength before) cs := by
  unfold BytesFrom at h ⊢
  rw [← List.drop_drop, h, List.flatMap_append, ← length_flatMap_utf8EncodeChar, List.drop_left]

theorem tail (h : BytesFrom bytes i (c :: cs)) : BytesFrom bytes (i + c.utf8Size) cs := by
  have hone : byteLength [c] = c.utf8Size := by simp
  rw [← hone]
  have hcons : BytesFrom bytes i ([c] ++ cs) := h
  exact hcons.append

theorem getElem?_nil (h : BytesFrom bytes i []) : bytes[i]? = none := h.getElem?_eq 0

theorem getElem?_ascii (h : BytesFrom bytes i (c :: cs)) (hc : c.toNat < 128) :
    bytes[i]? = some (byteOf c) := by
  have hget := h.getElem?_eq 0
  rw [List.flatMap_cons, utf8EncodeChar_of_lt hc] at hget
  exact hget

theorem tail_ascii (h : BytesFrom bytes i (c :: cs)) (hc : c.toNat < 128) :
    BytesFrom bytes (i + 1) cs := by
  rw [← utf8Size_of_lt hc]
  exact h.tail

/-- Within a character that is not ASCII no byte is one of ASCII. -/
theorem getElem?_within (h : BytesFrom bytes i (c :: cs)) (hc : 128 ≤ c.toNat) {k : Nat}
    (hk : k < c.utf8Size) : ∃ b, bytes[i + k]? = some b ∧ 128 ≤ b.toNat := by
  have hlength : k < (String.utf8EncodeChar c).length := by
    rw [String.length_utf8EncodeChar]
    exact hk
  refine ⟨(String.utf8EncodeChar c)[k], ?_, le_of_mem_utf8EncodeChar hc (List.getElem_mem hlength)⟩
  rw [h.getElem?_eq, List.flatMap_cons, List.getElem?_append_left hlength,
    List.getElem?_eq_getElem hlength]

/-- What is left as it is by each step over a byte that is not ASCII, is left as it is by the step
over the character. -/
theorem skip {α : Type} {f : Nat → α} (h : BytesFrom bytes i (c :: cs)) (hc : 128 ≤ c.toNat)
    (hf : ∀ j b, bytes[j]? = some b → 128 ≤ b.toNat → f j = f (j + 1)) {k : Nat}
    (hk : k ≤ c.utf8Size) : f i = f (i + k) := by
  induction k with
  | zero => rfl
  | succ k ih =>
      obtain ⟨b, hb, hle⟩ := h.getElem?_within hc (Nat.lt_of_succ_le hk)
      rw [ih (Nat.le_of_succ_le hk), hf (i + k) b hb hle]
      rfl

theorem byteAtIs_nil (h : BytesFrom bytes i []) (p : Char → Bool) : byteAtIs p bytes i = false := by
  rw [byteAtIs, h.getElem?_nil]
  rfl

/-- A test on the first byte of a character is a test on the character. -/
theorem exists_byte (h : BytesFrom bytes i (c :: cs)) :
    ∃ b, bytes[i]? = some b ∧ ∀ p, IsAscii p → byteIs p b = p c := by
  by_cases hc : c.toNat < 128
  · exact ⟨byteOf c, h.getElem?_ascii hc, fun p _ => byteIs_byteOf hc p⟩
  · obtain ⟨b, hb, hle⟩ := h.getElem?_within (Nat.le_of_not_lt hc) c.utf8Size_pos
    refine ⟨b, hb, fun p hp => ?_⟩
    rw [byteIs_of_le hle, hp.eq_false (Nat.le_of_not_lt hc)]

theorem byteAtIs_cons (h : BytesFrom bytes i (c :: cs)) {p : Char → Bool} (hp : IsAscii p) :
    byteAtIs p bytes i = p c := by
  obtain ⟨b, hb, htest⟩ := h.exists_byte
  rw [byteAtIs, hb]
  exact htest p hp

end BytesFrom

/-- A stretch of ASCII characters is found by its bytes. -/
theorem stretchEnd_eq {p : Char → Bool} (hp : IsAscii p) (h : BytesFrom bytes i cs) :
    stretchEnd p bytes i = i + byteLength (cs.takeWhile p) := by
  induction cs generalizing i with
  | nil =>
      rw [stretchEnd, dif_neg (by simp [h.byteAtIs_nil p])]
      rfl
  | cons c cs ih =>
      rw [stretchEnd]
      by_cases hc : p c = true
      · rw [dif_pos (by rw [h.byteAtIs_cons hp, hc]), ih (h.tail_ascii (hp c hc)),
          List.takeWhile_cons_of_pos hc, byteLength_cons, utf8Size_of_lt (hp c hc)]
        omega
      · rw [dif_neg (by rw [h.byteAtIs_cons hp]; exact hc), List.takeWhile_cons_of_neg hc]
        rfl

/-- Behind the stretch the bytes are those of the rest. -/
theorem BytesFrom.dropWhile {p : Char → Bool} (hp : IsAscii p) (h : BytesFrom bytes i cs) :
    BytesFrom bytes (stretchEnd p bytes i) (cs.dropWhile p) := by
  rw [stretchEnd_eq hp h]
  rw [← List.takeWhile_append_dropWhile (p := p) (l := cs)] at h
  exact h.append

/-! ### Classes of characters -/

theorem toNat_lt_of_le {c d : Char} (h : c.val ≤ d.val) (hd : d.toNat < 128) : c.toNat < 128 :=
  Nat.lt_of_le_of_lt (UInt32.le_iff_toNat_le.mp h) hd

theorem isAscii_isUpper : IsAscii Char.isUpper := by
  intro c h
  have hbounds : c.val ≥ 'A'.val ∧ c.val ≤ 'Z'.val := of_decide_eq_true h
  exact toNat_lt_of_le hbounds.2 (by decide)

theorem isAscii_isLower : IsAscii Char.isLower := by
  intro c h
  have hbounds : (decide (c.val ≥ 'a'.val) && decide (c.val ≤ 'z'.val)) = true := h
  exact toNat_lt_of_le (of_decide_eq_true (Bool.and_eq_true_iff.mp hbounds).2) (by decide)

theorem isAscii_isDigit : IsAscii Char.isDigit := by
  intro c h
  have hbounds : (decide (c.val ≥ '0'.val) && decide (c.val ≤ '9'.val)) = true := h
  exact toNat_lt_of_le (of_decide_eq_true (Bool.and_eq_true_iff.mp hbounds).2) (by decide)

theorem isAscii_beq {d : Char} (hd : d.toNat < 128) : IsAscii (· == d) := by
  intro c h
  rw [eq_of_beq h]
  exact hd

theorem isAscii_or {p q : Char → Bool} (hp : IsAscii p) (hq : IsAscii q) :
    IsAscii fun c => p c || q c := by
  intro c h
  rcases Bool.or_eq_true_iff.mp h with h | h
  · exact hp c h
  · exact hq c h

theorem isAscii_isAlpha : IsAscii Char.isAlpha := isAscii_or isAscii_isUpper isAscii_isLower

theorem isAscii_isNameChar : IsAscii isNameChar :=
  isAscii_or (isAscii_or (isAscii_or isAscii_isAlpha isAscii_isDigit) (isAscii_beq (by decide)))
    (isAscii_beq (by decide))

theorem isAscii_isAsciiBlank : IsAscii Text.isAsciiBlank := by
  intro c h
  simp only [Text.isAsciiBlank, Bool.or_eq_true, beq_iff_eq] at h
  rcases h with (((rfl | rfl) | rfl) | rfl) | rfl <;> decide

theorem isAscii_isQuote : IsAscii isQuote := by
  intro c h
  simp only [isQuote, Bool.or_eq_true, beq_iff_eq] at h
  rcases h with rfl | rfl <;> decide

/-! ### Names and insides -/

/-- The name of a tag is found by its bytes. -/
theorem nameEnd?_eq (h : BytesFrom bytes i cs) :
    nameEnd? bytes i = (readName cs).map fun (name, _) => i + byteLength name := by
  cases cs with
  | nil =>
      rw [nameEnd?, h.byteAtIs_nil]
      rfl
  | cons c cs =>
      rw [nameEnd?, h.byteAtIs_cons isAscii_isAlpha, readName]
      by_cases hc : c.isAlpha = true
      · have hlt := isAscii_isAlpha c hc
        rw [if_pos hc, if_pos hc, stretchEnd_eq isAscii_isNameChar (h.tail_ascii hlt)]
        simp only [Option.map_some, byteLength_cons, utf8Size_of_lt hlt, Nat.add_assoc]
      · rw [if_neg hc, if_neg hc]
        rfl

/-! #### Steps of the search for the closing brace -/

section Steps

variable {quote : Option UInt8} {b : UInt8}

theorem closingBrace_end (h : bytes[i]? = none) :
    closingBrace bytes quote i = .error quote.isSome := by
  rw [closingBrace]
  split <;> simp_all

/-- Within quotation marks a backslash passes over the byte behind it. -/
theorem closingBrace_backslash {q : UInt8} (h : bytes[i]? = some b)
    (hb : byteIs (· == '\\') b = true) :
    closingBrace bytes (some q) i = closingBrace bytes (some q) (i + 2) := by
  rw [closingBrace]
  split <;> simp_all

theorem closingBrace_quoted {q : UInt8} (h : bytes[i]? = some b)
    (hb : byteIs (· == '\\') b = false) :
    closingBrace bytes (some q) i = closingBrace bytes (if b = q then none else some q) (i + 1) := by
  rw [closingBrace]
  split <;> simp_all
  split <;> rfl

theorem closingBrace_brace (h : bytes[i]? = some b) (hquote : byteIs isQuote b = false)
    (hb : byteIs (· == '\x7d') b = true) : closingBrace bytes none i = .ok i := by
  rw [closingBrace]
  split <;> simp_all

theorem closingBrace_outside (h : bytes[i]? = some b) (hb : byteIs (· == '\x7d') b = false) :
    closingBrace bytes none i =
      closingBrace bytes (if byteIs isQuote b then some b else none) (i + 1) := by
  rw [closingBrace]
  split <;> simp_all
  split <;> rfl

/-- A byte that is not ASCII changes nothing. -/
theorem closingBrace_of_le (h : bytes[i]? = some b) (hb : 128 ≤ b.toNat)
    (hquote : ∀ q ∈ quote, q.toNat < 128) :
    closingBrace bytes quote i = closingBrace bytes quote (i + 1) := by
  cases quote with
  | none => rw [closingBrace_outside h (byteIs_of_le hb _), byteIs_of_le hb, if_neg (by decide)]
  | some q =>
      have hne : b ≠ q := by
        rintro rfl
        exact absurd (hquote b rfl) (Nat.not_lt_of_le hb)
      rw [closingBrace_quoted h (byteIs_of_le hb _), if_neg hne]

end Steps

/-- No search ends within a character that is not ASCII. -/
theorem closingBrace_skip (quote : Option Char) (hquote : ∀ q ∈ quote, q.toNat < 128)
    (h : BytesFrom bytes i (c :: cs)) (hc : 128 ≤ c.toNat) {k : Nat} (hk : k ≤ c.utf8Size) :
    closingBrace bytes (quote.map byteOf) i = closingBrace bytes (quote.map byteOf) (i + k) := by
  refine h.skip (f := closingBrace bytes (quote.map byteOf)) hc (fun j b hb hle => ?_) hk
  refine closingBrace_of_le hb hle fun byte hbyte => ?_
  obtain ⟨q, hq, rfl⟩ := Option.map_eq_some_iff.mp hbyte
  rw [toNat_byteOf (hquote q hq)]
  exact hquote q hq

theorem closingBrace_char_outside (h : BytesFrom bytes i (c :: cs)) (hc : c ≠ '\x7d') :
    closingBrace bytes none i =
      closingBrace bytes ((if isQuote c then some c else none).map byteOf) (i + c.utf8Size) := by
  by_cases hlt : c.toNat < 128
  · have hbrace : byteIs (· == '\x7d') (byteOf c) = false := by
      rw [byteIs_byteOf hlt]
      exact beq_false_of_ne hc
    rw [closingBrace_outside (h.getElem?_ascii hlt) hbrace, byteIs_byteOf hlt, utf8Size_of_lt hlt]
    split <;> rfl
  · have hle := Nat.le_of_not_lt hlt
    rw [isAscii_isQuote.eq_false hle]
    exact closingBrace_skip none (by simp) h hle (Nat.le_refl _)

theorem closingBrace_char_quoted {q : Char} (hq : q.toNat < 128) (h : BytesFrom bytes i (c :: cs))
    (hc : c ≠ '\\') :
    closingBrace bytes (some (byteOf q)) i =
      closingBrace bytes ((if c = q then none else some q).map byteOf) (i + c.utf8Size) := by
  by_cases hlt : c.toNat < 128
  · have hslash : byteIs (· == '\\') (byteOf c) = false := by
      rw [byteIs_byteOf hlt]
      exact beq_false_of_ne hc
    rw [closingBrace_quoted (h.getElem?_ascii hlt) hslash, utf8Size_of_lt hlt]
    by_cases hcq : c = q
    · rw [if_pos hcq, if_pos (by rw [hcq])]
      rfl
    · rw [if_neg hcq, if_neg fun heq => hcq ((byteOf_inj hlt hq).mp heq)]
      rfl
  · have hcq : c ≠ q := by
      rintro rfl
      exact hlt hq
    rw [if_neg hcq]
    exact closingBrace_skip (some q) (by simpa using hq) h (Nat.le_of_not_lt hlt)
      (Nat.le_refl _)

theorem closingBrace_char_escaped {q : Char} (hq : q.toNat < 128)
    (h : BytesFrom bytes i ('\\' :: c :: cs)) :
    closingBrace bytes (some (byteOf q)) i =
      closingBrace bytes (some (byteOf q)) (i + 1 + c.utf8Size) := by
  have hc := h.tail_ascii (by decide)
  rw [closingBrace_backslash (h.getElem?_ascii (by decide)) (by decide)]
  by_cases hlt : c.toNat < 128
  · rw [utf8Size_of_lt hlt]
  · -- one byte of the character is skipped, and the others are passed over
    have hskip : ∀ {k : Nat}, k ≤ c.utf8Size → closingBrace bytes (some (byteOf q)) (i + 1) =
        closingBrace bytes (some (byteOf q)) (i + 1 + k) :=
      closingBrace_skip (some q) (by simpa using hq) hc (Nat.le_of_not_lt hlt)
    exact (hskip c.utf8Size_pos).symm.trans (hskip (Nat.le_refl _))

/-- What is put in front of the inside moves the brace. -/
theorem map_bind_prepend (x : Except Bool (List Char × List Char)) (front : List Char → List Char)
    {n m : Nat} (hfront : ∀ inner, n + byteLength (front inner) = m + byteLength inner) :
    (x >>= fun p => .ok (front p.1, p.2)).map (fun p => n + byteLength p.1) =
      x.map fun p => m + byteLength p.1 := by
  cases x with
  | error e => rfl
  | ok p => exact congrArg Except.ok (hfront p.1)

/-- The brace that closes a tag is found by its bytes. -/
theorem closingBrace_eq (quote : Option Char) (hquote : ∀ q ∈ quote, q.toNat < 128)
    (h : BytesFrom bytes i cs) :
    closingBrace bytes (quote.map byteOf) i =
      (scanInner quote cs).map fun p => i + byteLength p.1 := by
  have hfront : ∀ (i : Nat) (c : Char) (inner : List Char),
      i + byteLength (c :: inner) = i + c.utf8Size + byteLength inner := by
    intro i c inner
    rw [byteLength_cons, Nat.add_assoc]
  fun_induction scanInner quote cs generalizing i with
  | case1 quote =>
      rw [closingBrace_end h.getElem?_nil, Option.isSome_map]
      rfl
  | case2 rest => exact closingBrace_brace (h.getElem?_ascii (by decide)) (by decide) (by decide)
  | case3 c rest hc ih =>
      have hopen : ∀ q ∈ (if isQuote c then some c else none), q.toNat < 128 := by
        intro q hq
        split at hq
        · cases hq
          exact isAscii_isQuote _ ‹_›
        · cases hq
      exact (closingBrace_char_outside h hc).trans ((ih hopen h.tail).trans
        (map_bind_prepend _ (c :: ·) (hfront i c)).symm)
  | case4 q =>
      have hend := (h.tail_ascii (by decide)).getElem?_nil
      have hend' : bytes[i + 2]? = none := by
        rw [List.getElem?_eq_none_iff] at hend ⊢
        omega
      rw [Option.map_some, closingBrace_backslash (h.getElem?_ascii (by decide)) (by decide),
        closingBrace_end hend']
      rfl
  | case5 q d rest ih =>
      have hfront' : ∀ inner, i + byteLength ('\\' :: d :: inner) =
          i + 1 + d.utf8Size + byteLength inner := by
        intro inner
        rw [hfront, hfront]
        rfl
      exact (closingBrace_char_escaped (hquote q rfl) h).trans
        ((ih hquote (h.tail_ascii (by decide)).tail).trans
          (map_bind_prepend _ (fun inner => '\\' :: d :: inner) hfront').symm)
  | case6 q c rest hlast hpair ih =>
      have hslash := ne_backslash_of_cases hlast hpair
      have hopen : ∀ r ∈ (if c = q then none else some q), r.toNat < 128 := by
        intro r hr
        split at hr
        · cases hr
        · exact hquote r hr
      exact (closingBrace_char_quoted (hquote q rfl) h hslash).trans ((ih hopen h.tail).trans
        (map_bind_prepend _ (c :: ·) (hfront i c)).symm)

end Reading

/-! ## Tags -/

/-- The token with the offsets of its ends, and the inside of an opening tag taken apart. -/
def Token.span (t : Token) : Span :=
  match t.lexeme with
  | .text content => .text content t.start
  | .opener name inner => .opener name (openerParts inner).1 (openerParts inner).2 t.start t.stop
  | .closer name _ => .closer name t.start t.stop

/-- What has been read at an offset, as a scan gives it. -/
def tagSpan (start : Nat) :
    Except LexFault (Option (Lexeme × List Char)) → Except ScanFault (Option Span)
  | .error fault => .error (.lexical ⟨start, fault⟩)
  | .ok none => .ok none
  | .ok (some (lexeme, _)) => .ok (some (Token.span ⟨lexeme, start⟩))

section Source

variable {source : String} {before cs : List Char}

theorem bytesFrom_bytes (h : source.toList = before ++ cs) :
    BytesFrom (Text.bytes source) (byteLength before) cs := by
  have hall : BytesFrom (Text.bytes source) 0 (before ++ cs) := by
    show Text.bytes source = _
    rw [Text.bytes_eq, h]
  rw [← Nat.zero_add (byteLength before)]
  exact hall.append

theorem slice_eq {piece after : List Char} (h : source.toList = before ++ (piece ++ after)) :
    slice source (byteLength before) (byteLength before + byteLength piece) = .ok piece := by
  rw [slice, h, slice?_append]

theorem stop_opener (name inner : List Char) (start : Nat) :
    Token.stop ⟨.opener name inner, start⟩ =
      start + 2 + byteLength name + byteLength inner + 1 := by
  have hopen : byteLength ['\x7b', '@'] = 2 := rfl
  have hclose : byteLength ['\x7d'] = 1 := rfl
  show start + byteLength (['\x7b', '@'] ++ (name ++ inner ++ ['\x7d'])) = _
  rw [byteLength_append, byteLength_append, byteLength_append, hopen, hclose]
  omega

theorem stop_closer (name blanks : List Char) (start : Nat) :
    Token.stop ⟨.closer name blanks, start⟩ =
      start + 2 + byteLength name + byteLength blanks + 1 := by
  have hopen : byteLength ['\x7b', '/'] = 2 := rfl
  have hclose : byteLength ['\x7d'] = 1 := rfl
  show start + byteLength (['\x7b', '/'] ++ (name ++ blanks ++ ['\x7d'])) = _
  rw [byteLength_append, byteLength_append, byteLength_append, hopen, hclose]
  omega

theorem isAscii_afterName : IsAscii fun c => c == '\x7d' || c == '/' || Text.isAsciiBlank c :=
  isAscii_or (isAscii_or (isAscii_beq (by decide)) (isAscii_beq (by decide))) isAscii_isAsciiBlank

theorem insideAt_eq {start : Nat} {name rest : List Char}
    (hname : readName (name ++ rest) = some (name, rest)) (h : source.toList = before ++ rest)
    (hbefore : byteLength before = start + 2 + byteLength name) :
    insideAt source start name (byteLength before) = tagSpan start (readOpener (name ++ rest)) := by
  have hbytes := bytesFrom_bytes h
  unfold insideAt readOpener
  rw [hname]
  cases rest with
  | nil =>
      rw [hbytes.getElem?_nil]
      rfl
  | cons c tail =>
      obtain ⟨b, hb, htest⟩ := hbytes.exists_byte
      rw [hb]
      dsimp only
      rw [htest _ isAscii_afterName]
      by_cases hc : c = '\x7d' ∨ c = '/' ∨ Text.isAsciiBlank c = true
      · rw [if_pos (by simpa [or_assoc] using hc), if_pos hc]
        have hbrace := closingBrace_eq none (by simp) hbytes
        rw [Option.map_none] at hbrace
        rw [hbrace]
        cases hscan : scanInner none (c :: tail) with
        | error isOpen => cases isOpen <;> rfl
        | ok found =>
            obtain ⟨inner, after⟩ := found
            have hslice := slice_eq ((scanInner_source hscan) ▸ h)
            have hstop : byteLength before + byteLength inner + 1 =
                Token.stop ⟨.opener name inner, start⟩ := by
              rw [stop_opener, hbefore]
            dsimp only [Except.map]
            rw [hslice]
            show Except.ok (some (Span.opener name _ _ start (_ + 1))) = Except.ok (some _)
            rw [hstop]
            rfl
      · rw [if_neg (by simpa [or_assoc] using hc), if_neg hc]
        rfl

theorem openerAt_eq (h : source.toList = before ++ '\x7b' :: '@' :: cs) :
    openerAt source (byteLength before) = tagSpan (byteLength before) (readOpener cs) := by
  have hinside : source.toList = (before ++ ['\x7b', '@']) ++ cs := by simp [h]
  have hoffset : byteLength (before ++ ['\x7b', '@']) = byteLength before + 2 := by
    rw [byteLength_append]
    rfl
  rw [openerAt, ← hoffset, nameEnd?_eq (bytesFrom_bytes hinside)]
  cases hname : readName cs with
  | none =>
      rw [readOpener_eq_none.mpr hname]
      rfl
  | some found =>
      obtain ⟨name, rest⟩ := found
      obtain rfl := readName_source hname
      dsimp only [Option.map_some]
      rw [slice_eq hinside, ← byteLength_append]
      refine insideAt_eq hname (by simp [hinside]) ?_
      rw [byteLength_append, hoffset]

theorem closerAt_eq (h : source.toList = before ++ '\x7b' :: '/' :: cs) :
    closerAt source (byteLength before) = tagSpan (byteLength before) (.ok (readCloser cs)) := by
  have hinside : source.toList = (before ++ ['\x7b', '/']) ++ cs := by simp [h]
  have hoffset : byteLength (before ++ ['\x7b', '/']) = byteLength before + 2 := by
    rw [byteLength_append]
    rfl
  rw [closerAt, ← hoffset, nameEnd?_eq (bytesFrom_bytes hinside)]
  unfold readCloser
  cases hname : readName cs with
  | none => rfl
  | some found =>
      obtain ⟨name, rest⟩ := found
      obtain rfl := readName_source hname
      have hrest : source.toList = (before ++ ['\x7b', '/'] ++ name) ++ rest := by
        rw [hinside, List.append_assoc _ name]
      have hnameStop : byteLength (before ++ ['\x7b', '/'] ++ name) =
          byteLength (before ++ ['\x7b', '/']) + byteLength name := byteLength_append ..
      have hstop := stretchEnd_eq isAscii_isAsciiBlank (bytesFrom_bytes hrest)
      have hbrace := (bytesFrom_bytes hrest).dropWhile isAscii_isAsciiBlank
      rw [hstop] at hbrace
      dsimp only [Option.map_some]
      rw [← byteLength_append, hstop]
      cases hdrop : rest.dropWhile Text.isAsciiBlank with
      | nil =>
          rw [hdrop] at hbrace
          rw [hbrace.byteAtIs_nil]
          rfl
      | cons c after =>
          rw [hdrop] at hbrace
          rw [hbrace.byteAtIs_cons (isAscii_beq (by decide))]
          by_cases hc : c = '\x7d'
          · rw [if_pos (by simp [hc]), hnameStop, slice_eq hinside]
            dsimp only
            rw [if_pos hc]
            show Except.ok (some (Span.closer name _ (_ + 1))) = Except.ok (some _)
            rw [hoffset, ← stop_closer]
            rfl
          · rw [if_neg (by simp [hc])]
            dsimp only
            rw [if_neg hc]
            rfl

/-- The tag at the offset of a brace is the one that the characters from there begin with. -/
theorem tagAt_eq (h : source.toList = before ++ '\x7b' :: cs) :
    tagAt source (byteLength before) = tagSpan (byteLength before) (readTag ('\x7b' :: cs)) := by
  have hbytes := (bytesFrom_bytes h).tail_ascii (by decide)
  unfold tagAt
  cases cs with
  | nil =>
      rw [hbytes.byteAtIs_nil, hbytes.byteAtIs_nil]
      rfl
  | cons c cs =>
      rw [hbytes.byteAtIs_cons (isAscii_beq (by decide)),
        hbytes.byteAtIs_cons (isAscii_beq (by decide)), readTag]
      by_cases hopen : c = '@'
      · subst hopen
        exact openerAt_eq h
      · have hread : ¬ ('\x7b' = '\x7b' ∧ c = '@') := fun hc => hopen hc.2
        rw [beq_false_of_ne hopen, if_neg Bool.false_ne_true, if_neg hread]
        by_cases hclose : c = '/'
        · subst hclose
          exact closerAt_eq h
        · have hread : ¬ ('\x7b' = '\x7b' ∧ c = '/') := fun hc => hclose hc.2
          rw [beq_false_of_ne hclose, if_neg Bool.false_ne_true, if_neg hread]
          rfl

end Source

end StaticSite.Template
