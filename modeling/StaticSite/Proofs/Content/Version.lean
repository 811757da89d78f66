/-
Versions of assets.

A version is a time in base 36.  The numeral of a number consists of its digits, the first of which
is zero for the number zero only (`numeral_eq_map`), so it is read back, and a shorter numeral stands
for a smaller number.  Of two lists of digits of one length the smaller number has the one that comes
first in the order of texts (`ofDigits_lt_ofDigits_iff`).  Main statement: numerals of base 36 are
read back, have no zeros in front and are ordered by their length and then as texts, and versions
are equal just for equal times, where a time before 1970 counts as zero (`base36_numeral_system`).
-/
import Mathlib
import StaticSite.Artifact
import StaticSite.Proofs.Text.Numeral

namespace StaticSite

namespace Text

/-! ## Digits -/

/-- The value of a digit: `0` to `9` and then the small letters of ASCII. -/
def digitOf? (c : Char) : Option Nat :=
  if c.isDigit then some (c.toNat - 0x30)
  else if c.isLower then some (c.toNat - 0x57)
  else none

/-- The number that digits of base 36 stand for; a text without digits stands for none. -/
def readBase36? (cs : List Char) : Option Nat :=
  if cs.isEmpty then none else (cs.mapM digitOf?).map fun ds => Nat.ofDigits 36 ds.reverse

/-- The digits of a number from the first one on; zero has one digit. -/
def leadingDigits (base n : Nat) : List Nat :=
  if n = 0 then [0] else (Nat.digits base n).reverse

section Digits

variable {d e : Nat}

theorem digitOf?_digitChar (h : d < 36) : digitOf? (digitChar d) = some d := by
  interval_cases d <;> decide

theorem toNat_digitChar (h : d < 36) :
    (digitChar d).toNat = if d < 10 then 0x30 + d else 0x57 + d := by
  unfold digitChar
  split <;> rw [Char.toNat_ofNat, if_pos (.inl (by omega))]

theorem digitChar_lt_digitChar (hd : d < 36) (he : e < 36) :
    digitChar d < digitChar e ↔ d < e := by
  rw [Char.lt_def, UInt32.lt_iff_toNat_lt]
  change (digitChar d).toNat < (digitChar e).toNat ↔ d < e
  rw [toNat_digitChar hd, toNat_digitChar he]
  split <;> split <;> omega

theorem digitChar_inj (hd : d < 36) (he : e < 36) : digitChar d = digitChar e ↔ d = e := by
  constructor
  · intro h
    have hvalue := digitOf?_digitChar hd
    rw [h, digitOf?_digitChar he] at hvalue
    exact (Option.some.inj hvalue).symm
  · rintro rfl
    rfl

end Digits

/-! ## Lists of digits -/

section Lists

variable {base : Nat} {ds es : List Nat}

theorem mapM_digitOf? (h : ∀ d ∈ ds, d < 36) : (ds.map digitChar).mapM digitOf? = some ds := by
  induction ds with
  | nil => rfl
  | cons d ds ih =>
      obtain ⟨hd, hds⟩ := List.forall_mem_cons.mp h
      rw [List.map_cons, List.mapM_cons, digitOf?_digitChar hd, ih hds]
      rfl

/-- Digits are ordered as the characters that they are written with. -/
theorem map_digitChar_lt_iff (hds : ∀ d ∈ ds, d < 36) (hes : ∀ e ∈ es, e < 36) :
    ds.map digitChar < es.map digitChar ↔ ds < es := by
  induction ds generalizing es with
  | nil =>
      cases es with
      | nil => exact iff_of_false (List.lt_irrefl _) (List.lt_irrefl _)
      | cons e es => exact iff_of_true (List.nil_lt_cons _ _) (List.nil_lt_cons _ _)
  | cons d ds ih =>
      cases es with
      | nil => exact iff_of_false (List.not_lt_nil _) (List.not_lt_nil _)
      | cons e es =>
          obtain ⟨hd, hds⟩ := List.forall_mem_cons.mp hds
          obtain ⟨he, hes⟩ := List.forall_mem_cons.mp hes
          rw [List.map_cons, List.map_cons, List.cons_lt_cons_iff, List.cons_lt_cons_iff,
            digitChar_lt_digitChar hd he, digitChar_inj hd he, ih hds hes]

/-- A digit in front counts for more than all digits behind it. -/
theorem ofDigits_lt_of_lt {d e : Nat} (hbase : 1 < base) (hds : ∀ d ∈ ds, d < base)
    (hlength : ds.length = es.length) (h : d < e) :
    Nat.ofDigits base (d :: ds).reverse < Nat.ofDigits base (e :: es).reverse := by
  have hbehind : Nat.ofDigits base ds.reverse < base ^ es.length := by
    have hbound := Nat.ofDigits_lt_base_pow_length (l := ds.reverse) hbase (by simpa using hds)
    rwa [List.length_reverse, hlength] at hbound
  calc Nat.ofDigits base (d :: ds).reverse
      = Nat.ofDigits base ds.reverse + base ^ es.length * d := by
        rw [Nat.ofDigits_reverse_cons, hlength]
    _ < base ^ es.length + base ^ es.length * d := Nat.add_lt_add_right hbehind _
    _ = base ^ es.length * (d + 1) := by rw [Nat.mul_succ, Nat.add_comm]
    _ ≤ base ^ es.length * e := Nat.mul_le_mul_left _ (Nat.succ_le_of_lt h)
    _ ≤ Nat.ofDigits base (e :: es).reverse := by
        rw [Nat.ofDigits_reverse_cons]
        exact Nat.le_add_left _ _

/-- Of two lists of digits of one length the first digit that differs decides. -/
theorem ofDigits_lt_ofDigits_iff (hbase : 1 < base) (hds : ∀ d ∈ ds, d < base)
    (hes : ∀ e ∈ es, e < base) (hlength : ds.length = es.length) :
    Nat.ofDigits base ds.reverse < Nat.ofDigits base es.reverse ↔ ds < es := by
  induction ds generalizing es with
  | nil =>
      obtain rfl := List.length_eq_zero_iff.mp hlength.symm
      exact iff_of_false (lt_irrefl _) (List.lt_irrefl _)
  | cons d ds ih =>
      obtain ⟨e, es, rfl⟩ := List.exists_cons_of_length_eq_add_one hlength.symm
      have hdsRest := (List.forall_mem_cons.mp hds).2
      have hesRest := (List.forall_mem_cons.mp hes).2
      have hrest : ds.length = es.length := Nat.succ.inj hlength
      rw [List.cons_lt_cons_iff]
      rcases Nat.lt_trichotomy d e with hlt | rfl | hgt
      · exact iff_of_true (ofDigits_lt_of_lt hbase hdsRest hrest hlt) (.inl hlt)
      · rw [Nat.ofDigits_reverse_cons, Nat.ofDigits_reverse_cons, hrest,
          Nat.add_lt_add_iff_right, ih hdsRest hesRest hrest]
        exact ⟨fun h => .inr ⟨rfl, h⟩, fun h => (h.resolve_left (lt_irrefl d)).2⟩
      · refine iff_of_false (ofDigits_lt_of_lt hbase hesRest hrest.symm hgt).not_gt ?_
        rintro (hlt | ⟨rfl, -⟩)
        · exact hgt.not_gt hlt
        · exact lt_irrefl _ hgt

end Lists

/-! ## Digits of a number -/

section Numerals

variable {base m n : Nat}

theorem leadingDigits_zero (base : Nat) : leadingDigits base 0 = [0] := if_pos rfl

theorem leadingDigits_of_pos (base : Nat) (h : 0 < n) :
    leadingDigits base n = (Nat.digits base n).reverse := if_neg h.ne'

theorem leadingDigits_ne_nil (base n : Nat) : leadingDigits base n ≠ [] := by
  unfold leadingDigits
  split
  · exact List.cons_ne_nil _ _
  · rename_i hn
    rw [Ne, List.reverse_eq_nil_iff]
    exact Nat.digits_ne_nil_iff_ne_zero.mpr hn

theorem lt_of_mem_leadingDigits (hbase : 1 < base) {d : Nat} (h : d ∈ leadingDigits base n) :
    d < base := by
  rcases Nat.eq_zero_or_pos n with rfl | hn
  · rw [leadingDigits_zero, List.mem_singleton] at h
    omega
  · rw [leadingDigits_of_pos base hn, List.mem_reverse] at h
    exact Nat.digits_lt_base hbase h

theorem ofDigits_leadingDigits (base n : Nat) :
    Nat.ofDigits base (leadingDigits base n).reverse = n := by
  rcases Nat.eq_zero_or_pos n with rfl | hn
  · rw [leadingDigits_zero]
    exact Nat.ofDigits_singleton
  · rw [leadingDigits_of_pos base hn, List.reverse_reverse, Nat.ofDigits_digits]

/-- Only the number zero has a zero in front. -/
theorem head?_leadingDigits (base : Nat) : (leadingDigits base n).head? = some 0 ↔ n = 0 := by
  rcases Nat.eq_zero_or_pos n with rfl | hn
  · rw [leadingDigits_zero]
    exact iff_of_true rfl rfl
  · refine iff_of_false ?_ hn.ne'
    have hne := Nat.digits_ne_nil_iff_ne_zero (b := base).mpr hn.ne'
    rw [leadingDigits_of_pos base hn, List.head?_reverse, List.getLast?_eq_getLast_of_ne_nil hne]
    exact fun h => Nat.getLast_digit_ne_zero base hn.ne' (Option.some.inj h)

theorem length_leadingDigits_le (base : Nat) (h : m ≤ n) :
    (leadingDigits base m).length ≤ (leadingDigits base n).length := by
  rcases Nat.eq_zero_or_pos m with rfl | hm
  · rw [leadingDigits_zero, List.length_singleton, Nat.one_le_iff_ne_zero, Ne,
      List.length_eq_zero_iff]
    exact leadingDigits_ne_nil base n
  · rw [leadingDigits_of_pos base hm, leadingDigits_of_pos base (hm.trans_le h),
      List.length_reverse, List.length_reverse]
    exact Nat.le_length_digits_le base m n h

theorem lt_iff_leadingDigits (hbase : 1 < base) :
    m < n ↔ (leadingDigits base m).length < (leadingDigits base n).length ∨
      (leadingDigits base m).length = (leadingDigits base n).length ∧
        leadingDigits base m < leadingDigits base n := by
  rcases Nat.lt_trichotomy (leadingDigits base m).length (leadingDigits base n).length with
    hshorter | hequal | hlonger
  · refine iff_of_true ?_ (.inl hshorter)
    by_contra hle
    have hlength := length_leadingDigits_le base (Nat.not_lt.mp hle)
    omega
  · have hvalues := ofDigits_lt_ofDigits_iff hbase
      (fun d hd => lt_of_mem_leadingDigits hbase hd)
      (fun d hd => lt_of_mem_leadingDigits hbase hd) hequal
    rw [ofDigits_leadingDigits, ofDigits_leadingDigits] at hvalues
    rw [hvalues]
    exact ⟨fun h => .inr ⟨hequal, h⟩, fun h => (h.resolve_left (by omega)).2⟩
  · refine iff_of_false (fun hlt => ?_) (by omega)
    have hlength := length_leadingDigits_le base hlt.le
    omega

theorem numeral_eq_map (hbase : 1 < base) (n : Nat) :
    numeral base n = (leadingDigits base n).map digitChar := by
  induction n using Nat.strongRecOn with
  | ind n ih =>
      rcases Nat.lt_or_ge n base with hsmall | hlarge
      · rw [numeral_of_lt hsmall]
        rcases Nat.eq_zero_or_pos n with rfl | hn
        · rw [leadingDigits_zero]
          rfl
        · rw [leadingDigits_of_pos base hn, Nat.digits_of_lt base n hn.ne' hsmall]
          rfl
      · have hquotient : 0 < n / base := Nat.div_pos hlarge (by omega)
        have hn : 0 < n := by omega
        rw [numeral_of_le hbase hlarge, ih (n / base) (Nat.div_lt_self hn hbase),
          leadingDigits_of_pos base hquotient, leadingDigits_of_pos base hn,
          Nat.digits_def' hbase hn, List.reverse_cons, List.map_append]
        rfl

end Numerals

/-! ## Base 36 -/

section Base36

variable {m n : Nat}

theorem lt_of_mem_digits36 : ∀ d ∈ leadingDigits 36 n, d < 36 :=
  fun _ hd => lt_of_mem_leadingDigits (by decide) hd

theorem toList_base36 (n : Nat) : (base36 n).toList = (leadingDigits 36 n).map digitChar := by
  rw [base36, String.toList_ofList, numeral_eq_map (by decide)]

theorem readBase36?_base36 (n : Nat) : readBase36? (base36 n).toList = some n := by
  have hne : (base36 n).toList.isEmpty = false := by
    rw [base36, String.toList_ofList, List.isEmpty_eq_false_iff]
    exact numeral_ne_nil 36 n
  rw [readBase36?, hne, if_neg Bool.false_ne_true, toList_base36,
    mapM_digitOf? lt_of_mem_digits36, Option.map_some, ofDigits_leadingDigits]

theorem base36_inj : base36 m = base36 n ↔ m = n := by
  constructor
  · intro h
    have hread := readBase36?_base36 m
    rw [h, readBase36?_base36] at hread
    exact (Option.some.inj hread).symm
  · rintro rfl
    rfl

theorem head?_base36 : (base36 n).toList.head? = some '0' ↔ n = 0 := by
  rw [toList_base36, List.head?_map, Option.map_eq_some_iff, ← head?_leadingDigits 36]
  constructor
  · rintro ⟨d, hd, hchar⟩
    have hdigit := lt_of_mem_digits36 d (List.mem_of_mem_head? hd)
    have hzero : digitChar d = digitChar 0 := hchar
    rw [hd, (digitChar_inj hdigit (by decide)).mp hzero]
  · intro hhead
    exact ⟨0, hhead, rfl⟩

theorem lt_iff_base36 :
    m < n ↔ (base36 m).length < (base36 n).length ∨
      (base36 m).length = (base36 n).length ∧ base36 m < base36 n := by
  have hbase : 1 < 36 := by decide
  rw [lt_iff_leadingDigits hbase, ← String.length_toList, ← String.length_toList,
    String.lt_iff_toList_lt, toList_base36, toList_base36, List.length_map, List.length_map,
    map_digitChar_lt_iff lt_of_mem_digits36 lt_of_mem_digits36]

end Base36

end Text

namespace Content

theorem versionOf_eq_iff {s t : Int} : versionOf s = versionOf t ↔ max s 0 = max t 0 := by
  rw [versionOf, versionOf, Text.base36_inj]
  omega

/-- Base 36 is a numeral system: numbers are read back from their texts, no number but zero has a
zero in front, and numbers are ordered as their texts are, by the length and then by the first
character that differs.  So the versions of two artifacts, or of two assets of a site, are equal just
for equal times; a time before 1970 counts as zero. -/
theorem base36_numeral_system :
    (∀ n, Text.readBase36? (Text.base36 n).toList = some n) ∧
      (∀ n, (Text.base36 n).toList.head? = some '0' ↔ n = 0) ∧
      (∀ m n, m < n ↔ (Text.base36 m).length < (Text.base36 n).length ∨
        (Text.base36 m).length = (Text.base36 n).length ∧ Text.base36 m < Text.base36 n) ∧
      (∀ a b : Artifact, a.version = b.version ↔ max a.modified 0 = max b.modified 0) ∧
      ∀ (k l : Location) (copied copied' : Bool),
        (Asset.ofLocation k copied).version = (Asset.ofLocation l copied').version ↔
          max k.modified 0 = max l.modified 0 :=
  ⟨Text.readBase36?_base36, fun _ => Text.head?_base36, fun _ _ => Text.lt_iff_base36,
    fun _ _ => versionOf_eq_iff, fun _ _ _ _ => versionOf_eq_iff⟩

end Content

end StaticSite
