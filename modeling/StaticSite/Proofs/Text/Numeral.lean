/-
Numbers written and read.

A number is written with the digits of its quotient and then its last digit, so reading the digits
gives the number back: for numbers of a fixed width with zeros before them (`isNumeral_zeroPadded`)
and for integers with a sign (`readInt64_decimalInt`).  What is read as an integer has digits only
behind its first character (`isDigit_of_readInt64`).
-/
import Mathlib.Data.List.Induction
import Mathlib.Tactic.IntervalCases
import StaticSite.Text.Blank
import StaticSite.Text.Numeral

namespace StaticSite.Text

/-! ## Numerals -/

/-- The digits of a number tell its size. -/
theorem exists_length_numeral {base n : Nat} (hbase : 2 ≤ base) (hn : 0 < n) :
    ∃ k, (numeral base n).length = k + 1 ∧ base ^ k ≤ n ∧ n < base ^ (k + 1) := by
  induction n using Nat.strongRecOn with
  | ind n ih =>
      rw [numeral]
      split
      · rename_i hsmall
        exact ⟨0, rfl, hn, by rw [Nat.pow_succ, Nat.pow_zero]; omega⟩
      · rename_i hlarge
        have hle : base ≤ n := by omega
        obtain ⟨k, hlength, hlow, hhigh⟩ :=
          ih (n / base) (Nat.div_lt_self hn hbase) (Nat.div_pos hle (by omega))
        refine ⟨k + 1, ?_, ?_, ?_⟩
        · rw [List.length_append, hlength, List.length_singleton]
        · rw [Nat.pow_succ]
          exact (Nat.le_div_iff_mul_le (by omega)).mp hlow
        · rw [Nat.pow_succ]
          exact (Nat.div_lt_iff_lt_mul (by omega)).mp hhigh

theorem numeral_ne_nil (base n : Nat) : numeral base n ≠ [] := by
  rw [numeral]
  split <;> simp

theorem numeral_of_lt {base n : Nat} (h : n < base) : numeral base n = [digitChar n] := by
  rw [numeral, dif_pos (.inr h)]

theorem numeral_of_le {base n : Nat} (hbase : 2 ≤ base) (h : base ≤ n) :
    numeral base n = numeral base (n / base) ++ [digitChar (n % base)] := by
  rw [numeral, dif_neg (by omega)]

theorem length_numeral_le {base n width : Nat} (hbase : 2 ≤ base) (hwidth : 0 < width)
    (h : n < base ^ width) : (numeral base n).length ≤ width := by
  by_cases hn : n = 0
  · rw [hn, numeral_of_lt (by omega)]
    exact hwidth
  · obtain ⟨k, hlength, hlow, -⟩ := exists_length_numeral hbase (Nat.pos_of_ne_zero hn)
    have hk : k < width := (Nat.pow_lt_pow_iff_right hbase).mp (hlow.trans_lt h)
    omega

/-! ## Digits of base ten -/

theorem isDigit_digitChar {n : Nat} (h : n < 10) :
    (digitChar n).isDigit = true ∧ digitValue (digitChar n) = n := by
  interval_cases n <;> decide

theorem toNat_of_isDigit {c : Char} (h : c.isDigit = true) : 0x30 ≤ c.toNat ∧ c.toNat ≤ 0x39 := by
  simpa [Char.isDigit, Char.le_def, UInt32.le_iff_toNat_le] using h

/-- A digit is no white space. -/
theorem isBlank_of_isDigit {c : Char} (h : c.isDigit = true) : isBlank c = false := by
  have hbounds := toNat_of_isDigit h
  refine Bool.eq_false_iff.mpr fun hc => ?_
  simp only [isBlank, Bool.or_eq_true, Bool.and_eq_true, decide_eq_true_eq, beq_iff_eq] at hc
  omega

theorem digitsValue_concat (cs : List Char) (c : Char) :
    digitsValue (cs ++ [c]) = 10 * digitsValue cs + digitValue c := by
  simp [digitsValue]

/-- Digits stand for less than the power of ten with as many zeros. -/
theorem digitsValue_lt {cs : List Char} (h : ∀ c ∈ cs, c.isDigit = true) :
    digitsValue cs < 10 ^ cs.length := by
  induction cs using List.reverseRecOn with
  | nil => decide
  | append_singleton cs c ih =>
      rw [List.forall_mem_append, List.forall_mem_singleton] at h
      have hrest := ih h.1
      have hdigit := toNat_of_isDigit h.2
      rw [digitsValue_concat, digitValue, List.length_append, List.length_singleton, Nat.pow_succ]
      omega

/-- The text is made of digits and stands for the number. -/
structure IsNumeral (cs : List Char) (n : Nat) : Prop where
  isDigit : ∀ c ∈ cs, c.isDigit = true
  value : digitsValue cs = n

theorem isNumeral_decimal (n : Nat) : IsNumeral (decimal n) n := by
  induction n using Nat.strongRecOn with
  | ind n ih =>
      rcases Nat.lt_or_ge n 10 with hsmall | hlarge
      · obtain ⟨hdigit, hvalue⟩ := isDigit_digitChar hsmall
        rw [decimal, numeral_of_lt hsmall]
        exact ⟨by simpa using hdigit, by simpa [digitsValue] using hvalue⟩
      · obtain ⟨hdigits, hquotient⟩ := ih (n / 10) (by omega)
        obtain ⟨hdigit, hvalue⟩ := isDigit_digitChar (Nat.mod_lt n (by decide))
        rw [decimal] at hdigits hquotient
        rw [decimal, numeral_of_le (by decide) hlarge]
        refine ⟨fun c hc => ?_, ?_⟩
        · rcases List.mem_append.mp hc with hfirst | hlast
          · exact hdigits c hfirst
          · rwa [List.mem_singleton.mp hlast]
        · rw [digitsValue_concat, hquotient, hvalue]
          omega

theorem IsNumeral.zero_cons {cs : List Char} {n : Nat} (h : IsNumeral cs n) :
    IsNumeral ('0' :: cs) n :=
  ⟨List.forall_mem_cons.mpr ⟨by decide, h.isDigit⟩, h.value⟩

/-- Zeros before a number do not change it. -/
theorem isNumeral_zeroPadded (width n : Nat) : IsNumeral (zeroPadded width (decimal n)) n := by
  unfold zeroPadded
  generalize width - (decimal n).length = zeros
  induction zeros with
  | zero => exact isNumeral_decimal n
  | succ zeros ih => exact ih.zero_cons

theorem length_zeroPadded {width n : Nat} (hwidth : 0 < width) (h : n < 10 ^ width) :
    (zeroPadded width (decimal n)).length = width := by
  have hle : (decimal n).length ≤ width := length_numeral_le (by decide) hwidth h
  rw [zeroPadded, List.length_append, List.length_replicate]
  omega

/-! ## Reading -/

section Reading

variable {cs : List Char} {n : Nat} {z : Int}

theorem readNat_eq_some :
    readNat cs = some n ↔ cs ≠ [] ∧ (∀ c ∈ cs, c.isDigit = true) ∧ n = digitsValue cs := by
  unfold readNat
  split
  · rename_i h
    simp only [Bool.or_eq_true, List.isEmpty_iff, Bool.not_eq_true', List.all_eq_false] at h
    constructor
    · intro hread
      cases hread
    · rintro ⟨hne, hall, -⟩
      rcases h with hnil | ⟨c, hc, hdigit⟩
      · exact absurd hnil hne
      · exact absurd (hall c hc) hdigit
  · rename_i h
    simp only [Bool.or_eq_true, List.isEmpty_iff, Bool.not_eq_true', not_or, Bool.not_eq_false,
      List.all_eq_true] at h
    rw [Option.some.injEq]
    exact ⟨fun hn => ⟨h.1, h.2, hn.symm⟩, fun hn => hn.2.2.symm⟩

theorem readNat_decimal (n : Nat) : readNat (decimal n) = some n :=
  have h := isNumeral_decimal n
  readNat_eq_some.mpr ⟨numeral_ne_nil 10 n, h.isDigit, h.value.symm⟩

/-- An integer that fits 64 bits is read back. -/
theorem readInt64_decimalInt (hmin : Int64.minValue.toInt ≤ z) (hmax : z ≤ Int64.maxValue.toInt) :
    readInt64 (decimalInt z) = some z := by
  by_cases hz : z < 0
  · have hvalue : -(z.natAbs : Int) = z := by omega
    rw [decimalInt, if_pos hz, readInt64]
    dsimp only
    rw [readNat_decimal, Option.bind_some, hvalue, if_pos ⟨hmin, hmax⟩]
  · have hvalue : (z.natAbs : Int) = z := by omega
    have hdigits := (isNumeral_decimal z.natAbs).isDigit
    rw [decimalInt, if_neg hz]
    unfold readInt64
    dsimp only
    split
    -- a sign is no digit
    · simp_all
    · simp_all
    · rw [readNat_decimal, Option.bind_some, hvalue, if_pos ⟨hmin, hmax⟩]

/-- Behind the first character of an integer there are digits only. -/
theorem isDigit_of_readInt64 (h : readInt64 cs = some z) : ∀ c ∈ cs.tail, c.isDigit = true := by
  unfold readInt64 at h
  split at h
  all_goals
    obtain ⟨n, hn, -⟩ := Option.bind_eq_some_iff.mp h
    obtain ⟨-, hdigits, -⟩ := readNat_eq_some.mp hn
  · exact hdigits
  · exact hdigits
  · exact fun c hc => hdigits c (List.mem_of_mem_tail hc)

end Reading

end StaticSite.Text
