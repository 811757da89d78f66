/-
Which texts are finite numbers.

`Decimal.IsWritten` is the grammar of decimal numbers, and a number is finite when its magnitude lies
below `overflow`, from where on the nearest double is infinite.  Main statement: a text has an order
key just if it is the text of such a number (`isSome_orderKey?_iff`).  The largest double has an odd
significand, so a number half a step above it is rounded up and is not finite.
-/
import Mathlib.Algebra.Order.Field.Power
import Mathlib.Data.List.TakeWhile
import Mathlib.Data.Rat.Cast.Order
import Mathlib.Tactic.Linarith
import Mathlib.Tactic.NormNum
import Mathlib.Tactic.Ring
import StaticSite.Proofs.Text.Numeral
import StaticSite.Text.Binary64

namespace StaticSite.Text.Binary64

/-! ## Decimal numbers -/

/-- Are all characters digits? -/
def AreDigits (cs : List Char) : Prop := ∀ c ∈ cs, c.isDigit = true

/-- A sign, and whether it is a minus. -/
inductive IsSign : Bool → List Char → Prop
  | missing : IsSign false []
  | plus : IsSign false ['+']
  | minus : IsSign true ['-']

/-- The digits after the point, with the point; both may be missing. -/
inductive IsFraction : List Char → List Char → Prop
  | missing : IsFraction [] []
  | point {digits : List Char} : AreDigits digits → IsFraction digits ('.' :: digits)

/-- An exponent: its mark, a sign and at least one digit, or nothing at all. -/
inductive IsExponent : Int → List Char → Prop
  | missing : IsExponent 0 []
  | marked {mark : Char} {negative : Bool} {sign digits : List Char} : mark = 'e' ∨ mark = 'E' →
      IsSign negative sign → digits ≠ [] → AreDigits digits →
      IsExponent (if negative then -(digitsValue digits : Int) else digitsValue digits)
        (mark :: (sign ++ digits))

namespace Decimal

/-- The text is that of the number: a sign, digits with a point among them, and an exponent. -/
inductive IsWritten : Decimal → List Char → Prop
  | mk {negative : Bool} {sign whole fraction point exponent : List Char} {e : Int} :
      IsSign negative sign → AreDigits whole → IsFraction fraction point → whole ++ fraction ≠ [] →
      IsExponent e exponent →
      IsWritten ⟨negative, digitsValue (whole ++ fraction), e - fraction.length⟩
        (sign ++ (whole ++ (point ++ exponent)))

/-- The number without its sign. -/
def magnitude (d : Decimal) : ℚ := d.mantissa * 10 ^ d.exponent

end Decimal

theorem AreDigits.ne_sign {c : Char} {cs : List Char} (h : AreDigits (c :: cs)) :
    c ≠ '-' ∧ c ≠ '+' := by
  have hc := h c List.mem_cons_self
  constructor <;> rintro rfl <;> exact absurd hc (by decide)

/-- Read digits as an integer. -/
theorem readNat_bind_eq_some {cs : List Char} {z : Int} :
    (readNat cs >>= fun n => (pure (n : Int) : Option Int)) = some z ↔
      cs ≠ [] ∧ AreDigits cs ∧ z = digitsValue cs := by
  constructor
  · intro h
    obtain ⟨n, hn, hz⟩ := Option.bind_eq_some_iff.mp h
    obtain ⟨hne, hdigits, rfl⟩ := readNat_eq_some.mp hn
    exact ⟨hne, hdigits, (Option.some.inj hz).symm⟩
  · rintro ⟨hne, hdigits, rfl⟩
    exact Option.bind_eq_some_iff.mpr ⟨_, readNat_eq_some.mpr ⟨hne, hdigits, rfl⟩, rfl⟩

/-- Without a sign the digits of an exponent are read as they are. -/
theorem readExponent_unsigned {mark c : Char} {rest : List Char} (hmark : mark = 'e' ∨ mark = 'E')
    (hminus : c ≠ '-') (hplus : c ≠ '+') :
    readExponent (mark :: c :: rest) = (readNat (c :: rest)).map fun n => (n : Int) := by
  unfold readExponent
  dsimp only
  rw [if_pos hmark]
  split
  · rename_i heq
    cases heq
    exact absurd rfl hminus
  · rename_i heq
    cases heq
    exact absurd rfl hplus
  · rfl

/-- An exponent is read just where one is written. -/
theorem readExponent_eq_some {cs : List Char} {e : Int} :
    readExponent cs = some e ↔ IsExponent e cs := by
  constructor
  · intro h
    unfold readExponent at h
    split at h
    · cases h
      exact .missing
    · rename_i c rest
      split at h
      · rename_i hmark
        split at h
        all_goals
          obtain ⟨n, hn, rfl⟩ := Option.map_eq_some_iff.mp h
          obtain ⟨hne, hdigits, rfl⟩ := readNat_bind_eq_some.mp hn
        · exact .marked hmark .minus hne hdigits
        · exact .marked hmark .plus hne hdigits
        · exact .marked hmark .missing hne hdigits
      · cases h
  · intro h
    cases h with
    | missing => rfl
    | @marked mark negative sign digits hmark hsign hne hdigits =>
        have hread := readNat_bind_eq_some.mpr ⟨hne, hdigits, rfl⟩
        cases hsign with
        | plus => exact (if_pos hmark).trans (Option.map_eq_some_iff.mpr ⟨_, hread, rfl⟩)
        | minus => exact (if_pos hmark).trans (Option.map_eq_some_iff.mpr ⟨_, hread, rfl⟩)
        | missing =>
            obtain ⟨c, rest, rfl⟩ := List.exists_cons_of_ne_nil hne
            obtain ⟨hminus, hplus⟩ := hdigits.ne_sign
            rw [List.nil_append, readExponent_unsigned hmark hminus hplus]
            exact Option.map_eq_some_iff.mpr ⟨_, hread, rfl⟩

theorem IsExponent.stops {e : Int} {cs : List Char} (h : IsExponent e cs) :
    Stops Char.isDigit cs := by
  cases h with
  | missing => simp [Stops]
  | marked hmark _ _ _ => rcases hmark with rfl | rfl <;> exact stops_cons.mpr (by decide)

theorem AreDigits.takeWhile {cs rest : List Char} (h : AreDigits cs) (hrest : Stops Char.isDigit rest) :
    (cs ++ rest).takeWhile Char.isDigit = cs :=
  takeWhile_stretch h hrest

theorem AreDigits.dropWhile {cs rest : List Char} (h : AreDigits cs) (hrest : Stops Char.isDigit rest) :
    (cs ++ rest).dropWhile Char.isDigit = rest :=
  dropWhile_stretch h hrest

theorem areDigits_takeWhile (cs : List Char) : AreDigits (cs.takeWhile Char.isDigit) :=
  fun _ hc => List.mem_takeWhile_imp hc

theorem isEmpty_and_isEmpty {whole fraction : List Char} :
    (whole.isEmpty && fraction.isEmpty) = true ↔ whole ++ fraction = [] := by
  rw [Bool.and_eq_true, List.isEmpty_iff, List.isEmpty_iff, List.append_eq_nil_iff]

/-- What is read are digits with a point among them, and an exponent. -/
theorem exists_of_readUnsigned {negative : Bool} {cs : List Char} {d : Decimal}
    (h : readUnsigned negative cs = some d) :
    ∃ whole fraction point exponent e, cs = whole ++ (point ++ exponent) ∧ AreDigits whole ∧
      IsFraction fraction point ∧ whole ++ fraction ≠ [] ∧ IsExponent e exponent ∧
      d = ⟨negative, digitsValue (whole ++ fraction), e - fraction.length⟩ := by
  have hwhole : cs.takeWhile Char.isDigit ++ cs.dropWhile Char.isDigit = cs :=
    List.takeWhile_append_dropWhile
  unfold readUnsigned at h
  dsimp only at h
  split at h
  · rename_i tail htail
    dsimp only at h
    split at h
    · cases h
    · rename_i hne
      obtain ⟨e, he, rfl⟩ := Option.map_eq_some_iff.mp h
      refine ⟨_, _, '.' :: tail.takeWhile Char.isDigit, _, e, ?_, areDigits_takeWhile cs,
        .point (areDigits_takeWhile tail), isEmpty_and_isEmpty.not.mp hne,
        readExponent_eq_some.mp he, rfl⟩
      rw [List.cons_append, List.takeWhile_append_dropWhile, ← htail, hwhole]
  · dsimp only at h
    split at h
    · cases h
    · rename_i hne
      obtain ⟨e, he, rfl⟩ := Option.map_eq_some_iff.mp h
      exact ⟨_, _, [], _, e, hwhole.symm, areDigits_takeWhile cs, .missing,
        isEmpty_and_isEmpty.not.mp hne, readExponent_eq_some.mp he, rfl⟩

/-- The digits before the point and those behind it are told apart. -/
theorem readUnsigned_append (negative : Bool) {whole fraction point exponent : List Char} {e : Int}
    (hwhole : AreDigits whole) (hfraction : IsFraction fraction point)
    (he : IsExponent e exponent) :
    readUnsigned negative (whole ++ (point ++ exponent)) =
      if whole.isEmpty && fraction.isEmpty then none
      else some ⟨negative, digitsValue (whole ++ fraction), e - fraction.length⟩ := by
  have hread := readExponent_eq_some.mpr he
  unfold readUnsigned
  dsimp only
  cases hfraction with
  | missing =>
      rw [List.nil_append, hwhole.takeWhile he.stops, hwhole.dropWhile he.stops]
      split
      · cases he with
        | marked hmark _ _ _ => exact absurd hmark (by decide)
      · rw [hread]
        rfl
  | point hdigits =>
      have hstops : Stops Char.isDigit ('.' :: (fraction ++ exponent)) :=
        stops_cons.mpr (by decide)
      rw [List.cons_append, hwhole.takeWhile hstops, hwhole.dropWhile hstops]
      split
      · rename_i heq
        obtain rfl : fraction ++ exponent = _ := (List.cons.inj heq).2
        dsimp only
        rw [hdigits.takeWhile he.stops, hdigits.dropWhile he.stops, hread]
        rfl
      · rename_i hno
        exact absurd rfl (hno _)

/-- Digits with a point among them are read just where they are written, with their exponent. -/
theorem readUnsigned_eq_some {negative : Bool} {cs : List Char} {d : Decimal} :
    readUnsigned negative cs = some d ↔
      ∃ whole fraction point exponent e, cs = whole ++ (point ++ exponent) ∧ AreDigits whole ∧
        IsFraction fraction point ∧ whole ++ fraction ≠ [] ∧ IsExponent e exponent ∧
        d = ⟨negative, digitsValue (whole ++ fraction), e - fraction.length⟩ := by
  constructor
  · exact exists_of_readUnsigned
  · rintro ⟨whole, fraction, point, exponent, e, rfl, hwhole, hfraction, hne, he, rfl⟩
    rw [readUnsigned_append negative hwhole hfraction he, if_neg (isEmpty_and_isEmpty.not.mpr hne)]

/-- A number without a sign begins with none. -/
theorem ne_sign_of_unsigned {whole fraction point exponent : List Char} (hwhole : AreDigits whole)
    (hfraction : IsFraction fraction point) (hne : whole ++ fraction ≠ []) {c : Char}
    {rest : List Char} (h : whole ++ (point ++ exponent) = c :: rest) : c ≠ '-' ∧ c ≠ '+' := by
  cases whole with
  | cons first whole =>
      cases h
      exact hwhole.ne_sign
  | nil =>
      cases hfraction with
      | missing => exact absurd rfl hne
      | point _ =>
          cases h
          decide

/-- A decimal number is read just where one is written. -/
theorem readDecimal_eq_some {cs : List Char} {d : Decimal} :
    readDecimal cs = some d ↔ d.IsWritten cs := by
  constructor
  · intro h
    unfold readDecimal at h
    split at h
    all_goals
      obtain ⟨whole, fraction, point, exponent, e, rfl, hwhole, hfraction, hne, he, rfl⟩ :=
        readUnsigned_eq_some.mp h
    · exact .mk .minus hwhole hfraction hne he
    · exact .mk .plus hwhole hfraction hne he
    · exact .mk .missing hwhole hfraction hne he
  · rintro ⟨hsign, hwhole, hfraction, hne, he⟩
    rename_i whole fraction point exponent e
    have hread := fun negative : Bool => readUnsigned_eq_some.mpr
      ⟨whole, fraction, point, exponent, e, rfl, hwhole, hfraction, hne, he,
        Eq.refl (⟨negative, _, _⟩ : Decimal)⟩
    cases hsign with
    | minus => exact hread true
    | plus => exact hread false
    | missing =>
        rw [List.nil_append]
        unfold readDecimal
        split
        · rename_i heq
          exact absurd rfl (ne_sign_of_unsigned hwhole hfraction hne heq).1
        · rename_i heq
          exact absurd rfl (ne_sign_of_unsigned hwhole hfraction hne heq).2
        · exact hread false

/-! ## The nearest double -/

section Quotient

variable {n d : Nat} (hd : 0 < d)
include hd

theorem le_roundDiv {a : Nat} (h : a * d ≤ n) : a ≤ roundDiv n d := by
  have hq : a ≤ n / d := (Nat.le_div_iff_mul_le hd).mpr h
  unfold roundDiv
  dsimp only
  split
  · exact hq
  split
  · omega
  split <;> omega

/-- Rounding up stops at an odd number half a step above it: the tie there goes to the even
number. -/
theorem roundDiv_le_iff_of_odd {k : Nat} (hk : k % 2 = 1) :
    roundDiv n d ≤ k ↔ 2 * n < (2 * k + 1) * d := by
  have hn : d * (n / d) + n % d = n := Nat.div_add_mod n d
  have hr : n % d < d := Nat.mod_lt n hd
  unfold roundDiv
  dsimp only
  generalize n / d = q at hn ⊢
  generalize n % d = r at hn hr ⊢
  rcases Nat.lt_trichotomy q k with hlt | rfl | hgt
  · have hle : d * (q + 1) ≤ d * k := Nat.mul_le_mul_left d hlt
    have hsmall : 2 * n < (2 * k + 1) * d := by nlinarith only [hn, hr, hle, hd]
    simp only [hsmall, iff_true]
    split
    · omega
    split
    · omega
    split <;> omega
  · have hsplit : (2 * q + 1) * d = 2 * (d * q) + d := by ring
    rw [hsplit]
    split
    · omega
    split
    · omega
    split <;> omega
  · have hle : d * (k + 1) ≤ d * q := Nat.mul_le_mul_left d hgt
    have hlarge : ¬2 * n < (2 * k + 1) * d := by nlinarith only [hn, hle, hd]
    simp only [hlarge, iff_false, not_le]
    split
    · exact hgt
    split
    · omega
    split <;> omega

theorem roundDiv_le {b : Nat} (h : n ≤ b * d) : roundDiv n d ≤ b := by
  have hn : d * (n / d) + n % d = n := Nat.div_add_mod n d
  have hq : n / d ≤ b := Nat.div_le_of_le_mul (by rwa [Nat.mul_comm])
  unfold roundDiv
  dsimp only
  generalize n / d = q at hn hq ⊢
  generalize n % d = r at hn ⊢
  rcases Nat.lt_or_eq_of_le hq with hlt | rfl
  · split
    · exact hq
    split
    · exact hlt
    split <;> omega
  · have hr : r = 0 := by
      have hcomm : q * d = d * q := Nat.mul_comm q d
      omega
    rw [if_pos (by omega)]

/-! The same bounds on the quotient itself. -/

theorem le_roundDiv_of_le {a : Nat} (h : (a : ℚ) ≤ n / d) : a ≤ roundDiv n d := by
  refine le_roundDiv hd ?_
  rw [le_div_iff₀ (Nat.cast_pos.mpr hd)] at h
  exact_mod_cast h

theorem roundDiv_le_of_le {b : Nat} (h : (n / d : ℚ) ≤ b) : roundDiv n d ≤ b := by
  refine roundDiv_le hd ?_
  rw [div_le_iff₀ (Nat.cast_pos.mpr hd)] at h
  exact_mod_cast h

theorem roundDiv_le_iff_lt_of_odd {k : Nat} (hk : k % 2 = 1) :
    roundDiv n d ≤ k ↔ (n / d : ℚ) < k + 1 / 2 := by
  rw [roundDiv_le_iff_of_odd hd hk, div_lt_iff₀ (Nat.cast_pos.mpr hd), ← Nat.cast_lt (α := ℚ)]
  push_cast
  constructor <;> intro h <;> linarith

end Quotient

/-- Half a step above the largest double. -/
def overflow : ℚ := 2 ^ 1024 - 2 ^ 970

theorem div_shiftLeft (num den : Nat) {z : ℤ} (hz : 0 ≤ z) :
    (num / (den <<< z.toNat : Nat) : ℚ) = num / den / 2 ^ z := by
  obtain ⟨k, rfl⟩ := Int.eq_ofNat_of_zero_le hz
  rw [Nat.shiftLeft_eq, Int.toNat_natCast, zpow_natCast, div_div]
  push_cast
  rfl

theorem shiftLeft_div (num den : Nat) {z : ℤ} (hz : z ≤ 0) :
    ((num <<< (-z).toNat : Nat) / den : ℚ) = num / den / 2 ^ z := by
  obtain ⟨k, hk⟩ := Int.eq_ofNat_of_zero_le (Int.neg_nonneg_of_nonpos hz)
  obtain rfl : z = -k := by omega
  rw [Nat.shiftLeft_eq, neg_neg, Int.toNat_natCast, zpow_neg, zpow_natCast, div_inv_eq_mul,
    div_mul_eq_mul_div]
  push_cast
  rfl

/-- The binary logarithms of two numbers bound that of their quotient. -/
theorem quotient_log2_bounds {num den : Nat} (hnum : 0 < num) (hden : 0 < den) :
    (2 : ℚ) ^ ((num.log2 : ℤ) - den.log2 - 1) ≤ num / den ∧
      (num / den : ℚ) < 2 ^ ((num.log2 : ℤ) - den.log2 + 1) := by
  have hnum₁ : (2 : ℚ) ^ num.log2 ≤ num := by exact_mod_cast Nat.log2_self_le hnum.ne'
  have hnum₂ : (num : ℚ) < 2 ^ (num.log2 + 1) := by exact_mod_cast Nat.lt_log2_self
  have hden₁ : (2 : ℚ) ^ den.log2 ≤ den := by exact_mod_cast Nat.log2_self_le hden.ne'
  have hden₂ : (den : ℚ) < 2 ^ (den.log2 + 1) := by exact_mod_cast Nat.lt_log2_self
  have hpos : (0 : ℚ) < den := by exact_mod_cast hden
  constructor
  · calc (2 : ℚ) ^ ((num.log2 : ℤ) - den.log2 - 1)
        = 2 ^ num.log2 / 2 ^ (den.log2 + 1) := by
          rw [← zpow_natCast, ← zpow_natCast, ← zpow_sub₀ two_ne_zero]
          congr 1
          push_cast
          ring
      _ ≤ num / den := div_le_div₀ (Nat.cast_nonneg _) hnum₁ hpos hden₂.le
  · calc (num / den : ℚ) < 2 ^ (num.log2 + 1) / 2 ^ den.log2 :=
          div_lt_div₀ hnum₂ hden₁ (by positivity) (by positivity)
      _ = 2 ^ ((num.log2 : ℤ) - den.log2 + 1) := by
          rw [← zpow_natCast, ← zpow_natCast, ← zpow_sub₀ two_ne_zero]
          congr 1
          push_cast
          ring

/-- A quotient is compared with a power of two on natural numbers. -/
theorem below_iff {num den : Nat} (hden : 0 < den) (log : ℤ) :
    (if 0 ≤ log then decide (num < den <<< log.toNat) else decide (num <<< (-log).toNat < den)) =
      true ↔ (num / den : ℚ) < 2 ^ log := by
  have hpos : (0 : ℚ) < den := by exact_mod_cast hden
  have hpower : (0 : ℚ) < 2 ^ log := by positivity
  rw [← div_lt_one₀ hpower]
  split
  · rename_i hz
    have hshifted : (0 : ℚ) < (den <<< log.toNat : Nat) := by
      rw [Nat.shiftLeft_eq]
      positivity
    rw [← div_shiftLeft num den hz, div_lt_one₀ hshifted, decide_eq_true_iff, Nat.cast_lt]
  · rename_i hz
    rw [← shiftLeft_div num den (by omega), div_lt_one₀ hpos, decide_eq_true_iff, Nat.cast_lt]

/-- The binade of a quotient, and its bits: the steps of the binades below it, and the quotient in
steps of its own. -/
theorem exists_binade {num den : Nat} (hnum : 0 < num) (hden : 0 < den) :
    ∃ (top : ℤ) (n d : Nat), 0 < d ∧ (2 : ℚ) ^ top ≤ num / den ∧ (num / den : ℚ) < 2 ^ (top + 1) ∧
      (n / d : ℚ) = num / den / 2 ^ max (top - 52) (-1074) ∧
      nearestBits num den = (max (top - 52) (-1074) + 1074).toNat * 2 ^ 52 + roundDiv n d := by
  obtain ⟨hlow, hhigh⟩ := quotient_log2_bounds hnum hden
  unfold nearestBits
  dsimp only
  generalize (num.log2 : ℤ) - den.log2 = log at hlow hhigh ⊢
  have hbelow := @below_iff num den hden log
  generalize (if 0 ≤ log then decide (num < den <<< log.toNat)
      else decide (num <<< (-log).toNat < den)) = below at hbelow ⊢
  -- The binade begins at the difference of the logarithms or one below it.
  have htop : (2 : ℚ) ^ (if below = true then log - 1 else log) ≤ num / den ∧
      (num / den : ℚ) < 2 ^ ((if below = true then log - 1 else log) + 1) := by
    split
    · rename_i hb
      rw [sub_add_cancel]
      exact ⟨hlow, hbelow.mp hb⟩
    · rename_i hb
      exact ⟨not_lt.mp (hbelow.not.mp hb), hhigh⟩
  generalize (if below = true then log - 1 else log) = top at htop ⊢
  refine ⟨top, ?_⟩
  generalize max (top - 52) (-1074) = scale
  by_cases hz : 0 ≤ scale
  · refine ⟨num, den <<< scale.toNat, ?_, htop.1, htop.2, div_shiftLeft num den hz, ?_⟩
    · rw [Nat.shiftLeft_eq]
      positivity
    · rw [if_pos hz, Nat.shiftLeft_eq]
  · refine ⟨num <<< (-scale).toNat, den, hden, htop.1, htop.2,
      shiftLeft_div num den (by omega), ?_⟩
    rw [if_neg hz, Nat.shiftLeft_eq]

/-- The bound in steps of the last binade. -/
theorem overflow_eq : overflow = (2 ^ 53 - 1 / 2) * 2 ^ (971 : ℤ) := by
  have hpower : (2 : ℚ) ^ 1024 = 2 ^ 971 * 2 ^ 53 := pow_add 2 971 53
  have hhalf : (2 : ℚ) ^ 971 = 2 ^ 970 * 2 := pow_succ 2 970
  have hcast : (2 : ℚ) ^ (971 : ℤ) = 2 ^ 971 := zpow_natCast 2 971
  rw [overflow, hpower, hcast, hhalf]
  generalize (2 : ℚ) ^ 970 = half
  ring

theorem two_zpow_le_overflow {top : ℤ} (h : top ≤ 1023) : (2 : ℚ) ^ top ≤ overflow := by
  have hpos : (0 : ℚ) < 2 ^ (971 : ℤ) := by positivity
  calc (2 : ℚ) ^ top ≤ 2 ^ (52 + 971 : ℤ) := zpow_le_zpow_right₀ one_le_two (by omega)
    _ = 2 ^ (52 : ℤ) * 2 ^ (971 : ℤ) := zpow_add₀ two_ne_zero 52 971
    _ ≤ overflow := by
      rw [overflow_eq]
      exact mul_le_mul_of_nonneg_right (by norm_num) hpos.le

theorem overflow_le_two_zpow {top : ℤ} (h : 1024 ≤ top) : overflow ≤ (2 : ℚ) ^ top := by
  have hpos : (0 : ℚ) < 2 ^ (971 : ℤ) := by positivity
  calc overflow ≤ 2 ^ (53 : ℤ) * 2 ^ (971 : ℤ) := by
        rw [overflow_eq]
        exact mul_le_mul_of_nonneg_right (by norm_num) hpos.le
    _ = 2 ^ (53 + 971 : ℤ) := (zpow_add₀ two_ne_zero 53 971).symm
    _ ≤ 2 ^ top := zpow_le_zpow_right₀ one_le_two (by omega)

/-- In a binade below the last a quotient has at most 53 binary digits. -/
theorem steps_le_of_lt {q : ℚ} {top : ℤ} (h : q < 2 ^ (top + 1)) :
    q / 2 ^ max (top - 52) (-1074) ≤ 2 ^ 53 := by
  rw [div_le_iff₀ (by positivity)]
  calc q ≤ 2 ^ (top + 1) := h.le
    _ ≤ 2 ^ ((53 : ℤ) + max (top - 52) (-1074)) := zpow_le_zpow_right₀ one_le_two (by omega)
    _ = 2 ^ 53 * 2 ^ max (top - 52) (-1074) := by
      rw [zpow_add₀ two_ne_zero]
      norm_num

/-- Above the small end it has at least 53 of them. -/
theorem le_steps_of_le {q : ℚ} {top : ℤ} (h : 2 ^ top ≤ q) : 2 ^ 52 ≤ q / 2 ^ (top - 52) := by
  rw [le_div_iff₀ (by positivity)]
  calc (2 : ℚ) ^ 52 * 2 ^ (top - 52) = 2 ^ ((52 : ℤ) + (top - 52)) := by
        rw [zpow_add₀ two_ne_zero]
        norm_num
    _ = 2 ^ top := by rw [add_sub_cancel]
    _ ≤ q := h

/-- A quotient has finite bits just if it is below the bound. -/
theorem nearestBits_lt_infinityBits {num den : Nat} (hnum : 0 < num) (hden : 0 < den) :
    nearestBits num den < infinityBits ↔ (num / den : ℚ) < overflow := by
  obtain ⟨top, n, d, hd, hlow, hhigh, hquot, hbits⟩ := exists_binade hnum hden
  have hinf : infinityBits = 2047 * 2 ^ 52 := by rw [infinityBits, Nat.shiftLeft_eq]
  rw [hbits, hinf]
  rcases lt_trichotomy top 1023 with hlt | rfl | hgt
  · -- A carry out of a binade below the last does not reach beyond the last.
    have hround : roundDiv n d ≤ 2 ^ 53 := by
      refine roundDiv_le_of_le hd ?_
      rw [hquot, Nat.cast_pow, Nat.cast_ofNat]
      exact steps_le_of_lt hhigh
    have hbinade : (max (top - 52) (-1074) + 1074).toNat ≤ 2044 := by omega
    refine iff_of_true (by omega) ?_
    exact hhigh.trans_le (two_zpow_le_overflow (by omega))
  · have hscale : max ((1023 : ℤ) - 52) (-1074) = 971 := by norm_num
    rw [hscale] at hquot ⊢
    calc ((971 : ℤ) + 1074).toNat * 2 ^ 52 + roundDiv n d < 2047 * 2 ^ 52
        ↔ roundDiv n d ≤ 2 ^ 53 - 1 := by
          have hbinade : ((971 : ℤ) + 1074).toNat = 2045 := rfl
          omega
      _ ↔ (n / d : ℚ) < (2 ^ 53 - 1 : Nat) + 1 / 2 := roundDiv_le_iff_lt_of_odd hd (by norm_num)
      _ ↔ (n / d : ℚ) < 2 ^ 53 - 1 / 2 := by norm_num
      _ ↔ (num / den : ℚ) < overflow := by
          rw [hquot, div_lt_iff₀ (by positivity), ← overflow_eq]
  · -- From here on the bits are those of a binade beyond the last.
    have hscale : max (top - 52) (-1074) = top - 52 := by omega
    rw [hscale] at hquot ⊢
    have hround : 2 ^ 52 ≤ roundDiv n d := by
      refine le_roundDiv_of_le hd ?_
      rw [hquot, Nat.cast_pow, Nat.cast_ofNat]
      exact le_steps_of_le hlow
    have hbinade : 2046 ≤ (top - 52 + 1074).toNat := by omega
    refine iff_of_false (by omega) (not_lt.mpr ?_)
    exact (overflow_le_two_zpow hgt).trans hlow

/-! ## Finite numbers -/

theorem overflow_le_ten_zpow {e : ℤ} (h : 400 ≤ e) : overflow ≤ (10 : ℚ) ^ e := by
  calc overflow ≤ (2 : ℚ) ^ ((3 : ℤ) * 400) := overflow_le_two_zpow (by norm_num)
    _ = 8 ^ (400 : ℤ) := by
      rw [zpow_mul]
      norm_num only
    _ ≤ 10 ^ (400 : ℤ) := zpow_le_zpow_left₀ (by norm_num) (by norm_num) (by norm_num)
    _ ≤ 10 ^ e := zpow_le_zpow_right₀ (by norm_num) h

theorem ten_zpow_le_overflow {e : ℤ} (h : e ≤ 0) : (10 : ℚ) ^ e ≤ overflow := by
  calc (10 : ℚ) ^ e ≤ 10 ^ (0 : ℤ) := zpow_le_zpow_right₀ (by norm_num) h
    _ = 2 ^ (0 : ℤ) := by rw [zpow_zero, zpow_zero]
    _ ≤ overflow := two_zpow_le_overflow (by norm_num)

theorem overflow_pos : 0 < overflow :=
  (zpow_pos (by norm_num) 0 : (0 : ℚ) < 10 ^ (0 : ℤ)).trans_le (ten_zpow_le_overflow le_rfl)

/-- The bits are those of the number as a quotient. -/
theorem scaledBits_lt_infinityBits {mantissa : Nat} (hpos : 0 < mantissa) (exponent : Int) :
    (if 0 ≤ exponent then nearestBits (mantissa * Nat.pow 10 exponent.toNat) 1
      else nearestBits mantissa (Nat.pow 10 (-exponent).toNat)) < infinityBits ↔
      (mantissa * 10 ^ exponent : ℚ) < overflow := by
  split
  · rename_i hexp
    obtain ⟨k, rfl⟩ := Int.eq_ofNat_of_zero_le hexp
    have hpower : 0 < 10 ^ k := Nat.pow_pos (by decide)
    rw [Nat.pow_eq, Int.toNat_natCast, zpow_natCast,
      nearestBits_lt_infinityBits (Nat.mul_pos hpos hpower) Nat.one_pos]
    push_cast
    rw [div_one]
  · rename_i hexp
    obtain ⟨k, hk⟩ := Int.eq_ofNat_of_zero_le (by omega : 0 ≤ -exponent)
    obtain rfl : exponent = -k := by omega
    have hpower : 0 < 10 ^ k := Nat.pow_pos (by decide)
    rw [Nat.pow_eq, neg_neg, Int.toNat_natCast, zpow_neg, zpow_natCast, ← div_eq_mul_inv,
      nearestBits_lt_infinityBits hpos hpower]
    push_cast
    rfl

/-- A decimal number lies between two powers of ten, which its digits tell. -/
theorem decimal_length_bounds {mantissa : Nat} (hpos : 0 < mantissa) (exponent : ℤ) :
    (10 : ℚ) ^ ((decimal mantissa).length + exponent - 1) ≤ mantissa * 10 ^ exponent ∧
      (mantissa * 10 ^ exponent : ℚ) < 10 ^ ((decimal mantissa).length + exponent) := by
  obtain ⟨k, hlength, hlow, hhigh⟩ := exists_length_numeral (by decide : 2 ≤ 10) hpos
  have hten : (0 : ℚ) < 10 ^ exponent := by positivity
  have hpred : ((k + 1 : Nat) : ℤ) + exponent - 1 = k + exponent := by omega
  rw [decimal, hlength, hpred, zpow_add₀ (by norm_num), zpow_add₀ (by norm_num), zpow_natCast,
    zpow_natCast]
  constructor
  · exact mul_le_mul_of_nonneg_right (by exact_mod_cast hlow) hten.le
  · exact mul_lt_mul_of_pos_right (by exact_mod_cast hhigh) hten

/-- A decimal number has a magnitude as a double just if it is below the bound. -/
theorem isSome_magnitudeBits?_iff {mantissa : Nat} {exponent : Int} :
    (magnitudeBits? mantissa exponent).isSome = true ↔ (mantissa * 10 ^ exponent : ℚ) < overflow := by
  unfold magnitudeBits?
  split
  · rename_i hzero
    rw [hzero, Nat.cast_zero, zero_mul]
    exact iff_of_true rfl overflow_pos
  · rename_i hne
    have hpos : 0 < mantissa := Nat.pos_of_ne_zero hne
    obtain ⟨hlow, hhigh⟩ := decimal_length_bounds hpos exponent
    dsimp only
    split
    · rename_i hlarge
      exact iff_of_false Bool.false_ne_true
        (not_lt.mpr ((overflow_le_ten_zpow (by omega)).trans hlow))
    split
    · rename_i hsmall
      exact iff_of_true rfl (hhigh.trans_le (ten_zpow_le_overflow (by omega)))
    rw [← scaledBits_lt_infinityBits hpos]
    generalize (if 0 ≤ exponent then nearestBits (mantissa * Nat.pow 10 exponent.toNat) 1
      else nearestBits mantissa (Nat.pow 10 (-exponent).toNat)) = bits
    split
    · rename_i hfinite
      exact iff_of_true rfl hfinite
    · rename_i hfinite
      exact iff_of_false Bool.false_ne_true hfinite

/-- The text is that of a decimal number that is finite as a double. -/
def IsFiniteNumber (text : List Char) : Prop :=
  ∃ d : Decimal, d.IsWritten text ∧ d.magnitude < overflow

theorem isSome_bind_natCast (n : Option Nat) :
    (n >>= fun bits => (pure (bits : Int) : Option Int)).isSome = n.isSome := by
  cases n <;> rfl

/-- The texts with a key are those of finite numbers, up to blanks around them. -/
theorem isSome_orderKey?_iff {s : String} :
    (orderKey? s).isSome = true ↔ IsFiniteNumber (trim s.toList) := by
  unfold orderKey? IsFiniteNumber
  constructor
  · intro h
    cases hread : readDecimal (trim s.toList) with
    | none => simp [hread] at h
    | some d =>
        rw [hread, Option.bind_some, Option.isSome_map, isSome_bind_natCast] at h
        exact ⟨d, readDecimal_eq_some.mp hread, isSome_magnitudeBits?_iff.mp h⟩
  · rintro ⟨d, hwritten, hfinite⟩
    rw [readDecimal_eq_some.mpr hwritten, Option.bind_some, Option.isSome_map,
      isSome_bind_natCast]
    exact isSome_magnitudeBits?_iff.mpr hfinite

end StaticSite.Text.Binary64
