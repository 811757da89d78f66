/-
The comparison of field values.

The texts that are numbers are those of a decimal number that is finite as a double, with blanks
around it or without (`isSome_numberKey?_iff`).  Main statement: the comparison is a total preorder
in which every number is before every other text (`compareValues_totalPreorder`).
-/
import StaticSite.Proofs.Query.StableSort
import StaticSite.Proofs.Text.Binary64

namespace StaticSite

open Text.Binary64

/-- Is a text a finite number, up to blanks around it? -/
def IsNumber (text : String) : Prop := IsFiniteNumber (Text.trim text.toList)

/-- Just the numbers have a key. -/
theorem isSome_numberKey?_iff {text : String} : (numberKey? text).isSome = true ↔ IsNumber text := by
  rw [numberKey?, isSome_orderKey?_iff, Text.trimmed, String.toList_ofList, Text.trim_trim, IsNumber]

/-- A number is before a text that is none. -/
theorem compareTexts_of_isNumber {a b : String} (ha : IsNumber a) (hb : ¬IsNumber b) :
    compareTexts a b = .lt := by
  obtain ⟨x, hx⟩ := Option.isSome_iff_exists.mp (isSome_numberKey?_iff.mpr ha)
  have hnone : numberKey? b = none :=
    Option.not_isSome_iff_eq_none.mp (isSome_numberKey?_iff.not.mpr hb)
  exact compareTexts_number_text hx hnone

/-- Values are compared by a total preorder: a value is equal to itself, turning a comparison round
reverses its result, the order is transitive, and equal values compare alike with every value.  A
number is less than every value that is none; a missing value counts as the empty text. -/
theorem compareValues_totalPreorder (a b c : Option String) :
    compareValues a a = .eq ∧
      compareValues b a = (compareValues a b).swap ∧
      (compareValues a b ≠ .gt → compareValues b c ≠ .gt → compareValues a c ≠ .gt) ∧
      (compareValues a b = .eq →
        compareValues a c = compareValues b c ∧ compareValues c a = compareValues c b) ∧
      (IsNumber (a.getD "") → ¬IsNumber (b.getD "") → compareValues a b = .lt) := by
  refine ⟨Std.ReflCmp.compare_self, Std.OrientedCmp.eq_swap, fun hab hbc => ?_, fun hab => ?_,
    compareTexts_of_isNumber⟩
  · have hle : (compareValues a c).isLE = true :=
      Std.TransCmp.isLE_trans (Ordering.isLE_iff_ne_gt.mpr hab) (Ordering.isLE_iff_ne_gt.mpr hbc)
    exact Ordering.isLE_iff_ne_gt.mp hle
  · exact ⟨Std.TransCmp.congr_left hab, Std.TransCmp.congr_right hab⟩

theorem compareValues_totalPreorder_overflow :
    IsNumber "-9e307" ∧ ¬IsNumber "-9e308" ∧ compareValues (some "-9e307") (some "-9e308") = .lt := by
  have hfinite : IsNumber "-9e307" := isSome_numberKey?_iff.mp (by decide +kernel)
  have hinfinite : ¬IsNumber "-9e308" := isSome_numberKey?_iff.not.mp (by decide +kernel)
  obtain ⟨-, -, -, -, hlt⟩ := compareValues_totalPreorder (some "-9e307") (some "-9e308") none
  exact ⟨hfinite, hinfinite, hlt hfinite hinfinite⟩

end StaticSite
