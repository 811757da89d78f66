/-
The order of texts is the order of their bytes.

Texts are compared character by character.  The encoding of a smaller character is smaller at the
first byte at which the two differ, and they do differ (`utf8EncodeChar_append_lt`), so what follows
does not count, and comparing the bytes of two texts gives the same (`bytes_lt_bytes`).
-/
import Mathlib.Data.String.Basic

namespace StaticSite.Text

/-- The bytes of a text in UTF-8. -/
def bytes (s : String) : List UInt8 := s.toUTF8.data.toList

theorem bytes_eq (s : String) : bytes s = s.toList.flatMap String.utf8EncodeChar := by
  conv => lhs; rw [← String.ofList_toList (s := s)]
  exact List.toList_data_toByteArray

theorem ofNat_cons_lt {m n : Nat} (hm : m < 256) (hn : n < 256) (rest rest' : List UInt8) :
    UInt8.ofNat m :: rest < UInt8.ofNat n :: rest' ↔ m < n ∨ m = n ∧ rest < rest' := by
  rw [List.cons_lt_cons_iff, UInt8.ofNat_lt_iff_lt hm hn, ← UInt8.toNat_inj, UInt8.toNat_ofNat',
    UInt8.toNat_ofNat', Nat.mod_eq_of_lt hm, Nat.mod_eq_of_lt hn]

/-- A smaller character has a smaller encoding, whatever follows it. -/
theorem utf8EncodeChar_append_lt {c d : Char} (h : c < d) (rest rest' : List UInt8) :
    String.utf8EncodeChar c ++ rest < String.utf8EncodeChar d ++ rest' := by
  have hlt : c.val.toNat < d.val.toNat := h
  have hd : d.val.toNat < 1114112 := by
    rcases d.valid with hlow | hhigh
    · exact hlow.trans (by decide)
    · exact hhigh.2
  -- the bytes after the first one are digits to the base 64
  have h4096 : ∀ n : Nat, n / 4096 = n / 64 / 64 := fun n => by omega
  have h262144 : ∀ n : Nat, n / 262144 = n / 64 / 64 / 64 := fun n => by omega
  unfold String.utf8EncodeChar
  dsimp only
  generalize c.val.toNat = v at *
  generalize d.val.toNat = w at *
  -- one case for each pair of lengths
  split_ifs <;>
    simp (disch := omega) only [List.cons_append, List.nil_append, ofNat_cons_lt, h4096,
      h262144] <;>
    omega

theorem bytes_lt_of_lt {s t : String} (h : s < t) : bytes s < bytes t := by
  rw [bytes_eq, bytes_eq]
  have hlex : List.Lex (· < ·) s.toList t.toList := String.lt_iff_toList_lt.mp h
  generalize s.toList = cs, t.toList = ds at hlex ⊢
  induction hlex with
  | @nil d ds =>
      obtain ⟨byte, rest, hbytes⟩ :=
        List.exists_cons_of_ne_nil (String.utf8EncodeChar_ne_nil (c := d))
      rw [List.flatMap_cons, hbytes]
      exact List.nil_lt_cons _ _
  | rel hlt => exact utf8EncodeChar_append_lt hlt _ _
  | cons _ ih => exact List.append_left_lt ih

/-- Comparing texts is comparing their bytes. -/
theorem bytes_lt_bytes {s t : String} : bytes s < bytes t ↔ s < t := by
  refine ⟨fun h => ?_, bytes_lt_of_lt⟩
  rcases lt_trichotomy s t with hlt | rfl | hgt
  · exact hlt
  · exact absurd h (List.lt_irrefl _)
  · exact absurd h (List.lt_asymm (bytes_lt_of_lt hgt))

end StaticSite.Text
