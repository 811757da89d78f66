/-
What slugs are.

A slug holds small ASCII letters, digits and hyphens, and no two hyphens in a row (`IsSlug`).  Every
text is made into one (`isSlug_slugChars`), and one that is a slug is left as it is
(`slugChars_eq_self`).  One pass over the small letters of a text writes its slug and looks at no
more than the last character that it has written (`slugChars_eq_foldl`).  Main statement: making
slugs is a projection onto the texts that are slugs (`slug_projection`).
-/
import Mathlib
import StaticSite.Content.Slug

namespace StaticSite.Content

/-- The characters make up a slug. -/
structure IsSlug (cs : List Char) : Prop where
  chars : ∀ c ∈ cs, isSlugChar c = true
  single : cs.IsChain fun c d => ¬ (c = '-' ∧ d = '-')

/-! ## Characters -/

section Characters

variable {c : Char}

/-- Small letters, digits and the hyphen, by their code points. -/
theorem toNat_of_isSlugChar (h : isSlugChar c = true) :
    97 ≤ c.toNat ∧ c.toNat ≤ 122 ∨ 48 ≤ c.toNat ∧ c.toNat ≤ 57 ∨ c.toNat = 45 := by
  simp only [isSlugChar, Bool.or_eq_true, beq_iff_eq] at h
  rcases h with (hlower | hdigit) | rfl
  · exact .inl (by simpa [Char.isLower, UInt32.le_iff_toNat_le] using hlower)
  · exact .inr (.inl (by simpa [Char.isDigit, UInt32.le_iff_toNat_le] using hdigit))
  · exact .inr (.inr rfl)

theorem isSlugChar_iff :
    isSlugChar c = true ↔ ('a' ≤ c ∧ c ≤ 'z') ∨ ('0' ≤ c ∧ c ≤ '9') ∨ c = '-' := by
  simp only [isSlugChar, Char.isLower, Char.isDigit, Bool.or_eq_true, Bool.and_eq_true,
    decide_eq_true_eq, beq_iff_eq, or_assoc]
  exact Iff.rfl

theorem lower_of_isSlugChar (h : isSlugChar c = true) : Text.lower c = [c] := by
  have hcode := toNat_of_isSlugChar h
  have hsmall : c.toLower = c := by
    refine dif_neg fun hcapital => ?_
    have hrange : 65 ≤ c.toNat ∧ c.toNat ≤ 90 := by
      simpa [UInt32.le_iff_toNat_le] using hcapital
    omega
  rw [Text.lower, if_pos (by omega), hsmall]

theorem isBlank_of_isSlugChar (h : isSlugChar c = true) : Text.isBlank c = false := by
  have hcode := toNat_of_isSlugChar h
  rw [Bool.eq_false_iff]
  intro hblank
  simp only [Text.isBlank, Bool.or_eq_true, Bool.and_eq_true, decide_eq_true_eq, beq_iff_eq]
    at hblank
  omega

theorem isSlugSeparator_of_isSlugChar (h : isSlugChar c = true) : isSlugSeparator c = false := by
  rw [isSlugSeparator, isBlank_of_isSlugChar h, Bool.eq_false_iff]
  intro hseparator
  simp only [Bool.false_or, Bool.or_eq_true, beq_iff_eq] at hseparator
  rcases hseparator with (rfl | rfl) | rfl <;> exact absurd h (by decide)

end Characters

/-! ## Hyphens -/

section Hyphens

variable {cs : List Char}

theorem head?_squeezeHyphens (cs : List Char) : (squeezeHyphens cs).head? = cs.head? := by
  fun_induction squeezeHyphens cs with
  | case1 => rfl
  | case2 c => rfl
  | case3 c d rest h ih => rw [ih, h.1, h.2]; rfl
  | case4 c d rest h ih => rfl

theorem getLast?_squeezeHyphens (cs : List Char) : (squeezeHyphens cs).getLast? = cs.getLast? := by
  fun_induction squeezeHyphens cs with
  | case1 => rfl
  | case2 c => rfl
  | case3 c d rest h ih => rw [ih, List.getLast?_cons_cons]
  | case4 c d rest h ih =>
      have hne : squeezeHyphens (d :: rest) ≠ [] := by
        intro hnil
        have hhead := head?_squeezeHyphens (d :: rest)
        rw [hnil] at hhead
        cases hhead
      obtain ⟨e, es, hes⟩ := List.exists_cons_of_ne_nil hne
      rw [List.getLast?_cons_cons, ← ih, hes, List.getLast?_cons_cons]

/-- One more character is kept unless it is a hyphen behind a hyphen. -/
theorem squeezeHyphens_concat (cs : List Char) (c : Char) :
    squeezeHyphens (cs ++ [c]) =
      if c = '-' ∧ cs.getLast? = some '-' then squeezeHyphens cs
      else squeezeHyphens cs ++ [c] := by
  fun_induction squeezeHyphens cs with
  | case1 => simp [squeezeHyphens]
  | case2 d =>
      by_cases h : d = '-' ∧ c = '-'
      · simp [squeezeHyphens, h]
      · rw [if_neg (by simpa [and_comm] using h)]
        simp [squeezeHyphens, h]
  | case3 d e rest h ih =>
      rw [List.getLast?_cons_cons, ← ih, List.cons_append, List.cons_append, squeezeHyphens,
        if_pos h]
  | case4 d e rest h ih =>
      rw [List.getLast?_cons_cons, List.cons_append, List.cons_append, squeezeHyphens, if_neg h,
        ← List.cons_append, ih]
      split <;> rfl

theorem squeezeHyphens_sublist (cs : List Char) : (squeezeHyphens cs).Sublist cs := by
  fun_induction squeezeHyphens cs with
  | case1 => exact .refl _
  | case2 c => exact .refl _
  | case3 c d rest h ih => exact ih.cons c
  | case4 c d rest h ih => exact ih.cons_cons c

/-- No two hyphens are left in a row. -/
theorem isChain_squeezeHyphens (cs : List Char) :
    (squeezeHyphens cs).IsChain fun c d => ¬ (c = '-' ∧ d = '-') := by
  fun_induction squeezeHyphens cs with
  | case1 => exact .nil
  | case2 c => exact .singleton c
  | case3 c d rest h ih => exact ih
  | case4 c d rest h ih =>
      refine List.isChain_cons.mpr ⟨fun e he => ?_, ih⟩
      rw [head?_squeezeHyphens] at he
      obtain rfl := Option.some.inj he
      exact h

theorem squeezeHyphens_eq_self (h : cs.IsChain fun c d => ¬ (c = '-' ∧ d = '-')) :
    squeezeHyphens cs = cs := by
  fun_induction squeezeHyphens cs with
  | case1 => rfl
  | case2 c => rfl
  | case3 c d rest hboth ih => exact absurd hboth (List.isChain_cons_cons.mp h).1
  | case4 c d rest hboth ih => rw [ih (List.isChain_cons_cons.mp h).2]

/-- Everything but hyphens is kept. -/
theorem filter_squeezeHyphens (cs : List Char) :
    (squeezeHyphens cs).filter (· != '-') = cs.filter (· != '-') := by
  fun_induction squeezeHyphens cs with
  | case1 => rfl
  | case2 c => rfl
  | case3 c d rest h ih =>
      obtain ⟨rfl, rfl⟩ := h
      exact ih
  | case4 c d rest h ih => rw [List.filter_cons, List.filter_cons, ih]

end Hyphens

/-! ## Slugs -/

section Slugs

variable {cs : List Char}

theorem isSlug_slugChars (cs : List Char) : IsSlug (slugChars cs) where
  chars _ hc := (List.mem_filter.mp ((squeezeHyphens_sublist _).subset hc)).2
  single := isChain_squeezeHyphens _

theorem slugChars_eq_self (h : IsSlug cs) : slugChars cs = cs := by
  have hlower : cs.flatMap Text.lower = cs :=
    (List.flatMap_congr fun c hc => lower_of_isSlugChar (h.chars c hc)).trans
      (List.flatMap_singleton' cs)
  have hmap : cs.map (fun c => if isSlugSeparator c then '-' else c) = cs := by
    refine (List.map_congr_left fun c hc => ?_).trans (List.map_id cs)
    rw [isSlugSeparator_of_isSlugChar (h.chars c hc)]
    rfl
  rw [slugChars, hlower, hmap, List.filter_eq_self.mpr h.chars, squeezeHyphens_eq_self h.single]

theorem slugChars_slugChars (cs : List Char) : slugChars (slugChars cs) = slugChars cs :=
  slugChars_eq_self (isSlug_slugChars cs)

/-- A slug with one more character: what separates words is written as a hyphen, a hyphen is not
written behind another one, and what has no place in a slug is not written at all. -/
def pushSlugChar (written : List Char) (c : Char) : List Char :=
  let d := if isSlugSeparator c then '-' else c
  if isSlugChar d = true ∧ ¬ (d = '-' ∧ written.getLast? = some '-') then written ++ [d]
  else written

theorem slugChars_eq_foldl (cs : List Char) :
    slugChars cs = (cs.flatMap Text.lower).foldl pushSlugChar [] := by
  rw [slugChars]
  -- the pass goes from the left, so the last character is the one to take off
  induction cs.flatMap Text.lower using List.reverseRecOn with
  | nil => rfl
  | append_singleton ds c ih =>
      rw [List.foldl_append, ← ih, List.map_append, List.filter_append, List.map_singleton]
      show _ = pushSlugChar _ c
      rw [pushSlugChar, getLast?_squeezeHyphens]
      generalize List.filter isSlugChar (ds.map _) = kept
      generalize (if isSlugSeparator c then '-' else c) = d
      by_cases hd : isSlugChar d = true
      · rw [List.filter_cons_of_pos hd, List.filter_nil, squeezeHyphens_concat]
        by_cases hpair : d = '-' ∧ kept.getLast? = some '-'
        · rw [if_pos hpair, if_neg fun h => h.2 hpair]
        · rw [if_neg hpair, if_pos ⟨hd, hpair⟩]
      · rw [List.filter_cons_of_neg hd, List.filter_nil, List.append_nil, if_neg fun h => hd h.1]

/-- The letters and digits of a slug. -/
def slugLetters (cs : List Char) : List Char := (slugChars cs).filter (· != '-')

theorem slugLetters_append (cs ds : List Char) :
    slugLetters (cs ++ ds) = slugLetters cs ++ slugLetters ds := by
  simp only [slugLetters, slugChars, filter_squeezeHyphens, List.flatMap_append, List.map_append,
    List.filter_append]

end Slugs

/-! ## Texts that are slugs -/

/-- The text is a slug: small letters and digits of ASCII and hyphens, of which no two stand side by
side. -/
def IsSlugText (s : String) : Prop :=
  (∀ c ∈ s.toList, ('a' ≤ c ∧ c ≤ 'z') ∨ ('0' ≤ c ∧ c ≤ '9') ∨ c = '-') ∧
    ¬ ['-', '-'] <:+: s.toList

theorem isSlug_toList_iff {s : String} : IsSlug s.toList ↔ IsSlugText s := by
  have hsingle : (s.toList.IsChain fun c d => ¬ (c = '-' ∧ d = '-')) ↔
      ¬ ['-', '-'] <:+: s.toList := by
    rw [List.isChain_iff_forall_rel_of_append_cons_cons]
    constructor
    · rintro h ⟨before, after, hcs⟩
      have hpair : s.toList = before ++ '-' :: '-' :: after := by
        rw [← hcs, List.append_assoc]
        rfl
      exact h hpair ⟨rfl, rfl⟩
    · rintro h c d before after hcs ⟨rfl, rfl⟩
      exact h ⟨before, after, by rw [hcs, List.append_assoc]; rfl⟩
  constructor
  · intro h
    exact ⟨fun c hc => isSlugChar_iff.mp (h.chars c hc), hsingle.mp h.single⟩
  · rintro ⟨hchars, hpair⟩
    exact ⟨fun c hc => isSlugChar_iff.mpr (hchars c hc), hsingle.mpr hpair⟩

theorem isSlugText_slug (s : String) : IsSlugText (slug s) := by
  rw [← isSlug_toList_iff, slug, String.toList_ofList]
  exact isSlug_slugChars s.toList

/-- Making slugs is a projection onto the slugs: the slug of a text, which one pass over its small
letters writes, is a slug, just the slugs are left as they are, and so the slug of a slug is the
slug itself. -/
theorem slug_projection (s : String) :
    slug s = String.ofList ((s.toList.flatMap Text.lower).foldl pushSlugChar []) ∧
      IsSlugText (slug s) ∧ (slug s = s ↔ IsSlugText s) ∧ slug (slug s) = slug s := by
  have hslug : IsSlugText (slug s) := isSlugText_slug s
  have hself : ∀ {t : String}, IsSlugText t → slug t = t := by
    intro t ht
    rw [slug, slugChars_eq_self (isSlug_toList_iff.mpr ht), String.ofList_toList]
  refine ⟨?_, hslug, ⟨fun h => h ▸ hslug, hself⟩, hself hslug⟩
  rw [slug, slugChars_eq_foldl]

end StaticSite.Content
