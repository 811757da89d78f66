/-
Texts with variables.

`Interpolates` says what a text with values in the place of its variables is, without reading it from
left to right: text that no variable begins in, the value of the first variable, and what the text
behind it is.  Main statement: interpolation gives this text and no other (`interpolates_iff`).
-/
import StaticSite.Proofs.Template.VariableText

namespace StaticSite.Template

/-! ## Substitution -/

/-- A variable is written at the front of the text. -/
def BeginsVariable (cs : List Char) : Prop :=
  ∃ (v : Variable) (token after : List Char), cs = token ++ after ∧ v.IsWritten token after

/-- No variable begins in the text, given what follows it. -/
def HasNoVariable (cs after : List Char) : Prop :=
  ∀ front back, cs = front ++ back → back ≠ [] → ¬ BeginsVariable (back ++ after)

/-- Values stand in the place of variables, from left to right: what no variable begins in is kept,
the first variable is replaced by its value, and the text behind it is treated in the same way. -/
inductive Interpolates (ctx : VariableContext) : List Char → List Char → Prop
  | plain {text : List Char} : HasNoVariable text [] → Interpolates ctx text text
  | replace {before token after out : List Char} {v : Variable} :
      HasNoVariable before (token ++ after) → v.IsWritten token after →
      Interpolates ctx after out →
      Interpolates ctx (before ++ (token ++ after)) (before ++ ((ctx.resolve v).toList ++ out))

theorem Variable.IsWritten.exists_dollar {v : Variable} {token after : List Char}
    (h : v.IsWritten token after) : ∃ rest, token = '$' :: rest := by
  cases h with
  | mk _ _ => exact ⟨_, rfl⟩

/-- A variable begins with a dollar sign, and one can be read behind it. -/
theorem beginsVariable_cons {c : Char} {rest : List Char} :
    BeginsVariable (c :: rest) ↔ c = '$' ∧ (readVariable rest).isSome = true := by
  constructor
  · rintro ⟨v, token, after, htoken, hwritten⟩
    obtain ⟨tail, rfl⟩ := hwritten.exists_dollar
    obtain ⟨rfl, -⟩ := List.cons.inj htoken
    rw [readVariable_eq_some.mpr ⟨_, htoken, hwritten⟩]
    exact ⟨rfl, rfl⟩
  · rintro ⟨rfl, hread⟩
    obtain ⟨⟨v, after⟩, hread⟩ := Option.isSome_iff_exists.mp hread
    obtain ⟨token, htoken, hwritten⟩ := readVariable_eq_some.mp hread
    exact ⟨v, token, after, htoken, hwritten⟩

theorem hasNoVariable_nil (after : List Char) : HasNoVariable [] after := by
  intro front back hcs hback
  exact absurd (List.append_eq_nil_iff.mp hcs.symm).2 hback

theorem hasNoVariable_cons {c : Char} {cs after : List Char} :
    HasNoVariable (c :: cs) after ↔
      ¬ BeginsVariable (c :: (cs ++ after)) ∧ HasNoVariable cs after := by
  constructor
  · intro h
    refine ⟨h [] (c :: cs) rfl (List.cons_ne_nil _ _), fun front back hcs hback => ?_⟩
    exact h (c :: front) back (by rw [hcs, List.cons_append]) hback
  · rintro ⟨hhead, htail⟩ front back hcs hback
    cases front with
    | nil =>
        rw [List.nil_append] at hcs
        rw [← hcs]
        exact hhead
    | cons d front =>
        obtain ⟨rfl, hrest⟩ := List.cons.inj hcs
        exact htail front back hrest hback

/-! ### Segments -/

theorem segments_of_some {rest after : List Char} {v : Variable}
    (h : readVariable rest = some (v, after)) : segments ('$' :: rest) = .var v :: segments after := by
  rw [segments.eq_def]
  dsimp only
  rw [if_pos rfl]
  split <;> simp_all

/-- A character that no variable begins with is kept. -/
theorem segments_of_not {c : Char} {rest : List Char} (h : ¬ BeginsVariable (c :: rest)) :
    segments (c :: rest) = .char c :: segments rest := by
  rw [beginsVariable_cons] at h
  rw [segments.eq_def]
  dsimp only
  by_cases hc : c = '$'
  · rw [if_pos hc]
    split
    · rename_i hread
      exact absurd ⟨hc, by rw [hread]; rfl⟩ h
    · rfl
  · rw [if_neg hc]

namespace VariableContext

variable (ctx : VariableContext)

/-- The text of a text's segments. -/
def segmentsText (cs : List Char) : List Char := (segments cs).flatMap ctx.segmentText

theorem segmentsText_nil : ctx.segmentsText [] = [] := by
  rw [segmentsText, segments.eq_def]
  rfl

/-- Text that no variable begins in is kept. -/
theorem segmentsText_append {cs after : List Char} (h : HasNoVariable cs after) :
    ctx.segmentsText (cs ++ after) = cs ++ ctx.segmentsText after := by
  induction cs with
  | nil => rfl
  | cons c cs ih =>
      obtain ⟨hhead, htail⟩ := hasNoVariable_cons.mp h
      rw [List.cons_append, segmentsText, segments_of_not hhead, List.flatMap_cons,
        ← segmentsText, ih htail]
      rfl

/-- A variable is replaced by its value. -/
theorem segmentsText_token {v : Variable} {token after : List Char} (h : v.IsWritten token after) :
    ctx.segmentsText (token ++ after) = (ctx.resolve v).toList ++ ctx.segmentsText after := by
  obtain ⟨rest, rfl⟩ := h.exists_dollar
  have hread : readVariable (rest ++ after) = some (v, after) :=
    readVariable_eq_some.mpr ⟨_, rfl, h⟩
  rw [List.cons_append, segmentsText, segments_of_some hread, List.flatMap_cons]
  rfl

end VariableContext

theorem Interpolates.cons {ctx : VariableContext} {c : Char} {rest out : List Char}
    (h : Interpolates ctx rest out) (hc : ¬ BeginsVariable (c :: rest)) :
    Interpolates ctx (c :: rest) (c :: out) := by
  cases h with
  | plain hplain =>
      refine .plain (hasNoVariable_cons.mpr ⟨?_, hplain⟩)
      rwa [List.append_nil]
  | replace hbefore hv hafter =>
      exact .replace (hasNoVariable_cons.mpr ⟨hc, hbefore⟩) hv hafter

/-- The segments of a text interpolate it. -/
theorem interpolates_segmentsText (ctx : VariableContext) (cs : List Char) :
    Interpolates ctx cs (ctx.segmentsText cs) := by
  unfold VariableContext.segmentsText
  fun_induction segments cs with
  | case1 => exact .plain (hasNoVariable_nil [])
  | case2 rest v after hread ih =>
      obtain ⟨token, htoken, hwritten⟩ := readVariable_eq_some.mp hread
      rw [htoken]
      exact .replace (hasNoVariable_nil _) hwritten ih
  | case3 rest hread ih =>
      refine ih.cons fun h => ?_
      rw [beginsVariable_cons, hread] at h
      cases h.2
  | case4 c rest hc ih => exact ih.cons fun h => hc (beginsVariable_cons.mp h).1

/-- A text is interpolated in one way only. -/
theorem Interpolates.segmentsText_eq {ctx : VariableContext} {cs out : List Char}
    (h : Interpolates ctx cs out) : ctx.segmentsText cs = out := by
  induction h with
  | @plain cs hplain =>
      have happend := ctx.segmentsText_append hplain
      rwa [ctx.segmentsText_nil, List.append_nil] at happend
  | replace hbefore hv _ ih =>
      rw [ctx.segmentsText_append hbefore, ctx.segmentsText_token hv, ih]

/-- Interpolation is one substitution from left to right: a text goes over into another one just if
values stand there in the place of its variables.  A variable is written with the longest name and as
many modifiers as possible, one for each item of the chain and in its order; text that no variable
begins in is kept, and a value is not looked at again. -/
theorem interpolates_iff (ctx : VariableContext) (text : String) (out : List Char) :
    Interpolates ctx text.toList out ↔ (ctx.interpolate text).toList = out := by
  have hinterpolate : (ctx.interpolate text).toList = ctx.segmentsText text.toList :=
    String.toList_ofList
  rw [hinterpolate]
  constructor
  · exact Interpolates.segmentsText_eq
  · rintro rfl
    exact interpolates_segmentsText ctx text.toList

end StaticSite.Template
