/-
Variables without a value.

A modifier that gets no value gives what it would give for the empty text, so the values that a
chain passes on count only by their text (`getD_modified`).  Main statement: a variable without a
value is one with the empty text, and of its modifiers only those count that follow the first
fallback with a text (`resolve_of_missing`).
-/
import StaticSite.Template.Variable

namespace StaticSite.Template

namespace Modifier

/-- Every modifier but a fallback leaves the empty text empty. -/
theorem onText_empty {m : Modifier} (h : ∀ text, m ≠ fallback text) (locale : String) :
    m.onText locale "" = "" := by
  cases m with
  | upper => rfl
  | lower => rfl
  | slug => rfl
  | title => rfl
  | escape => rfl
  | date style =>
      have hnone : Time.millisOf? "" = none := by decide
      rw [onText, Time.dateText, hnone]
      rfl
  | fallback text => exact absurd rfl (h text)

theorem onText_fallback (text locale value : String) :
    (fallback text).onText locale value = if value = "" then text else value := by
  simp [onText]

/-- A missing value counts as the empty text. -/
theorem getD_apply (m : Modifier) (locale : String) (value : Option String) :
    (m.apply locale value).getD "" = m.onText locale (value.getD "") := by
  cases value with
  | some text => cases m <;> rfl
  | none =>
      cases m with
      | fallback text => rfl
      | _ => exact (onText_empty (by simp) locale).symm

end Modifier

namespace VariableContext

open Modifier (fallback)

variable {ctx : VariableContext}

/-- A text after modifiers, from left to right. -/
def modifiedText (ctx : VariableContext) (modifiers : List Modifier) (text : String) : String :=
  modifiers.foldl (fun text m => m.onText ctx.config.site.locale text) text

theorem getD_modified (ctx : VariableContext) (modifiers : List Modifier) (value : Option String) :
    (ctx.modified modifiers value).getD "" = ctx.modifiedText modifiers (value.getD "") := by
  induction modifiers generalizing value with
  | nil => rfl
  | cons m modifiers ih =>
      have hrest := ih (m.apply ctx.config.site.locale value)
      rw [Modifier.getD_apply] at hrest
      exact hrest

/-- Modifiers that supply no text leave the empty text empty. -/
theorem modifiedText_empty {modifiers : List Modifier}
    (h : ∀ text, fallback text ∈ modifiers → text = "") : ctx.modifiedText modifiers "" = "" := by
  induction modifiers with
  | nil => rfl
  | cons m modifiers ih =>
      have hstep : m.onText ctx.config.site.locale "" = "" := by
        cases m with
        | fallback text => rw [Modifier.onText_fallback, if_pos rfl, h text List.mem_cons_self]
        | _ => exact Modifier.onText_empty (by simp) _
      have hrest := ih fun text hmem => h text (List.mem_cons_of_mem _ hmem)
      rw [modifiedText, List.foldl_cons, hstep]
      exact hrest

/-- From the empty text, the first fallback with a text is where a chain begins. -/
theorem modifiedText_fallback {before after : List Modifier} {text : String}
    (h : ∀ text, fallback text ∈ before → text = "") :
    ctx.modifiedText (before ++ fallback text :: after) "" = ctx.modifiedText after text := by
  have hbefore : ctx.modifiedText before "" = "" := modifiedText_empty h
  unfold modifiedText at hbefore ⊢
  rw [List.foldl_append, hbefore, List.foldl_cons, Modifier.onText_fallback, if_pos rfl]

/-- A variable without a value is one with the empty text.  A fallback gives its text for the empty
text and no other modifier changes this one, so the value is what the modifiers behind the first
fallback with a text make of it, and empty if there is none. -/
theorem resolve_of_missing {v : Variable} (h : ctx.lookup v.scope v.name = none) :
    ctx.resolve v = ctx.modifiedText v.modifiers "" ∧
    (∀ w : Variable, ctx.lookup w.scope w.name = some "" → w.modifiers = v.modifiers →
      ctx.resolve w = ctx.resolve v) ∧
    (∀ locale text value,
      (fallback text).onText locale value = if value = "" then text else value) ∧
    (∀ m locale, (∀ text, m ≠ fallback text) → m.onText locale "" = "") ∧
    (∀ before text after, v.modifiers = before ++ fallback text :: after →
      (∀ text, fallback text ∈ before → text = "") →
      ctx.resolve v = ctx.modifiedText after text) ∧
    ((∀ text, fallback text ∈ v.modifiers → text = "") → ctx.resolve v = "") := by
  have hresolve : ctx.resolve v = ctx.modifiedText v.modifiers "" := by
    rw [resolve, getD_modified, h]
    rfl
  refine ⟨hresolve, fun w hw hmodifiers => ?_, fun locale text value => ?_, fun m locale hm => ?_,
    fun before text after hmodifiers hbefore => ?_, fun hnone => ?_⟩
  · rw [hresolve, resolve, getD_modified, hw, hmodifiers]
    rfl
  · exact Modifier.onText_fallback text locale value
  · exact Modifier.onText_empty hm locale
  · rw [hresolve, hmodifiers, modifiedText_fallback hbefore]
  · rw [hresolve, modifiedText_empty hnone]

/-- A page without a subtitle. -/
def untitledContext : VariableContext :=
  ⟨.read "" ⟨"a.md", "source/a.md", "public/a/index.html", "/a/", 0⟩ .passthrough, {}, 0⟩

/-- Dates and an empty fallback pass nothing on; what follows the second fallback works on its
text. -/
theorem resolve_of_missing_subtitle :
    untitledContext.lookup .metadata "subtitle" = none ∧
      untitledContext.resolve ⟨.metadata, "subtitle",
        [.date .iso, .fallback "", .title, .fallback "no name", .fallback "x", .upper]⟩ =
        "NO NAME" := by
  have hnone : untitledContext.lookup .metadata "subtitle" = none := by decide
  obtain ⟨-, -, -, -, hfirst, -⟩ := resolve_of_missing (v := ⟨.metadata, "subtitle",
    [.date .iso, .fallback "", .title, .fallback "no name", .fallback "x", .upper]⟩) hnone
  refine ⟨hnone, (hfirst [.date .iso, .fallback "", .title] "no name" _ rfl (by simp)).trans ?_⟩
  decide

end VariableContext

end StaticSite.Template
