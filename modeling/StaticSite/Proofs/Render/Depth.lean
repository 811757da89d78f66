/-
The depth of a rendering matters for the limit only.

`renderNodesAt` renders nodes below a given number of other renderings; `renderNodesAt_eq` says that
it counts one more for each nested rendering and refuses to go below the limit.  Main statement:
what is rendered at one depth, output or error, is rendered the same at any smaller depth, unless it
is the error of the limit itself.

The proof compares two renderings of the same nodes whose nested renderings agree (`Agrees`), level
by level; within a level, agreement is a relation that rendering keeps.
-/
import StaticSite.Proofs.Render.Nesting

namespace StaticSite.Render

open StaticSite.Content StaticSite.Template

/-! ## Depth -/

/-- Render nodes for a document below a number of other renderings. -/
def renderNodesAt (ctx : Context) (depth : Nat) (d : Document) (nodes : List Node) :
    Except RenderError String :=
  renderNodes ctx (depthLimit - depth) d nodes

/-- A nested rendering is one level deeper, and beyond the limit it is an error. -/
theorem renderNodesAt_eq (ctx : Context) (depth : Nat) (d : Document) (nodes : List Node) :
    renderNodesAt ctx depth d nodes =
      renderList ⟨ctx, d, fun file d nodes =>
        if depth + 1 ≤ depthLimit then do renderNodesAt ctx (depth + 1) d (← nodes)
        else .error (.tooDeep file)⟩ nodes := by
  unfold renderNodesAt
  by_cases h : depth + 1 ≤ depthLimit
  · obtain ⟨levels, hlevels⟩ : ∃ levels, depthLimit - depth = levels + 1 :=
      ⟨depthLimit - (depth + 1), by omega⟩
    have hnext : depthLimit - (depth + 1) = levels := by omega
    simp only [hlevels, hnext, renderNodes, h, if_true]
  · have hlevels : depthLimit - depth = 0 := by omega
    simp only [hlevels, renderNodes, h, if_false]

/-! ## Agreement -/

/-- The first outcome is the error of the limit, or it is the second one. -/
def Agrees {α : Type} (x y : Except RenderError α) : Prop :=
  (∃ file, x = .error (.tooDeep file)) ∨ x = y

namespace Agrees

variable {α β : Type}

theorem refl (x : Except RenderError α) : Agrees x x := .inr rfl

theorem trans {x y z : Except RenderError α} (hxy : Agrees x y) (hyz : Agrees y z) :
    Agrees x z := by
  rcases hxy with hdeep | rfl
  · exact .inl hdeep
  · exact hyz

theorem bind {x y : Except RenderError α} {f g : α → Except RenderError β} (h : Agrees x y)
    (hfg : ∀ a, Agrees (f a) (g a)) : Agrees (x >>= f) (y >>= g) := by
  rcases h with ⟨file, rfl⟩ | rfl
  · exact .inl ⟨file, rfl⟩
  · cases x with
    | error e => exact .inr rfl
    | ok a => exact hfg a

end Agrees

theorem isKept_agrees {P : RenderError → Prop} : IsKept P fun _ => Agrees where
  own _ := .refl _
  bind := .bind

/-! ## All depths -/

/-- A rendering agrees with the one a level higher.  The induction is on the levels that are left
below the higher one. -/
theorem renderNodesAt_succ_agrees (ctx : Context) {levels depth : Nat}
    (hlevels : depthLimit - depth = levels) (d : Document) (nodes : List Node) :
    Agrees (renderNodesAt ctx (depth + 1) d nodes) (renderNodesAt ctx depth d nodes) := by
  induction levels generalizing depth d nodes with
  | zero =>
      rw [renderNodesAt_eq, renderNodesAt_eq]
      refine renderList_related isKept_agrees fun {file d nodes} _ => ?_
      -- nothing can be nested in the deeper one
      rw [if_neg (by omega)]
      exact .inl ⟨file, rfl⟩
  | succ levels ih =>
      rw [renderNodesAt_eq, renderNodesAt_eq]
      refine renderList_related isKept_agrees fun {file d nodes} _ => ?_
      rw [if_pos (show depth + 1 ≤ depthLimit by omega)]
      split
      · exact .bind (.refl _) fun nodes => ih (by omega) d nodes
      · exact .inl ⟨file, rfl⟩

theorem renderNodesAt_agrees (ctx : Context) {depth' depth : Nat} (hle : depth' ≤ depth)
    (d : Document) (nodes : List Node) :
    Agrees (renderNodesAt ctx depth d nodes) (renderNodesAt ctx depth' d nodes) := by
  induction hle with
  | refl => exact .refl _
  | step _ ih => exact .trans (renderNodesAt_succ_agrees ctx rfl d nodes) ih

/-- What is rendered at some depth, other than the error of the limit, is rendered at every smaller
depth.  The file of the nodes is not among the arguments, as their rendering never asks for it. -/
theorem renderNodesAt_eq_of_depth_le (ctx : Context) (d : Document) (nodes : List Node)
    {depth' depth : Nat} (hle : depth' ≤ depth)
    (hlimit : ∀ file, renderNodesAt ctx depth d nodes ≠ .error (.tooDeep file)) :
    renderNodesAt ctx depth' d nodes = renderNodesAt ctx depth d nodes := by
  rcases renderNodesAt_agrees ctx hle d nodes with ⟨file, hfile⟩ | heq
  · exact absurd hfile (hlimit file)
  · exact heq.symm

/-- A link within an element, at the last depth at which there is room for it. -/
theorem renderNodesAt_link_in_element :
    ∃ ctx d nodes, renderNodesAt ctx 50 d nodes = .error (.tooDeep "t.html") ∧
      renderNodesAt ctx 49 d nodes = .ok "<p><a href=\"/a/\">A</a></p>" ∧
      renderNodesAt ctx 0 d nodes = renderNodesAt ctx 49 d nodes := by
  refine ⟨⟨{}, ⟨[]⟩, .empty, ⟨[]⟩, .passthrough, 0⟩,
    ⟨"a.md", "source/a.md", "public/a/index.html", "/a/", "page", ∅, "", "a", "A", [], "", 0, none⟩,
    [.paired ⟨"tag", .element, .ofItems [.word "p"], "t.html", ⟨0, 1, 1⟩⟩ "\x7b@link /\x7d"
      [.single ⟨"link", .link, .empty, "t.html", ⟨8, 1, 9⟩⟩]], rfl, rfl, ?_⟩
  refine renderNodesAt_eq_of_depth_le _ _ _ (by omega) fun file hdeep => ?_
  have hok : Except.ok "<p><a href=\"/a/\">A</a></p>" = Except.error (RenderError.tooDeep file) :=
    hdeep
  cases hok

end StaticSite.Render
