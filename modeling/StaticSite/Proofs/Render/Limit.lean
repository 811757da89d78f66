/-
Nested renderings and their limit.

A rendering starts others one level deeper (`Enters`), and nothing but the check of the depth keeps
it from going on: templates may include each other in circles, and so may the bodies of documents.
`Evaluates` is an evaluation that follows this recursion upwards from any depth; being inductive, it
is finite.

Main statements.
* Every rendering has an evaluation and just one outcome, chains of nested renderings are no longer
  than the limit, and templates that include each other in a circle end in an error
  (`rendering_ends_within_limit`).
* Where every nested rendering has a smaller rank than the one that starts it, a rendering whose
  rank fits the levels that are left does not meet the limit (`renderNodesAt_ne_tooDeep_of_rank`).
-/
import Mathlib.Data.Set.Basic
import Mathlib.Logic.Relation
import StaticSite.Proofs.Render.Depth
import StaticSite.Proofs.Template.Tree

namespace StaticSite.Render

open StaticSite.Content StaticSite.Template

/-! ## Renderings that start others -/

/-- From nodes for a document one may start the rendering of other nodes. -/
def Nests (ctx : Context) (outer inner : Document × List Node) : Prop :=
  ∃ file, Starts ctx outer.1 outer.2 file inner.1 (.ok inner.2)

/-- The rendering of nodes for a document, below a number of other renderings. -/
structure Rendering where
  depth : Nat
  document : Document
  nodes : List Node

namespace Rendering

/-- The outcome of a rendering. -/
def outcome (ctx : Context) (r : Rendering) : Except RenderError String :=
  renderNodesAt ctx r.depth r.document r.nodes

/-- The outcome of a rendering from the outcomes of those below it: one level of the recursion. -/
def level (ctx : Context) (nested : Rendering → Except RenderError String) (r : Rendering) :
    Except RenderError String :=
  renderList ⟨ctx, r.document, fun file d source =>
    if r.depth + 1 ≤ depthLimit then do nested ⟨r.depth + 1, d, ← source⟩
    else .error (.tooDeep file)⟩ r.nodes

theorem outcome_eq_level (ctx : Context) (r : Rendering) :
    r.outcome ctx = r.level ctx (outcome ctx) :=
  renderNodesAt_eq ctx r.depth r.document r.nodes

end Rendering

/-- A rendering may start another one, one level deeper and not beyond the limit. -/
structure Enters (ctx : Context) (outer inner : Rendering) : Prop where
  depth_eq : inner.depth = outer.depth + 1
  depth_le : inner.depth ≤ depthLimit
  nests : Nests ctx (outer.document, outer.nodes) (inner.document, inner.nodes)

/-- A level asks only for renderings that it may start. -/
theorem Rendering.level_congr {ctx : Context} {r : Rendering}
    {nested nested' : Rendering → Except RenderError String}
    (h : ∀ inner, Enters ctx r inner → nested inner = nested' inner) :
    r.level ctx nested = r.level ctx nested' := by
  refine renderList_congr fun {file d source} hstarts => ?_
  split
  · rename_i hdepth
    cases source with
    | error e => rfl
    | ok nodes => exact h _ ⟨rfl, hdepth, file, hstarts⟩
  · rfl

/-! ## Evaluations -/

/-- An evaluation of a rendering: the renderings that it may start are evaluated in turn. -/
inductive Evaluates (ctx : Context) : Rendering → Except RenderError String → Prop
  | intro {r : Rendering} {nested : Rendering → Except RenderError String}
      (h : ∀ inner, Enters ctx r inner → Evaluates ctx inner (nested inner)) :
      Evaluates ctx r (r.level ctx nested)

/-- Evaluations come to an end, as the levels that are left become fewer. -/
theorem evaluates_outcome (ctx : Context) (r : Rendering) : Evaluates ctx r (r.outcome ctx) := by
  induction hlevels : depthLimit - r.depth generalizing r with
  | zero =>
      rw [Rendering.outcome_eq_level]
      refine .intro fun inner henters => ?_
      have heq := henters.depth_eq
      have hle := henters.depth_le
      omega
  | succ levels ih =>
      rw [Rendering.outcome_eq_level]
      refine .intro fun inner henters => ih inner ?_
      have heq := henters.depth_eq
      omega

theorem evaluates_iff {ctx : Context} {r : Rendering} {outcome : Except RenderError String} :
    Evaluates ctx r outcome ↔ outcome = r.outcome ctx := by
  refine ⟨fun h => ?_, fun h => h ▸ evaluates_outcome ctx r⟩
  induction h with
  | @intro r nested _ ih => rw [Rendering.outcome_eq_level, Rendering.level_congr ih]

/-- No chain of nested renderings is longer than the levels that are left, and none goes beyond the
limit. -/
theorem chain_within_limit {ctx : Context} {r : Rendering} {chain : List Rendering}
    (h : (r :: chain).IsChain (Enters ctx)) :
    chain.length ≤ depthLimit - r.depth ∧ ∀ inner ∈ chain, inner.depth ≤ depthLimit := by
  induction chain generalizing r with
  | nil => exact ⟨Nat.zero_le _, List.forall_mem_nil _⟩
  | cons inner chain ih =>
      obtain ⟨henters, hrest⟩ := List.isChain_cons_cons.mp h
      obtain ⟨hlength, hdepths⟩ := ih hrest
      have heq := henters.depth_eq
      have hle := henters.depth_le
      refine ⟨?_, List.forall_mem_cons.mpr ⟨hle, hdepths⟩⟩
      rw [List.length_cons]
      omega

/-! ## Texts, templates and pages -/

/-- Render the text of a file for a document, below a number of other renderings. -/
def renderTextAt (ctx : Context) (depth : Nat) (d : Document) (source file : String) :
    Except RenderError String := do
  renderNodesAt ctx depth d (← parse source file)

/-- The text of a file is evaluated, unless it cannot be read. -/
def TextEvaluates (ctx : Context) (depth : Nat) (d : Document) (source file : String)
    (outcome : Except RenderError String) : Prop :=
  match parse source file with
  | .error e => outcome = .error e
  | .ok nodes => Evaluates ctx ⟨depth, d, nodes⟩ outcome

/-- The page of a document is evaluated through its template, unless it has none. -/
def PageEvaluates (ctx : Context) (d : Document) (outcome : Except RenderError String) : Prop :=
  match ctx.templates.templateFor? d.type ctx.config.build.defaultTemplate with
  | none => outcome = .error (.unresolved d.sourcePath ⟨0, 0, 0⟩ .template d.type)
  | some t => TextEvaluates ctx 0 d t.source t.file outcome

theorem textEvaluates_iff {ctx : Context} {depth : Nat} {d : Document} {source file : String}
    {outcome : Except RenderError String} :
    TextEvaluates ctx depth d source file outcome ↔
      outcome = renderTextAt ctx depth d source file := by
  unfold TextEvaluates renderTextAt
  cases parse source file with
  | error e => rfl
  | ok nodes => exact evaluates_iff

theorem pageEvaluates_iff {ctx : Context} {d : Document} {outcome : Except RenderError String} :
    PageEvaluates ctx d outcome ↔ outcome = renderPage ctx d := by
  unfold PageEvaluates renderPage
  cases ctx.templates.templateFor? d.type ctx.config.build.defaultTemplate with
  | none => rfl
  | some t => exact textEvaluates_iff

/-! ## Circles -/

/-- Outside of other tags, the nodes include the template under a name. -/
def Includes (nodes : List Node) (name : String) : Prop :=
  ∃ node ∈ nodes, ∃ tag children, tagOf? node = some (tag, children) ∧ tag.kind = .template ∧
    (tag.attributes.get? "name" <|> tag.attributes.firstText? ["optional"]) = some name

/-- Every template of the set can be read and includes one of the set. -/
def IsCircle (ctx : Context) (S : Set NamedTemplate) : Prop :=
  ∀ t ∈ S, ∃ nodes, parse t.source t.file = .ok nodes ∧
    ∃ name, Includes nodes name ∧ ∃ next ∈ S, ctx.templates.get? name = some next

/-- What one node cannot be rendered without, the nodes cannot be rendered without. -/
theorem exists_error_renderList {s : Scope} {nodes : List Node} {node : Node} (hmem : node ∈ nodes)
    (h : ∃ e, renderNode s node = .error e) : ∃ e, renderList s nodes = .error e := by
  induction nodes with
  | nil => cases hmem
  | cons first rest ih =>
      rw [renderList]
      cases hfirst : renderNode s first with
      | error e => exact ⟨e, rfl⟩
      | ok markup =>
          rcases List.mem_cons.mp hmem with rfl | hrest
          · obtain ⟨e, he⟩ := h
            rw [hfirst] at he
            cases he
          · obtain ⟨e, he⟩ := ih hrest
            exact ⟨e, by rw [he]; rfl⟩

theorem renderNode_of_tagOf? {s : Scope} {node : Node} {tag : Tag} {children : Option (List Node)}
    (h : tagOf? node = some (tag, children)) : renderNode s node = renderTag s tag children := by
  cases node with
  | text content => cases h
  | single tag => cases h; rfl
  | paired tag body children => cases h; rfl

/-- An included template that cannot be rendered makes the nodes fail. -/
theorem exists_error_of_includes {s : Scope} {nodes : List Node} {name : String}
    {t : NamedTemplate} (hincludes : Includes nodes name)
    (ht : s.context.templates.get? name = some t)
    (h : ∃ e, s.descendInto t s.document = .error e) : ∃ e, renderList s nodes = .error e := by
  obtain ⟨node, hmem, tag, children, htag, hkind, hname⟩ := hincludes
  refine exists_error_renderList hmem ?_
  have hnode : renderNode s node = s.descendInto t s.document := by
    rw [renderNode_of_tagOf? htag, renderTag, hkind]
    dsimp only
    rw [renderInclusion, hname]
    dsimp only
    rw [ht]
  rwa [hnode]

/-- A template of a circle is an error at every depth.  The induction is on the levels that are
left: at the last one the limit is met. -/
theorem exists_error_of_isCircle {ctx : Context} {S : Set NamedTemplate} (hS : IsCircle ctx S)
    {t : NamedTemplate} (ht : t ∈ S) (depth : Nat) (d : Document) :
    ∃ e, renderTextAt ctx depth d t.source t.file = .error e := by
  induction hlevels : depthLimit - depth generalizing depth t with
  | zero =>
      obtain ⟨nodes, hparse, name, hincludes, next, -, hnext⟩ := hS t ht
      have hdeep : ¬ depth + 1 ≤ depthLimit := by omega
      have herror : ∃ e, renderNodesAt ctx depth d nodes = .error e := by
        rw [renderNodesAt_eq]
        refine exists_error_of_includes hincludes hnext ⟨.tooDeep next.file, ?_⟩
        exact if_neg hdeep
      obtain ⟨e, he⟩ := herror
      exact ⟨e, by rw [renderTextAt, hparse]; exact he⟩
  | succ levels ih =>
      obtain ⟨nodes, hparse, name, hincludes, next, hmem, hnext⟩ := hS t ht
      have hroom : depth + 1 ≤ depthLimit := by omega
      have herror : ∃ e, renderNodesAt ctx depth d nodes = .error e := by
        rw [renderNodesAt_eq]
        obtain ⟨e, he⟩ := ih hmem (depth + 1) (by omega)
        exact exists_error_of_includes hincludes hnext ⟨e, (if_pos hroom).trans he⟩
      obtain ⟨e, he⟩ := herror
      exact ⟨e, by rw [renderTextAt, hparse]; exact he⟩

/-- Rendering ends, whatever templates and documents include.  Every rendering has an evaluation,
which goes no deeper than the limit, and just one outcome, and so has every text, template and page.
A template of a circle is an error, for every document and at every depth. -/
theorem rendering_ends_within_limit (ctx : Context) :
    (∀ r outcome, Evaluates ctx r outcome ↔ outcome = r.outcome ctx) ∧
    (∀ r chain, (r :: chain).IsChain (Enters ctx) →
      chain.length ≤ depthLimit - r.depth ∧ ∀ inner ∈ chain, inner.depth ≤ depthLimit) ∧
    (∀ depth d source file outcome, TextEvaluates ctx depth d source file outcome ↔
      outcome = renderTextAt ctx depth d source file) ∧
    (∀ d source file outcome, TextEvaluates ctx 0 d source file outcome ↔
      outcome = renderText ctx d source file) ∧
    (∀ d t outcome, TextEvaluates ctx 0 d t.source t.file outcome ↔
      outcome = renderTemplate ctx t d) ∧
    (∀ d outcome, PageEvaluates ctx d outcome ↔ outcome = renderPage ctx d) ∧
    (∀ S, IsCircle ctx S → ∀ t ∈ S, ∀ depth d,
      ∃ e, renderTextAt ctx depth d t.source t.file = .error e) :=
  ⟨fun _ _ => evaluates_iff, fun _ _ => chain_within_limit, fun _ _ _ _ _ => textEvaluates_iff,
    fun _ _ _ _ => textEvaluates_iff, fun _ _ _ => textEvaluates_iff, fun _ _ => pageEvaluates_iff,
    fun _ hS _ ht => exists_error_of_isCircle hS ht⟩

/-- Two templates that include each other. -/
def templateA : NamedTemplate := ⟨"a", "a.html", "A\x7b@template b /\x7d"⟩

def templateB : NamedTemplate := ⟨"b", "b.html", "\x7b@template a /\x7d"⟩

def mutualTemplates : TemplateStore :=
  ⟨⟨[("a", ⟨"a", "a.html", "A\x7b@template b /\x7d"⟩),
    ("b", ⟨"b", "b.html", "\x7b@template a /\x7d"⟩)]⟩⟩

def mutualContext : Context := ⟨{}, ⟨[]⟩, mutualTemplates, ⟨[]⟩, .passthrough, 0⟩

/-- The tag of each that includes the other one. -/
def inclusionOfB : Tag :=
  ⟨"template", .template, .ofItems [.word "b"], "a.html", Position.locate templateA.source.toList 1⟩

def inclusionOfA : Tag :=
  ⟨"template", .template, .ofItems [.word "a"], "b.html", Position.locate templateB.source.toList 0⟩

theorem get?_templateA : mutualContext.templates.get? "a" = some templateA := by decide +kernel

theorem get?_templateB : mutualContext.templates.get? "b" = some templateB := by decide +kernel

theorem parse_templateA :
    parse templateA.source templateA.file = .ok [.text "A", .single inclusionOfB] := by
  have htokens : tokenize templateA.source = .ok [⟨.text ['A'], 0⟩,
      ⟨.opener "template".toList " b /".toList, 1⟩] := by
    decide +kernel
  have hattributes : Attributes.parse (openerParts " b /".toList).1 = .ok (.ofItems [.word "b"]) := by
    decide +kernel
  have htag : Token.StandsFor .standard "a.html" templateA.source.toList
      ⟨.opener "template".toList " b /".toList, 1⟩ (.single inclusionOfB) :=
    .single (by decide) hattributes (by decide)
  exact parseWith_eq_ok_iff_readAs.mpr ⟨_, htokens, .text (.single htag .nil)⟩

theorem parse_templateB :
    parse templateB.source templateB.file = .ok [.single inclusionOfA] := by
  have htokens : tokenize templateB.source =
      .ok [⟨.opener "template".toList " a /".toList, 0⟩] := by
    decide +kernel
  have hattributes : Attributes.parse (openerParts " a /".toList).1 = .ok (.ofItems [.word "a"]) := by
    decide +kernel
  have htag : Token.StandsFor .standard "b.html" templateB.source.toList
      ⟨.opener "template".toList " a /".toList, 0⟩ (.single inclusionOfA) :=
    .single (by decide) hattributes (by decide)
  exact parseWith_eq_ok_iff_readAs.mpr ⟨_, htokens, .single htag .nil⟩

theorem isCircle_mutual : IsCircle mutualContext {templateA, templateB} := by
  rintro t (rfl | rfl)
  · exact ⟨_, parse_templateA, "b", ⟨_, List.mem_cons_of_mem _ List.mem_cons_self, inclusionOfB, none,
      rfl, rfl, rfl⟩, templateB, .inr rfl, get?_templateB⟩
  · exact ⟨_, parse_templateB, "a", ⟨_, List.mem_cons_self, inclusionOfA, none, rfl, rfl, rfl⟩,
      templateA, .inl rfl, get?_templateA⟩

/-- The rendering of the first one enters that of the second one at the last level. -/
theorem isChain_enters_mutual (d : Document) :
    [(⟨49, d, [.text "A", .single inclusionOfB]⟩ : Rendering),
      ⟨50, d, [.single inclusionOfA]⟩].IsChain (Enters mutualContext) := by
  have hstarts : Starts mutualContext d [.text "A", .single inclusionOfB] "b.html" d
      (.ok [.single inclusionOfA]) :=
    ⟨_, List.mem_cons_of_mem _ List.mem_cons_self, inclusionOfB, none, rfl,
      parse_templateB ▸ .inclusion rfl rfl get?_templateB⟩
  exact .cons_cons ⟨rfl, Nat.le_refl 50, "b.html", hstarts⟩ (.singleton _)

/-- The circle is an error at the last level and from the outside. -/
theorem rendering_ends_within_limit_mutual :
    let ctx : Context := ⟨{}, ⟨[]⟩, mutualTemplates, ⟨[]⟩, .passthrough, 0⟩
    ∃ a b outer inner, ctx.templates.get? "a" = some a ∧ ctx.templates.get? "b" = some b ∧
      IsCircle ctx {a, b} ∧ parse a.source a.file = .ok outer ∧ parse b.source b.file = .ok inner ∧
      ∀ d, [⟨49, d, outer⟩, ⟨50, d, inner⟩].IsChain (Enters ctx) ∧
        [(⟨50, d, inner⟩ : Rendering)].length ≤ depthLimit - 49 ∧
        (∃ e, renderTextAt ctx 49 d a.source a.file = .error e) ∧
        ∃ e, renderTemplate ctx b d = .error e := by
  intro ctx
  obtain ⟨-, hchain, -, -, -, -, hends⟩ := rendering_ends_within_limit mutualContext
  refine ⟨templateA, templateB, _, _, get?_templateA, get?_templateB, isCircle_mutual,
    parse_templateA, parse_templateB, fun d => ?_⟩
  have henters := isChain_enters_mutual d
  exact ⟨henters, (hchain _ _ henters).1, hends _ isCircle_mutual templateA (.inl rfl) 49 d,
    hends _ isCircle_mutual templateB (.inr rfl) 0 d⟩

/-! ## Ranks -/

/-- The nested rendering has a rank below a bound; what cannot be read counts as the smallest. -/
def IsBelow (rank : Document × List Node → Nat) (bound : Nat) (d : Document) :
    Except RenderError (List Node) → Prop
  | .ok nodes => rank (d, nodes) < bound
  | .error _ => 0 < bound

/-- Ranks that go down from each rendering to those that it may start, from a first one on. -/
def GoesDown (ctx : Context) (rank : Document × List Node → Nat) (first : Document × List Node) :
    Prop :=
  ∀ p, Relation.ReflTransGen (Nests ctx) first p → ∀ {file d source},
    Starts ctx p.1 p.2 file d source → IsBelow rank (rank p) d source

/-- Where ranks go down, a rendering whose rank is within the levels that are left does not meet the
limit.  A level is spent on reading a template as well, even if it cannot be read: the depth is
checked first. -/
theorem renderNodesAt_ne_tooDeep_of_rank {ctx : Context} {rank : Document × List Node → Nat}
    {first : Document × List Node} (hdown : GoesDown ctx rank first) {depth : Nat}
    (hrank : rank first ≤ depthLimit - depth) (limited : String) :
    renderNodesAt ctx depth first.1 first.2 ≠ .error (.tooDeep limited) := by
  induction hlevels : depthLimit - depth generalizing depth first with
  | zero =>
      rw [renderNodesAt_eq]
      refine renderList_ne_tooDeep fun {file d source} hstarts => ?_
      -- a rank below zero would be needed
      have hbelow := hdown first .refl hstarts
      cases source with
      | error e => exact absurd hbelow (by simp only [IsBelow]; omega)
      | ok nodes => exact absurd hbelow (by simp only [IsBelow]; omega)
  | succ levels ih =>
      rw [renderNodesAt_eq]
      refine renderList_ne_tooDeep fun {file d source} hstarts => ?_
      rw [if_pos (by omega)]
      cases source with
      | error e =>
          change Except.error e ≠ _
          exact (IsLocated.error (hstarts.isLocated e rfl)).ne_tooDeep limited
      | ok nodes =>
          have hbelow : rank (d, nodes) < rank first := hdown first .refl hstarts
          have hnests : Nests ctx first (d, nodes) := ⟨file, hstarts⟩
          have hinner : GoesDown ctx rank (d, nodes) := fun p hp => hdown p (hp.head hnests)
          exact ih hinner (by omega) (by omega)

/-- The template of a loop, which has no tag. -/
def titleCard : NamedTemplate := ⟨"card", "card.html", "[$node:title]"⟩

def listedDocument : Document :=
  ⟨"a.md", "source/a.md", "public/a/index.html", "/a/", "page", ∅, "", "a", "A", [], "", 0, none⟩

def loopContext : Context :=
  ⟨{}, ⟨[.document listedDocument]⟩, ⟨⟨[("card", titleCard)]⟩⟩, ⟨[]⟩, .passthrough, 0⟩

/-- The tag `loop type=any template=card`. -/
def cardLoop : Tag :=
  ⟨"loop", .loop, .ofItems [.named "type" "any", .named "template" "card"], "t.html", ⟨0, 1, 1⟩⟩

theorem parse_titleCard : parse titleCard.source titleCard.file = .ok [.text titleCard.source] := by
  have htokens : tokenize titleCard.source = .ok [⟨.text titleCard.source.toList, 0⟩] := by
    decide +kernel
  have hread : ReadAs .standard titleCard.file titleCard.source.toList
      [⟨.text titleCard.source.toList, 0⟩] [.text (String.ofList titleCard.source.toList)] :=
    .text .nil
  rw [String.ofList_toList] at hread
  exact parseWith_eq_ok_iff_readAs.mpr ⟨_, htokens, hread⟩

/-- The loop starts its template and nothing else. -/
theorem eq_of_starts_cardLoop {file : String} {d : Document}
    {source : Except RenderError (List Node)}
    (h : Starts loopContext listedDocument [.single cardLoop] file d source) :
    source = .ok [.text titleCard.source] := by
  have hcard : loopContext.templates.get? "card" = some titleCard := by decide +kernel
  obtain ⟨node, hnode, tag, children, htag, hstarts⟩ := h
  obtain rfl := List.mem_singleton.mp hnode
  cases htag
  cases hstarts with
  | body hkind => cases hkind
  | bodyTemplate hkind => cases hkind
  | inclusion hkind => cases hkind
  | loopTemplate _ hname ht =>
      cases hname
      cases hcard.symm.trans ht
      exact parse_titleCard
  | loopNodes _ hname => cases hname
  | elementNodes hkind => cases hkind
  | linkNodes hkind => cases hkind

theorem not_starts_text {ctx : Context} {d d' : Document} {content file : String}
    {source : Except RenderError (List Node)} : ¬ Starts ctx d [.text content] file d' source := by
  rintro ⟨node, hnode, tag, children, htag, -⟩
  obtain rfl := List.mem_singleton.mp hnode
  cases htag

theorem eq_or_text_of_nests_cardLoop {p : Document × List Node}
    (h : Relation.ReflTransGen (Nests loopContext) (listedDocument, [.single cardLoop]) p) :
    p = (listedDocument, [.single cardLoop]) ∨ p.2 = [.text titleCard.source] := by
  induction h with
  | refl => exact .inl rfl
  | tail _ hnests ih =>
      obtain ⟨file, hstarts⟩ := hnests
      rcases ih with rfl | hq
      · exact .inr (Except.ok.inj (eq_of_starts_cardLoop hstarts))
      · rw [hq] at hstarts
        exact absurd hstarts not_starts_text

/-- The number of tags goes down from the loop to its template. -/
theorem goesDown_cardLoop :
    GoesDown loopContext (fun p => (p.2.filterMap tagOf?).length)
      (listedDocument, [.single cardLoop]) := by
  intro p hp file d source hstarts
  rcases eq_or_text_of_nests_cardLoop hp with rfl | hq
  · rw [eq_of_starts_cardLoop hstarts]
    exact Nat.zero_lt_one
  · rw [hq] at hstarts
    exact absurd hstarts not_starts_text

/-- A loop over one document at the last depth at which there is room for its template.  Ranks count
the tags. -/
theorem renderNodesAt_ne_tooDeep_of_rank_loop :
    ∃ (ctx : Context) (d : Document) (nodes : List Node),
      GoesDown ctx (fun p => (p.2.filterMap tagOf?).length) (d, nodes) ∧
      (nodes.filterMap tagOf?).length = depthLimit - 49 ∧
      renderNodesAt ctx 50 d nodes = .error (.tooDeep "card.html") ∧
      ∀ file, renderNodesAt ctx 49 d nodes ≠ .error (.tooDeep file) := by
  have hroom : (([.single cardLoop] : List Node).filterMap tagOf?).length ≤ depthLimit - 49 :=
    Nat.le_refl 1
  refine ⟨loopContext, listedDocument, [.single cardLoop], goesDown_cardLoop, rfl, ?_,
    fun file => ?_⟩
  · decide +kernel
  · exact renderNodesAt_ne_tooDeep_of_rank goesDown_cardLoop hroom file

end StaticSite.Render
