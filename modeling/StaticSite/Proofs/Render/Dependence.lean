/-
What a page depends on.

A set of template names `Covers` a page if it has the names that the page is rendered through and,
with each text that is rendered, the names that are written in it.  Main statement: where no text
loops over the entries of the site or shows an image, two contexts that agree on the settings and on
the templates of such a set render the page alike, output or error, whatever else they hold.

Two contexts differ in what a tag does by itself and in what it has rendered below it.  The first is
settled for one tag after the other (`renderTag_of_agreesOn`), with the same nested renderings on
both sides; the second is the induction on the levels that are left.
-/
import Mathlib.Data.Set.Insert
import StaticSite.Proofs.Render.Nesting
import StaticSite.Proofs.Template.Tree

namespace StaticSite

open Content Template Render

namespace Template

/-- The tag that a step through a tree begins. -/
def Piece.tag? : Piece → Option Tag
  | .single tag => some tag
  | .opens tag => some tag
  | _ => none

/-- The tags in nodes, at any depth. -/
def tagsWithin (nodes : List Node) : List Tag := (piecesOf nodes).filterMap Piece.tag?

theorem tagsWithin_cons (node : Node) (rest : List Node) :
    tagsWithin (node :: rest) = node.pieces.filterMap Piece.tag? ++ tagsWithin rest := by
  rw [tagsWithin, piecesOf, List.filterMap_append]
  rfl

theorem tagsWithin_subset_of_mem {node : Node} {nodes : List Node} (h : node ∈ nodes) :
    node.pieces.filterMap Piece.tag? ⊆ tagsWithin nodes := by
  induction nodes with
  | nil => cases h
  | cons first rest ih =>
      rw [tagsWithin_cons]
      rcases List.mem_cons.mp h with rfl | hrest
      · exact List.subset_append_left _ _
      · exact List.subset_append_of_subset_right _ (ih hrest)

end Template

namespace Render

/-! ## What is written in nodes -/

/-- The name under which a tag asks for a template. -/
def writtenName? (tag : Tag) : Option String :=
  match tag.kind with
  | .template => tag.attributes.get? "name" <|> tag.attributes.firstText? ["optional"]
  | .content => tag.attributes.get? "template"
  | .loop => tag.attributes.get? "template"
  | _ => none

/-- Is the tag an `asset` tag with the type of images? -/
def IsImage (tag : Tag) : Prop :=
  tag.kind = .asset ∧ ∃ type, tag.attributes.get? "type" = some type ∧
    AssetKind.ofName? type = some .image

/-- The tag names a template of the set if any, and asks for no entries of the site. -/
structure StaysWithin (names : Set String) (tag : Tag) : Prop where
  named : ∀ name, writtenName? tag = some name → requestedName name ∈ names
  noLoop : tag.kind ≠ .loop
  noImage : ¬ IsImage tag

/-- All tags in the nodes stay within the set. -/
def RefersWithin (names : Set String) (nodes : List Node) : Prop :=
  ∀ tag ∈ tagsWithin nodes, StaysWithin names tag

theorem mem_tagsWithin_of_tagOf? {node : Node} {nodes : List Node} {tag : Tag}
    {children : Option (List Node)} (hnode : node ∈ nodes) (h : tagOf? node = some (tag, children)) :
    tag ∈ tagsWithin nodes := by
  refine tagsWithin_subset_of_mem hnode ?_
  cases node with
  | text content => cases h
  | single own =>
      cases h
      exact List.mem_cons_self
  | paired own body nested =>
      cases h
      exact List.mem_cons_self

theorem tagsWithin_children_subset {node : Node} {nodes children : List Node} {tag : Tag}
    (hnode : node ∈ nodes) (h : tagOf? node = some (tag, some children)) :
    tagsWithin children ⊆ tagsWithin nodes := by
  refine List.Subset.trans ?_ (tagsWithin_subset_of_mem hnode)
  cases node with
  | text content => cases h
  | single own => cases h
  | paired own body nested =>
      cases h
      intro inner htag
      have hfirst : Piece.tag? (.opens tag) = some tag := rfl
      rw [Node.pieces, List.filterMap_cons_some hfirst, List.filterMap_append]
      exact List.mem_cons_of_mem _ (List.mem_append_left _ htag)

/-! ## Contexts that agree -/

/-- The contexts differ in nothing but their collections and templates outside of the set. -/
structure AgreesOn (names : Set String) (ctx ctx' : Context) : Prop where
  config : ctx.config = ctx'.config
  index : ctx.index = ctx'.index
  renderer : ctx.renderer = ctx'.renderer
  started : ctx.started = ctx'.started
  templates : ∀ name ∈ names,
    ctx.templates.templates.get? name = ctx'.templates.templates.get? name

/-- The set has the templates that a page is rendered through, and with each text that it may be
made of the templates that the text names. -/
structure Covers (names : Set String) (ctx : Context) (d : Document) : Prop where
  type : requestedName d.type ∈ names
  default : requestedName ctx.config.build.defaultTemplate ∈ names
  body : ∀ nodes, parse d.body d.sourcePath = .ok nodes → RefersWithin names nodes
  template : ∀ name ∈ names, ∀ t, ctx.templates.templates.get? name = some t →
    ∀ nodes, parse t.source t.file = .ok nodes → RefersWithin names nodes

section Agreement

variable {names : Set String} {ctx ctx' : Context}

theorem AgreesOn.get?_eq (h : AgreesOn names ctx ctx') {name : String}
    (hname : requestedName name ∈ names) : ctx.templates.get? name = ctx'.templates.get? name :=
  h.templates _ hname

/-- What differs is the collection and the store. -/
theorem AgreesOn.eq (h : AgreesOn names ctx ctx') :
    ctx' = { ctx with collection := ctx'.collection, templates := ctx'.templates } := by
  obtain ⟨config, collection, templates, index, renderer, started⟩ := ctx
  obtain ⟨config', collection', templates', index', renderer', started'⟩ := ctx'
  obtain ⟨rfl, rfl, rfl, rfl, -⟩ := h
  rfl

theorem get?_of_required {tag : Tag} {key value : String} (h : tag.required key = .ok value) :
    tag.attributes.get? key = some value := by
  unfold Tag.required at h
  split at h
  · split at h
    · cases h
    · cases h
      assumption
  · cases h

section Tags

variable (h : AgreesOn names ctx ctx') {d : Document} {tag : Tag}
  {f : String → Document → Except RenderError (List Node) → Except RenderError String}

include h

/-- Only images are looked up in the collection. -/
theorem namedAsset_of_agreesOn {kind : AssetKind} (hkind : kind ≠ .image) (name : String) :
    namedAsset ⟨ctx, d, f⟩ tag kind name = namedAsset ⟨ctx', d, f⟩ tag kind name := by
  rw [h.eq]
  cases kind with
  | image => exact absurd rfl hkind
  | css => rfl
  | js => rfl
  | font => rfl

theorem renderAsset_of_agreesOn (hkind : tag.kind = .asset) (himage : ¬ IsImage tag) :
    renderAsset ⟨ctx, d, f⟩ tag = renderAsset ⟨ctx', d, f⟩ tag := by
  unfold renderAsset
  refine Outcome.bind_congr_of_ok fun type htype => ?_
  have himages : AssetKind.ofName? type ≠ some .image := by
    intro hname
    exact himage ⟨hkind, type, get?_of_required htype, hname⟩
  have hattribute : ∀ key, Scope.attribute? ⟨ctx, d, f⟩ tag key =
      Scope.attribute? ⟨ctx', d, f⟩ tag key := by
    intro key
    rw [h.eq]
    rfl
  cases hname : AssetKind.ofName? type with
  | none => rfl
  | some kind =>
      have hne : kind ≠ .image := by
        rintro rfl
        exact himages hname
      dsimp only
      rw [hattribute, hattribute]
      split
      · exact namedAsset_of_agreesOn h hne _
      · rw [h.eq]
        rfl
      · rfl

theorem renderShortcut_of_agreesOn {kind : AssetKind} (hkind : kind ≠ .image) :
    renderShortcut ⟨ctx, d, f⟩ tag kind = renderShortcut ⟨ctx', d, f⟩ tag kind := by
  have htext : ∀ text, Scope.interpolate ⟨ctx, d, f⟩ text = Scope.interpolate ⟨ctx', d, f⟩ text := by
    intro text
    rw [h.eq]
    rfl
  unfold renderShortcut
  split
  · rw [htext]
    exact namedAsset_of_agreesOn h hkind _
  · rfl

theorem renderContent_of_agreesOn
    (hname : ∀ name, tag.attributes.get? "template" = some name → requestedName name ∈ names) :
    renderContent ⟨ctx, d, f⟩ tag = renderContent ⟨ctx', d, f⟩ tag := by
  unfold renderContent
  dsimp only
  rw [← h.renderer]
  cases hattribute : tag.attributes.get? "template" with
  | none => rfl
  | some name =>
      dsimp only [Scope.template]
      rw [h.get?_eq (hname name hattribute)]
      rfl

theorem renderInclusion_of_agreesOn
    (hname : ∀ name, (tag.attributes.get? "name" <|> tag.attributes.firstText? ["optional"]) =
      some name → requestedName name ∈ names) :
    renderInclusion ⟨ctx, d, f⟩ tag = renderInclusion ⟨ctx', d, f⟩ tag := by
  unfold renderInclusion
  cases hwritten : tag.attributes.get? "name" <|> tag.attributes.firstText? ["optional"] with
  | none => rfl
  | some name =>
      dsimp only
      rw [h.get?_eq (hname name hwritten)]
      rfl

/-- What a tag does by itself depends on the settings and on the template that it names. -/
theorem renderTag_of_agreesOn (htag : StaysWithin names tag) (children : Option (List Node)) :
    renderTag ⟨ctx, d, f⟩ tag children = renderTag ⟨ctx', d, f⟩ tag children := by
  have hname := htag.named
  unfold renderTag
  unfold writtenName? at hname
  cases hkind : tag.kind with
  | content =>
      rw [hkind] at hname
      exact renderContent_of_agreesOn h hname
  | loop => exact absurd hkind htag.noLoop
  | asset => exact renderAsset_of_agreesOn h hkind htag.noImage
  | template =>
      rw [hkind] at hname
      exact renderInclusion_of_agreesOn h hname
  | css => exact renderShortcut_of_agreesOn h (by decide)
  | js => exact renderShortcut_of_agreesOn h (by decide)
  | echo =>
      rw [h.eq]
      rfl
  | element =>
      rw [h.eq]
      rfl
  | link =>
      rw [h.eq]
      rfl

theorem renderList_of_agreesOn {nodes : List Node} (hnodes : RefersWithin names nodes) :
    renderList ⟨ctx, d, f⟩ nodes = renderList ⟨ctx', d, f⟩ nodes := by
  induction nodes with
  | nil => rfl
  | cons node rest ih =>
      have hrest : RefersWithin names rest := by
        intro tag htag
        refine hnodes tag ?_
        rw [tagsWithin_cons]
        exact List.mem_append_right _ htag
      have htag : ∀ tag children, tagOf? node = some (tag, children) →
          renderTag ⟨ctx, d, f⟩ tag children = renderTag ⟨ctx', d, f⟩ tag children := by
        intro tag children htag
        have hmem : tag ∈ tagsWithin (node :: rest) :=
          mem_tagsWithin_of_tagOf? List.mem_cons_self htag
        exact renderTag_of_agreesOn h (hnodes tag hmem) children
      have hnode : renderNode ⟨ctx, d, f⟩ node = renderNode ⟨ctx', d, f⟩ node := by
        cases node with
        | text content =>
            rw [h.eq]
            rfl
        | single tag => exact htag tag none rfl
        | paired tag body children => exact htag tag (some children) rfl
      rw [renderList, renderList, hnode, ih hrest]

end Tags

/-! ## Renderings below -/

/-- What covered nodes have rendered below them is covered again, and for the same document. -/
theorem Covers.starts {d d' : Document} {nodes : List Node} {file : String}
    {source : Except RenderError (List Node)} (hcovers : Covers names ctx d)
    (hnodes : RefersWithin names nodes) (hstarts : Starts ctx d nodes file d' source) :
    d' = d ∧ ∀ nested, source = .ok nested → RefersWithin names nested := by
  obtain ⟨node, hnode, tag, children, htag, hstarts⟩ := hstarts
  have hwithin : StaysWithin names tag := hnodes tag (mem_tagsWithin_of_tagOf? hnode htag)
  have hname : ∀ name, writtenName? tag = some name → ∀ t, ctx.templates.get? name = some t →
      ∀ nested, parse t.source t.file = .ok nested → RefersWithin names nested := by
    intro name hwritten t ht
    exact hcovers.template _ (hwithin.named name hwritten) t ht
  have hchildren : ∀ nested, children = some nested → RefersWithin names nested := by
    rintro nested rfl inner hinner
    exact hnodes inner (tagsWithin_children_subset hnode htag hinner)
  cases hstarts with
  | body hkind hnone => exact ⟨rfl, hcovers.body⟩
  | bodyTemplate hkind hwritten ht =>
      exact ⟨rfl, hname _ (by rw [writtenName?, hkind]; exact hwritten) _ ht⟩
  | inclusion hkind hwritten ht =>
      exact ⟨rfl, hname _ (by rw [writtenName?, hkind]; exact hwritten) _ ht⟩
  | loopTemplate hkind => exact absurd hkind (hwithin.noLoop)
  | loopNodes hkind => exact absurd hkind (hwithin.noLoop)
  | elementNodes hkind hnested =>
      refine ⟨rfl, ?_⟩
      rintro nested ⟨⟩
      exact hchildren _ hnested
  | linkNodes hkind hnested =>
      refine ⟨rfl, ?_⟩
      rintro nested ⟨⟩
      exact hchildren _ hnested

/-- Covered nodes are rendered alike.  The induction is on the levels that are left. -/
theorem renderNodes_of_agreesOn (h : AgreesOn names ctx ctx') {d : Document}
    (hcovers : Covers names ctx d) (levels : Nat) {nodes : List Node}
    (hnodes : RefersWithin names nodes) :
    renderNodes ctx levels d nodes = renderNodes ctx' levels d nodes := by
  induction levels generalizing nodes with
  | zero => exact renderList_of_agreesOn h hnodes
  | succ levels ih =>
      have hbelow :
          renderList ⟨ctx, d, fun _ d nodes => do renderNodes ctx levels d (← nodes)⟩ nodes =
            renderList ⟨ctx, d, fun _ d nodes => do renderNodes ctx' levels d (← nodes)⟩ nodes := by
        refine renderList_congr ?_
        intro file d' source hstarts
        obtain ⟨rfl, hsource⟩ := hcovers.starts hnodes hstarts
        exact Outcome.bind_congr_of_ok fun nested hnested => ih (hsource nested hnested)
      rw [renderNodes, renderNodes, hbelow]
      exact renderList_of_agreesOn h hnodes

end Agreement

/-! ## Pages -/

/-- A page depends on the settings and on the templates that it is made of: a change of any other
template or of the collection leaves it as it is. -/
theorem renderPage_eq_of_agreesOn {names : Set String} {ctx ctx' : Context} {d : Document}
    (hcovers : Covers names ctx d) (hagrees : AgreesOn names ctx ctx') :
    renderPage ctx d = renderPage ctx' d := by
  have hfound : ctx.templates.templateFor? d.type ctx.config.build.defaultTemplate =
      ctx'.templates.templateFor? d.type ctx'.config.build.defaultTemplate := by
    rw [TemplateStore.templateFor?, TemplateStore.templateFor?, ← hagrees.config,
      hagrees.get?_eq hcovers.type, hagrees.get?_eq hcovers.default]
  unfold renderPage
  rw [← hfound]
  cases ht : ctx.templates.templateFor? d.type ctx.config.build.defaultTemplate with
  | none => rfl
  | some t =>
      have hnodes : ∀ nodes, parse t.source t.file = .ok nodes → RefersWithin names nodes := by
        rw [TemplateStore.templateFor?, Option.orElse_eq_orElse, Option.orElse_eq_or] at ht
        rcases Option.or_eq_some_iff.mp ht with htype | ⟨-, hdefault⟩
        · exact hcovers.template _ hcovers.type t htype
        · exact hcovers.template _ hcovers.default t hdefault
      exact Outcome.bind_congr_of_ok fun nodes hparse =>
        renderNodes_of_agreesOn hagrees hcovers depthLimit (hnodes nodes hparse)

/-! A page with a card, beside a template and an entry that it does not refer to. -/

/-- The templates of the page: one for all pages, and one for a card. -/
def cardTemplates : List (String × NamedTemplate) :=
  [("default", ⟨"default", "default.html", "\x7b@template card /\x7d\x7b@content raw /\x7d"⟩),
    ("card", ⟨"card", "card.html", "[\x7b@echo node=title /\x7d]"⟩)]

def cardPage : Document :=
  ⟨"a.md", "source/a.md", "public/a/index.html", "/a/", "page", ∅, "Hi", "a", "A", [], "", 0, none⟩

def cardContext : Context := ⟨{}, ⟨[]⟩, ⟨⟨cardTemplates⟩⟩, ⟨[]⟩, .passthrough, 0⟩

/-- The same site with a template that cannot be read, and with an entry. -/
def crowdedContext : Context :=
  { cardContext with
    collection := ⟨[.document cardPage]⟩
    templates := ⟨⟨("broken", ⟨"broken", "broken.html", "\x7b@loop"⟩) :: cardTemplates⟩⟩ }

theorem covers_cardPage : Covers {"page", "default", "card"} cardContext cardPage := by
  have hbody : parse "Hi" "source/a.md" = .ok [.text "Hi"] :=
    parseWith_eq_ok_iff_readAs.mpr ⟨[⟨.text ['H', 'i'], 0⟩], by decide +kernel, .text .nil⟩
  have hdefaultTokens : tokenize "\x7b@template card /\x7d\x7b@content raw /\x7d" =
      .ok [⟨.opener "template".toList " card /".toList, 0⟩,
        ⟨.opener "content".toList " raw /".toList, 18⟩] := by
    decide +kernel
  have hcardTokens : tokenize "[\x7b@echo node=title /\x7d]" =
      .ok [⟨.text ['['], 0⟩, ⟨.opener "echo".toList " node=title /".toList, 1⟩,
        ⟨.text [']'], 21⟩] := by
    decide +kernel
  have hdefault : parse "\x7b@template card /\x7d\x7b@content raw /\x7d" "default.html" =
      .ok [.single ⟨"template", .template, .ofItems [.word "card"], "default.html", _⟩,
        .single ⟨"content", .content, .ofItems [.word "raw"], "default.html", _⟩] :=
    parseWith_eq_ok_iff_readAs.mpr ⟨_, hdefaultTokens,
      .single (.single (by decide) (by decide +kernel) (by decide))
        (.single (.single (by decide) (by decide +kernel) (by decide)) .nil)⟩
  have hcard : parse "[\x7b@echo node=title /\x7d]" "card.html" =
      .ok [.text "[", .single ⟨"echo", .echo, .ofItems [.named "node" "title"], "card.html", _⟩,
        .text "]"] :=
    parseWith_eq_ok_iff_readAs.mpr ⟨_, hcardTokens,
      .text (.single (.single (by decide) (by decide +kernel) (by decide)) (.text .nil))⟩
  refine ⟨.inl (by decide +kernel), .inr (.inl (by decide +kernel)), ?_, ?_⟩
  · intro nodes hnodes
    cases hbody.symm.trans hnodes
    rintro tag ⟨⟩
  · rintro name (rfl | rfl | rfl) t ht nodes hnodes
    · cases ht
    · cases ht
      cases hdefault.symm.trans hnodes
      refine List.forall_mem_cons.mpr ⟨⟨?_, by decide, ?_⟩, List.forall_mem_singleton.mpr
        ⟨?_, by decide, ?_⟩⟩
      · rintro name ⟨⟩
        exact .inr (.inr (by decide +kernel))
      · rintro ⟨⟨⟩, -⟩
      · rintro name ⟨⟩
      · rintro ⟨⟨⟩, -⟩
    · cases ht
      cases hcard.symm.trans hnodes
      refine List.forall_mem_singleton.mpr ⟨?_, by decide, ?_⟩
      · rintro name ⟨⟩
      · rintro ⟨⟨⟩, -⟩

/-- The page is the same whether or not its site has a broken template and an entry more. -/
theorem renderPage_eq_of_agreesOn_crowded :
    Covers {"page", "default", "card"} cardContext cardPage ∧
      AgreesOn {"page", "default", "card"} cardContext crowdedContext ∧
      (∃ t e, crowdedContext.templates.get? "broken" = some t ∧
        parse t.source t.file = .error e) ∧
      renderPage cardContext cardPage = .ok "[A]Hi" ∧
      renderPage cardContext cardPage = renderPage crowdedContext cardPage := by
  have hagrees : AgreesOn {"page", "default", "card"} cardContext crowdedContext := by
    refine ⟨rfl, rfl, rfl, rfl, ?_⟩
    rintro name (rfl | rfl | rfl) <;> rfl
  have hfound : crowdedContext.templates.get? "broken" =
      some ⟨"broken", "broken.html", "\x7b@loop"⟩ := by
    decide +kernel
  have htokens : tokenize "\x7b@loop" = .error ⟨0, .unterminatedTag "loop"⟩ := by decide +kernel
  have hbroken : ∃ e, parse "\x7b@loop" "broken.html" = .error e := by
    cases hparse : parse "\x7b@loop" "broken.html" with
    | error e => exact ⟨e, rfl⟩
    | ok nodes =>
        obtain ⟨tokens, hok, -⟩ := parseWith_eq_ok_iff_readAs.mp hparse
        rw [htokens] at hok
        cases hok
  obtain ⟨e, hbroken⟩ := hbroken
  have hpage : renderPage cardContext cardPage = .ok "[A]Hi" := by decide +kernel
  refine ⟨covers_cardPage, hagrees, ⟨_, e, hfound, hbroken⟩, hpage, ?_⟩
  exact renderPage_eq_of_agreesOn covers_cardPage hagrees

end Render

end StaticSite
