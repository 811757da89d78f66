/-
The renderings that nodes start.

A tag may have other nodes rendered one level deeper: the body of the document, a template, or the
nodes between its opening and its closing tag.  `Starts` lists these renderings; all other errors of
a tag are its own and name it (`IsOwn`).  Main statement: a relation of outcomes that holds of the
renderings which nodes start holds of the rendering of the nodes (`renderList_related`).  So the
outcome depends on no other nested renderings (`renderList_congr`), an error without a place comes
from one of them (`renderList_ne_tooDeep`), and an error of a tag names the tag or comes from one of
them (`renderTag_eq_error`).
-/
import StaticSite.Outcome
import StaticSite.Proofs.Template.Grammar
import StaticSite.Render.Page

namespace StaticSite

open Content Template Render

/-! ## Entries that answer a query -/

theorem Query.mem_of_mem_paginate {α : Type} {q : Query} {entries : List α} {entry : α}
    (h : entry ∈ q.paginate entries) : entry ∈ entries := by
  unfold Query.paginate at h
  split at h
  · exact h
  · exact List.mem_of_mem_drop (List.mem_of_mem_take h)

theorem Query.mem_of_mem_search {q : Query} {c : Collection} {entry : Entry}
    (h : entry ∈ q.search c) : entry ∈ c.entries := by
  have hmatching : entry ∈ q.matching c := Query.mem_of_mem_paginate h
  exact (List.mem_filter.mp (List.mem_mergeSort.mp hmatching)).1

namespace Render

/-! ## Errors of one's own -/

/-- The errors of an outcome have a property. -/
def FailsWith {α : Type} (P : RenderError → Prop) (x : Except RenderError α) : Prop :=
  ∀ e, x = .error e → P e

/-- The error names the file and the place of the tag. -/
def Names (tag : Tag) (e : RenderError) : Prop :=
  e.file = tag.file ∧ e.position? = some tag.position

/-- If there is an error, it names the place of the tag at fault. -/
def IsLocated {α : Type} (x : Except RenderError α) : Prop :=
  FailsWith (fun e => e.position?.isSome) x

/-- If there is an error, the tag is at fault. -/
def IsOwn {α : Type} (tag : Tag) (x : Except RenderError α) : Prop :=
  FailsWith (Names tag) x

theorem Names.position_isSome {tag : Tag} {e : RenderError} (h : Names tag e) :
    e.position?.isSome := by
  rw [h.2]
  rfl

namespace FailsWith

variable {α β : Type} {P : RenderError → Prop}

theorem ok (a : α) : FailsWith P (.ok a : Except RenderError α) := by
  rintro e ⟨⟩

theorem error {e : RenderError} (h : P e) : FailsWith P (.error e : Except RenderError α) := by
  rintro _ ⟨⟩
  exact h

theorem bind {x : Except RenderError α} {f : α → Except RenderError β} (hx : FailsWith P x)
    (hf : ∀ a, FailsWith P (f a)) : FailsWith P (x >>= f) := by
  cases x with
  | error e => exact .error (hx e rfl)
  | ok a => exact hf a

theorem mapM {f : α → Except RenderError β} (hf : ∀ a, FailsWith P (f a)) (as : List α) :
    FailsWith P (as.mapM f) := by
  induction as with
  | nil => exact .ok []
  | cons a as ih =>
      rw [List.mapM_cons]
      exact .bind (hf a) fun _ => .bind ih fun _ => .ok _

theorem foldlM {f : β → α → Except RenderError β} (hf : ∀ b a, FailsWith P (f b a)) (b : β)
    (as : List α) : FailsWith P (as.foldlM f b) := by
  induction as generalizing b with
  | nil => exact .ok b
  | cons a as ih =>
      rw [List.foldlM_cons]
      exact .bind (hf b a) ih

theorem fault (tag : Tag) (f : TagFault) :
    FailsWith (Names tag) (.error (tag.fault f) : Except RenderError α) :=
  .error ⟨rfl, rfl⟩

theorem unresolved (tag : Tag) (reference : Reference) (name : String) :
    FailsWith (Names tag) (.error (tag.unresolved reference name) : Except RenderError α) :=
  .error ⟨rfl, rfl⟩

end FailsWith

namespace IsLocated

variable {α : Type}

theorem error {e : RenderError} (h : e.position?.isSome) :
    IsLocated (.error e : Except RenderError α) :=
  FailsWith.error h

/-- The error of the limit names no place. -/
theorem ne_tooDeep {x : Except RenderError α} (h : IsLocated x) (file : String) :
    x ≠ .error (.tooDeep file) := by
  intro hx
  have hplace : (RenderError.tooDeep file).position?.isSome := h _ hx
  cases hplace

end IsLocated

/-! ### Parsing -/

theorem isLocated_parseToken (registry : TagRegistry) (file : String) (source : List Char)
    (s : ParseState) (token : Token) : IsLocated (parseToken registry file source s token) := by
  unfold parseToken
  split
  · exact .ok _
  · refine .bind ?_ fun opened => ?_
    · unfold readOpeningTag
      dsimp only
      split
      · exact .error rfl
      · split
        · exact .error rfl
        · exact .ok _
    · dsimp only
      split <;> exact .ok _
  · unfold closeTag
    dsimp only
    split
    · exact .error rfl
    · split
      · exact .ok _
      · exact .error rfl

theorem isLocated_parse (source file : String) : IsLocated (parse source file) := by
  unfold parse parseWith
  dsimp only
  split
  · exact .error rfl
  · refine .bind (.foldlM (isLocated_parseToken _ _ _) _ _) fun s => ?_
    unfold ParseState.finish
    split
    · exact .ok _
    · exact .error rfl

/-! ### Tags -/

section Own

variable (s : Scope) (tag : Tag)

theorem isOwn_required (key : String) : IsOwn tag (tag.required key) := by
  unfold Tag.required
  split
  · split
    · exact .fault tag _
    · exact .ok _
  · exact .fault tag _

theorem isOwn_namedAsset (kind : AssetKind) (name : String) :
    IsOwn tag (namedAsset s tag kind name) := by
  unfold namedAsset
  split
  · exact .ok _
  · split
    · exact .ok _
    · exact .unresolved tag _ _

theorem isOwn_renderAsset : IsOwn tag (renderAsset s tag) := by
  unfold renderAsset
  refine .bind (isOwn_required tag _) fun type => ?_
  split
  · exact .fault tag _
  · split
    · exact isOwn_namedAsset s tag _ _
    · exact .ok _
    · exact .fault tag _

theorem isOwn_renderShortcut (kind : AssetKind) : IsOwn tag (renderShortcut s tag kind) := by
  unfold renderShortcut
  split
  · exact isOwn_namedAsset s tag kind _
  · exact .fault tag _

theorem isOwn_renderEcho : IsOwn tag (renderEcho s tag) := by
  unfold renderEcho
  split
  · exact .fault tag _
  · refine .bind (.bind (.mapM (fun word => ?_) _) fun _ => .ok _) fun _ => .ok _
    split
    · exact .ok _
    · exact .fault tag _

theorem isOwn_loopOrder : IsOwn tag (loopOrder s tag) := by
  unfold loopOrder
  split
  · exact .ok _
  · split
    · exact .ok _
    · exact .fault tag _

theorem isOwn_loopLimit : IsOwn tag (loopLimit s tag) := by
  unfold loopLimit
  split
  · exact .ok _
  · split
    · exact .ok _
    · exact .fault tag _

theorem isOwn_loopPage : IsOwn tag (loopPage s tag) := by
  unfold loopPage
  split
  · exact .ok _
  · dsimp only
    split
    · exact .ok _
    · split
      · exact .ok _
      · exact .fault tag _

theorem isOwn_loopQuery : IsOwn tag (loopQuery s tag) :=
  .bind (isOwn_required tag _) fun _ => .bind (isOwn_loopOrder s tag) fun _ =>
    .bind (isOwn_loopLimit s tag) fun _ => .bind (isOwn_loopPage s tag) fun _ => .ok _

end Own

/-! ## Nested renderings -/

/-- A rendering that a tag with its nodes may start for a document: the file, the document and what
is read from the file. -/
inductive TagStarts (ctx : Context) (d : Document) (tag : Tag) (children : Option (List Node)) :
    String → Document → Except RenderError (List Node) → Prop
  /-- The body of the document. -/
  | body : tag.kind = .content → tag.attributes.get? "template" = none →
      TagStarts ctx d tag children d.sourcePath d (parse d.body d.sourcePath)
  /-- A template in the place of the body. -/
  | bodyTemplate {name : String} {t : NamedTemplate} : tag.kind = .content →
      tag.attributes.get? "template" = some name → ctx.templates.get? name = some t →
      TagStarts ctx d tag children t.file d (parse t.source t.file)
  /-- Another template. -/
  | inclusion {name : String} {t : NamedTemplate} : tag.kind = .template →
      (tag.attributes.get? "name" <|> tag.attributes.firstText? ["optional"]) = some name →
      ctx.templates.get? name = some t →
      TagStarts ctx d tag children t.file d (parse t.source t.file)
  /-- The template of a loop. -/
  | loopTemplate {name : String} {t : NamedTemplate} {entry : Entry} : tag.kind = .loop →
      tag.attributes.get? "template" = some name → ctx.templates.get? name = some t →
      entry ∈ ctx.collection.entries →
      TagStarts ctx d tag children t.file entry.toDocument (parse t.source t.file)
  /-- The nodes of a loop. -/
  | loopNodes {nodes : List Node} {entry : Entry} : tag.kind = .loop →
      tag.attributes.get? "template" = none → children = some nodes →
      entry ∈ ctx.collection.entries →
      TagStarts ctx d tag children tag.file entry.toDocument (.ok nodes)
  /-- The nodes of an element. -/
  | elementNodes {nodes : List Node} : tag.kind = .element → children = some nodes →
      TagStarts ctx d tag children tag.file d (.ok nodes)
  /-- The nodes of a link. -/
  | linkNodes {nodes : List Node} : tag.kind = .link → children = some nodes →
      TagStarts ctx d tag children tag.file d (.ok nodes)

/-- The tag of a node, with the nodes between its two tags if there are two. -/
def tagOf? : Node → Option (Tag × Option (List Node))
  | .text _ => none
  | .single tag => some (tag, none)
  | .paired tag _ children => some (tag, some children)

/-- A rendering that nodes may start for a document, each through one of its own tags. -/
def Starts (ctx : Context) (d : Document) (nodes : List Node) (file : String) (d' : Document)
    (source : Except RenderError (List Node)) : Prop :=
  ∃ node ∈ nodes, ∃ tag children, tagOf? node = some (tag, children) ∧
    TagStarts ctx d tag children file d' source

theorem Starts.isLocated {ctx : Context} {d d' : Document} {nodes : List Node} {file : String}
    {source : Except RenderError (List Node)} (h : Starts ctx d nodes file d' source) :
    IsLocated source := by
  obtain ⟨_, _, _, _, _, hstarts⟩ := h
  cases hstarts with
  | body => exact isLocated_parse _ _
  | bodyTemplate => exact isLocated_parse _ _
  | inclusion => exact isLocated_parse _ _
  | loopTemplate => exact isLocated_parse _ _
  | loopNodes => exact .ok _
  | elementNodes => exact .ok _
  | linkNodes => exact .ok _

/-! ## Relations of outcomes -/

/-- A relation of outcomes that holds of an outcome and itself if its errors are of some sort, as
those are that a tag raises by itself, and of a sequence if it holds of both parts. -/
structure IsKept (P : RenderError → Prop)
    (R : (α : Type) → Except RenderError α → Except RenderError α → Prop) : Prop where
  own : ∀ {α : Type} {x : Except RenderError α}, FailsWith P x → R α x x
  bind : ∀ {α β : Type} {x y : Except RenderError α} {f g : α → Except RenderError β}, R α x y →
    (∀ a, R β (f a) (g a)) → R β (x >>= f) (y >>= g)

namespace IsKept

variable {P : RenderError → Prop}
  {R : (α : Type) → Except RenderError α → Except RenderError α → Prop} (hR : IsKept P R)

include hR

theorem mono {Q : RenderError → Prop} (hQ : ∀ e, Q e → P e) : IsKept Q R where
  own h := hR.own fun e he => hQ e (h e he)
  bind := hR.bind

theorem pure {α : Type} (a : α) : R α (.ok a) (.ok a) := hR.own (.ok a)

theorem map {α β : Type} (f : α → β) {x y : Except RenderError α} (h : R α x y) :
    R β (x.map f) (y.map f) := by
  have hbind : ∀ z : Except RenderError α, z.map f = z >>= fun a => .ok (f a) := by
    intro z
    cases z <;> rfl
  rw [hbind, hbind]
  exact hR.bind h fun a => hR.pure (f a)

end IsKept

section Related

variable {R : (α : Type) → Except RenderError α → Except RenderError α → Prop}
  {ctx : Context} {d : Document}
  {f g : String → Document → Except RenderError (List Node) → Except RenderError String}

section Tags

variable {tag : Tag} (hR : IsKept (Names tag) R) {children : Option (List Node)}
  (h : ∀ {file d' source}, TagStarts ctx d tag children file d' source →
    R String (f file d' source) (g file d' source))

include hR h

theorem renderContent_related (hkind : tag.kind = .content) :
    R String (renderContent ⟨ctx, d, f⟩ tag) (renderContent ⟨ctx, d, g⟩ tag) := by
  have hmarkup : ∀ markup : String, R String
      (if tag.attributes.isGiven "raw" then .ok markup else .ok (ctx.renderer.render markup))
      (if tag.attributes.isGiven "raw" then .ok markup else .ok (ctx.renderer.render markup)) := by
    intro markup
    split <;> exact hR.pure _
  unfold renderContent
  dsimp only
  cases hname : tag.attributes.get? "template" with
  | none => exact hR.bind (h (.body hkind hname)) hmarkup
  | some name =>
      dsimp only [Scope.template]
      cases ht : ctx.templates.get? name with
      | none =>
          change R String (.error (tag.unresolved .template name)) (.error _)
          exact hR.own (.unresolved tag _ _)
      | some t =>
          change R String (f t.file d (parse t.source t.file) >>= _)
            (g t.file d (parse t.source t.file) >>= _)
          exact hR.bind (h (.bodyTemplate hkind hname ht)) hmarkup

theorem renderInclusion_related (hkind : tag.kind = .template) :
    R String (renderInclusion ⟨ctx, d, f⟩ tag) (renderInclusion ⟨ctx, d, g⟩ tag) := by
  unfold renderInclusion
  cases hname : tag.attributes.get? "name" <|> tag.attributes.firstText? ["optional"] with
  | none => exact hR.own (.fault tag _)
  | some name =>
      dsimp only
      cases ht : ctx.templates.get? name with
      | none =>
          dsimp only
          split
          · exact hR.pure _
          · exact hR.own (.unresolved tag _ _)
      | some t => exact h (.inclusion hkind hname ht)

theorem innerMarkup_related (hkind : tag.kind = .element ∨ tag.kind = .link) (key : String) :
    R (Option String) (innerMarkup ⟨ctx, d, f⟩ tag children key)
      (innerMarkup ⟨ctx, d, g⟩ tag children key) := by
  cases hchildren : children with
  | none => exact hR.pure _
  | some nodes =>
      refine hR.map some (h ?_)
      rcases hkind with hkind | hkind
      · exact .elementNodes hkind hchildren
      · exact .linkNodes hkind hchildren

theorem renderElement_related (hkind : tag.kind = .element) :
    R String (renderElement ⟨ctx, d, f⟩ tag children)
      (renderElement ⟨ctx, d, g⟩ tag children) := by
  unfold renderElement
  cases tag.attributes.positional with
  | nil => exact hR.own (.fault tag _)
  | cons name flags =>
      dsimp only
      split
      · refine hR.bind (innerMarkup_related hR h (.inl hkind) "text") fun inner => ?_
        cases inner with
        | some inner => exact hR.pure _
        | none =>
            dsimp only
            split <;> exact hR.pure _
      · exact hR.own (.fault tag _)

theorem renderLink_related (hkind : tag.kind = .link) :
    R String (renderLink ⟨ctx, d, f⟩ tag children) (renderLink ⟨ctx, d, g⟩ tag children) :=
  hR.bind (innerMarkup_related hR h (.inr hkind) "label") fun _ => hR.pure _

omit h in
/-- A loop stops at its first error. -/
theorem renderEach_related {item item' : Document → Except RenderError String}
    {entries : List Entry}
    (hitem : ∀ entry ∈ entries, R String (item entry.toDocument) (item' entry.toDocument)) :
    R String (renderEach item entries) (renderEach item' entries) := by
  induction entries with
  | nil => exact hR.pure _
  | cons entry rest ih =>
      obtain ⟨hfirst, hrest⟩ := List.forall_mem_cons.mp hitem
      exact hR.bind hfirst fun _ => hR.bind (ih hrest) fun _ => hR.pure _

theorem renderLoop_related (hkind : tag.kind = .loop) :
    R String (renderLoop ⟨ctx, d, f⟩ tag children) (renderLoop ⟨ctx, d, g⟩ tag children) := by
  refine hR.bind (hR.own (isOwn_loopQuery _ tag)) fun query => ?_
  unfold loopItem
  cases hname : tag.attributes.get? "template" with
  | none =>
      cases hchildren : children with
      | none =>
          change R String (.error (tag.fault .loopWithoutTemplate)) (.error _)
          exact hR.own (.fault tag _)
      | some nodes =>
          exact renderEach_related hR fun entry hentry =>
            h (.loopNodes hkind hname hchildren (Query.mem_of_mem_search hentry))
  | some name =>
      dsimp only [Scope.template]
      cases ht : ctx.templates.get? name with
      | none =>
          change R String (.error (tag.unresolved .template name)) (.error _)
          exact hR.own (.unresolved tag _ _)
      | some t =>
          exact renderEach_related hR fun entry hentry =>
            h (.loopTemplate hkind hname ht (Query.mem_of_mem_search hentry))

theorem renderTag_related :
    R String (renderTag ⟨ctx, d, f⟩ tag children) (renderTag ⟨ctx, d, g⟩ tag children) := by
  unfold renderTag
  cases hkind : tag.kind with
  | content => exact renderContent_related hR h hkind
  | loop => exact renderLoop_related hR h hkind
  | asset => exact hR.own (isOwn_renderAsset _ tag)
  | echo => exact hR.own (isOwn_renderEcho _ tag)
  | element => exact renderElement_related hR h hkind
  | template => exact renderInclusion_related hR h hkind
  | link => exact renderLink_related hR h hkind
  | css => exact hR.own (isOwn_renderShortcut _ tag .css)
  | js => exact hR.own (isOwn_renderShortcut _ tag .js)

end Tags

/-- What relates the renderings that nodes start relates the renderings of the nodes. -/
theorem renderList_related (hR : IsKept (fun e => e.position?.isSome) R) {nodes : List Node}
    (h : ∀ {file d' source}, Starts ctx d nodes file d' source →
      R String (f file d' source) (g file d' source)) :
    R String (renderList ⟨ctx, d, f⟩ nodes) (renderList ⟨ctx, d, g⟩ nodes) := by
  have hown : ∀ tag, IsKept (Names tag) R := fun tag => hR.mono fun _ => Names.position_isSome
  induction nodes with
  | nil => exact hR.pure _
  | cons node rest ih =>
      have hnode : R String (renderNode ⟨ctx, d, f⟩ node) (renderNode ⟨ctx, d, g⟩ node) := by
        cases node with
        | text content => exact hR.pure _
        | single tag =>
            exact renderTag_related (hown tag) fun hstarts =>
              h ⟨_, List.mem_cons_self, tag, none, rfl, hstarts⟩
        | paired tag body children =>
            exact renderTag_related (hown tag) fun hstarts =>
              h ⟨_, List.mem_cons_self, tag, some children, rfl, hstarts⟩
      have hrest := ih fun ⟨node, hnode, hstarts⟩ => h ⟨node, List.mem_cons_of_mem _ hnode, hstarts⟩
      exact hR.bind hnode fun _ => hR.bind hrest fun _ => hR.pure _

end Related

/-! ### Three relations -/

theorem isKept_eq {P : RenderError → Prop} : IsKept P fun _ x y => x = y where
  own _ := rfl
  bind := by
    rintro α β x _ f g rfl hfg
    rw [funext hfg]

theorem isKept_ne_tooDeep (file : String) :
    IsKept (fun e => e.position?.isSome) fun _ x _ => x ≠ .error (.tooDeep file) where
  own h := IsLocated.ne_tooDeep h file
  bind := by
    intro α β x _ f _ hx hf
    cases x with
    | error e => exact fun he => hx (by cases he; rfl)
    | ok a => exact hf a

theorem isKept_failsWith (P : RenderError → Prop) : IsKept P fun _ x _ => FailsWith P x where
  own h := h
  bind := .bind

section Outcomes

variable {ctx : Context} {d : Document} {nodes : List Node}
  {f g : String → Document → Except RenderError (List Node) → Except RenderError String}

/-- The outcome depends on no nested rendering but those that the nodes may start. -/
theorem renderList_congr
    (h : ∀ {file d' source}, Starts ctx d nodes file d' source →
      f file d' source = g file d' source) :
    renderList ⟨ctx, d, f⟩ nodes = renderList ⟨ctx, d, g⟩ nodes :=
  renderList_related isKept_eq h

/-- The error of the limit comes from a nested rendering. -/
theorem renderList_ne_tooDeep {limited : String}
    (h : ∀ {file d' source}, Starts ctx d nodes file d' source →
      f file d' source ≠ .error (.tooDeep limited)) :
    renderList ⟨ctx, d, f⟩ nodes ≠ .error (.tooDeep limited) :=
  renderList_related (g := f) (isKept_ne_tooDeep limited) h

/-- An error of a tag names the tag, or it comes from a nested rendering. -/
theorem renderTag_eq_error {tag : Tag} {children : Option (List Node)} {e : RenderError}
    (h : renderTag ⟨ctx, d, f⟩ tag children = .error e) :
    Names tag e ∨ ∃ file d' source,
      TagStarts ctx d tag children file d' source ∧ f file d' source = .error e := by
  let P : RenderError → Prop := fun e => Names tag e ∨ ∃ file d' source,
    TagStarts ctx d tag children file d' source ∧ f file d' source = .error e
  have hkept : IsKept (Names tag) fun _ x _ => FailsWith P x :=
    (isKept_failsWith P).mono fun _ hnames => .inl hnames
  have hnested : ∀ {file d' source}, TagStarts ctx d tag children file d' source →
      FailsWith P (f file d' source) :=
    fun hstarts _ he => .inr ⟨_, _, _, hstarts, he⟩
  exact renderTag_related (g := f) hkept hnested e h

/-- An error of nodes comes from the tag of one of them. -/
theorem renderList_eq_error {s : Scope} {e : RenderError} (h : renderList s nodes = .error e) :
    ∃ node ∈ nodes, ∃ tag children,
      tagOf? node = some (tag, children) ∧ renderTag s tag children = .error e := by
  induction nodes with
  | nil => cases h
  | cons node rest ih =>
      rcases Outcome.bind_eq_error.mp h with hnode | ⟨_, _, hrest⟩
      · refine ⟨node, List.mem_cons_self, ?_⟩
        cases node with
        | text content => cases hnode
        | single tag => exact ⟨tag, none, rfl, hnode⟩
        | paired tag body children => exact ⟨tag, some children, rfl, hnode⟩
      · rcases Outcome.bind_eq_error.mp hrest with hothers | ⟨_, _, hend⟩
        · obtain ⟨node, hmem, hfound⟩ := ih hothers
          exact ⟨node, List.mem_cons_of_mem _ hmem, hfound⟩
        · cases hend

end Outcomes

end Render

end StaticSite
