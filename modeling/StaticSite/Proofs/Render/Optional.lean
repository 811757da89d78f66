/-
Tags that may refer to nothing.

With the bare word `optional` a tag is empty where its own reference leads nowhere.  An unresolved
reference is the tag's own if the tag raises it whatever nested renderings give
(`RaisesUnresolved`), which tells it from one in a template that is included.  Main statement: the
word changes the outcome there and nowhere else (`renderTag_optional`).
-/
import StaticSite.Proofs.Render.Nesting
import StaticSite.Proofs.Template.MoreAttributes

namespace StaticSite

namespace Template

/-! ## Tags with one more word -/

namespace Tag

variable (tag : Tag) {word flag : String} {skip : List String}

/-- The tag with one more bare word. -/
def withWord (tag : Tag) (word : String) : Tag :=
  { tag with attributes := tag.attributes.add (.word word) }

theorem isGiven_withWord_self (word : String) :
    (tag.withWord word).attributes.isGiven word = true := by
  simp [withWord, Attributes.isGiven, Attributes.add]

/-- Other flags are given as before. -/
theorem isGiven_withWord_of_ne (h : flag ≠ word) :
    (tag.withWord word).attributes.isGiven flag = tag.attributes.isGiven flag := by
  have hflags : (tag.attributes.flags ++ [word]).contains flag =
      tag.attributes.flags.contains flag := by
    simp [h]
  rw [Attributes.isGiven, Attributes.isGiven, ← hflags]
  rfl

/-- A required attribute has a value, or it is missing. -/
theorem required_eq (key : String) :
    (∃ value, tag.required key = .ok value) ∨
      tag.required key = .error (tag.fault (.missingAttribute tag.name key)) := by
  unfold required
  split
  · split
    · exact .inr rfl
    · exact .inl ⟨_, rfl⟩
  · exact .inr rfl

/-- A word that is skipped is not the first text. -/
theorem firstText?_withWord (h : word ∈ skip) :
    (tag.withWord word).attributes.firstText? skip = tag.attributes.firstText? skip := by
  have hskip : (!skip.contains word) = false := by simpa using h
  rw [Attributes.firstText?, withWord, Attributes.add, List.find?_append]
  simp only [List.find?_cons, hskip, List.find?_nil, Option.or_none]
  rfl

end Tag

/-- The error is that of a reference. -/
def RenderError.IsUnresolved (e : RenderError) : Prop :=
  ∃ file position reference name, e = .unresolved file position reference name

end Template

namespace Render

open Template

/-! ## References to assets -/

/-- The outcome with the empty text in the place of an unresolved reference. -/
def forgiven : Except RenderError String → Except RenderError String
  | .error (.unresolved _ _ _ _) => .ok ""
  | outcome => outcome

section Assets

variable (s : Scope) (tag : Tag)

theorem assetMarkup_withWord (kind : AssetKind) (asset : ResolvedAsset) :
    assetMarkup s (tag.withWord "optional") kind asset = assetMarkup s tag kind asset := by
  cases kind with
  | css => rfl
  | font => rfl
  | image => rfl
  | js =>
      simp only [assetMarkup, script, keepFlag,
        tag.isGiven_withWord_of_ne (show "module" ≠ "optional" by decide),
        tag.isGiven_withWord_of_ne (show "defer" ≠ "optional" by decide),
        tag.isGiven_withWord_of_ne (show "async" ≠ "optional" by decide)]

theorem namedAsset_withWord (kind : AssetKind) (name : String) :
    namedAsset s (tag.withWord "optional") kind name = forgiven (namedAsset s tag kind name) := by
  unfold namedAsset
  cases s.context.resolver.resolve kind name with
  | some asset => exact congrArg Except.ok (assetMarkup_withWord s tag kind _)
  | none =>
      dsimp only
      rw [if_pos (tag.isGiven_withWord_self _)]
      split <;> rfl

theorem renderAsset_withWord :
    renderAsset s (tag.withWord "optional") = forgiven (renderAsset s tag) := by
  have hrequired : (tag.withWord "optional").required "type" = tag.required "type" := rfl
  have hname : s.attribute? (tag.withWord "optional") "name" = s.attribute? tag "name" := rfl
  have hpath : s.attribute? (tag.withWord "optional") "path" = s.attribute? tag "path" := rfl
  unfold renderAsset
  rw [hrequired, hname, hpath]
  rcases tag.required_eq "type" with ⟨type, htype⟩ | htype
  · rw [htype]
    dsimp only [bind, Except.bind]
    cases AssetKind.ofName? type with
    | none => rfl
    | some kind =>
        dsimp only
        cases s.attribute? tag "name" with
        | some name => exact namedAsset_withWord s tag kind name
        | none =>
            cases s.attribute? tag "path" with
            | some path => exact congrArg Except.ok (assetMarkup_withWord s tag kind _)
            | none => rfl
  · rw [htype]
    rfl

theorem renderShortcut_withWord (kind : AssetKind) :
    renderShortcut s (tag.withWord "optional") kind = forgiven (renderShortcut s tag kind) := by
  have hname : (tag.withWord "optional").attributes.get? "name" = tag.attributes.get? "name" := rfl
  unfold renderShortcut
  rw [hname, tag.firstText?_withWord (by decide)]
  cases tag.attributes.get? "name" <|> tag.attributes.firstText? shortcutWords with
  | none => rfl
  | some name => exact namedAsset_withWord s tag kind _

/-- A reference to an asset that is optional is never unresolved. -/
theorem namedAsset_of_isGiven (h : tag.attributes.isGiven "optional" = true) (kind : AssetKind)
    (name : String) : FailsWith (fun e => ¬ e.IsUnresolved) (namedAsset s tag kind name) := by
  unfold namedAsset
  split
  · exact .ok _
  · rw [if_pos h]
    exact .ok _

theorem failsWith_fault {α : Type} (f : TagFault) :
    FailsWith (fun e => ¬ e.IsUnresolved) (.error (tag.fault f) : Except RenderError α) :=
  .error fun ⟨_, _, _, _, heq⟩ => nomatch heq

theorem renderAsset_of_isGiven (h : tag.attributes.isGiven "optional" = true) :
    FailsWith (fun e => ¬ e.IsUnresolved) (renderAsset s tag) := by
  unfold renderAsset
  refine .bind ?_ fun type => ?_
  · rcases tag.required_eq "type" with ⟨type, htype⟩ | htype <;> rw [htype]
    · exact .ok _
    · exact failsWith_fault tag _
  · split
    · exact failsWith_fault tag _
    · split
      · exact namedAsset_of_isGiven s tag h _ _
      · exact .ok _
      · exact failsWith_fault tag _

theorem renderShortcut_of_isGiven (h : tag.attributes.isGiven "optional" = true)
    (kind : AssetKind) : FailsWith (fun e => ¬ e.IsUnresolved) (renderShortcut s tag kind) := by
  unfold renderShortcut
  split
  · exact namedAsset_of_isGiven s tag h kind _
  · exact failsWith_fault tag _

end Assets

/-! ## Inclusions -/

/-- The name of the template that a tag includes. -/
def includedName? (tag : Tag) : Option String :=
  tag.attributes.get? "name" <|> tag.attributes.firstText? ["optional"]

section Inclusions

variable {s : Scope} {tag : Tag} {name : String}

theorem includedName?_withWord (tag : Tag) :
    includedName? (tag.withWord "optional") = includedName? tag := by
  rw [includedName?, tag.firstText?_withWord (List.mem_singleton_self _)]
  rfl

theorem renderInclusion_unnamed (s : Scope) (h : includedName? tag = none) :
    renderInclusion s tag = .error (tag.fault .inclusionWithoutName) := by
  rw [includedName?] at h
  rw [renderInclusion, h]

theorem renderInclusion_found {t : NamedTemplate} (h : includedName? tag = some name)
    (ht : s.context.templates.get? name = some t) :
    renderInclusion s tag = s.descendInto t s.document := by
  rw [includedName?] at h
  rw [renderInclusion, h]
  dsimp only
  rw [ht]

theorem renderInclusion_missing (h : includedName? tag = some name)
    (ht : s.context.templates.get? name = none) :
    renderInclusion s tag =
      if tag.attributes.isGiven "optional" then .ok ""
      else .error (tag.unresolved .template name) := by
  rw [includedName?] at h
  rw [renderInclusion, h]
  dsimp only
  rw [ht]

end Inclusions

/-! ## Whose error it is -/

/-- The kinds of tags that refer to an asset or a template of their own. -/
def referringKinds : List TagKind := [.asset, .css, .js, .template]

/-- The tag itself refers to something that there is not: it raises this error whatever the nested
renderings give. -/
def RaisesUnresolved (s : Scope) (tag : Tag) (children : Option (List Node)) : Prop :=
  ∃ reference name, ∀ descend,
    renderTag { s with descend := descend } tag children = .error (tag.unresolved reference name)

/-- With the word `optional` the tag is empty where it raises an unresolved reference itself, and
has the same outcome, markup or error, everywhere else. -/
structure IsConservative (s : Scope) (tag : Tag) (children : Option (List Node)) : Prop where
  empty : RaisesUnresolved s tag children →
    renderTag s (tag.withWord "optional") children = .ok ""
  same : ¬ RaisesUnresolved s tag children →
    renderTag s (tag.withWord "optional") children = renderTag s tag children

section Optional

variable {s : Scope} {tag : Tag} {children : Option (List Node)}

/-- For a tag without nested renderings, every unresolved reference is its own. -/
theorem isConservative_of_forgiven {outcome : Except RenderError String} (hown : IsOwn tag outcome)
    (htag : ∀ descend, renderTag { s with descend := descend } tag children = outcome)
    (hword : renderTag s (tag.withWord "optional") children = forgiven outcome) :
    IsConservative s tag children := by
  have hsame : renderTag s tag children = outcome := htag s.descend
  constructor
  · rintro ⟨reference, name, hraises⟩
    have herror : outcome = .error (tag.unresolved reference name) :=
      (htag s.descend).symm.trans (hraises s.descend)
    rw [hword, herror]
    rfl
  · intro hnot
    rw [hword, hsame]
    cases houtcome : outcome with
    | ok markup => rfl
    | error e =>
        cases e with
        | unresolved file position reference name =>
            obtain ⟨hfile, hposition⟩ := hown _ houtcome
            cases hfile
            cases hposition
            exact absurd ⟨reference, name, fun descend => (htag descend).trans houtcome⟩ hnot
        | _ => rfl

theorem isConservative_asset (hkind : tag.kind = .asset) : IsConservative s tag children := by
  have hrender : ∀ s t, t.kind = tag.kind → renderTag s t children = renderAsset s t :=
    fun s t ht => by rw [renderTag, ht, hkind]
  exact isConservative_of_forgiven (isOwn_renderAsset s tag) (fun _ => hrender _ tag rfl)
    ((hrender s (tag.withWord "optional") rfl).trans (renderAsset_withWord s tag))

theorem isConservative_shortcut {kind : AssetKind}
    (hrender : ∀ s t, t.kind = tag.kind → renderTag s t children = renderShortcut s t kind) :
    IsConservative s tag children :=
  isConservative_of_forgiven (isOwn_renderShortcut s tag kind) (fun _ => hrender _ tag rfl)
    ((hrender s (tag.withWord "optional") rfl).trans (renderShortcut_withWord s tag kind))

theorem renderTag_inclusion {t : Tag} (hkind : t.kind = .template) :
    renderTag s t children = renderInclusion s t := by
  rw [renderTag, hkind]

/-- What the template of an inclusion raises changes with the nested rendering, so it is no
unresolved reference of the inclusion. -/
theorem not_raisesUnresolved_of_found (hkind : tag.kind = .template) {name : String}
    {t : NamedTemplate} (hname : includedName? tag = some name)
    (ht : s.context.templates.get? name = some t) : ¬ RaisesUnresolved s tag children := by
  rintro ⟨reference, other, hraises⟩
  have hfound : ∀ descend, renderInclusion { s with descend := descend } tag =
      Scope.descendInto { s with descend := descend } t s.document :=
    fun descend => renderInclusion_found hname ht
  have hempty := hraises fun _ _ _ => .ok ""
  rw [renderTag_inclusion hkind, hfound] at hempty
  cases hempty

/-- A tag that names no template has no unresolved reference. -/
theorem not_raisesUnresolved_of_unnamed (hkind : tag.kind = .template)
    (hname : includedName? tag = none) : ¬ RaisesUnresolved s tag children := by
  rintro ⟨reference, other, hraises⟩
  have herror := hraises s.descend
  rw [renderTag_inclusion hkind, renderInclusion_unnamed _ hname] at herror
  cases herror

theorem raisesUnresolved_of_missing (hkind : tag.kind = .template) {name : String}
    (hname : includedName? tag = some name) (ht : s.context.templates.get? name = none)
    (hoptional : ¬ tag.attributes.isGiven "optional" = true) :
    RaisesUnresolved s tag children := by
  refine ⟨.template, name, fun descend => ?_⟩
  have hmissing : renderInclusion { s with descend := descend } tag = _ :=
    renderInclusion_missing hname ht
  rw [renderTag_inclusion hkind, hmissing, if_neg hoptional]

/-- An inclusion forgives that there is no template, and nothing that the template raises. -/
theorem isConservative_inclusion (hkind : tag.kind = .template) :
    IsConservative s tag children := by
  have hword : renderTag s (tag.withWord "optional") children =
      renderInclusion s (tag.withWord "optional") := renderTag_inclusion hkind
  have htag : renderTag s tag children = renderInclusion s tag := renderTag_inclusion hkind
  have hname' := includedName?_withWord tag
  cases hname : includedName? tag with
  | none =>
      rw [hname] at hname'
      refine ⟨fun hraises => absurd hraises (not_raisesUnresolved_of_unnamed hkind hname),
        fun _ => ?_⟩
      rw [hword, htag, renderInclusion_unnamed s hname, renderInclusion_unnamed s hname']
      rfl
  | some name =>
      rw [hname] at hname'
      cases ht : s.context.templates.get? name with
      | some t =>
          refine ⟨fun hraises => absurd hraises (not_raisesUnresolved_of_found hkind hname ht),
            fun _ => ?_⟩
          rw [hword, htag, renderInclusion_found hname ht, renderInclusion_found hname' ht]
      | none =>
          have hempty : renderInclusion s (tag.withWord "optional") = .ok "" := by
            rw [renderInclusion_missing hname' ht, if_pos (tag.isGiven_withWord_self _)]
          refine ⟨fun _ => hword.trans hempty, fun hnot => ?_⟩
          have hoptional : tag.attributes.isGiven "optional" = true :=
            not_not.mp fun h => hnot (raisesUnresolved_of_missing hkind hname ht h)
          rw [hword, hempty, htag, renderInclusion_missing hname ht, if_pos hoptional]

end Optional

/-- The word `optional` behind the attributes of a tag that refers to an asset or a template is
conservative; and a reference to an asset that is optional in any way is never unresolved. -/
theorem renderTag_optional (s : Scope) (tag : Tag) (children : Option (List Node))
    (hkind : tag.kind ∈ referringKinds) :
    (∀ text, Attributes.parse text = .ok tag.attributes →
      Attributes.parse (text ++ " optional".toList) =
        .ok (tag.withWord "optional").attributes) ∧
    IsConservative s tag children ∧
    (tag.kind ≠ .template → tag.attributes.isGiven "optional" = true →
      FailsWith (fun e => ¬ e.IsUnresolved) (renderTag s tag children)) := by
  have hwritable : (AttributeItem.word "optional").IsWritable := by decide
  refine ⟨fun text h => Attributes.parse_append h hwritable, ?_⟩
  have hshortcut : ∀ kind, (∀ s t, t.kind = tag.kind → renderTag s t children =
      renderShortcut s t kind) → IsConservative s tag children ∧
      (tag.kind ≠ .template → tag.attributes.isGiven "optional" = true →
        FailsWith (fun e => ¬ e.IsUnresolved) (renderTag s tag children)) := by
    intro kind hrender
    refine ⟨isConservative_shortcut hrender, fun _ hoptional => ?_⟩
    rw [hrender s tag rfl]
    exact renderShortcut_of_isGiven s tag hoptional kind
  simp only [referringKinds, List.mem_cons, List.not_mem_nil, or_false] at hkind
  rcases hkind with hkind | hkind | hkind | hkind
  · refine ⟨isConservative_asset hkind, fun _ hoptional => ?_⟩
    rw [renderTag, hkind]
    exact renderAsset_of_isGiven s tag hoptional
  · exact hshortcut .css fun s t ht => by rw [renderTag, ht, hkind]
  · exact hshortcut .js fun s t ht => by rw [renderTag, ht, hkind]
  · exact ⟨isConservative_inclusion hkind, fun hne => absurd hkind hne⟩

/-- The scope of a page of a site whose template `card` refers to a stylesheet that there is not. -/
def cardScope : Scope :=
  let templates := TemplateStore.empty.insert "card" ("\x7b@" ++ "css main /\x7d")
  let ctx : Context := ⟨{}, ⟨[]⟩, templates, ⟨[]⟩, .passthrough, 0⟩
  let d : Content.Document :=
    ⟨"a.md", "source/a.md", "public/a/index.html", "/a/", "page", ∅, "", "a", "A", [], "", 0, none⟩
  ⟨ctx, d, fun _ d nodes => do renderNodes ctx 0 d (← nodes)⟩

/-- The tag that includes a template. -/
def inclusionOf (name : String) : Tag :=
  ⟨"template", .template, .ofItems [.word name], "page.html", ⟨0, 1, 1⟩⟩

/-- The missing stylesheet of an included template is not forgiven, a missing template is. -/
theorem renderTag_optional_card :
    (inclusionOf "card").kind ∈ referringKinds ∧ (inclusionOf "footer").kind ∈ referringKinds ∧
      ¬ RaisesUnresolved cardScope (inclusionOf "card") none ∧
      renderTag cardScope (inclusionOf "card") none =
        .error (.unresolved "card.html" ⟨0, 1, 1⟩ (.asset .css) "main") ∧
      renderTag cardScope ((inclusionOf "card").withWord "optional") none =
        .error (.unresolved "card.html" ⟨0, 1, 1⟩ (.asset .css) "main") ∧
      RaisesUnresolved cardScope (inclusionOf "footer") none ∧
      renderTag cardScope ((inclusionOf "footer").withWord "optional") none = .ok "" := by
  have hcard : (inclusionOf "card").kind ∈ referringKinds := by decide
  have hfooter : (inclusionOf "footer").kind ∈ referringKinds := by decide
  have hname : ∀ name ∈ ["card", "footer"], includedName? (inclusionOf name) = some name := by decide
  have hfound : (cardScope.context.templates.get? "card").isSome = true := by decide +kernel
  have hmissing : cardScope.context.templates.get? "footer" = none := by decide +kernel
  obtain ⟨card, hthere⟩ := Option.isSome_iff_exists.mp hfound
  have hnot : ¬ RaisesUnresolved cardScope (inclusionOf "card") none :=
    not_raisesUnresolved_of_found rfl (hname "card" (by decide)) hthere
  have hnested : renderTag cardScope (inclusionOf "card") none =
      .error (.unresolved "card.html" ⟨0, 1, 1⟩ (.asset .css) "main") := by decide +kernel
  have hraises : RaisesUnresolved cardScope (inclusionOf "footer") none :=
    raisesUnresolved_of_missing rfl (hname "footer" (by decide)) hmissing (by decide)
  have hconservative := (renderTag_optional cardScope (inclusionOf "card") none hcard).2.1
  exact ⟨hcard, hfooter, hnot, hnested, (hconservative.same hnot).trans hnested, hraises,
    (renderTag_optional cardScope (inclusionOf "footer") none hfooter).2.1.empty hraises⟩

end Render

end StaticSite
