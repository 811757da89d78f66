/-
Links of a document to itself.

A link without an address leads to the document that is rendered, and `$node:url` is the address of
this document.  It is the address of an output, so the root address of the site is in it already,
but a link places what begins with one slash under the root address.  This changes nothing under a
root address that is empty or begins with anything else; under a root address that is a path, the
path stands there twice (`linkTarget_own`).
-/
import StaticSite.Proofs.Build.OutputNames
import StaticSite.Proofs.OrderedMap
import StaticSite.Proofs.Output.Address
import StaticSite.Proofs.Render.Echo
import StaticSite.Proofs.Template.MoreAttributes

namespace StaticSite

/-! ## Root addresses -/

namespace Config

/-- The root address is a path: one slash and something after it. -/
def HasPathRoot (c : Config) : Prop :=
  ∃ ch rest, c.site.rootUrl.toList = '/' :: ch :: rest ∧ ch ≠ '/'

variable {c : Config} {path : String}

theorem rootBase_ne_slash (c : Config) : c.rootBase ≠ ['/'] := by
  intro h
  have hlast := c.getLast?_rootBase_ne
  rw [h] at hlast
  exact hlast rfl

theorem hasPathRoot_iff :
    c.HasPathRoot ↔ ∃ ch rest, c.rootBase = '/' :: ch :: rest ∧ ch ≠ '/' := by
  obtain ⟨slashes, hroot, hslashes⟩ := c.exists_rootBase_append
  have hbase := c.rootBase_ne_slash
  constructor
  · rintro ⟨ch, rest, hpath, hch⟩
    rw [hpath] at hroot
    cases hcs : c.rootBase with
    | nil =>
        rw [hcs, List.nil_append] at hroot
        exact absurd (hslashes ch (hroot ▸ by simp)) hch
    | cons d cs =>
        cases cs with
        | nil =>
            rw [hcs] at hroot hbase
            exact absurd (by rw [(List.cons.inj hroot).1]) hbase
        | cons e cs =>
            rw [hcs] at hroot
            simp only [List.cons_append, List.cons.injEq] at hroot
            obtain ⟨rfl, rfl, -⟩ := hroot
            exact ⟨_, cs, rfl, hch⟩
  · rintro ⟨ch, rest, hcs, hch⟩
    exact ⟨ch, rest ++ slashes, by rw [hroot, hcs]; rfl, hch⟩

/-- The slash that an address begins with does not count. -/
theorem rootedUrl_of_slash (c : Config) {url : String} {rest : List Char}
    (h : url.toList = '/' :: rest) : c.rootedUrl url = c.rootedUrl (String.ofList rest) := by
  rw [rootedUrl, rootedUrl, h, String.toList_ofList, List.dropWhile_cons_of_pos (by decide)]

/-- An address with one slash in front is placed under the root address once more, which leaves it as
it is only if the root address is empty. -/
theorem rootedUrl_rootedUrl_eq_iff (hpath : path.toList.head? ≠ some '/') {rest : List Char}
    (h : (c.rootedUrl path).toList = '/' :: rest) (hrest : rest.head? ≠ some '/') :
    c.rootedUrl (c.rootedUrl path) = c.rootedUrl path ↔ c.rootBase = [] := by
  have hrest' : (String.ofList rest).toList.head? ≠ some '/' := by rwa [String.toList_ofList]
  constructor
  · intro hsame
    have hagain := congrArg String.toList hsame
    rw [c.rootedUrl_of_slash h, c.toList_rootedUrl hrest', String.toList_ofList, ← h] at hagain
    exact List.append_left_eq_self.mp hagain
  · intro hnil
    have htext := c.toList_rootedUrl hpath
    rw [hnil, List.nil_append] at htext
    rw [c.rootedUrl_of_slash htext, String.ofList_toList]

/-- The root address of an address with one slash in front is a path or empty. -/
theorem hasPathRoot_iff_ne_nil (hpath : path.toList.head? ≠ some '/') {rest : List Char}
    (h : (c.rootedUrl path).toList = '/' :: rest) (hrest : rest.head? ≠ some '/') :
    c.HasPathRoot ↔ c.rootBase ≠ [] := by
  rw [hasPathRoot_iff]
  constructor
  · rintro ⟨ch, tail, hroot, -⟩
    rw [hroot]
    exact List.cons_ne_nil _ _
  · intro hne
    obtain ⟨d, cs, hcs⟩ := List.exists_cons_of_ne_nil hne
    rw [c.toList_rootedUrl hpath, hcs, List.cons_append, List.cons.injEq] at h
    obtain ⟨rfl, rfl⟩ := h
    cases cs with
    | nil => exact absurd hcs c.rootBase_ne_slash
    | cons ch cs =>
        refine ⟨ch, cs, hcs, fun hch => hrest ?_⟩
        rw [hch]
        rfl

end Config

/-! ## Targets of links -/

namespace Render

open Content Template

section Targets

variable {s : Scope} {tag : Tag} {path : String}

/-- An address of the site that is given to a link stays as it is, unless the root address is a
path. -/
theorem linkTarget_rooted (hpath : path.toList.head? ≠ some '/')
    (h : s.attribute? tag "url" = some (s.context.config.rootedUrl path)) :
    linkTarget s tag = s.context.config.rootedUrl path ↔ ¬ s.context.config.HasPathRoot := by
  have htext := s.context.config.toList_rootedUrl hpath
  unfold linkTarget
  rw [h]
  generalize s.context.config = c at htext ⊢
  dsimp only
  split
  · -- two slashes at the beginning
    rename_i rest heq
    refine iff_of_true rfl ?_
    rw [Config.hasPathRoot_iff]
    rintro ⟨ch, tail, hroot, hch⟩
    rw [htext, hroot] at heq
    simp only [List.cons_append, List.cons.injEq, true_and] at heq
    exact hch heq.1
  · -- one slash at the beginning
    rename_i rest hone heq
    have hrest : rest.head? ≠ some '/' := fun hhead => by
      obtain ⟨tail, rfl⟩ := List.head?_eq_some_iff.mp hhead
      exact hone tail rfl
    rw [Config.rootedUrl_rootedUrl_eq_iff hpath heq hrest,
      Config.hasPathRoot_iff_ne_nil hpath heq hrest, not_not]
  · rename_i hno heq
    refine iff_of_true rfl ?_
    rw [Config.hasPathRoot_iff]
    rintro ⟨ch, tail, hroot, -⟩
    rw [hroot] at htext
    exact heq _ htext

end Targets

/-! ## The link of a document to itself -/

/-- The tag with the address of the document that is rendered. -/
def withOwnUrl (tag : Tag) : Tag :=
  { tag with attributes := tag.attributes.insert "url" "$node:url" }

section Own

variable {s : Scope} {tag : Tag}

theorem attribute?_withOwnUrl (s : Scope) (tag : Tag) :
    s.attribute? (withOwnUrl tag) "url" = some s.document.url := by
  have hname : IsVariableName "url".toList :=
    .word ⟨by decide, List.all_eq_true.mp (by decide)⟩
  have hsource : tokenFor .node "url" none [] = "$node:url" := by decide
  have htoken : s.interpolate (tokenFor .node "url" none []) = s.document.url :=
    VariableContext.interpolate_token _ hname (by simp) (by simp)
  have hget : (withOwnUrl tag).attributes.get? "url" = some "$node:url" :=
    OrderedMap.get?_insert_self tag.attributes.named "url" "$node:url"
  rw [Scope.attribute?, hget, Option.map_some, ← hsource, htoken]

/-- Apart from its target, a link is the same with an address. -/
theorem renderLink_withOwnUrl (h : linkTarget s (withOwnUrl tag) = linkTarget s tag)
    (children : Option (List Node)) :
    renderLink s (withOwnUrl tag) children = renderLink s tag children := by
  have hlabel : innerMarkup s (withOwnUrl tag) children "label" =
      innerMarkup s tag children "label" := by
    have hget : (withOwnUrl tag).attributes.get? "label" = tag.attributes.get? "label" :=
      OrderedMap.get?_insert_of_ne _ (by decide) _
    unfold innerMarkup Scope.attribute?
    rw [hget]
    rfl
  have hothers : ∀ e, withAttributes s (withOwnUrl tag) ["url", "label"] e =
      withAttributes s tag ["url", "label"] e := by
    intro e
    unfold withAttributes
    change ((OrderedMap.put "url" "$node:url" tag.attributes.named.entries).filter _).foldl _ e = _
    rw [OrderedMap.filter_put (fun _ => rfl)]
  unfold renderLink
  rw [hlabel, h]
  simp only [hothers]

end Own

section Collected

variable {fs : FileSystem} {c : Config} {renderer : Renderer} {collection : Collection}
  {entry : Entry} {s : Scope} {tag : Tag}

theorem url_ofLocation (location : Location) (copied : Bool) :
    (Asset.ofLocation location copied).toDocument.url = location.url := rfl

theorem url_of_entryOf {f : FileSystem.Found}
    (h : Build.entryOf fs c renderer f = .ok entry) :
    entry.toDocument.url = Output.urlOf c (Build.outputOf c f) := by
  cases entry with
  | document d => exact (Build.location_of_entryOf h).2.2
  | asset a =>
      obtain ⟨-, rfl⟩ := Build.asset_of_entryOf h
      rw [Entry.toDocument, url_ofLocation, Build.locationOf]

/-- What is collected has an address under the root address of the site. -/
theorem exists_rootedUrl (h : Build.collect fs c renderer = .ok collection)
    (hentry : entry ∈ collection.entries) :
    ∃ path : String, path.toList.head? ≠ some '/' ∧ entry.toDocument.url = c.rootedUrl path := by
  obtain ⟨rules, -, -, hentries⟩ := Build.exists_of_collect h
  obtain ⟨f, -, hread⟩ := Outcome.exists_of_mem_mapM hentries hentry
  refine ⟨_, ?_, (url_of_entryOf hread).trans (Output.urlOf_eq c _)⟩
  rw [String.toList_ofList]
  refine Output.head?_withoutIndex_ne ?_
  unfold Build.outputOf
  exact Output.head?_apply_ne _ _ _ _

/-- A link without an address leads to the document that is rendered, and one with the address of
this document does so just when the root address of the site is no path; then the two are the same
link, whatever else stands in the tag. -/
theorem linkTarget_own (h : Build.collect fs c renderer = .ok collection)
    (hentry : entry ∈ collection.entries) (hconfig : s.context.config = c)
    (hdocument : s.document.url = entry.toDocument.url) (hkind : tag.kind = .link)
    (hnone : tag.attributes.get? "url" = none) :
    (∀ cs, Attributes.parse cs = .ok tag.attributes →
      Attributes.parse (cs ++ " url=\"$node:url\"".toList) = .ok (withOwnUrl tag).attributes) ∧
    linkTarget s tag = entry.toDocument.url ∧
    (linkTarget s (withOwnUrl tag) = entry.toDocument.url ↔ ¬ c.HasPathRoot) ∧
    (¬ c.HasPathRoot → ∀ children,
      renderTag s (withOwnUrl tag) children = renderTag s tag children) := by
  obtain ⟨path, hpath, hurl⟩ := exists_rootedUrl h hentry
  have hplain : linkTarget s tag = entry.toDocument.url := by
    rw [linkTarget, Scope.attribute?, hnone, ← hdocument]
    rfl
  have hown : linkTarget s (withOwnUrl tag) = entry.toDocument.url ↔ ¬ c.HasPathRoot := by
    subst hconfig
    rw [hurl]
    refine linkTarget_rooted hpath ?_
    rw [attribute?_withOwnUrl, hdocument, hurl]
  refine ⟨fun cs hcs => ?_, hplain, hown, fun hroot children => ?_⟩
  · have hitem : (AttributeItem.named "url" "$node:url").IsWritable := by decide
    exact Attributes.parse_append hcs hitem
  · have hkind' : (withOwnUrl tag).kind = .link := hkind
    rw [renderTag, renderTag, hkind, hkind']
    exact renderLink_withOwnUrl ((hown.mpr hroot).trans hplain.symm) children

end Collected

/-- A site in a folder of its host. -/
def blogConfig : Config := { site := { rootUrl := "/blog" } }

def blogPost : Document :=
  .read "" ⟨"a.MD", "source/a.MD", "public/a/index.html", "/blog/a/", 0⟩ Markdown.renderer

def linkTag : Tag := ⟨"link", .link, .empty, "t.html", ⟨0, 1, 1⟩⟩

/-- A document that is rendered with nothing else. -/
def scopeOf (c : Config) (d : Document) : Scope :=
  ⟨⟨c, ⟨[]⟩, .empty, ⟨[]⟩, .passthrough, 0⟩, d, fun file _ _ => .error (.tooDeep file)⟩

theorem linkTarget_own_layeredSite :
    Build.collect Build.layeredSite {} Markdown.renderer =
        .ok ⟨[.asset Build.layeredImage, .document Build.layeredPost]⟩ ∧
      ¬ Config.HasPathRoot {} ∧ linkTag.attributes.get? "url" = none ∧
      linkTarget (scopeOf {} Build.layeredPost) (withOwnUrl linkTag) = "/a/" ∧
      renderTag (scopeOf {} Build.layeredPost) (withOwnUrl linkTag) none =
        renderTag (scopeOf {} Build.layeredPost) linkTag none := by
  have hroot : ¬ Config.HasPathRoot {} := fun ⟨ch, rest, hcs, _⟩ => by cases hcs
  obtain ⟨-, -, hown, hsame⟩ := linkTarget_own (s := scopeOf {} Build.layeredPost)
    Build.collect_layeredSite (List.mem_cons_of_mem _ List.mem_cons_self) rfl rfl
    (show linkTag.kind = .link from rfl) rfl
  exact ⟨Build.collect_layeredSite, hroot, rfl, hown.mpr hroot, hsame hroot none⟩

/-- Below a path, the address of a document leads a link to another place. -/
theorem linkTarget_blog :
    (∃ image, Build.collect Build.layeredSite blogConfig Markdown.renderer =
      .ok ⟨[.asset image, .document blogPost]⟩) ∧
    renderTag (scopeOf blogConfig blogPost) linkTag none = .ok "<a href=\"/blog/a/\">A</a>" ∧
    renderTag (scopeOf blogConfig blogPost) (withOwnUrl linkTag) none =
      .ok "<a href=\"/blog/blog/a/\">A</a>" := by
  refine ⟨⟨.ofLocation ⟨"a/b.png", "source/a/b.png", "public/a/b.png", "/blog/a/b.png", 0⟩ true,
    ?_⟩, ?_, ?_⟩
  · exact Build.collect_of_layered (by cbv) rfl
      (Build.entryOf_asset Build.layeredSite _ (by decide) (by decide +kernel))
      (Build.entryOf_document _ (by decide) (by decide +kernel) (by cbv))
  · decide +kernel
  · decide +kernel

end Render

end StaticSite
