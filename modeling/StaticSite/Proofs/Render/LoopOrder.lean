/-
The order in which a loop shows its items.

A loop sorts entries by their own fields, but shows each of them as a document.  An asset has no slug,
source path or destination path of its own, and another title than its document has; every other
field is the same (`Asset.forall_field_toDocument_iff`).  Main statement: a loop over all matches of a
type shows the field that it sorts by in order, unless this is one of these four fields and an asset
is among the matches (`loop_shows_field_in_order`).
-/
import StaticSite.Proofs.Query.StableSort
import StaticSite.Proofs.Render.Echo

namespace StaticSite

/-! ## Fields of assets -/

namespace Content

/-- The fields that an asset does not share with its document. -/
def unsharedFields : List String := ["slug", "title", "source_path", "dest_path"]

namespace Asset

theorem metadata_toDocument (a : Asset) (f : String) :
    a.toDocument.metadata.get? f =
      if f = "filename" then some a.fileName else if f = "version" then some a.version else none := by
  simp [toDocument, OrderedMap.ofList, OrderedMap.insertAll, OrderedMap.insert, OrderedMap.put,
    OrderedMap.empty, OrderedMap.get?, OrderedMap.find?, eq_comm]

/-- All other fields of an asset are those of its document; a missing field counts as an empty one. -/
theorem field_toDocument {a : Asset} {f : String} (hf : f ∉ unsharedFields) :
    (a.toDocument.field f).getD "" = (a.field f).getD "" := by
  unfold Document.field
  split
  · simp [field, toDocument]
  · exact absurd (by decide) hf
  · exact absurd (by decide) hf
  · simp [field, toDocument]
  · simp [field, toDocument]
  · simp [field, toDocument]
  · exact absurd (by decide) hf
  · exact absurd (by decide) hf
  · simp [field, toDocument, joinTags]
  · simp [field, toDocument]
  · simp [field, toDocument]
  · rw [metadata_toDocument]
    by_cases hname : f = "filename"
    · rw [if_pos hname, hname]
      rfl
    by_cases hversion : f = "version"
    · rw [if_neg hname, if_pos hversion, hversion]
      rfl
    -- No other name is that of a field of an asset.
    rw [if_neg hname, if_neg hversion]
    unfold field
    split
    all_goals first | contradiction | rfl

/-- An image with a value of its own under each unshared name. -/
def photo : Asset :=
  ⟨"a/b.png", "source/a/b.png", "b.png", "public/a/b.png", "/a/b.png", "0", 0, true⟩

/-- Just under the names of the four unshared fields an asset and its document can differ. -/
theorem forall_field_toDocument_iff {f : String} :
    (∀ a : Asset, (a.toDocument.field f).getD "" = (a.field f).getD "") ↔ f ∉ unsharedFields := by
  have hphoto : ∀ f ∈ unsharedFields, (photo.toDocument.field f).getD "" ≠ (photo.field f).getD "" := by
    decide
  exact ⟨fun h hf => hphoto f hf (h photo), fun hf a => field_toDocument hf⟩

end Asset

/-- An entry is shown with the value that it is sorted by. -/
theorem Entry.field_toDocument {e : Entry} {f : String}
    (h : f ∈ unsharedFields → e.isAsset = false) :
    (e.toDocument.field f).getD "" = (e.field f).getD "" := by
  cases e with
  | document d => rfl
  | asset a => exact Asset.field_toDocument fun hf => Bool.noConfusion (h hf)

end Content

/-! ## Sorted results -/

/-- The word for a direction. -/
def SortOrder.word : SortOrder → String
  | .ascending => "asc"
  | .descending => "desc"

theorem SortOrder.parse_word (order : SortOrder) : SortOrder.parse order.word = .ok order := by
  cases order <;> decide

/-- The second text does not fall behind the first one, or does not rise above it. -/
def SortOrder.Keeps (order : SortOrder) (v w : String) : Prop :=
  match order with
  | .ascending => compareValues (some v) (some w) ≠ .gt
  | .descending => compareValues (some v) (some w) ≠ .lt

namespace Query

open Content

/-- All results of a query stand in the order that it asks for, not only neighbours. -/
theorem pairwise_search {q : Query} (hall : q.limit ≤ 0 ∨ q.page = none ∨ q.page = some 0)
    (c : Collection) :
    (q.search c).Pairwise fun a b =>
      q.order.Keeps ((a.field q.sort).getD "") ((b.field q.sort).getD "") := by
  have hsorted : (q.search c).Pairwise fun a b =>
      (q.order.comparison (a.field q.sort) (b.field q.sort)).isLE = true := by
    rw [search_eq_mergeSort hall]
    exact List.pairwise_mergeSort (fun a b c => Std.TransCmp.isLE_trans) isLE_or_isLE _
  refine hsorted.imp fun {a b} hab => ?_
  have hprecedes : q.MayPrecede a b := mayPrecede_iff.mpr hab
  exact hprecedes

theorem matches_of_mem_search {q : Query} (hall : q.limit ≤ 0 ∨ q.page = none ∨ q.page = some 0)
    {c : Collection} {e : Entry} (he : e ∈ q.search c) : e ∈ c.entries ∧ q.Matches e := by
  rw [search_eq_mergeSort hall, List.mem_mergeSort] at he
  obtain ⟨hmem, haccepts⟩ := List.mem_filter.mp he
  exact ⟨hmem, accepts_iff.mp haccepts⟩

end Query

namespace Render

open Content Template

variable {s : Scope} {loop echo : Tag} {f : String} {order : SortOrder}

/-! ## What a loop reads -/

/-- A text without a dollar sign is kept. -/
theorem interpolate_of_no_dollar {text : String} (h : '$' ∉ text.toList) : s.interpolate text = text := by
  have hplain : HasNoVariable text.toList [] := by
    rintro front back hsplit - ⟨v, token, after, hback, hwritten⟩
    obtain ⟨rest, rfl⟩ := hwritten.exists_dollar
    rw [List.append_nil] at hback
    exact h (by simp [hsplit, hback])
  have hkept := (@Interpolates.plain ⟨s.document, s.context.config, s.context.started⟩ _
    hplain).segmentsText_eq
  rw [Scope.interpolate, VariableContext.interpolate, ← VariableContext.segmentsText, hkept,
    String.ofList_toList]

theorem attribute?_of_no_dollar {tag : Tag} {key text : String}
    (hget : tag.attributes.get? key = some text) (hplain : '$' ∉ text.toList) :
    s.attribute? tag key = some text := by
  rw [Scope.attribute?, hget, Option.map_some, interpolate_of_no_dollar hplain]

/-- The loop goes over all entries of some type, sorted by a field. -/
structure SortsBy (s : Scope) (loop : Tag) (f : String) (order : SortOrder) : Prop where
  kind : loop.kind = .loop
  type : ∃ type, loop.attributes.get? "type" = some type ∧ type ≠ ""
  sort : loop.attributes.get? "sort" = some f
  nonempty : f ≠ ""
  plain : '$' ∉ f.toList
  order : loop.attributes.get? "order" = some order.word
  limit : loop.attributes.get? "limit" = some "0"
  /-- The page does not matter, but it must be one. -/
  page : ∃ page, loopPage s loop = .ok page

/-- The query of such a loop. -/
theorem SortsBy.loopQuery_eq (h : SortsBy s loop f order) {type : String} {page : Option Nat}
    (htype : loop.attributes.get? "type" = some type) (hne : type ≠ "")
    (hpage : loopPage s loop = .ok page) :
    loopQuery s loop = .ok ⟨s.interpolate type, f, order, 0, page, s.attribute? loop "keywords",
      loop.attributes.isGiven "include_assets"⟩ := by
  have hword : '$' ∉ order.word.toList := by cases order <;> decide
  have hrequired : loop.required "type" = .ok type := by
    rw [Tag.required, htype]
    dsimp only
    rw [if_neg (by simpa using hne)]
  have hsort : ((s.attribute? loop "sort").filter fun field => !field.isEmpty).getD
      Query.default.sort = f := by
    simp [attribute?_of_no_dollar h.sort h.plain, Option.filter, h.nonempty]
  have horder : loopOrder s loop = .ok order := by
    rw [loopOrder, attribute?_of_no_dollar h.order hword]
    dsimp only
    rw [SortOrder.parse_word]
  have hlimit : loopLimit s loop = .ok 0 := by
    rw [loopLimit, attribute?_of_no_dollar h.limit (by decide)]
    rfl
  unfold loopQuery
  rw [hrequired, horder, hlimit, hpage, hsort]
  rfl

theorem SortsBy.exists_query (h : SortsBy s loop f order) :
    ∃ q, loopQuery s loop = .ok q ∧ q.sort = f ∧ q.order = order ∧ q.limit = 0 := by
  obtain ⟨type, htype, hne⟩ := h.type
  obtain ⟨page, hpage⟩ := h.page
  exact ⟨_, h.loopQuery_eq htype hne hpage, rfl, rfl, rfl⟩

/-! ## What a loop shows -/

/-- A loop renders the documents of its matches one after the other. -/
theorem renderEach_eq (item : Document → Except RenderError String) (entries : List Entry) :
    renderEach item entries =
      ((entries.map Entry.toDocument).mapM item).map String.join := by
  induction entries with
  | nil => rfl
  | cons entry rest ih =>
      rw [renderEach, ih, List.map_cons, List.mapM_cons]
      cases item entry.toDocument with
      | error e => rfl
      | ok first =>
          cases (rest.map Entry.toDocument).mapM item with
          | error e => rfl
          | ok others => exact congrArg Except.ok String.join_cons.symm

/-- The documents that a loop shows for a query. -/
def shownItems (s : Scope) (q : Query) : List Document :=
  (q.search s.context.collection).map Entry.toDocument

/-- A loop shows the documents one after the other, through its template or its own nodes. -/
theorem renderTag_loop_eq {q : Query} (hkind : loop.kind = .loop) (hquery : loopQuery s loop = .ok q)
    (children : Option (List Node)) :
    renderTag s loop children =
      loopItem s loop children >>= fun item =>
        ((shownItems s q).mapM item).map String.join := by
  rw [renderTag, hkind]
  dsimp only
  rw [renderLoop, hquery]
  cases loopItem s loop children with
  | error e => rfl
  | ok item => exact renderEach_eq item _

/-- The items are in order, because each is shown with the value that its entry is sorted by. -/
theorem pairwise_shownItems {q : Query} (hlimit : q.limit ≤ 0)
    (hassets : q.sort ∈ unsharedFields →
      ∀ e ∈ s.context.collection.entries, q.Matches e → e.isAsset = false) :
    ((shownItems s q).map fun d => (d.field q.sort).getD "").Pairwise q.order.Keeps := by
  have hall : q.limit ≤ 0 ∨ q.page = none ∨ q.page = some 0 := .inl hlimit
  have hshown : ∀ e ∈ q.search s.context.collection,
      (e.toDocument.field q.sort).getD "" = (e.field q.sort).getD "" := by
    intro e he
    obtain ⟨hmem, hmatches⟩ := Query.matches_of_mem_search hall he
    exact Entry.field_toDocument fun hf => hassets hf e hmem hmatches
  rw [shownItems, List.map_map, List.pairwise_map]
  refine (Query.pairwise_search hall s.context.collection).imp_of_mem fun {a b} ha hb hab => ?_
  rw [Function.comp_apply, Function.comp_apply, hshown a ha, hshown b hb]
  exact hab

/-- The echo gives a field of the document. -/
structure EchoesField (echo : Tag) (f : String) : Prop where
  kind : echo.kind = .echo
  node : echo.attributes.get? "node" = some f
  positional : echo.attributes.positional = []
  fallback : echo.attributes.get? Modifier.fallbackWord = none

theorem EchoesField.renderTag_eq (h : EchoesField echo f) (s : Scope)
    (children : Option (List Node)) :
    renderTag s echo children = .ok ((s.document.field f).getD "") := by
  have hvariable : echoVariable? echo = some (.node, f) := by
    simp [echoVariable?, VariableScope.all, VariableScope.name, h.node]
  have hwords : ∀ word ∈ echo.attributes.positional, word ∈ Modifier.plainWords := by
    simp [h.positional]
  have hmodifiers : echoModifiers echo = .ok [] := by
    rw [echoModifiers_eq hwords, h.positional, h.fallback]
    rfl
  rw [renderTag, h.kind]
  dsimp only
  rw [renderEcho, hvariable]
  dsimp only
  rw [hmodifiers]
  rfl

/-- An echo of a field succeeds for all documents. -/
theorem EchoesField.mapM_eq (h : EchoesField echo f) (s : Scope) (items : List Document) :
    (items.mapM fun d => renderTag { s with document := d } echo none) =
      .ok (items.map fun d => (d.field f).getD "") := by
  rw [mapM_eq_ok_filterMap (g := fun d => some ((d.field f).getD "")) fun d _ =>
    ⟨_, h.renderTag_eq _ none, rfl⟩, List.filterMap_eq_map']

/-- The values of a field that the items of a loop show. -/
def ShowsValues (s : Scope) (q : Query) (echo : Tag) (values : List String) : Prop :=
  ((shownItems s q).mapM fun d => renderTag { s with document := d } echo none) = .ok values

/-- A loop over all matches of a type shows the field that it sorts by in the order that it states.
It renders the matches one after the other, each for its document, and an echo of the field gives
these documents values of which none falls behind one before it, or rises above it in descending
order, unless the field is one that assets do not share with their documents and an asset is among
the matches. -/
theorem loop_shows_field_in_order (hloop : SortsBy s loop f order) (hecho : EchoesField echo f) :
    ∃ q values, loopQuery s loop = .ok q ∧
      (∀ children, renderTag s loop children =
        loopItem s loop children >>= fun item =>
          ((shownItems s q).mapM item).map String.join) ∧
      ShowsValues s q echo values ∧
      ((f ∈ unsharedFields →
          ∀ e ∈ s.context.collection.entries, q.Matches e → e.isAsset = false) →
        values.Pairwise order.Keeps) := by
  obtain ⟨q, hquery, rfl, rfl, hlimit⟩ := hloop.exists_query
  exact ⟨q, _, hquery, renderTag_loop_eq hloop.kind hquery, hecho.mapM_eq s _,
    pairwise_shownItems hlimit.le⟩

/-- An image of a site. -/
def imageAt (path name : String) : Entry :=
  .asset ⟨path, "source/" ++ path, name, "public/" ++ path, "/" ++ path, "0", 0, true⟩

/-- The scope of a page of a site with two images, whose loops render one level below it. -/
def imageScope : Scope :=
  let ctx : Context :=
    ⟨{}, ⟨[imageAt "a/z.png" "z.png", imageAt "b.png" "b.png"]⟩, .empty, ⟨[]⟩, .passthrough, 0⟩
  ⟨ctx, (imageAt "b.png" "b.png").toDocument, fun _ d nodes => do renderNodes ctx 0 d (← nodes)⟩

/-- The tag `loop type=asset sort=… order=asc limit=0`. -/
def imageLoop (f : String) : Tag :=
  ⟨"loop", .loop, .ofItems [.named "type" "asset", .named "sort" f, .named "order" "asc",
    .named "limit" "0"], "index.md", ⟨0, 1, 1⟩⟩

/-- The tag `echo node=…`. -/
def echoOf (f : String) : Tag := ⟨"echo", .echo, .ofItems [.named "node" f], "index.md", ⟨0, 1, 1⟩⟩

theorem echoesField_echoOf (f : String) : EchoesField (echoOf f) f :=
  ⟨rfl, rfl, rfl, rfl⟩

theorem sortsBy_imageLoop {f : String} (hne : f ≠ "") (hplain : '$' ∉ f.toList) :
    SortsBy imageScope (imageLoop f) f .ascending :=
  ⟨rfl, ⟨"asset", rfl, by decide⟩, rfl, hne, hplain, rfl, rfl, ⟨some 1, rfl⟩⟩

/-- Images in the order of their file names. -/
theorem loop_shows_field_in_order_filename :
    SortsBy imageScope (imageLoop "filename") "filename" .ascending ∧
      EchoesField (echoOf "filename") "filename" ∧
      ∃ q values, loopQuery imageScope (imageLoop "filename") = .ok q ∧
        ShowsValues imageScope q (echoOf "filename") values ∧
        values.Pairwise SortOrder.ascending.Keeps := by
  have hloop := sortsBy_imageLoop (f := "filename") (by decide) (by decide)
  have hecho := echoesField_echoOf "filename"
  obtain ⟨q, values, hquery, -, hvalues, hsorted⟩ := loop_shows_field_in_order hloop hecho
  exact ⟨hloop, hecho, q, values, hquery, hvalues, hsorted fun h => absurd h (by decide)⟩

/-- The query of the loop over images by their slugs. -/
def imagesBySlug : Query := ⟨"asset", "slug", .ascending, 0, some 1, none, false⟩

theorem loopQuery_imagesBySlug : loopQuery imageScope (imageLoop "slug") = .ok imagesBySlug := by
  have htype : imageScope.interpolate "asset" = "asset" := interpolate_of_no_dollar (by decide)
  have hgiven : (imageLoop "slug").attributes.get? "type" = some "asset" := rfl
  have hpage : loopPage imageScope (imageLoop "slug") = .ok (some 1) := rfl
  have hread := (sortsBy_imageLoop (by decide) (by decide)).loopQuery_eq hgiven (by decide) hpage
  rwa [htype] at hread

theorem search_imagesBySlug : imagesBySlug.search imageScope.context.collection =
    [imageAt "a/z.png" "z.png", imageAt "b.png" "b.png"] := by
  have hfilter : imageScope.context.collection.entries.filter imagesBySlug.accepts =
      [imageAt "a/z.png" "z.png", imageAt "b.png" "b.png"] := by decide
  have horder : imagesBySlug.inOrder (imageAt "a/z.png" "z.png") (imageAt "b.png" "b.png") =
      true := by
    decide +kernel
  rw [Query.search, Query.paginate_eq_self (.inl (Int.le_refl 0)), Query.matching, hfilter]
  simp [List.mergeSort, List.MergeSort.Internal.splitInTwo, horder]

/-- Images sorted by slug stay in the order of their paths, because none has a slug of its own. -/
theorem slugs_out_of_order :
    ∃ q, SortsBy imageScope (imageLoop "slug") "slug" .ascending ∧
      EchoesField (echoOf "slug") "slug" ∧
      loopQuery imageScope (imageLoop "slug") = .ok q ∧
      renderTag imageScope (imageLoop "slug") (some [.single (echoOf "slug"), .text ","]) =
        .ok "z,b," ∧
      ShowsValues imageScope q (echoOf "slug") ["z", "b"] ∧
      ¬["z", "b"].Pairwise SortOrder.ascending.Keeps := by
  have hloop := sortsBy_imageLoop (f := "slug") (by decide) (by decide)
  have hecho := echoesField_echoOf "slug"
  have hrender : renderTag imageScope (imageLoop "slug")
      (some [.single (echoOf "slug"), .text ","]) = .ok "z,b," := by
    rw [renderTag_loop_eq rfl loopQuery_imagesBySlug, shownItems, search_imagesBySlug]
    decide +kernel
  have hvalues : ShowsValues imageScope imagesBySlug (echoOf "slug") ["z", "b"] := by
    rw [ShowsValues, hecho.mapM_eq, shownItems, search_imagesBySlug]
    decide +kernel
  have hgreater : compareValues (some "z") (some "b") = .gt := by decide +kernel
  exact ⟨imagesBySlug, hloop, hecho, loopQuery_imagesBySlug, hrender, hvalues, fun h => List.pairwise_pair.mp h hgreater⟩

end Render

end StaticSite
