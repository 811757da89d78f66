/-
The order of what a query finds.

Field values are compared by a total preorder, with the numbers before all other texts
(`compareTexts` is a `Std.TransCmp`).  A list that is sorted by keys and has, for every key, the
entries with that key in their old order is determined by these two facts (`eq_of_inOrder`), and
merge sort gives it (`filter_mergeSort`).  Main statement: what a query finds without pages is the
one list in the order that it asks for that keeps the order of the collection among entries with
equal values (`search_eq_iff`).
-/
import Mathlib.Data.List.Chain
import StaticSite.Proofs.Query.Pages

namespace StaticSite

open Content

/-! ## A total preorder of values -/

section Texts

variable {a b : String}

theorem compareTexts_numbers {x y : Int} (ha : numberKey? a = some x) (hb : numberKey? b = some y) :
    compareTexts a b = compare x y := by
  rw [compareTexts, ha, hb]

theorem compareTexts_number_text {x : Int} (ha : numberKey? a = some x)
    (hb : numberKey? b = none) : compareTexts a b = .lt := by
  rw [compareTexts, ha, hb]

theorem compareTexts_text_number {y : Int} (ha : numberKey? a = none)
    (hb : numberKey? b = some y) : compareTexts a b = .gt := by
  rw [compareTexts, ha, hb]

theorem compareTexts_texts (ha : numberKey? a = none) (hb : numberKey? b = none) :
    compareTexts a b = compare a b := by
  rw [compareTexts, ha, hb]

end Texts

instance : Std.OrientedCmp compareTexts where
  eq_swap {a b} := by
    cases ha : numberKey? a with
    | none =>
        cases hb : numberKey? b with
        | none =>
            rw [compareTexts_texts ha hb, compareTexts_texts hb ha]
            exact Std.OrientedOrd.eq_swap
        | some y => rw [compareTexts_text_number ha hb, compareTexts_number_text hb ha, Ordering.swap]
    | some x =>
        cases hb : numberKey? b with
        | none => rw [compareTexts_number_text ha hb, compareTexts_text_number hb ha, Ordering.swap]
        | some y =>
            rw [compareTexts_numbers ha hb, compareTexts_numbers hb ha]
            exact Std.OrientedOrd.eq_swap

instance : Std.TransCmp compareTexts where
  isLE_trans {a b c} hab hbc := by
    cases ha : numberKey? a with
    | none =>
        -- only texts come after a text
        cases hb : numberKey? b with
        | some y =>
            rw [compareTexts_text_number ha hb] at hab
            cases hab
        | none =>
            cases hc : numberKey? c with
            | some z =>
                rw [compareTexts_text_number hb hc] at hbc
                cases hbc
            | none =>
                rw [compareTexts_texts ha hb] at hab
                rw [compareTexts_texts hb hc] at hbc
                rw [compareTexts_texts ha hc]
                exact Std.TransOrd.isLE_trans hab hbc
    | some x =>
        cases hc : numberKey? c with
        | none =>
            rw [compareTexts_number_text ha hc]
            rfl
        | some z =>
            cases hb : numberKey? b with
            | none =>
                rw [compareTexts_text_number hb hc] at hbc
                cases hbc
            | some y =>
                rw [compareTexts_numbers ha hb] at hab
                rw [compareTexts_numbers hb hc] at hbc
                rw [compareTexts_numbers ha hc]
                exact Std.TransOrd.isLE_trans hab hbc

instance : Std.OrientedCmp compareValues where
  eq_swap {v w} := by
    show compareTexts (v.getD "") (w.getD "") = _
    exact Std.OrientedCmp.eq_swap

instance : Std.TransCmp compareValues where
  isLE_trans {v w z} hvw hwz := by
    show (compareTexts (v.getD "") (z.getD "")).isLE = true
    exact Std.TransCmp.isLE_trans hvw hwz

/-- The comparison by which a direction sorts. -/
def SortOrder.comparison : SortOrder → Option String → Option String → Ordering
  | .ascending => compareValues
  | .descending => fun v w => compareValues w v

instance (order : SortOrder) : Std.TransCmp order.comparison := by
  cases order with
  | ascending => exact inferInstanceAs (Std.TransCmp compareValues)
  | descending => exact inferInstanceAs (Std.TransCmp fun v w => compareValues w v)

theorem SortOrder.comparison_eq_eq (order : SortOrder) (v w : Option String) :
    order.comparison v w = .eq ↔ compareValues v w = .eq := by
  cases order with
  | ascending => exact Iff.rfl
  | descending => exact Std.OrientedCmp.eq_comm

/-! ## Stable sorting by keys -/

section Keys

variable {α β : Type} {key : α → β} {cmp : β → β → Ordering} [Std.TransCmp cmp]

theorem isLE_or_isLE (a b : α) :
    ((cmp (key a) (key b)).isLE || (cmp (key b) (key a)).isLE) = true := by
  have hswap : cmp (key b) (key a) = (cmp (key a) (key b)).swap := Std.OrientedCmp.eq_swap
  rw [hswap]
  cases cmp (key a) (key b) <;> rfl

/-- Sorting keeps the order of the entries whose key compares equal to a given one: they are a sorted
part of the list, and sorting leaves sorted parts as they are. -/
theorem filter_mergeSort (entries : List α) (value : β) :
    (entries.mergeSort fun a b => (cmp (key a) (key b)).isLE).filter
        (fun a => cmp (key a) value = .eq) =
      entries.filter fun a => cmp (key a) value = .eq := by
  have hsorted : (entries.filter fun a => cmp (key a) value = .eq).Pairwise
      fun a b => (cmp (key a) (key b)).isLE = true := by
    refine List.pairwise_of_forall_mem_list fun a ha b hb => ?_
    have ha' : cmp (key a) value = .eq := by simpa using (List.mem_filter.mp ha).2
    have hb' : cmp (key b) value = .eq := by simpa using (List.mem_filter.mp hb).2
    rw [Std.TransCmp.congr_left ha', Std.OrientedCmp.eq_comm.mp hb']
    rfl
  have hsub := List.sublist_mergeSort (fun a b c => Std.TransCmp.isLE_trans) isLE_or_isLE hsorted
    List.filter_sublist
  have hpart := hsub.filter fun a => decide (cmp (key a) value = .eq)
  simp only [List.filter_filter, Bool.and_self] at hpart
  exact (hpart.eq_of_length ((List.mergeSort_perm entries _).filter _).length_eq.symm).symm

/-- In a sorted list no entry comes before the first one. -/
theorem isLE_of_mem_cons {a b : α} {bs : List α}
    (hsorted : (b :: bs).Pairwise fun a b => (cmp (key a) (key b)).isLE = true)
    (ha : a ∈ b :: bs) : (cmp (key b) (key a)).isLE = true := by
  rcases List.mem_cons.mp ha with rfl | hrest
  · have hself : cmp (key a) (key a) = .eq := Std.ReflCmp.compare_self
    rw [hself]
    rfl
  · exact (List.pairwise_cons.mp hsorted).1 a hrest

/-- Lists with the same entries of every key have the same entries. -/
theorem mem_iff_of_filters {as bs : List α}
    (h : ∀ value, as.filter (fun a => cmp (key a) value = .eq) =
      bs.filter fun a => cmp (key a) value = .eq) (a : α) : a ∈ as ↔ a ∈ bs := by
  have hself : cmp (key a) (key a) = .eq := Std.ReflCmp.compare_self
  have ha : a ∈ as.filter _ ↔ a ∈ bs.filter _ := iff_of_eq (congrArg (a ∈ ·) (h (key a)))
  simpa [hself] using ha

/-- Two sorted lists with the same entries of every key are the same. -/
theorem eq_of_sorted {as bs : List α}
    (has : as.Pairwise fun a b => (cmp (key a) (key b)).isLE = true)
    (hbs : bs.Pairwise fun a b => (cmp (key a) (key b)).isLE = true)
    (h : ∀ value, as.filter (fun a => cmp (key a) value = .eq) =
      bs.filter fun a => cmp (key a) value = .eq) : as = bs := by
  induction as generalizing bs with
  | nil =>
      cases bs with
      | nil => rfl
      | cons b bs => exact absurd ((mem_iff_of_filters h b).mpr List.mem_cons_self) List.not_mem_nil
  | cons a as ih =>
      cases bs with
      | nil => exact absurd ((mem_iff_of_filters h a).mp List.mem_cons_self) List.not_mem_nil
      | cons b bs =>
          -- each first entry is in the other list, so neither comes before the other one
          have hab := isLE_of_mem_cons has ((mem_iff_of_filters h b).mpr List.mem_cons_self)
          have hba := isLE_of_mem_cons hbs ((mem_iff_of_filters h a).mp List.mem_cons_self)
          have hself : cmp (key a) (key a) = .eq := Std.ReflCmp.compare_self
          have hheads := h (key a)
          rw [List.filter_cons_of_pos (by simp [hself]),
            List.filter_cons_of_pos (by simp [Std.OrientedCmp.isLE_antisymm hba hab])] at hheads
          injection hheads with heq _
          subst heq
          refine congrArg (a :: ·) (ih has.of_cons hbs.of_cons fun value => ?_)
          have hvalue := h value
          by_cases hv : cmp (key a) value = .eq
          · rw [List.filter_cons_of_pos (by simp [hv]), List.filter_cons_of_pos (by simp [hv])]
              at hvalue
            injection hvalue
          · rw [List.filter_cons_of_neg (by simp [hv]), List.filter_cons_of_neg (by simp [hv])]
              at hvalue
            exact hvalue

end Keys

/-! ## Entries that answer a query -/

/-- A text is a contiguous part of another one. -/
theorem Text.containsText_iff {part cs : List Char} :
    Text.containsText part cs = true ↔ part <:+: cs := by
  induction cs with
  | nil => simp [Text.containsText]
  | cons c cs ih =>
      rw [Text.containsText, Bool.or_eq_true, ih, List.isPrefixOf_iff_prefix, List.infix_cons_iff]

namespace Query

/-- A text is a part of another one. -/
def IsPartOf (part text : String) : Prop := part.toList <:+: text.toList

/-- The keywords stand in the body, the title or a tag of a document, or in the path of an asset. -/
def Mentions (keywords : String) : Entry → Prop
  | .document d =>
      IsPartOf keywords d.body ∨ IsPartOf keywords d.title ∨ ∃ tag ∈ d.tags, IsPartOf keywords tag
  | .asset a => IsPartOf keywords a.path

/-- What a query asks of an entry. -/
structure Matches (q : Query) (e : Entry) : Prop where
  /-- Assets have to be asked for. -/
  asset : e.isAsset = true → q.includeAssets = true ∨ q.type = assetType
  type : q.type ≠ everyType → e.type = q.type
  keywords : ∀ keywords, q.keywords = some keywords → keywords ≠ "" → Mentions keywords e

theorem hasKeywords_iff {keywords : String} {e : Entry} :
    hasKeywords keywords e = true ↔ Mentions keywords e := by
  cases e with
  | document d =>
      simp [hasKeywords, Mentions, contains, IsPartOf, Text.containsText_iff, or_assoc]
  | asset a => exact Text.containsText_iff

theorem accepts_iff {q : Query} {e : Entry} : q.accepts e = true ↔ q.Matches e := by
  have hasset : (!e.isAsset || q.includeAssets || q.type == assetType) = true ↔
      (e.isAsset = true → q.includeAssets = true ∨ q.type = assetType) := by
    cases e.isAsset <;> simp
  have htype : (q.type == everyType || e.type == q.type) = true ↔
      (q.type ≠ everyType → e.type = q.type) := by
    simp only [Bool.or_eq_true, beq_iff_eq, or_iff_not_imp_left, ne_eq]
  have hmatches : q.Matches e ↔
      ((e.isAsset = true → q.includeAssets = true ∨ q.type = assetType) ∧
        (q.type ≠ everyType → e.type = q.type)) ∧
      ∀ keywords, q.keywords = some keywords → keywords ≠ "" → Mentions keywords e := by
    constructor
    · intro h
      exact ⟨⟨h.asset, h.type⟩, h.keywords⟩
    · intro h
      exact ⟨h.1.1, h.1.2, h.2⟩
  rw [hmatches, accepts, Bool.and_eq_true, Bool.and_eq_true]
  refine and_congr (and_congr hasset htype) ?_
  cases q.keywords with
  | none => simp
  | some keywords =>
      simp only [Bool.or_eq_true, String.isEmpty_iff, hasKeywords_iff, or_iff_not_imp_left,
        Option.some.injEq, forall_eq', ne_eq]

instance (q : Query) : DecidablePred q.Matches := fun _ => decidable_of_iff _ accepts_iff

/-- The second entry may stand right after the first one: the field does not fall from the first one
to the second one in ascending order, and does not rise in descending order. -/
def MayPrecede (q : Query) (a b : Entry) : Prop :=
  match q.order with
  | .ascending => compareValues (a.field q.sort) (b.field q.sort) ≠ .gt
  | .descending => compareValues (a.field q.sort) (b.field q.sort) ≠ .lt

theorem inOrder_eq (q : Query) (a b : Entry) :
    q.inOrder a b = (q.order.comparison (a.field q.sort) (b.field q.sort)).isLE := by
  unfold inOrder
  cases q.order with
  | ascending => rfl
  | descending => exact Std.OrientedCmp.isGE_eq_isLE

theorem mayPrecede_iff {q : Query} {a b : Entry} :
    q.MayPrecede a b ↔
      (q.order.comparison (a.field q.sort) (b.field q.sort)).isLE = true := by
  rw [← inOrder_eq]
  unfold MayPrecede inOrder
  cases q.order with
  | ascending => exact Ordering.isLE_iff_ne_gt.symm
  | descending => exact Ordering.isGE_iff_ne_lt.symm

instance (q : Query) : Trans q.MayPrecede q.MayPrecede q.MayPrecede where
  trans hab hbc := mayPrecede_iff.mpr
    (Std.TransCmp.isLE_trans (mayPrecede_iff.mp hab) (mayPrecede_iff.mp hbc))

section Search

variable {q : Query}

theorem search_eq_mergeSort (hall : q.limit ≤ 0 ∨ q.page = none ∨ q.page = some 0)
    (c : Collection) :
    q.search c = (c.entries.filter q.accepts).mergeSort fun a b =>
      (q.order.comparison (a.field q.sort) (b.field q.sort)).isLE := by
  rw [search, paginate_eq_self hall, matching]
  exact congrArg _ (funext fun a => funext fun b => q.inOrder_eq a b)

theorem filter_matches (entries : List Entry) :
    (entries.filter fun e => q.Matches e) = entries.filter q.accepts := by
  refine List.filter_congr fun e _ => ?_
  rw [Bool.eq_iff_iff, decide_eq_true_iff, accepts_iff]

/-- In both directions the same entries compare equal to a value. -/
theorem filter_compareValues (entries : List Entry) (value : Option String) :
    (entries.filter fun e => compareValues (e.field q.sort) value = .eq) =
      entries.filter fun e => q.order.comparison (e.field q.sort) value = .eq := by
  refine List.filter_congr fun e _ => ?_
  rw [decide_eq_decide, SortOrder.comparison_eq_eq]

theorem filter_matches_and (entries : List Entry) (value : Option String) :
    (entries.filter fun e => q.Matches e ∧ compareValues (e.field q.sort) value = .eq) =
      (entries.filter q.accepts).filter
        fun e => q.order.comparison (e.field q.sort) value = .eq := by
  rw [← filter_compareValues, ← filter_matches, List.filter_filter]
  refine List.filter_congr fun e _ => ?_
  rw [Bool.decide_and, Bool.and_comm]

/-- A query without pages finds the stable sort of the entries that match it: the one list that holds
just these, each as often as the collection does, has them in the order that the query asks for, and
keeps the order of the collection among entries whose fields compare equal, in both directions. -/
theorem search_eq_iff (hall : q.limit ≤ 0 ∨ q.page = none ∨ q.page = some 0) (c : Collection)
    (results : List Entry) :
    q.search c = results ↔
      results.Perm (c.entries.filter fun e => q.Matches e) ∧
      results.IsChain q.MayPrecede ∧
      ∀ value, results.filter (fun e => compareValues (e.field q.sort) value = .eq) =
        c.entries.filter fun e => q.Matches e ∧ compareValues (e.field q.sort) value = .eq := by
  have hsearch := search_eq_mergeSort hall c
  have hsorted : (q.search c).Pairwise fun a b =>
      (q.order.comparison (a.field q.sort) (b.field q.sort)).isLE = true := by
    rw [hsearch]
    exact List.pairwise_mergeSort (fun a b c => Std.TransCmp.isLE_trans) isLE_or_isLE _
  constructor
  · rintro rfl
    refine ⟨?_, (hsorted.imp mayPrecede_iff.mpr).isChain, fun value => ?_⟩
    · rw [filter_matches, hsearch]
      exact List.mergeSort_perm _ _
    · rw [filter_compareValues, filter_matches_and, hsearch]
      exact filter_mergeSort _ value
  · rintro ⟨-, hchain, hstable⟩
    have hresults := (List.isChain_iff_pairwise.mp hchain).imp mayPrecede_iff.mp
    refine eq_of_sorted hsorted hresults fun value => ?_
    rw [← filter_compareValues results, hstable, filter_matches_and, hsearch]
    exact filter_mergeSort _ value

/-- A note with a rank. -/
def noteRanked (rank : String) : Entry := .document
  ⟨"a.md", "source/a.md", "public/a/index.html", "/a/", "page", .ofList [("rank", rank)], "", "a",
    "A", [], "", 0, none⟩

/-- An image, which has no rank. -/
def unrankedImage : Entry :=
  .asset ⟨"i.png", "source/i.png", "i.png", "public/i.png", "/i.png", "0", 0, true⟩

def rankedEntries : Collection :=
  ⟨[noteRanked "9", unrankedImage, noteRanked "10", noteRanked "9.0"]⟩

/-- Everything by its rank, from the highest one down. -/
def byRankDescending : Query := ⟨everyType, "rank", .descending, 0, some 1, none, true⟩

theorem search_byRankDescending :
    byRankDescending.search rankedEntries =
      [unrankedImage, noteRanked "10", noteRanked "9", noteRanked "9.0"] := by
  have hfilter : rankedEntries.entries.filter byRankDescending.accepts = rankedEntries.entries := by
    decide
  have h₁ : byRankDescending.inOrder (noteRanked "9") unrankedImage = false := by decide +kernel
  have h₂ : byRankDescending.inOrder (noteRanked "10") (noteRanked "9.0") = true := by
    decide +kernel
  have h₃ : byRankDescending.inOrder unrankedImage (noteRanked "10") = true := by decide +kernel
  have h₄ : byRankDescending.inOrder (noteRanked "9") (noteRanked "10") = false := by decide +kernel
  have h₅ : byRankDescending.inOrder (noteRanked "9") (noteRanked "9.0") = true := by
    decide +kernel
  rw [search, paginate_eq_self (.inl (Int.le_refl 0)), matching, hfilter]
  simp [rankedEntries, List.mergeSort, List.MergeSort.Internal.splitInTwo, h₁, h₂, h₃, h₄, h₅]

/-- In descending order an image without the field comes before the numbers; nine written in two ways
keeps the order of the collection. -/
theorem search_eq_iff_ranks :
    ∃ (q : Query) (c : Collection) (nine image ten again : Entry),
      q.limit = 0 ∧ q.order = .descending ∧ c.entries = [nine, image, ten, again] ∧
      nine.field q.sort = some "9" ∧ image.field q.sort = none ∧ ten.field q.sort = some "10" ∧
      again.field q.sort = some "9.0" ∧ q.search c = [image, ten, nine, again] ∧
      [image, ten, nine, again].Perm (c.entries.filter fun e => q.Matches e) ∧
      [image, ten, nine, again].IsChain q.MayPrecede ∧
      ∀ value, [image, ten, nine, again].filter
          (fun e => compareValues (e.field q.sort) value = .eq) =
        c.entries.filter fun e => q.Matches e ∧ compareValues (e.field q.sort) value = .eq :=
  ⟨byRankDescending, rankedEntries, noteRanked "9", unrankedImage, noteRanked "10",
    noteRanked "9.0", rfl, rfl, rfl, by decide, by decide, by decide, by decide,
    search_byRankDescending,
    (search_eq_iff (.inl (Int.le_refl 0)) rankedEntries _).mp search_byRankDescending⟩

end Search

end Query

end StaticSite
