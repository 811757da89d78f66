/-
Pages of a query.

The bounds of a page are products of machine words that stop at the largest one, cut off at the
length of the list.  In a list that a machine can hold the stop is never felt (`min_saturatingMul`):
a page is the stretch of the list that its number and the page length say (`paginate_atPage`).  Main
statement: the pages one after the other are the whole result (`search_pages`).
-/
import Mathlib.Algebra.Order.Floor.Div
import StaticSite.Query

namespace StaticSite

open Content

namespace Query

/-- The query for all entries. -/
def unpaged (q : Query) : Query := { q with page := none }

/-- The query for one of its pages. -/
def atPage (q : Query) (page : Nat) : Query := { q with page := some page }

/-- The number of pages that hold so many entries. -/
def pageCount (q : Query) (total : Nat) : Nat := total ⌈/⌉ q.limit.toNat

/-! ## Bounds -/

/-- A product that stops at the largest word is as good as the product itself in a list that is no
longer than that. -/
theorem min_saturatingMul {total : Nat} (h : total ≤ largestWord) (page limit : Nat) :
    min (saturatingMul page (min limit largestWord)) total = min (page * limit) total := by
  rw [saturatingMul, Nat.min_assoc, Nat.min_eq_right h]
  rcases Nat.le_total limit largestWord with hle | hle
  · rw [Nat.min_eq_left hle]
  · rw [Nat.min_eq_right hle]
    -- with such a long page, the first one already ends beyond the list
    cases page with
    | zero => rw [Nat.zero_mul, Nat.zero_mul]
    | succ page =>
        have hword : largestWord ≤ (page + 1) * largestWord :=
          Nat.le_mul_of_pos_left _ (Nat.succ_pos page)
        have hlimit : (page + 1) * largestWord ≤ (page + 1) * limit :=
          Nat.mul_le_mul_left _ hle
        omega

/-- Whatever page is asked for, its bounds are in order and within the list. -/
theorem le_of_pageBounds? {q : Query} {total start stop : Nat}
    (h : q.pageBounds? total = some (start, stop)) : start ≤ stop ∧ stop ≤ total := by
  unfold pageBounds? at h
  split at h
  · cases h
  · cases h
  · rename_i page _
    split at h
    · cases h
    · cases h
      have hmul : page * min q.limit.toNat largestWord ≤
          (page + 1) * min q.limit.toNat largestWord :=
        Nat.mul_le_mul_right _ (Nat.le_succ page)
      have hword : saturatingMul page (min q.limit.toNat largestWord) ≤
          saturatingMul (page + 1) (min q.limit.toNat largestWord) :=
        min_le_min_right _ hmul
      exact ⟨min_le_min_right _ hword, Nat.min_le_right _ _⟩

/-- Without a page length or a page number there are no pages. -/
theorem pageBounds?_eq_none {q : Query} (h : q.limit ≤ 0 ∨ q.page = none ∨ q.page = some 0)
    (total : Nat) : q.pageBounds? total = none := by
  unfold pageBounds?
  split
  · rfl
  · rfl
  · rename_i page hpage
    rcases h with hlimit | hnone | hzero
    · rw [if_pos hlimit]
    · rw [hnone] at hpage
      cases hpage
    · rw [hzero] at hpage
      cases hpage

/-! ## Stretches of a list -/

section Stretch

variable {α : Type} (entries : List α)

theorem extract_min (start size : Nat) :
    entries.extract (min start entries.length) (min (start + size) entries.length) =
      (entries.drop start).take size := by
  show (entries.drop _).take _ = _
  rcases Nat.le_total start entries.length with hle | hle
  · rw [Nat.min_eq_left hle, List.take_eq_take_iff, List.length_drop]
    omega
  · rw [Nat.min_eq_right hle, List.drop_length, List.drop_eq_nil_of_le hle, List.take_nil,
      List.take_nil]

/-- Stretches of one size, one after the other, are the beginning of the list. -/
theorem flatMap_stretches (size count : Nat) :
    (List.range count).flatMap (fun i => (entries.drop (i * size)).take size) =
      entries.take (count * size) := by
  induction count with
  | zero => rw [Nat.zero_mul, List.take_zero, List.range_zero, List.flatMap_nil]
  | succ count ih =>
      rw [List.range_succ, List.flatMap_append, ih, List.flatMap_singleton, Nat.add_mul,
        Nat.one_mul, List.take_add]

end Stretch

/-! ## Pages -/

section Pages

variable {α : Type} {q : Query} {entries : List α}

/-- A query without pages has all entries. -/
theorem paginate_eq_self (h : q.limit ≤ 0 ∨ q.page = none ∨ q.page = some 0) :
    q.paginate entries = entries := by
  rw [paginate, pageBounds?_eq_none h]

/-- A page is a stretch of the list. -/
theorem paginate_atPage (hlimit : 0 < q.limit) (hsize : entries.length ≤ largestWord)
    (page : Nat) :
    (q.atPage (page + 1)).paginate entries =
      (entries.drop (page * q.limit.toNat)).take q.limit.toNat := by
  have hbounds : (q.atPage (page + 1)).pageBounds? entries.length =
      some (min (page * q.limit.toNat) entries.length,
        min (page * q.limit.toNat + q.limit.toNat) entries.length) := by
    show (if q.limit ≤ 0 then none else _) = _
    rw [if_neg (by omega), min_saturatingMul hsize, min_saturatingMul hsize, Nat.add_mul,
      Nat.one_mul]
    rfl
  rw [paginate, hbounds]
  exact extract_min entries _ _

/-- The pages hold all entries, the last of them perhaps not as many as the others. -/
theorem pageCount_spec (hlimit : 0 < q.limit) (total page : Nat) :
    (page < q.pageCount total ↔ page * q.limit.toNat < total) := by
  have hpos : 0 < q.limit.toNat := by omega
  rw [pageCount, ← Nat.not_le, ceilDiv_le_iff_le_mul hpos, Nat.not_le, Nat.mul_comm]

end Pages

/-- Pagination loses nothing.  Let `all` be what the query finds without pages, which is the same for
every page length and number that ask for none.  Then the pages from the first to the last give
`all` in order; each of them but the last is full; each page after the last is empty; and for every
page length and number the bounds of the page are in order and within `all`. -/
theorem search_pages {q : Query} {c : Collection} (hlimit : 0 < q.limit)
    (hsize : c.entries.length ≤ largestWord) :
    ∃ all, q.unpaged.search c = all ∧
      (∀ limit page, limit ≤ 0 ∨ page = none ∨ page = some 0 →
        ({ q with limit := limit, page := page } : Query).search c = all) ∧
      ((List.range (q.pageCount all.length)).flatMap fun i => (q.atPage (i + 1)).search c) = all ∧
      (∀ page, 0 < page → page < q.pageCount all.length →
        ((q.atPage page).search c).length = q.limit.toNat) ∧
      (∀ page, q.pageCount all.length < page → (q.atPage page).search c = []) ∧
      ∀ limit page start stop,
        ({ q with limit := limit, page := page } : Query).pageBounds? all.length =
          some (start, stop) → start ≤ stop ∧ stop ≤ all.length := by
  have hmatching : (q.matching c).length ≤ largestWord := by
    have hfilter : (c.entries.filter q.accepts).length ≤ c.entries.length :=
      List.length_filter_le _ _
    rw [matching, List.length_mergeSort]
    exact hfilter.trans hsize
  have hpage : ∀ page, (q.atPage (page + 1)).search c =
      ((q.matching c).drop (page * q.limit.toNat)).take q.limit.toNat :=
    fun page => paginate_atPage hlimit hmatching page
  refine ⟨q.matching c, paginate_eq_self (.inr (.inl rfl)), ?_, ?_, ?_, ?_, ?_⟩
  · intro limit page hnone
    exact paginate_eq_self (q := { q with limit := limit, page := page }) hnone
  · simp only [hpage]
    rw [flatMap_stretches, List.take_of_length_le]
    -- the page after the last one would begin beyond the end
    exact Nat.le_of_not_lt fun h => Nat.lt_irrefl _ ((pageCount_spec hlimit _ _).mpr h)
  · intro page hpos hlast
    obtain ⟨before, rfl⟩ := Nat.exists_eq_succ_of_ne_zero (Nat.ne_of_gt hpos)
    have hfull := (pageCount_spec hlimit _ _).mp hlast
    rw [hpage, List.length_take, List.length_drop]
    rw [Nat.succ_mul] at hfull
    omega
  · intro page hafter
    obtain ⟨before, rfl⟩ := Nat.exists_eq_succ_of_ne_zero (Nat.ne_zero_of_lt hafter)
    have hend : ¬ before < q.pageCount (q.matching c).length := by omega
    rw [pageCount_spec hlimit, Nat.not_lt] at hend
    rw [hpage, List.drop_eq_nil_of_le hend, List.take_nil]
  · intro limit page start stop hbounds
    exact le_of_pageBounds? hbounds

/-- An image of a site, with its name for everything. -/
def imageNamed (name : String) : Entry := .asset ⟨name, name, name, name, name, "0", 0, true⟩

/-- Three images, not in the order of their titles. -/
def threeImages : Collection := ⟨[imageNamed "c.png", imageNamed "a.png", imageNamed "b.png"]⟩

/-- Images by their titles, two on a page. -/
def imagesByTitle : Query := { Query.default with type := assetType, sort := "title", limit := 2 }

theorem length_search_imagesByTitle : (imagesByTitle.unpaged.search threeImages).length = 3 := by
  have hmatching : imagesByTitle.unpaged.search threeImages =
      imagesByTitle.unpaged.matching threeImages :=
    paginate_eq_self (.inr (.inl rfl))
  rw [hmatching, matching, List.length_mergeSort]
  decide

/-- Three images, two on a page: the second page has one. -/
theorem search_pages_images :
    ∃ (q : Query) (c : Collection) (all : List Entry),
      q.limit = 2 ∧ c.entries.length = 3 ∧ all.length = 3 ∧ q.pageCount all.length = 2 ∧
      q.unpaged.search c = all ∧
      (q.atPage 1).search c ++ (q.atPage 2).search c = all ∧
      ((q.atPage 1).search c).length = 2 ∧ (q.atPage largestWord).search c = [] ∧
      ({ q with limit := Int64.maxValue.toInt, page := some largestWord } : Query).pageBounds? 3 =
        some (3, 3) := by
  obtain ⟨all, hall, -, hpages, hfull, hbeyond, -⟩ :=
    search_pages (q := imagesByTitle) (c := threeImages) (by decide) (by decide)
  have htotal : all.length = 3 := hall ▸ length_search_imagesByTitle
  have hcount : imagesByTitle.pageCount all.length = 2 := by
    rw [htotal]
    decide
  rw [hcount] at hpages hfull hbeyond
  have hrange : List.range 2 = [0, 1] := rfl
  simp only [hrange, List.flatMap_cons, List.flatMap_nil, List.append_nil] at hpages
  exact ⟨imagesByTitle, threeImages, all, rfl, rfl, htotal, hcount, hall, hpages,
    hfull 1 (by decide) (by decide), hbeyond largestWord (by decide), by decide⟩

end Query

end StaticSite
