/-
Queries of a collection: filter, sort and paginate.

`compareValues` is a total preorder on field values: finite numbers come first, by value, and other
texts follow in the order of their characters.  `search` sorts stably, so entries that compare equal
keep their order in the collection, in both directions.
-/
import StaticSite.Content.Collection
import StaticSite.Text.Binary64

namespace StaticSite

open StaticSite.Content

/-- The direction of a sort. -/
inductive SortOrder where
  | ascending
  | descending
  deriving Repr, DecidableEq

/-- The direction that a word stands for; an error holds the word in small letters. -/
def SortOrder.parse (text : String) : Except String SortOrder :=
  match Text.asciiLowercase text with
  | "asc" => .ok .ascending
  | "ascending" => .ok .ascending
  | "desc" => .ok .descending
  | "descending" => .ok .descending
  | other => .error other

/-- The key of a text that is a finite number. -/
def numberKey? (text : String) : Option Int :=
  Text.Binary64.orderKey? (Text.trimmed text)

/-- Compare two texts: numbers by value and before all other texts. -/
def compareTexts (a b : String) : Ordering :=
  match numberKey? a, numberKey? b with
  | some x, some y => compare x y
  | some _, none => .lt
  | none, some _ => .gt
  | none, none => compare a b

/-- Compare two field values; a missing value counts as the empty text. -/
def compareValues (a b : Option String) : Ordering := compareTexts (a.getD "") (b.getD "")

/-- The largest number that a word of 64 bits holds. -/
def largestWord : Nat := UInt64.size - 1

/-- The product of two words, or the largest word if the product fits none. -/
def saturatingMul (a b : Nat) : Nat := min (a * b) largestWord

/-- A query of a collection. -/
structure Query where
  /-- The type of the entries, or the word for any type. -/
  type : String
  /-- The field to sort by. -/
  sort : String
  order : SortOrder
  /-- The length of a page; there are no pages unless it is positive. -/
  limit : Int
  /-- The page from one; there are no pages without it or when it is zero. -/
  page : Option Nat
  /-- A text that the entries contain. -/
  keywords : Option String
  /-- Are assets matched even if the type does not ask for them? -/
  includeAssets : Bool
  deriving Repr, DecidableEq

namespace Query

/-- The word for any type. -/
def everyType : String := "any"

/-- The newest entries of any type, ten on a page. -/
def default : Query := ⟨everyType, "timestamp", .descending, 10, some 1, none, false⟩

/-- Does a text contain another one? -/
def contains (text part : String) : Bool := Text.containsText part.toList text.toList

/-- Does an entry contain the keywords? -/
def hasKeywords (keywords : String) : Entry → Bool
  | .document d =>
    contains d.body keywords || contains d.title keywords || d.tags.any (contains · keywords)
  | .asset a => contains a.path keywords

/-- Does an entry match the query? -/
def accepts (q : Query) (e : Entry) : Bool :=
  (!e.isAsset || q.includeAssets || q.type == assetType) &&
    (q.type == everyType || e.type == q.type) &&
    match q.keywords with
    | none => true
    | some keywords => keywords.isEmpty || hasKeywords keywords e

/-- May the first entry stand before the second one? -/
def inOrder (q : Query) (a b : Entry) : Bool :=
  match q.order with
  | .ascending => (compareValues (a.field q.sort) (b.field q.sort)).isLE
  | .descending => (compareValues (a.field q.sort) (b.field q.sort)).isGE

/-- Where the page begins and ends that the query asks for in a list of the given length.  Products of
page and page length stop at the largest word, and nothing lies beyond the end of the list. -/
def pageBounds? (q : Query) (total : Nat) : Option (Nat × Nat) :=
  match q.page with
  | none => none
  | some 0 => none
  | some (page + 1) =>
    if q.limit ≤ 0 then none
    else
      let limit := min q.limit.toNat largestWord
      some (min (saturatingMul page limit) total, min (saturatingMul (page + 1) limit) total)

/-- The page of a list that the query asks for. -/
def paginate {α : Type} (q : Query) (entries : List α) : List α :=
  match q.pageBounds? entries.length with
  | none => entries
  | some (start, stop) => entries.extract start stop

/-- All matching entries in order. -/
def matching (q : Query) (c : Collection) : List Entry :=
  (c.entries.filter q.accepts).mergeSort q.inOrder

/-- The entries that answer the query. -/
def search (q : Query) (c : Collection) : List Entry := q.paginate (q.matching c)

end Query

end StaticSite
