/-
Metadata and attributes as maps that insertions make.

Setting a name among attributes is an insertion into the map of the named ones, and reading an
attribute text sets the names of its items one after the other (`holds_named_ofItems`).  Main
statement: after any insertions the keys are distinct and stand in the order in which they were
first inserted, each with the value that was inserted last, and an insertion does not touch what
stands under other keys (`isLeftBy_insertions`).
-/
import Mathlib.Data.List.Induction
import StaticSite.Content.FrontMatter
import StaticSite.Outcome
import StaticSite.Proofs.OrderedMap
import StaticSite.Template.Attributes

namespace StaticSite

namespace Template

/-- The name and the value of a named item. -/
def AttributeItem.pair? : AttributeItem → Option (String × String)
  | .named key value => some (key, value)
  | .word _ => none
  | .quoted _ => none

namespace Attributes

/-- Set names from left to right. -/
def insertAll (a : Attributes) (pairs : List (String × String)) : Attributes :=
  pairs.foldl (fun a (key, value) => a.insert key value) a

theorem named_insertAll (a : Attributes) (pairs : List (String × String)) :
    (a.insertAll pairs).named = a.named.insertAll pairs := by
  induction pairs generalizing a with
  | nil => rfl
  | cons pair pairs ih => exact ih (a.insert pair.1 pair.2)

/-- Setting names touches nothing that has no name. -/
theorem unnamed_insertAll (a : Attributes) (pairs : List (String × String)) :
    (a.insertAll pairs).positional = a.positional ∧ (a.insertAll pairs).flags = a.flags := by
  induction pairs generalizing a with
  | nil => exact ⟨rfl, rfl⟩
  | cons pair pairs ih => exact ih (a.insert pair.1 pair.2)

/-- An item that is added counts as an insertion if it is named, and not at all if it is not. -/
theorem holds_named_add {a : Attributes} {pairs : List (String × String)}
    (h : a.named.Holds pairs) (item : AttributeItem) :
    (a.add item).named.Holds (pairs ++ [item].filterMap AttributeItem.pair?) := by
  cases item with
  | named key value => exact h.insert key value
  | word text => exact (List.append_nil pairs).symm ▸ h
  | quoted text => exact (List.append_nil pairs).symm ▸ h

/-- Items set the names of the named ones among them. -/
theorem holds_named_ofItems (items : List AttributeItem) :
    (ofItems items).named.Holds (items.filterMap AttributeItem.pair?) := by
  -- the last item is the one that is added last
  induction items using List.reverseRecOn with
  | nil => exact OrderedMap.holds_empty
  | append_singleton items item ih =>
      rw [ofItems, List.foldl_append, List.filterMap_append]
      exact holds_named_add ih item

end Attributes

end Template

open Content Template

/-- Metadata and the named attributes, those that are read from a text included, are ordered maps:
after any insertions their keys are distinct and in the order of the first insertions, each has the
value of its last insertion, and a key that was never inserted has none.  An insertion leaves the
values and the places of all other keys, and all that has no name, as they are. -/
theorem isLeftBy_insertions (pairs : List (String × String)) :
    OrderedMap.IsLeftBy pairs (OrderedMap.ofList pairs : Metadata).keys
      (OrderedMap.ofList pairs : Metadata).get? ∧
    OrderedMap.IsLeftBy pairs (Attributes.empty.insertAll pairs).named.keys
      (Attributes.empty.insertAll pairs).get? ∧
    (∀ text a, Attributes.parse text = .ok a → ∃ items, readItems text = .ok items ∧
      OrderedMap.IsLeftBy (items.filterMap AttributeItem.pair? ++ pairs)
        (a.insertAll pairs).named.keys (a.insertAll pairs).get? ∧
      (a.insertAll pairs).positional = a.positional ∧ (a.insertAll pairs).flags = a.flags) ∧
    (∀ (m : Metadata) (key value : String), (m.insert key value).AgreesBut key m) ∧
    ∀ (a : Attributes) (key value : String), (a.insert key value).named.AgreesBut key a.named := by
  have hnamed : ∀ {a : Attributes} {before : List (String × String)}, a.named.Holds before →
      OrderedMap.IsLeftBy (before ++ pairs) (a.insertAll pairs).named.keys
        (a.insertAll pairs).get? := by
    intro a before h
    have hall := h.insertAll pairs
    rw [← Attributes.named_insertAll] at hall
    exact hall.isLeftBy
  have hempty : Attributes.empty.named.Holds [] := OrderedMap.holds_empty
  refine ⟨(OrderedMap.holds_ofList pairs).isLeftBy, hnamed hempty, ?_, ?_, ?_⟩
  · intro text a hparse
    obtain ⟨items, hitems, rfl⟩ := Outcome.map_eq_ok.mp hparse
    exact ⟨items, hitems, hnamed (Attributes.holds_named_ofItems items),
      Attributes.unnamed_insertAll _ pairs⟩
  · intro m key value
    exact OrderedMap.agreesBut_insert m key value
  · intro a key value
    exact OrderedMap.agreesBut_insert a.named key value

/-- A name that the text gives twice is set once more, and a new name is set twice. -/
theorem isLeftBy_insertions_repeated :
    Attributes.parse "a=1 b='2' c a=\"3\"".toList =
        .ok ⟨⟨[("a", "3"), ("b", "2")]⟩, ["c"], ["c"]⟩ ∧
      (∃ items, readItems "a=1 b='2' c a=\"3\"".toList = .ok items ∧
        OrderedMap.IsLeftBy (items.filterMap AttributeItem.pair? ++
            [("d", "4"), ("b", "5"), ("d", "6")]) ["a", "b", "d"]
          (OrderedMap.get? ⟨[("a", "3"), ("b", "5"), ("d", "6")]⟩)) ∧
      "b" ≠ "a" ∧ (OrderedMap.insert ⟨[("a", "3"), ("b", "2")]⟩ "a" "7" : Metadata).get? "b" =
        (⟨[("a", "3"), ("b", "2")]⟩ : Metadata).get? "b" := by
  have h : Attributes.parse "a=1 b='2' c a=\"3\"".toList =
      .ok ⟨⟨[("a", "3"), ("b", "2")]⟩, ["c"], ["c"]⟩ := by decide +kernel
  obtain ⟨items, hitems, hleft, -⟩ :=
    (isLeftBy_insertions [("d", "4"), ("b", "5"), ("d", "6")]).2.2.1 _ _ h
  have hne : "b" ≠ "a" := by decide
  exact ⟨h, ⟨items, hitems, hleft⟩, hne,
    ((isLeftBy_insertions []).2.2.2.1 ⟨[("a", "3"), ("b", "2")]⟩ "a" "7" "b" hne).1⟩

end StaticSite
