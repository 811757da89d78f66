/-
Ids of headings given in one pass.

The pass writes one event after the other.  While a heading is open it keeps the index of its
beginning among the events written, and the text since; when the heading ends, it goes back to that
index (`HeadingPass.step?`).  What the pass will have written at its end is known at each step
(`HeadingPass.Awaits`), so it never goes back to an index without an event, and it writes what
`identifyHeadings` gives (`identifyInPlace?_eq`).  Main statement: the ids of headings are all that
changes, and which ids they get (`identifyHeadings_frame`).
-/
import Mathlib
import StaticSite.Markdown.HeadingIds

namespace StaticSite.Markdown

/-! ## Events inside of headings -/

/-- The event neither begins nor ends a heading. -/
def Event.IsInner (e : Event) : Prop :=
  (∀ h, e ≠ .start (.heading h)) ∧ ∀ level, e ≠ .stop (.heading level)

theorem Event.heading_cases (e : Event) :
    (∃ h, e = .start (.heading h)) ∨ (∃ level, e = .stop (.heading level)) ∨ e.IsInner := by
  by_cases hstart : ∃ h, e = .start (.heading h)
  · exact .inl hstart
  by_cases hstop : ∃ level, e = .stop (.heading level)
  · exact .inr (.inl hstop)
  · exact .inr (.inr ⟨not_exists.mp hstart, not_exists.mp hstop⟩)

/-- An event with the id that the following ones give to it if it begins a heading. -/
def Event.identified (e : Event) (rest : List Event) : Event :=
  match e with
  | .start (.heading h) => .start (.heading (h.withId rest))
  | e => e

/-- A heading with the id that it gets if a text of it has been read already. -/
def Heading.withText (h : Heading) (text : List Char) (rest : List Event) : Heading :=
  { h with id := h.id <|> ((textOfHeading rest).map (text ++ ·)).bind idOfText }

section Headings

variable {e : Event} {h : Heading} {text : List Char} {rest : List Event}

theorem textOfHeading_cons (he : e.IsInner) (rest : List Event) :
    textOfHeading (e :: rest) = (textOfHeading rest).map (e.headingText ++ ·) := by
  rw [textOfHeading]
  · exact he.1
  · exact he.2

theorem Event.identified_eq_self (he : ∀ h, e ≠ .start (.heading h)) (rest : List Event) :
    e.identified rest = e := by
  unfold identified
  split
  · exact absurd rfl (he _)
  · rfl

theorem identifyHeadings_cons (e : Event) (rest : List Event) :
    identifyHeadings (e :: rest) = e.identified rest :: identifyHeadings rest := by
  rcases e.heading_cases with ⟨h, rfl⟩ | ⟨level, rfl⟩ | he
  · rfl
  · rfl
  · rw [identifyHeadings, Event.identified_eq_self he.1]
    exact he.1

theorem Heading.withText_nil (h : Heading) (rest : List Event) :
    h.withText [] rest = h.withId rest := by
  rw [withText, withId]
  cases textOfHeading rest <;> rfl

/-- Without a text up to its end a heading stays as it is. -/
theorem Heading.withText_of_none (hrest : textOfHeading rest = none) (h : Heading)
    (text : List Char) : h.withText text rest = h := by
  rw [withText, hrest]
  obtain ⟨level, _ | id, classes, attributes⟩ := h <;> rfl

theorem Heading.withText_cons (he : e.IsInner) (h : Heading) (text : List Char) (rest : List Event) :
    h.withText text (e :: rest) = h.withText (text ++ e.headingText) rest := by
  have htext : (text ++ ·) ∘ (e.headingText ++ ·) = ((text ++ e.headingText) ++ ·) :=
    funext fun more => (List.append_assoc text e.headingText more).symm
  rw [withText, withText, textOfHeading_cons he, Option.map_map, htext]

end Headings

/-! ## The pass -/

/-- What is known between two events of the pass. -/
structure HeadingPass where
  written : List Event
  /-- The index of the beginning of the open heading. -/
  opened : Option Nat
  /-- The text since then. -/
  text : List Char

/-- Give an id to the heading that begins at an index, unless it has one; there must be an event at
the index. -/
def giveId? (id : String) (i : Nat) (written : List Event) : Option (List Event) :=
  match written[i]? with
  | none => none
  | some (.start (.heading h)) =>
    some (if h.id.isNone then written.set i (.start (.heading { h with id := some id }))
      else written)
  | some _ => some written

namespace HeadingPass

/-- Nothing has been written. -/
def initial : HeadingPass := ⟨[], none, []⟩

/-- Write an event. -/
def step? (p : HeadingPass) (e : Event) : Option HeadingPass :=
  match e with
  | .start (.heading _) => some ⟨p.written ++ [e], some p.written.length, []⟩
  | .stop (.heading _) =>
    match p.opened, idOfText p.text with
    | some i, some id => (giveId? id i p.written).map fun written => ⟨written ++ [e], none, p.text⟩
    | _, _ => some ⟨p.written ++ [e], none, p.text⟩
  | e =>
    some ⟨p.written ++ [e], p.opened, if p.opened.isSome then p.text ++ e.headingText else p.text⟩

/-- With the events that are left the pass will have written the last list. -/
inductive Awaits : HeadingPass → List Event → List Event → Prop where
  | closed {written rest out : List Event} {text : List Char}
      (hout : out = written ++ identifyHeadings rest) : Awaits ⟨written, none, text⟩ rest out
  | opened {before inner written rest out : List Event} {h : Heading} {text : List Char}
      (hwritten : written = before ++ .start (.heading h) :: inner)
      (hout : out = before ++ .start (.heading (h.withText text rest)) ::
        (inner ++ identifyHeadings rest)) : Awaits ⟨written, some before.length, text⟩ rest out

end HeadingPass

/-- The events with ids for headings, as the pass writes them. -/
def identifyInPlace? (events : List Event) : Option (List Event) :=
  (events.foldlM HeadingPass.step? .initial).map (·.written)

theorem giveId?_append (id : String) (before : List Event) (h : Heading) (inner : List Event) :
    giveId? id before.length (before ++ .start (.heading h) :: inner) =
      some (before ++ .start (.heading { h with id := h.id <|> some id }) :: inner) := by
  have hget : (before ++ Event.start (.heading h) :: inner)[before.length]? =
      some (.start (.heading h)) := by simp
  unfold giveId?
  rw [hget]
  obtain ⟨level, _ | own, classes, attributes⟩ := h
  · simp
  · rfl

namespace HeadingPass

variable {p : HeadingPass} {e : Event} {rest out : List Event}

theorem step?_of_isInner (he : e.IsInner) (p : HeadingPass) :
    p.step? e = some ⟨p.written ++ [e], p.opened,
      if p.opened.isSome then p.text ++ e.headingText else p.text⟩ := by
  rw [step?]
  · exact he.1
  · exact he.2

/-- The end of a heading gives the id of its text to the heading, if it has none. -/
theorem step?_stop (before : List Event) (h : Heading) (inner : List Event) (text : List Char)
    (level : Nat) :
    step? ⟨before ++ .start (.heading h) :: inner, some before.length, text⟩
        (.stop (.heading level)) =
      some ⟨before ++ .start (.heading { h with id := h.id <|> idOfText text }) :: inner ++
        [.stop (.heading level)], none, text⟩ := by
  cases hid : idOfText text with
  | none =>
      have hsame : ({ h with id := h.id <|> none } : Heading) = h := by
        obtain ⟨_, _ | _, _, _⟩ := h <;> rfl
      rw [step?, hid, hsame]
  | some id =>
      rw [step?, hid]
      exact congrArg (Option.map _) (giveId?_append id before h inner)

/-- Every step succeeds, and what will have been written stays the same. -/
theorem Awaits.step (hp : p.Awaits (e :: rest) out) :
    ∃ q, p.step? e = some q ∧ q.Awaits rest out := by
  cases hp with
  | @closed written _ _ text hout =>
      rw [identifyHeadings_cons] at hout
      rcases e.heading_cases with ⟨h, rfl⟩ | ⟨level, rfl⟩ | he
      · refine ⟨_, rfl, .opened rfl ?_⟩
        rw [hout, Heading.withText_nil]
        rfl
      · refine ⟨_, rfl, .closed ?_⟩
        rw [hout, List.append_assoc]
        rfl
      · refine ⟨_, step?_of_isInner he _, .closed ?_⟩
        rw [hout, Event.identified_eq_self he.1, List.append_assoc]
        rfl
  | @opened before inner written _ _ h text hwritten hout =>
      rw [identifyHeadings_cons] at hout
      rcases e.heading_cases with ⟨next, rfl⟩ | ⟨level, rfl⟩ | he
      · -- another heading begins, and the one that was open stays as it is
        refine ⟨_, rfl, .opened rfl ?_⟩
        rw [hout, hwritten, Heading.withText_of_none rfl, Heading.withText_nil, List.append_assoc]
        rfl
      · refine ⟨_, hwritten ▸ step?_stop before h inner text level, .closed ?_⟩
        have hwith : h.withText text (.stop (.heading level) :: rest) =
            { h with id := h.id <|> idOfText text } := by
          rw [Heading.withText, textOfHeading, Option.map_some, List.append_nil]
          rfl
        rw [hout, hwith, List.append_assoc, List.append_assoc]
        rfl
      · refine ⟨_, step?_of_isInner he _, @opened before (inner ++ [e]) _ _ _ h _ ?_ ?_⟩
        · rw [hwritten, List.append_assoc]
          rfl
        · rw [hout, Event.identified_eq_self he.1, Heading.withText_cons he, List.append_assoc]
          rfl

/-- The pass comes to its end, and has written what was awaited. -/
theorem Awaits.run (hp : p.Awaits rest out) :
    ∃ q, rest.foldlM step? p = some q ∧ q.written = out := by
  induction rest generalizing p with
  | nil =>
      refine ⟨p, rfl, ?_⟩
      cases hp with
      | closed hout => rw [hout, identifyHeadings, List.append_nil]
      | opened hwritten hout =>
          rw [hout, hwritten, Heading.withText_of_none rfl, identifyHeadings, List.append_nil]
  | cons e rest ih =>
      obtain ⟨q, hstep, hq⟩ := hp.step
      obtain ⟨r, hrun, hr⟩ := ih hq
      refine ⟨r, ?_, hr⟩
      rw [List.foldlM_cons, hstep]
      exact hrun

end HeadingPass

theorem identifyInPlace?_eq (events : List Event) :
    identifyInPlace? events = some (identifyHeadings events) := by
  obtain ⟨q, hrun, hq⟩ := (@HeadingPass.Awaits.closed [] events _ [] rfl).run
  rw [identifyInPlace?]
  show (events.foldlM HeadingPass.step? ⟨[], none, []⟩).map _ = _
  rw [hrun, Option.map_some, hq]
  rfl

/-! ## What the ids are -/

/-- The words of an event of text or code. -/
def Event.words? : Event → Option String
  | .text s => some s
  | .code s => some s
  | _ => none

/-- Events that stand between the beginning of a heading and its end, which comes behind them. -/
def FillHeading (inner after : List Event) : Prop :=
  (∀ e ∈ inner, e.IsInner) ∧ ∃ level rest, after = inner ++ .stop (.heading level) :: rest

/-- The slug of the words of events, unless it is empty. -/
def idOfWords (inner : List Event) : Option String :=
  let slug := Content.slug (Text.trimmed (String.join (inner.filterMap Event.words?)))
  if slug = "" then none else some slug

section Ids

variable {inner after : List Event} {text : List Char}

theorem FillHeading.textOfHeading_eq (h : FillHeading inner after) :
    textOfHeading after = some (inner.flatMap Event.headingText) := by
  obtain ⟨hinner, level, rest, rfl⟩ := h
  induction inner with
  | nil => rfl
  | cons e inner ih =>
      obtain ⟨he, hothers⟩ := List.forall_mem_cons.mp hinner
      rw [List.cons_append, textOfHeading_cons he, ih hothers, Option.map_some, List.flatMap_cons]

theorem exists_fillHeading (h : textOfHeading after = some text) :
    ∃ inner, FillHeading inner after := by
  induction after generalizing text with
  | nil => cases h
  | cons e rest ih =>
      rcases e.heading_cases with ⟨next, rfl⟩ | ⟨level, rfl⟩ | he
      · cases h
      · exact ⟨[], fun e he => absurd he List.not_mem_nil, level, rest, rfl⟩
      · rw [textOfHeading_cons he] at h
        obtain ⟨more, hmore, -⟩ := Option.map_eq_some_iff.mp h
        obtain ⟨inner, hinner, level, tail, rfl⟩ := ih hmore
        exact ⟨e :: inner, List.forall_mem_cons.mpr ⟨he, hinner⟩, level, tail, rfl⟩

theorem idOfText_flatMap (inner : List Event) :
    idOfText (inner.flatMap Event.headingText) = idOfWords inner := by
  have hwords : (String.join (inner.filterMap Event.words?)).toList =
      inner.flatMap Event.headingText := by
    induction inner with
    | nil => rfl
    | cons e inner ih =>
        rw [List.flatMap_cons, ← ih, String.toList_join, String.toList_join, List.filterMap_cons]
        cases e <;> rfl
  rw [idOfWords, Content.slug, Text.toList_trimmed, hwords, idOfText]
  cases Content.slugChars (Text.trim (inner.flatMap Event.headingText)) with
  | nil => rfl
  | cons c slug => rw [List.isEmpty_cons, if_neg Bool.false_ne_true, if_neg (by simp)]

theorem getElem?_identifyHeadings (before : List Event) (e : Event) (after : List Event) :
    (identifyHeadings (before ++ e :: after))[before.length]? = some (e.identified after) := by
  induction before with
  | nil => rw [List.nil_append, identifyHeadings_cons]; rfl
  | cons b before ih =>
      rw [List.cons_append, identifyHeadings_cons, List.length_cons, List.getElem?_cons_succ, ih]

theorem length_identifyHeadings (events : List Event) :
    (identifyHeadings events).length = events.length := by
  induction events with
  | nil => rfl
  | cons e rest ih => rw [identifyHeadings_cons, List.length_cons, List.length_cons, ih]

/-- Ids do not count for the text of a heading. -/
theorem textOfHeading_identifyHeadings (events : List Event) :
    textOfHeading (identifyHeadings events) = textOfHeading events := by
  induction events with
  | nil => rfl
  | cons e rest ih =>
      rw [identifyHeadings_cons]
      rcases e.heading_cases with ⟨h, rfl⟩ | ⟨level, rfl⟩ | he
      · rfl
      · rfl
      · rw [Event.identified_eq_self he.1, textOfHeading_cons he, textOfHeading_cons he, ih]

theorem identifyHeadings_identifyHeadings (events : List Event) :
    identifyHeadings (identifyHeadings events) = identifyHeadings events := by
  induction events with
  | nil => rfl
  | cons e rest ih =>
      rw [identifyHeadings_cons, identifyHeadings_cons, ih]
      congr 1
      rcases e.heading_cases with ⟨h, rfl⟩ | ⟨level, rfl⟩ | he
      · show Event.start (.heading ((h.withId rest).withId (identifyHeadings rest))) = _
        rw [Heading.withId, textOfHeading_identifyHeadings, Heading.withId]
        show _ = Event.start (.heading (h.withId rest))
        rw [Heading.withId]
        obtain ⟨n, _ | own, classes, attributes⟩ := h
        · cases (textOfHeading rest).bind idOfText <;> rfl
        · rfl
      · rfl
      · rw [Event.identified_eq_self he.1, Event.identified_eq_self he.1]

end Ids

/-- Ids are given in one pass that never leaves what it has written, and they are all that changes:
the events keep their number and places, every event but the beginning of a heading is the same, and
such a beginning differs at most in its id.  An id that a heading has is kept; without one it gets
the slug of the words between its beginning and its end, if it ends before another heading begins
and the slug is not empty.  Giving ids once more changes nothing. -/
theorem identifyHeadings_frame (events : List Event) :
    identifyInPlace? events = some (identifyHeadings events) ∧
      (identifyHeadings events).length = events.length ∧
      (∀ before e after, events = before ++ e :: after → (∀ h, e ≠ .start (.heading h)) →
        (identifyHeadings events)[before.length]? = some e) ∧
      (∀ before h after, events = before ++ .start (.heading h) :: after →
        ∃ id, (identifyHeadings events)[before.length]? =
            some (.start (.heading { h with id := id })) ∧
          (∀ own, h.id = some own → id = some own) ∧
          (h.id = none → ∀ inner, FillHeading inner after → id = idOfWords inner) ∧
          (h.id = none → (¬ ∃ inner, FillHeading inner after) → id = none)) ∧
      identifyHeadings (identifyHeadings events) = identifyHeadings events := by
  refine ⟨identifyInPlace?_eq events, length_identifyHeadings events, ?_, ?_,
    identifyHeadings_identifyHeadings events⟩
  · rintro before e after rfl he
    rw [getElem?_identifyHeadings, Event.identified_eq_self he]
  · rintro before h after rfl
    refine ⟨h.id <|> (textOfHeading after).bind idOfText, getElem?_identifyHeadings _ _ _, ?_, ?_,
      ?_⟩
    · intro own hown
      rw [hown]
      rfl
    · intro hnone inner hinner
      rw [hnone, hinner.textOfHeading_eq, ← idOfText_flatMap]
      rfl
    · intro hnone hno
      have htext : textOfHeading after = none :=
        Option.eq_none_iff_forall_ne_some.mpr fun text h => hno (exists_fillHeading h)
      rw [hnone, htext]
      rfl

/-- A heading of text and code, and one with an id of its own. -/
def chapterEvents : List Event :=
  [.start (.heading ⟨1, none, [], []⟩), .text " Hello ", .code "World", .stop (.heading 1),
    .start (.heading ⟨2, some "mine", [], []⟩), .text "Custom", .stop (.heading 2)]

theorem identifyHeadings_frame_chapters :
    FillHeading [.text " Hello ", .code "World"] (chapterEvents.drop 1) ∧
      (identifyHeadings chapterEvents)[0]? =
        some (.start (.heading ⟨1, some "hello-world", [], []⟩)) ∧
      (identifyHeadings chapterEvents)[1]? = some (.text " Hello ") ∧
      (identifyHeadings chapterEvents)[4]? =
        some (.start (.heading ⟨2, some "mine", [], []⟩)) := by
  obtain ⟨-, -, hother, hheadings, -⟩ := identifyHeadings_frame chapterEvents
  have hfill : FillHeading [.text " Hello ", .code "World"] (chapterEvents.drop 1) := by
    refine ⟨fun e he => ?_, 1, _, rfl⟩
    simp only [List.mem_cons, List.not_mem_nil, or_false] at he
    rcases he with rfl | rfl
    · exact ⟨nofun, nofun⟩
    · exact ⟨nofun, nofun⟩
  obtain ⟨id, hfirst, -, hwords, -⟩ := hheadings [] _ _ rfl
  obtain ⟨id', hsecond, hown, -⟩ := hheadings (chapterEvents.take 4) _ _ rfl
  have hslug : idOfWords [.text " Hello ", .code "World"] = some "hello-world" := by decide +kernel
  rw [hwords rfl _ hfill, hslug] at hfirst
  rw [hown "mine" rfl] at hsecond
  exact ⟨hfill, hfirst, hother (chapterEvents.take 1) _ _ rfl nofun, hsecond⟩

end StaticSite.Markdown
