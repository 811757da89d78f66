/-
Plain text of markup that comes in pieces.

The reader gives a block of markup in pieces, one for each line, and the plain text strips every
piece of its tags as if it began outside of tags.  A text that is stripped as a whole goes on inside
of a tag that has not ended (`stripFrom_append`), and a piece that is read as if outside of it shows
more, unless nothing stands in it before its first bracket (`stripFrom_eq_iff`).  Main statement:
just then is the plain text that of the unbroken markup (`plainText_of_markup_pieces`).
-/
import Mathlib
import StaticSite.Content.Document
import StaticSite.Markdown.Renderer

namespace StaticSite

/-! ## Tags that have not ended -/

namespace Html

/-- Is the place after a text inside of a tag, if the place before it is or is not? -/
def inTagAfter : Bool → List Char → Bool
  | inTag, [] => inTag
  | inTag, c :: rest =>
    inTagAfter (if c = '<' then true else if c = '>' then false else inTag) rest

/-- A tag begins in the text and does not end in it. -/
def EndsInTag (cs : List Char) : Prop := ∃ before inner, cs = before ++ '<' :: inner ∧ '>' ∉ inner

/-- Nothing stands in the text before its first bracket. -/
def BeginsWithBracket (cs : List Char) : Prop := ∀ c ∈ cs.head?, c = '<' ∨ c = '>'

variable {c : Char} {cs : List Char} {inTag : Bool}

theorem stripFrom_open (inTag : Bool) (cs : List Char) :
    stripFrom inTag ('<' :: cs) = stripFrom true cs := if_pos rfl

theorem stripFrom_close (inTag : Bool) (cs : List Char) :
    stripFrom inTag ('>' :: cs) = stripFrom false cs := rfl

theorem stripFrom_text (hopen : c ≠ '<') (hclose : c ≠ '>') (inTag : Bool) (cs : List Char) :
    stripFrom inTag (c :: cs) = (if inTag then [] else [c]) ++ stripFrom inTag cs := by
  rw [stripFrom, if_neg hopen, if_neg hclose]
  cases inTag <;> rfl

theorem inTagAfter_text (hopen : c ≠ '<') (hclose : c ≠ '>') (inTag : Bool) (cs : List Char) :
    inTagAfter inTag (c :: cs) = inTagAfter inTag cs := by
  rw [inTagAfter, if_neg hopen, if_neg hclose]

theorem stripFrom_append (inTag : Bool) (cs ds : List Char) :
    stripFrom inTag (cs ++ ds) = stripFrom inTag cs ++ stripFrom (inTagAfter inTag cs) ds := by
  induction cs generalizing inTag with
  | nil => cases ds <;> rfl
  | cons c cs ih =>
      rw [List.cons_append]
      by_cases hopen : c = '<'
      · subst hopen
        rw [stripFrom_open, stripFrom_open, ih]
        rfl
      by_cases hclose : c = '>'
      · subst hclose
        rw [stripFrom_close, stripFrom_close, ih]
        rfl
      · rw [stripFrom_text hopen hclose, stripFrom_text hopen hclose, ih,
          inTagAfter_text hopen hclose, List.append_assoc]

theorem not_endsInTag_nil : ¬ EndsInTag [] := by
  rintro ⟨before, inner, hcs, -⟩
  cases before <;> cases hcs

theorem endsInTag_cons : EndsInTag (c :: cs) ↔ (c = '<' ∧ '>' ∉ cs) ∨ EndsInTag cs := by
  constructor
  · rintro ⟨_ | ⟨d, before⟩, inner, hcs, hinner⟩
    · cases hcs
      exact .inl ⟨rfl, hinner⟩
    · cases hcs
      exact .inr ⟨before, inner, rfl, hinner⟩
  · rintro (⟨rfl, hcs⟩ | ⟨before, inner, rfl, hinner⟩)
    · exact ⟨[], cs, rfl, hcs⟩
    · exact ⟨c :: before, inner, rfl, hinner⟩

theorem inTagAfter_iff :
    inTagAfter inTag cs = true ↔ EndsInTag cs ∨ (inTag = true ∧ '>' ∉ cs) := by
  induction cs generalizing inTag with
  | nil => simp [inTagAfter, not_endsInTag_nil]
  | cons c cs ih =>
      by_cases hopen : c = '<'
      · subst hopen
        show inTagAfter true cs = true ↔ _
        have hclose : '>' ∉ '<' :: cs ↔ '>' ∉ cs := by simp
        rw [ih, endsInTag_cons, hclose]
        tauto
      by_cases hclose : c = '>'
      · subst hclose
        show inTagAfter false cs = true ↔ _
        simp [ih, endsInTag_cons]
      · rw [inTagAfter_text hopen hclose, ih, endsInTag_cons, List.mem_cons]
        simp [hopen, Ne.symm hclose]

/-- Inside of a tag no more is shown than outside of one. -/
theorem stripFrom_sublist (inTag : Bool) (cs : List Char) :
    (stripFrom inTag cs).Sublist (stripFrom false cs) := by
  induction cs generalizing inTag with
  | nil => cases inTag <;> exact .refl _
  | cons c cs ih =>
      by_cases hopen : c = '<'
      · subst hopen
        exact .refl _
      by_cases hclose : c = '>'
      · subst hclose
        exact .refl _
      · rw [stripFrom_text hopen hclose, stripFrom_text hopen hclose]
        cases inTag
        · exact .refl _
        · exact (ih true).cons c

/-- Inside of a tag and outside of one the same is shown just if nothing comes before a bracket. -/
theorem stripFrom_eq_iff :
    stripFrom inTag cs = stripFrom false cs ↔ (inTag = true → BeginsWithBracket cs) := by
  cases inTag with
  | false => simp
  | true =>
      cases cs with
      | nil => simp [stripFrom, BeginsWithBracket]
      | cons c cs =>
          by_cases hopen : c = '<'
          · simp [hopen, BeginsWithBracket, stripFrom_open]
          by_cases hclose : c = '>'
          · simp [hclose, BeginsWithBracket, stripFrom_close]
          · rw [stripFrom_text hopen hclose, stripFrom_text hopen hclose]
            refine iff_of_false (fun h => ?_) fun h => ?_
            · -- the first character is shown outside only
              have hle := (stripFrom_sublist true cs).length_le
              rw [if_pos rfl, List.nil_append] at h
              rw [h, if_neg Bool.false_ne_true, List.length_append, List.length_singleton] at hle
              omega
            · rcases h rfl c rfl with h | h
              · exact hopen h
              · exact hclose h

theorem inTagAfter_append (inTag : Bool) (cs ds : List Char) :
    inTagAfter inTag (cs ++ ds) = inTagAfter (inTagAfter inTag cs) ds := by
  induction cs generalizing inTag with
  | nil => rfl
  | cons c cs ih => exact ih _

theorem endsInTag_append {ds : List Char} :
    EndsInTag (cs ++ ds) ↔ EndsInTag ds ∨ (EndsInTag cs ∧ '>' ∉ ds) := by
  have hstart : ∀ {es : List Char}, inTagAfter false es = true ↔ EndsInTag es := by
    intro es
    simp [inTagAfter_iff]
  rw [← hstart, inTagAfter_append, inTagAfter_iff, hstart]

end Html

/-! ## Pieces of markup among events -/

namespace Markdown

open Html

/-- The events with all pieces of markup that follow one another put together. -/
def joinMarkup : List Event → List Event
  | [] => []
  | .html s :: rest =>
    match joinMarkup rest with
    | .html t :: more => .html (s ++ t) :: more
    | joined => .html s :: joined
  | e :: rest => e :: joinMarkup rest

/-- The pieces of markup at the end of the events leave a tag that has not ended. -/
def MarkupEndsInTag (events : List Event) : Prop :=
  ∃ before run, events = before ++ run.map Event.html ∧ EndsInTag (String.join run).toList

/-- Where markup ends inside of a tag, the next piece of it begins with a bracket or is empty. -/
def CutsOutsideTags (events : List Event) : Prop :=
  ∀ before piece after, events = before ++ .html piece :: after →
    MarkupEndsInTag before → BeginsWithBracket piece.toList

/-- The text that an event shows if a tag has not ended in the markup before it. -/
def Event.textFrom (inTag : Bool) : Event → List Char
  | .html s => stripFrom inTag s.toList
  | e => e.plainText.toList

/-- Has a tag not ended in the markup up to an event? -/
def Event.inTagAfter (inTag : Bool) : Event → Bool
  | .html s => Html.inTagAfter inTag s.toList
  | _ => false

/-- The text that events show if tags go on from one piece of markup to the next. -/
def textFrom : Bool → List Event → List Char
  | _, [] => []
  | inTag, e :: rest => e.textFrom inTag ++ textFrom (e.inTagAfter inTag) rest

/-- The text that events show if a tag has not ended in markup before the first one. -/
def textFromFirst (inTag : Bool) : List Event → List Char
  | [] => []
  | e :: rest => e.textFrom inTag ++ (plainText rest).toList

section Pieces

variable {e : Event} {events : List Event} {inTag : Bool}

theorem toList_plainText (events : List Event) :
    (plainText events).toList = events.flatMap fun e => e.plainText.toList := by
  rw [plainText, String.toList_join, List.flatMap_map]

theorem plainText_append (events later : List Event) :
    plainText (events ++ later) = plainText events ++ plainText later := by
  rw [← String.toList_inj, String.toList_append, toList_plainText, toList_plainText,
    toList_plainText, List.flatMap_append]

theorem Event.textFrom_false (e : Event) : e.textFrom false = e.plainText.toList := by
  cases e with
  | html s => exact (String.toList_ofList).symm
  | _ => rfl

theorem Event.textFrom_sublist (inTag : Bool) (e : Event) :
    (e.textFrom inTag).Sublist e.plainText.toList := by
  rw [← e.textFrom_false]
  cases e with
  | html s => exact stripFrom_sublist inTag s.toList
  | _ => exact .refl _

theorem Event.textFrom_eq_iff :
    e.textFrom inTag = e.plainText.toList ↔
      ∀ piece, e = .html piece → inTag = true → BeginsWithBracket piece.toList := by
  rw [← e.textFrom_false]
  cases e with
  | html s =>
      refine stripFrom_eq_iff.trans ⟨fun h piece hpiece => ?_, fun h => h s rfl⟩
      cases hpiece
      exact h
  | _ => simp [Event.textFrom]

theorem textFrom_sublist (inTag : Bool) (events : List Event) :
    (textFrom inTag events).Sublist (plainText events).toList := by
  rw [toList_plainText]
  induction events generalizing inTag with
  | nil => exact .refl _
  | cons e rest ih => exact (e.textFrom_sublist inTag).append (ih _)

/-- Nothing more is shown just if nothing more is shown of any piece. -/
theorem textFrom_eq_iff :
    textFrom inTag events = (plainText events).toList ↔
      ∀ before piece after, events = before ++ .html piece :: after →
        before.foldl (fun inTag e => e.inTagAfter inTag) inTag = true →
          BeginsWithBracket piece.toList := by
  induction events generalizing inTag with
  | nil => simp [toList_plainText, textFrom]
  | cons e rest ih =>
      have hsplit : textFrom inTag (e :: rest) = (plainText (e :: rest)).toList ↔
          e.textFrom inTag = e.plainText.toList ∧
            textFrom (e.inTagAfter inTag) rest = (plainText rest).toList := by
        have hplain : (plainText (e :: rest)).toList =
            e.plainText.toList ++ (plainText rest).toList := by
          rw [toList_plainText, toList_plainText, List.flatMap_cons]
        have hhead := e.textFrom_sublist inTag
        have htail := textFrom_sublist (e.inTagAfter inTag) rest
        rw [hplain, textFrom]
        constructor
        · intro h
          -- both parts can only be shorter, so neither is
          have hlength := congrArg List.length h
          rw [List.length_append, List.length_append] at hlength
          have hhead' := hhead.length_le
          have htail' := htail.length_le
          exact ⟨hhead.eq_of_length (by omega), htail.eq_of_length (by omega)⟩
        · rintro ⟨h, hrest⟩
          rw [h, hrest]
      rw [hsplit, Event.textFrom_eq_iff, ih]
      constructor
      · rintro ⟨hhead, htail⟩ before piece after hevents hstate
        cases before with
        | nil =>
            cases hevents
            exact hhead piece rfl hstate
        | cons b before =>
            cases hevents
            exact htail before piece after rfl hstate
      · intro h
        refine ⟨fun piece he hstate => h [] piece rest (by rw [he]; rfl) hstate, ?_⟩
        intro before piece after hrest hstate
        exact h (e :: before) piece after (by rw [hrest]; rfl) hstate

theorem not_markupEndsInTag_nil : ¬ MarkupEndsInTag [] := by
  rintro ⟨before, run, hevents, hends⟩
  obtain ⟨-, hrun⟩ := List.append_eq_nil_iff.mp hevents.symm
  rw [List.map_eq_nil_iff.mp hrun] at hends
  exact not_endsInTag_nil hends

theorem markupEndsInTag_concat :
    MarkupEndsInTag (events ++ [e]) ↔ ∃ piece, e = .html piece ∧
      (EndsInTag piece.toList ∨ (MarkupEndsInTag events ∧ '>' ∉ piece.toList)) := by
  have hjoin : ∀ (run : List String) (piece : String),
      (String.join (run ++ [piece])).toList = (String.join run).toList ++ piece.toList := by
    intro run piece
    rw [String.toList_join, String.toList_join, List.flatMap_append, List.flatMap_singleton]
  constructor
  · rintro ⟨before, run, hevents, hends⟩
    rcases List.eq_nil_or_concat run with rfl | ⟨run, piece, rfl⟩
    · exact absurd hends not_endsInTag_nil
    · rw [List.concat_eq_append, List.map_append, ← List.append_assoc] at hevents
      obtain ⟨rfl, he⟩ := List.append_inj' hevents rfl
      rw [List.concat_eq_append, hjoin, endsInTag_append] at hends
      exact ⟨piece, List.singleton_inj.mp he,
        hends.imp_right fun h => ⟨⟨before, run, rfl, h.1⟩, h.2⟩⟩
  · rintro ⟨piece, rfl, hends | ⟨⟨before, run, rfl, hends⟩, hclose⟩⟩
    · refine ⟨events, [piece], rfl, ?_⟩
      rw [← List.nil_append [piece], hjoin]
      exact endsInTag_append.mpr (.inl hends)
    · refine ⟨before, run ++ [piece], by rw [List.map_append, List.append_assoc]; rfl, ?_⟩
      rw [hjoin]
      exact endsInTag_append.mpr (.inr ⟨hends, hclose⟩)

theorem foldl_inTagAfter_iff :
    events.foldl (fun inTag e => e.inTagAfter inTag) false = true ↔ MarkupEndsInTag events := by
  induction events using List.reverseRecOn with
  | nil => exact iff_of_false Bool.false_ne_true not_markupEndsInTag_nil
  | append_singleton events e ih =>
      rw [List.foldl_append, markupEndsInTag_concat, ← ih]
      show e.inTagAfter _ = true ↔ _
      cases e with
      | html s =>
          refine inTagAfter_iff.trans ⟨fun h => ⟨s, rfl, h⟩, ?_⟩
          rintro ⟨piece, hpiece, h⟩
          cases hpiece
          exact h
      | _ => simp [Event.inTagAfter]

/-- Pieces of markup with nothing between them are stripped as one text. -/
theorem textFrom_map_html (inTag : Bool) (run : List String) :
    textFrom inTag (run.map Event.html) = stripFrom inTag (run.flatMap String.toList) := by
  induction run generalizing inTag with
  | nil => cases inTag <;> rfl
  | cons piece run ih =>
      rw [List.map_cons, textFrom, ih, List.flatMap_cons, stripFrom_append]
      rfl

theorem textFromFirst_false (events : List Event) :
    textFromFirst false events = (plainText events).toList := by
  cases events with
  | nil => rfl
  | cons e rest =>
      rw [textFromFirst, e.textFrom_false, toList_plainText, toList_plainText, List.flatMap_cons]

theorem textFromFirst_of_ne (h : ∀ piece rest, events ≠ .html piece :: rest) (inTag : Bool) :
    textFromFirst inTag events = (plainText events).toList := by
  rw [← textFromFirst_false]
  cases events with
  | nil => rfl
  | cons e rest =>
      cases e with
      | html piece => exact absurd rfl (h piece rest)
      | _ => rfl

/-- Only the first of the pieces that are put together can begin inside of a tag. -/
theorem textFrom_eq_textFromFirst (inTag : Bool) (events : List Event) :
    textFrom inTag events = textFromFirst inTag (joinMarkup events) := by
  induction events generalizing inTag with
  | nil => rfl
  | cons e rest ih =>
      rw [textFrom, ih]
      cases e with
      | html s =>
          rw [joinMarkup]
          split
          · rename_i t more hjoin
            rw [hjoin]
            show stripFrom inTag s.toList ++ (stripFrom _ t.toList ++ _) =
              stripFrom inTag (s ++ t).toList ++ _
            rw [String.toList_append, stripFrom_append, List.append_assoc]
            rfl
          · rename_i hjoin
            rw [textFromFirst_of_ne hjoin]
            rfl
      | _ => exact congrArg (_ ++ ·) (textFromFirst_false (joinMarkup rest))

theorem textFrom_joinMarkup (events : List Event) :
    textFrom false events = (plainText (joinMarkup events)).toList := by
  rw [textFrom_eq_textFromFirst, textFromFirst_false]

theorem textFrom_eq_iff_cuts :
    textFrom false events = (plainText events).toList ↔ CutsOutsideTags events := by
  rw [textFrom_eq_iff]
  constructor
  · intro h before piece after hevents hends
    exact h before piece after hevents (foldl_inTagAfter_iff.mpr hends)
  · intro h before piece after hevents hstate
    exact h before piece after hevents (foldl_inTagAfter_iff.mp hstate)

theorem plainText_map_html_eq_iff {run : List String} :
    plainText (run.map Event.html) = stripTags (String.join run) ↔
      CutsOutsideTags (run.map Event.html) := by
  have hjoined : (stripTags (String.join run)).toList = textFrom false (run.map Event.html) := by
    rw [textFrom_map_html, stripTags, String.toList_ofList, String.toList_join]
  rw [← String.toList_inj, hjoined, ← textFrom_eq_iff_cuts]
  exact eq_comm

theorem plainText_joinMarkup_iff :
    plainText events = plainText (joinMarkup events) ↔ CutsOutsideTags events := by
  rw [← String.toList_inj, ← textFrom_joinMarkup, ← textFrom_eq_iff_cuts]
  exact eq_comm

end Pieces

/-- The plain text of events is that of what stands before pieces of markup that follow one another,
of these pieces, and of what stands after them.  The pieces contribute what their whole text leaves
without its tags, just if the text is cut nowhere inside of a tag, or only where a bracket is next;
and the plain text of all events is that of the events with their markup unbroken just if this holds
of every cut. -/
theorem plainText_of_markup_pieces (events : List Event) :
    (∀ before run after, events = before ++ run.map Event.html ++ after →
      plainText events =
          plainText before ++ plainText (run.map Event.html) ++ plainText after ∧
        (plainText (run.map Event.html) = stripTags (String.join run) ↔
          CutsOutsideTags (run.map Event.html))) ∧
      (plainText events = plainText (joinMarkup events) ↔ CutsOutsideTags events) := by
  refine ⟨?_, plainText_joinMarkup_iff⟩
  rintro before run after rfl
  exact ⟨by rw [plainText_append, plainText_append], plainText_map_html_eq_iff⟩

theorem plainText_of_markup_pieces_brokenTag :
    CutsOutsideTags [.html "<div\n", .html ">raw</div>\n"] ∧
      plainText [.text "a", .html "<div\n", .html ">raw</div>\n", .softBreak] =
        plainText [.text "a"] ++ plainText [.html "<div\n", .html ">raw</div>\n"] ++
          plainText [.softBreak] ∧
      plainText [.html "<div\n", .html ">raw</div>\n"] =
        stripTags (String.join ["<div\n", ">raw</div>\n"]) := by
  have hcuts : CutsOutsideTags [.html "<div\n", .html ">raw</div>\n"] := by
    rintro (_ | ⟨e, _ | ⟨e', before⟩⟩) piece after hevents hends
    · exact absurd hends not_markupEndsInTag_nil
    · cases hevents
      rintro c hc
      exact .inr (Option.some.inj hc).symm
    · simp at hevents
  obtain ⟨hsplit, hiff⟩ := (plainText_of_markup_pieces _).1 [.text "a"]
    ["<div\n", ">raw</div>\n"] [.softBreak] rfl
  exact ⟨hcuts, hsplit, hiff.mpr hcuts⟩

/-- An attribute on a line of its own is shown, though it stands inside of a tag. -/
theorem plainText_shows_attribute :
    eventsOf "<div\nclass=\"x\">raw</div>\n" =
        [.start .htmlBlock, .html "<div\n", .html "class=\"x\">raw</div>\n", .stop .htmlBlock] ∧
      stripTags (String.join ["<div\n", "class=\"x\">raw</div>\n"]) = "raw\n" ∧
      toPlainText "<div\nclass=\"x\">raw</div>\n" = "class=\"x\"raw\n" ∧
      (Content.Document.read "<div\nclass=\"x\">raw</div>\n"
        ⟨"a.md", "source/a.md", "public/a/index.html", "/a/", 0⟩ renderer).excerpt =
          "class=\"x\"raw" := by
  refine ⟨?_, ?_, ?_, ?_⟩
  · decide +kernel
  · decide +kernel
  · decide +kernel
  · decide +kernel

end Markdown

end StaticSite
