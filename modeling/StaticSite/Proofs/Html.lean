/-
Opening tags read back.

A reader of tags that knows nothing of how they are written takes a name up to a space or a closing
bracket, then keys, and behind a key and an equals sign a value up to the next quotation mark, in
which it resolves five entities.  Escaping is undone by resolving (`decode_flatMap_escapeChar`) and
leaves no quotation mark and no bracket (`not_mem_delimiters_of_mem_flatMap`), so the reader finds
the end of every value where it was written (`readTag?_openTag`).  Main statement: it reads from an
opening tag just what was put into the element (`openTag_read_back`).
-/
import Mathlib
import StaticSite.Html
import StaticSite.Text.Blank

namespace StaticSite.Html

/-! ## Entities -/

/-- The text with the five entities resolved; every other ampersand stands for itself. -/
def decode : List Char → List Char
  | [] => []
  | '&' :: 'a' :: 'm' :: 'p' :: ';' :: rest => '&' :: decode rest
  | '&' :: 'l' :: 't' :: ';' :: rest => '<' :: decode rest
  | '&' :: 'g' :: 't' :: ';' :: rest => '>' :: decode rest
  | '&' :: 'q' :: 'u' :: 'o' :: 't' :: ';' :: rest => '"' :: decode rest
  | '&' :: '#' :: '3' :: '9' :: ';' :: rest => '\'' :: decode rest
  | c :: rest => c :: decode rest

theorem decode_cons {c : Char} (h : c ≠ '&') (rest : List Char) :
    decode (c :: rest) = c :: decode rest := by
  rw [decode] <;> (intros; simp_all)

/-- The characters that are not written as themselves, each with its entity. -/
def entities : List (Char × List Char) :=
  [('&', ['&', 'a', 'm', 'p', ';']), ('<', ['&', 'l', 't', ';']), ('>', ['&', 'g', 't', ';']),
    ('"', ['&', 'q', 'u', 'o', 't', ';']), ('\'', ['&', '#', '3', '9', ';'])]

theorem escapeChar_cases (c : Char) :
    (c, escapeChar c) ∈ entities ∨ c ∉ entities.map Prod.fst ∧ escapeChar c = [c] := by
  by_cases h : c ∈ entities.map Prod.fst
  · have hall : entities.map (fun entity => (entity.1, escapeChar entity.1)) = entities := rfl
    obtain ⟨entity, hentity, rfl⟩ := List.mem_map.mp h
    rw [← hall]
    exact .inl (List.mem_map_of_mem hentity)
  · refine .inr ⟨h, ?_⟩
    simp only [entities, List.map_cons, List.map_nil, List.mem_cons, List.not_mem_nil, or_false,
      not_or] at h
    obtain ⟨hamp, hlt, hgt, hquote, happos⟩ := h
    rw [escapeChar, if_neg hamp, if_neg hlt, if_neg hgt, if_neg hquote, if_neg happos]

/-- What stands for a character is resolved, whatever follows it. -/
theorem decode_escapeChar (c : Char) (rest : List Char) :
    decode (escapeChar c ++ rest) = c :: decode rest := by
  have hentities : ∀ entity ∈ entities, decode (entity.2 ++ rest) = entity.1 :: decode rest := by
    intro entity h
    fin_cases h <;> rfl
  rcases escapeChar_cases c with h | ⟨hplain, hself⟩
  · exact hentities _ h
  · rw [hself, List.singleton_append, decode_cons]
    rintro rfl
    exact hplain List.mem_cons_self

theorem decode_flatMap_escapeChar (cs : List Char) : decode (cs.flatMap escapeChar) = cs := by
  induction cs with
  | nil => rfl
  | cons c cs ih => rw [List.flatMap_cons, decode_escapeChar, ih]

/-- The brackets and quotation marks, which end a tag or a value. -/
def delimiters : List Char := ['<', '>', '"', '\'']

theorem not_mem_delimiters_of_mem_flatMap {cs : List Char} {d : Char}
    (h : d ∈ cs.flatMap escapeChar) : d ∉ delimiters := by
  obtain ⟨c, -, hd⟩ := List.mem_flatMap.mp h
  have hentities : ∀ entity ∈ entities, ∀ d ∈ entity.2, d ∉ delimiters := by
    intro entity h
    fin_cases h <;> simp [delimiters]
  rcases escapeChar_cases c with hentity | ⟨hplain, hself⟩
  · exact hentities _ hentity d hd
  · rw [hself, List.mem_singleton] at hd
    subst hd
    exact fun hmem => hplain (List.mem_cons_of_mem _ hmem)

theorem escape_injective : Function.Injective escape := by
  intro s t h
  have hlists : s.toList.flatMap escapeChar = t.toList.flatMap escapeChar := String.ofList_inj.mp h
  rw [← String.toList_inj, ← decode_flatMap_escapeChar s.toList, hlists,
    decode_flatMap_escapeChar]

/-! ## Reading tags -/

/-- May the character stand in the name of an element, as a reader sees it? -/
def isNameChar (c : Char) : Bool := c != ' ' && c != '>'

/-- May the character stand in a key, as a reader sees it? -/
def isKeyChar (c : Char) : Bool := isNameChar c && c != '='

/-- Read a key, and its value if there is one, with the text after it. -/
def readAttribute? (cs : List Char) : Option ((String × Option String) × List Char) :=
  let key := String.ofList (cs.takeWhile isKeyChar)
  match cs.dropWhile isKeyChar with
  | '=' :: '"' :: more =>
    (Text.splitFirst '"' more).map fun (value, after) =>
      ((key, some (String.ofList (decode value))), after)
  | after => some ((key, none), after)

theorem length_le_of_readAttribute? {cs after : List Char} {a : String × Option String}
    (h : readAttribute? cs = some (a, after)) : after.length ≤ cs.length := by
  have hle := (List.dropWhile_sublist (l := cs) isKeyChar).length_le
  unfold readAttribute? at h
  split at h
  · rename_i more hmore
    obtain ⟨⟨value, rest⟩, hcut, heq⟩ := Option.map_eq_some_iff.mp h
    cases heq
    rw [hmore, Text.eq_append_of_splitFirst hcut] at hle
    simp only [List.length_cons, List.length_append] at hle
    omega
  · cases h
    exact hle

/-- Read attributes, each after a space, up to the bracket that closes the tag. -/
def readAttributes? (cs : List Char) : Option (List (String × Option String) × List Char) :=
  match cs with
  | '>' :: rest => some ([], rest)
  | ' ' :: cs =>
    match _h : readAttribute? cs with
    | some (a, after) => (readAttributes? after).map fun (others, rest) => (a :: others, rest)
    | none => none
  | _ => none
termination_by cs.length
decreasing_by
  have := length_le_of_readAttribute? _h
  rw [List.length_cons]
  omega

/-- Read an opening tag, with the text after it. -/
def readTag? (cs : List Char) : Option (Element × List Char) :=
  match cs with
  | '<' :: cs =>
    (readAttributes? (cs.dropWhile isNameChar)).map fun (attributes, rest) =>
      (⟨String.ofList (cs.takeWhile isNameChar), attributes⟩, rest)
  | _ => none

/-! ## What a tag is written from -/

/-- The text can name an element or an attribute: it is not empty and holds no white space, no
quotation mark, no equals sign and no bracket. -/
def IsPlainName (s : String) : Prop :=
  s.toList ≠ [] ∧ ∀ c ∈ s.toList, Text.isBlank c = false ∧ c ∉ '=' :: delimiters

instance (s : String) : Decidable (IsPlainName s) :=
  @instDecidableAnd _ _ inferInstance (List.decidableBAll _ _)

namespace Element

/-- What is put into an element that is being built. -/
inductive Addition where
  | attr (key value : String)
  | attr? (key : String) (value : Option String)
  | flag (key : String)

/-- The element after an addition. -/
def Addition.addTo (e : Element) : Addition → Element
  | .attr key value => e.attr key value
  | .attr? key value => e.attr? key value
  | .flag key => e.flag key

/-- The attribute that an addition stands for, if it stands for one. -/
def Addition.attribute? : Addition → Option (String × Option String)
  | .attr key value => some (key, some value)
  | .attr? key value => value.map fun v => (key, some v)
  | .flag key => some (key, none)

/-- The element that is built from a name by additions. -/
def build (name : String) (additions : List Addition) : Element :=
  additions.foldl Addition.addTo (.named name)

theorem foldl_addTo (additions : List Addition) (e : Element) :
    additions.foldl Addition.addTo e =
      ⟨e.name, e.attributes ++ additions.filterMap Addition.attribute?⟩ := by
  induction additions generalizing e with
  | nil => rw [List.foldl_nil, List.filterMap_nil, List.append_nil]
  | cons a additions ih =>
      have hadd : a.addTo e = ⟨e.name, e.attributes ++ a.attribute?.toList⟩ := by
        rcases a with _ | ⟨key, _ | value⟩ | _
        · rfl
        · exact congrArg (Element.mk e.name) (List.append_nil _).symm
        · rfl
        · rfl
      rw [List.foldl_cons, ih, hadd, List.append_assoc, List.filterMap_cons]
      cases a.attribute? <;> rfl

theorem build_eq (name : String) (additions : List Addition) :
    build name additions = ⟨name, additions.filterMap Addition.attribute?⟩ :=
  foldl_addTo additions (.named name)

end Element

/-! ## Tags are read back -/

section ReadBack

variable {rest : List Char}

theorem isKeyChar_of_isPlainName {s : String} (h : IsPlainName s) :
    ∀ c ∈ s.toList, isKeyChar c = true := by
  intro c hc
  obtain ⟨hblank, hother⟩ := h.2 c hc
  have hspace : c ≠ ' ' := by
    rintro rfl
    cases hblank
  have hequals : c ≠ '=' := fun he => hother (he ▸ List.mem_cons_self)
  have hclose : c ≠ '>' := fun he => hother (by rw [he]; simp [delimiters])
  simp [isKeyChar, isNameChar, hspace, hequals, hclose]

theorem isNameChar_of_isKeyChar {c : Char} (h : isKeyChar c = true) : isNameChar c = true :=
  (Bool.and_eq_true _ _ ▸ h : _ ∧ _).1

theorem eq_space_or_close {c : Char} (h : isNameChar c = false) : c = ' ' ∨ c = '>' := by
  simpa [isNameChar, imp_iff_not_or] using h

/-- Neither a key nor the text of an attribute goes on where a name ends. -/
theorem stops_isKeyChar (h : Text.Stops isNameChar rest) : Text.Stops isKeyChar rest :=
  fun c hc => Bool.eq_false_iff.mpr fun hkey =>
    Bool.eq_false_iff.mp (h c hc) (isNameChar_of_isKeyChar hkey)

/-- An attribute is read back behind its space, with what follows it. -/
theorem exists_readAttribute? {a : String × Option String} (hkey : IsPlainName a.1)
    (hrest : Text.Stops isNameChar rest) :
    ∃ source, (Element.attributeText a).toList = ' ' :: source ∧
      readAttribute? (source ++ rest) = some (a, rest) := by
  obtain ⟨key, value⟩ := a
  have hchars := isKeyChar_of_isPlainName hkey
  cases value with
  | none =>
      have hends := stops_isKeyChar hrest
      refine ⟨key.toList, by simp [Element.attributeText], ?_⟩
      rw [readAttribute?, Text.takeWhile_stretch hchars hends, Text.dropWhile_stretch hchars hends,
        String.ofList_toList]
      split
      · rename_i more
        -- a name does not end at an equals sign
        rcases eq_space_or_close (hrest '=' rfl) with h | h <;> cases h
      · rfl
  | some value =>
      have hstops : Text.Stops isKeyChar ('=' :: '"' :: ((escape value).toList ++ '"' :: rest)) :=
        Text.stops_cons.mpr rfl
      have hquote : '"' ∉ (escape value).toList := by
        intro hmem
        rw [escape, String.toList_ofList] at hmem
        exact not_mem_delimiters_of_mem_flatMap hmem (by simp [delimiters])
      refine ⟨key.toList ++ '=' :: '"' :: ((escape value).toList ++ ['"']),
        by simp [Element.attributeText], ?_⟩
      have hsource : key.toList ++ '=' :: '"' :: ((escape value).toList ++ ['"']) ++ rest =
          key.toList ++ '=' :: '"' :: ((escape value).toList ++ '"' :: rest) := by simp
      rw [hsource, readAttribute?, Text.takeWhile_stretch hchars hstops,
        Text.dropWhile_stretch hchars hstops]
      show (Text.splitFirst '"' ((escape value).toList ++ '"' :: rest)).map _ = _
      rw [Text.splitFirst_append hquote, Option.map_some, escape, String.toList_ofList]
      show some ((String.ofList key.toList, some (String.ofList (decode _))), rest) = _
      rw [decode_flatMap_escapeChar, String.ofList_toList, String.ofList_toList]

/-- The text of attributes up to the bracket that closes the tag begins where a name ends. -/
theorem stops_attributes (attributes : List (String × Option String)) (rest : List Char) :
    Text.Stops isNameChar
      (attributes.flatMap (fun a => (Element.attributeText a).toList) ++ '>' :: rest) := by
  cases attributes with
  | nil => exact Text.stops_cons.mpr rfl
  | cons a attributes =>
      have hspace : ∃ source, (Element.attributeText a).toList = ' ' :: source := by
        rcases a with ⟨key, _ | value⟩ <;> simp [Element.attributeText]
      obtain ⟨source, hsource⟩ := hspace
      rw [List.flatMap_cons, hsource]
      exact Text.stops_cons.mpr rfl

theorem readAttributes?_append {attributes : List (String × Option String)}
    (h : ∀ a ∈ attributes, IsPlainName a.1) (rest : List Char) :
    readAttributes? (attributes.flatMap (fun a => (Element.attributeText a).toList) ++
      '>' :: rest) = some (attributes, rest) := by
  induction attributes with
  | nil => rw [List.flatMap_nil, List.nil_append, readAttributes?]
  | cons a attributes ih =>
      obtain ⟨hkey, hothers⟩ := List.forall_mem_cons.mp h
      obtain ⟨source, hsource, hread⟩ :=
        exists_readAttribute? hkey (stops_attributes attributes rest)
      rw [List.flatMap_cons, hsource, List.append_assoc, List.cons_append, readAttributes?]
      split
      · rename_i b after heq
        rw [hread] at heq
        cases heq
        rw [ih hothers]
        rfl
      · rename_i heq
        rw [hread] at heq
        cases heq

/-- An opening tag is read back, and nothing that follows it. -/
theorem readTag?_openTag {e : Element} (hname : IsPlainName e.name)
    (h : ∀ a ∈ e.attributes, IsPlainName a.1) (rest : List Char) :
    readTag? (e.openTag.toList ++ rest) = some (e, rest) := by
  have hsource : e.openTag.toList ++ rest = '<' :: (e.name.toList ++
      (e.attributes.flatMap (fun a => (Element.attributeText a).toList) ++ '>' :: rest)) := by
    simp [Element.openTag, String.toList_join, List.flatMap_map]
  have hchars : ∀ c ∈ e.name.toList, isNameChar c = true :=
    fun c hc => isNameChar_of_isKeyChar (isKeyChar_of_isPlainName hname c hc)
  have hends := stops_attributes e.attributes rest
  rw [hsource]
  show (readAttributes? _).map _ = _
  rw [Text.takeWhile_stretch hchars hends, Text.dropWhile_stretch hchars hends,
    readAttributes?_append h, Option.map_some, String.ofList_toList]

end ReadBack

/-- Whatever the values are, a reader recovers from an opening tag the name and the attributes that
were put into the element, in their order, and stops where the tag ends; with nothing behind the tag
it takes in the whole text.  Escaping, on which this rests, tells all texts apart and leaves neither
a bracket nor a quotation mark. -/
theorem openTag_read_back :
    (∀ (name : String) (additions : List Element.Addition) (rest : List Char),
      IsPlainName name →
      (∀ a ∈ additions.filterMap Element.Addition.attribute?, IsPlainName a.1) →
      readTag? ((Element.build name additions).openTag.toList ++ rest) =
        some (⟨name, additions.filterMap Element.Addition.attribute?⟩, rest)) ∧
    Function.Injective escape ∧
    ∀ (s : String), ∀ c ∈ (escape s).toList, c ∉ ['<', '>', '"', '\''] := by
  refine ⟨fun name additions rest hname hkeys => ?_, escape_injective, fun s c hc => ?_⟩
  · rw [Element.build_eq]
    exact readTag?_openTag hname hkeys rest
  · rw [escape, String.toList_ofList] at hc
    exact not_mem_delimiters_of_mem_flatMap hc

theorem openTag_read_back_download :
    IsPlainName "a" ∧ IsPlainName "title" ∧ IsPlainName "download" ∧
      readTag? (Element.build "a" [.attr "title" "\"><b> &amp; 'x'=", .attr? "href" none,
          .flag "download"]).openTag.toList =
        some (⟨"a", [("title", some "\"><b> &amp; 'x'="), ("download", none)]⟩, []) := by
  have ha : IsPlainName "a" := by decide
  have htitle : IsPlainName "title" := by decide
  have hdownload : IsPlainName "download" := by decide
  refine ⟨ha, htitle, hdownload, ?_⟩
  rw [← List.append_nil (Element.openTag _).toList]
  refine openTag_read_back.1 "a" _ [] ha fun a h => ?_
  simp only [List.filterMap_cons, Element.Addition.attribute?, Option.map_none, List.filterMap_nil,
    List.mem_cons, List.not_mem_nil, or_false] at h
  rcases h with rfl | rfl
  · exact htitle
  · exact hdownload

end StaticSite.Html
