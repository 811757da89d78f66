/-
Echoes as variables.

An echo names a variable by an attribute and its modifiers by a fallback and positional words; a text
names the same variable by a token.  Main statement: both give the same text
(`renderTag_echo_eq_interpolate`).  The name ends where its chain begins, as no name holds a colon,
and a word of the chain ends at the next colon or at the end of the text, so the token is read to
the modifiers of the echo (`isWritten_token`).
-/
import StaticSite.Proofs.Template.Interpolation
import StaticSite.Render.Page

namespace StaticSite

/-! ## Tokens -/

namespace Template

/-- The words that name a modifier without an argument. -/
def Modifier.plainWords : List String :=
  ["upper", "lower", "slug", "title", "escape", "year", "date", "longdate", "iso"]

/-- The item of a chain for a word. -/
def wordItem (word : String) : String := ":" ++ word

/-- The item of a chain for a fallback. -/
def fallbackItem (text : String) : String := ":default(" ++ text ++ ")"

/-- The chain of an optional fallback and words. -/
def chainFor (fallback : Option String) (words : List String) : String :=
  String.join (fallback.toList.map fallbackItem ++ words.map wordItem)

/-- The token of a variable: a dollar sign, the scope, a colon, the name and the chain. -/
def tokenFor (scope : VariableScope) (name : String) (fallback : Option String)
    (words : List String) : String :=
  "$" ++ scope.name ++ ":" ++ name ++ chainFor fallback words

/-- The modifiers of an optional fallback and words. -/
def modifiersFor (fallback : Option String) (words : List String) : List Modifier :=
  fallback.toList.map .fallback ++ words.filterMap Modifier.ofWord?

theorem Modifier.exists_of_mem_plainWords {word : String} (h : word ∈ plainWords) :
    ∃ m, (word, m) ∈ Modifier.words := by
  have hall : ∀ word ∈ plainWords, (ofWord? word).isSome = true := by decide
  obtain ⟨m, hm⟩ := Option.isSome_iff_exists.mp (hall word h)
  exact ⟨m, mem_words_of_ofWord? hm⟩

theorem IsVariableName.forall_mem {cs : List Char} (h : IsVariableName cs) :
    ∀ c ∈ cs, isVariableChar c = true ∨ c = '-' := by
  induction h with
  | word hword => exact fun c hc => .inl (hword.2 c hc)
  | hyphen hword _ ih =>
      intro c hc
      rcases List.mem_append.mp hc with hfirst | hrest
      · exact .inl (hword.2 c hfirst)
      · rcases List.mem_cons.mp hrest with rfl | hlater
        · exact .inr rfl
        · exact ih c hlater

/-- A name ends before a colon. -/
theorem isLongestName_of_colon {name after : List Char} (h : IsVariableName name)
    (hafter : ∀ c ∈ after.head?, c = ':') : IsLongestName name after := by
  refine ⟨h, fun other rest heq hother => ?_⟩
  rcases List.append_eq_append_iff.mp heq with ⟨more, rfl, hmore⟩ | ⟨more, rfl, -⟩
  · cases more with
    | nil => simp
    | cons c more =>
        -- a longer name would hold the colon
        obtain rfl := hafter c (by rw [hmore]; rfl)
        rcases hother.forall_mem ':' (by simp) with hcolon | hcolon
        · exact absurd hcolon (by decide)
        · exact absurd hcolon (by decide)
  · rw [List.length_append]
    exact Nat.le_add_right _ _

theorem head?_toList_join_wordItem (words : List String) :
    ∀ c ∈ (String.join (words.map wordItem)).toList.head?, c = ':' := by
  intro c hc
  cases words with
  | nil => simp [String.join] at hc
  | cons word words =>
      simp [wordItem, String.toList_join] at hc
      exact hc.symm

/-- Words with colons before them are a chain. -/
theorem chainIsWritten_words {words : List String} (h : ∀ word ∈ words, word ∈ Modifier.plainWords) :
    ChainIsWritten (words.filterMap Modifier.ofWord?) (String.join (words.map wordItem)).toList
      [] := by
  induction words with
  | nil =>
      refine .nil fun m item rest hnil hm => ?_
      obtain ⟨tail, rfl⟩ := hm.exists_colon
      cases hnil
  | cons word words ih =>
      obtain ⟨hword, hwords⟩ := List.forall_mem_cons.mp h
      obtain ⟨m, hm⟩ := Modifier.exists_of_mem_plainWords hword
      obtain ⟨-, -, -, -, hof⟩ := Modifier.all_words hm
      have hstops : Text.Stops Text.isWordChar (String.join (words.map wordItem)).toList := by
        intro c hc
        rw [head?_toList_join_wordItem words c hc]
        decide +kernel
      have hlist : (String.join ((word :: words).map wordItem)).toList =
          (':' :: word.toList) ++ (String.join (words.map wordItem)).toList := by
        simp [wordItem, String.toList_join]
      rw [hlist, List.filterMap_cons_some hof]
      refine .cons ?_ (ih hwords)
      rw [List.append_nil]
      exact .word hm hstops

/-- A fallback without a closing parenthesis and words after it are a chain. -/
theorem chainIsWritten_chainFor {fallback : Option String} {words : List String}
    (hfallback : ∀ text ∈ fallback, ')' ∉ text.toList)
    (hwords : ∀ word ∈ words, word ∈ Modifier.plainWords) :
    ChainIsWritten (modifiersFor fallback words) (chainFor fallback words).toList [] := by
  have hchain := chainIsWritten_words hwords
  cases fallback with
  | none => exact hchain
  | some text =>
      have hlist : (chainFor (some text) words).toList =
          (":default(".toList ++ (text.toList ++ [')'])) ++
            (String.join (words.map wordItem)).toList := by
        simp [chainFor, fallbackItem, String.toList_join]
      have hitem : Modifier.IsWritten (.fallback (String.ofList text.toList)) _
          ((String.join (words.map wordItem)).toList ++ []) := .fallback (hfallback text rfl)
      rw [String.ofList_toList] at hitem
      rw [hlist]
      exact .cons hitem hchain

/-- The token is written for its scope, its name and its modifiers. -/
theorem isWritten_token {scope : VariableScope} {name : String} {fallback : Option String}
    {words : List String} (hname : IsVariableName name.toList)
    (hfallback : ∀ text ∈ fallback, ')' ∉ text.toList)
    (hwords : ∀ word ∈ words, word ∈ Modifier.plainWords) :
    Variable.IsWritten ⟨scope, name, modifiersFor fallback words⟩
      (tokenFor scope name fallback words).toList [] := by
  have hchain := chainIsWritten_chainFor hfallback hwords
  have hlongest : IsLongestName name.toList ((chainFor fallback words).toList ++ []) := by
    rw [List.append_nil]
    exact isLongestName_of_colon hname hchain.beginsWithColon
  have hlist : (tokenFor scope name fallback words).toList =
      '$' :: (scope.name.toList ++ ':' :: (name.toList ++ (chainFor fallback words).toList)) := by
    simp [tokenFor]
  have hwritten : Variable.IsWritten ⟨scope, String.ofList name.toList, _⟩ _ [] :=
    .mk hlongest hchain
  rw [String.ofList_toList] at hwritten
  rwa [hlist]

/-- A token alone is replaced by the value of its variable. -/
theorem VariableContext.interpolate_token (ctx : VariableContext) {scope : VariableScope}
    {name : String} {fallback : Option String} {words : List String}
    (hname : IsVariableName name.toList) (hfallback : ∀ text ∈ fallback, ')' ∉ text.toList)
    (hwords : ∀ word ∈ words, word ∈ Modifier.plainWords) :
    ctx.interpolate (tokenFor scope name fallback words) =
      ctx.resolve ⟨scope, name, modifiersFor fallback words⟩ := by
  have hwritten : Variable.IsWritten ⟨scope, name, modifiersFor fallback words⟩ _ [] :=
    isWritten_token hname hfallback hwords
  have htoken := ctx.segmentsText_token hwritten
  rw [List.append_nil, ctx.segmentsText_nil, List.append_nil] at htoken
  rw [← String.toList_inj, ← htoken]
  exact String.toList_ofList

end Template

/-! ## Echoes -/

namespace Render

open Template

/-- Steps that all succeed give their results in order. -/
theorem mapM_eq_ok_filterMap {α β ε : Type} {f : α → Except ε β} {g : α → Option β} {as : List α}
    (h : ∀ a ∈ as, ∃ b, f a = .ok b ∧ g a = some b) : as.mapM f = .ok (as.filterMap g) := by
  induction as with
  | nil => rfl
  | cons a as ih =>
      obtain ⟨⟨b, hf, hg⟩, has⟩ := List.forall_mem_cons.mp h
      rw [List.mapM_cons, hf, ih has, List.filterMap_cons_some hg]
      rfl

/-- The fallback and the words of an echo are read to their modifiers. -/
theorem echoModifiers_eq {tag : Tag}
    (hwords : ∀ word ∈ tag.attributes.positional, word ∈ Modifier.plainWords) :
    echoModifiers tag = .ok (modifiersFor (tag.attributes.get? Modifier.fallbackWord)
      tag.attributes.positional) := by
  rw [echoModifiers, mapM_eq_ok_filterMap (g := Modifier.ofWord?), modifiersFor]
  · cases tag.attributes.get? Modifier.fallbackWord with
    | none => rfl
    | some text => rfl
  · intro word hword
    obtain ⟨m, hm⟩ := Modifier.exists_of_mem_plainWords (hwords word hword)
    obtain ⟨-, -, -, hother, hof⟩ := Modifier.all_words hm
    refine ⟨m, ?_, hof⟩
    rw [Modifier.ofName?, if_neg hother, hof]

/-- The only scope with an attribute is the one that counts. -/
theorem echoVariable?_eq {tag : Tag} {scope : VariableScope} {name : String}
    (hname : tag.attributes.get? scope.name = some name)
    (hothers : ∀ other, other ≠ scope → tag.attributes.get? other.name = none) :
    echoVariable? tag = some (scope, name) := by
  unfold echoVariable? VariableScope.all
  cases scope with
  | node => simp [List.findSome?, hname]
  | metadata => simp [List.findSome?, hname, hothers .node (by decide)]
  | global =>
      simp [List.findSome?, hname, hothers .node (by decide), hothers .metadata (by decide)]

/-- An echo with one scope attribute gives what the token of the same scope, name, fallback and words
gives in a text: every scope, name and fallback that a token can hold, and words in any number and
order. -/
theorem renderTag_echo_eq_interpolate (s : Scope) (tag : Tag) (children : Option (List Node))
    (scope : VariableScope) (name : String) (hkind : tag.kind = .echo)
    (hscope : tag.attributes.get? scope.name = some name)
    (hothers : ∀ other, other ≠ scope → tag.attributes.get? other.name = none)
    (hname : IsVariableName name.toList)
    (hfallback : ∀ text ∈ tag.attributes.get? Modifier.fallbackWord, ')' ∉ text.toList)
    (hwords : ∀ word ∈ tag.attributes.positional, word ∈ Modifier.plainWords) :
    renderTag s tag children =
      .ok (s.interpolate (tokenFor scope name (tag.attributes.get? Modifier.fallbackWord)
        tag.attributes.positional)) := by
  have hecho : renderTag s tag children = renderEcho s tag := by
    rw [renderTag, hkind]
  rw [hecho, renderEcho, echoVariable?_eq hscope hothers]
  dsimp only
  rw [echoModifiers_eq hwords, Scope.interpolate,
    VariableContext.interpolate_token _ hname hfallback hwords]
  rfl

/-- The scope of a page without metadata. -/
def pageScope : Scope :=
  ⟨⟨{}, ⟨[]⟩, .empty, ⟨[]⟩, .passthrough, 0⟩,
    ⟨"a.md", "source/a.md", "public/a/index.html", "/a/", "page", ∅, "", "a", "A", [], "", 0, none⟩,
    fun file _ _ => .error (.tooDeep file)⟩

/-- The tag `echo date default=":iso(1" meta="first-seen" "upper"`. -/
def datedEcho : Tag :=
  ⟨"echo", .echo, .ofItems [.word "date", .named "default" ":iso(1",
    .named "meta" "first-seen", .quoted "upper"], "t.html", ⟨0, 1, 1⟩⟩

/-- A name with a hyphen, a fallback that looks like a chain, and a word behind a date. -/
theorem renderTag_echo_eq_interpolate_dated :
    ∃ (s : Scope) (tag : Tag), tag.kind = .echo ∧
      tag.attributes.get? VariableScope.metadata.name = some "first-seen" ∧
      (∀ other, other ≠ VariableScope.metadata → tag.attributes.get? other.name = none) ∧
      IsVariableName "first-seen".toList ∧
      (∀ text ∈ tag.attributes.get? Modifier.fallbackWord, ')' ∉ text.toList) ∧
      (∀ word ∈ tag.attributes.positional, word ∈ Modifier.plainWords) ∧
      renderTag s tag none = .ok (s.interpolate "$meta:first-seen:default(:iso(1):date:upper") := by
  have hothers : ∀ other, other ≠ VariableScope.metadata →
      datedEcho.attributes.get? other.name = none := by
    intro other hother
    cases other with
    | node => decide
    | metadata => exact absurd rfl hother
    | global => decide
  have hname : IsVariableName "first-seen".toList :=
    @IsVariableName.hyphen "first".toList "seen".toList ⟨by decide, List.all_eq_true.mp (by decide)⟩
      (.word ⟨by decide, List.all_eq_true.mp (by decide)⟩)
  have hfallback : ∀ text ∈ datedEcho.attributes.get? Modifier.fallbackWord, ')' ∉ text.toList := by
    decide
  have hwords : ∀ word ∈ datedEcho.attributes.positional, word ∈ Modifier.plainWords := by decide
  exact ⟨pageScope, datedEcho, rfl, by decide, hothers, hname, hfallback, hwords,
    renderTag_echo_eq_interpolate pageScope datedEcho none .metadata "first-seen" rfl (by decide)
      hothers hname hfallback hwords⟩

end Render

end StaticSite
