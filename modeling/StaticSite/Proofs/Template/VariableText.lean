/-
Variables as they are written.

A variable is a dollar sign, a scope, a colon, a name and a chain of modifiers.  `Variable.IsWritten`
says which text stands for which variable: the name is the longest one that stands there, and the
chain takes as many modifiers as it can.  Main statement: a variable is read just where one is
written (`readVariable_eq_some`).

A chain is read twice, once to find its end and once to take it apart, and the two readings know
modifiers by different rules.  They agree because a modifier in a chain is followed by another colon
or by nothing (`readChain_append`).
-/
import Mathlib.Data.List.Infix
import Mathlib.Data.List.TakeWhile
import StaticSite.Template.Variable

namespace StaticSite.Template

/-! ## Names -/

/-- A word of letters, digits and underscores. -/
def IsNameWord (cs : List Char) : Prop := cs ≠ [] ∧ ∀ c ∈ cs, isVariableChar c = true

/-- Words with a hyphen between each two. -/
inductive IsVariableName : List Char → Prop
  | word {cs : List Char} : IsNameWord cs → IsVariableName cs
  | hyphen {cs rest : List Char} : IsNameWord cs → IsVariableName rest →
      IsVariableName (cs ++ '-' :: rest)

/-- No longer part of the text is a name. -/
def IsLongestName (name after : List Char) : Prop :=
  IsVariableName name ∧ ∀ other rest, name ++ after = other ++ rest → IsVariableName other →
    other.length ≤ name.length

theorem readVariableName_cons {c : Char} (hc : isVariableChar c = true) (rest : List Char) :
    readVariableName (c :: rest) =
      some ((c :: rest).takeWhile isVariableChar ++ (readNameParts ((c :: rest).dropWhile isVariableChar)).1,
        (readNameParts ((c :: rest).dropWhile isVariableChar)).2) := by
  unfold readVariableName
  rw [List.takeWhile_cons_of_pos hc]
  rfl

theorem readVariableName_of_not {c : Char} (hc : ¬ isVariableChar c = true) (rest : List Char) :
    readVariableName (c :: rest) = none := by
  unfold readVariableName
  rw [List.takeWhile_cons_of_neg hc]
  rfl

/-- After a hyphen stands another name, or the name ends before the hyphen. -/
theorem readNameParts_hyphen (cs : List Char) :
    readNameParts ('-' :: cs) = match readVariableName cs with
      | some (name, after) => ('-' :: name, after)
      | none => ([], '-' :: cs) := by
  cases cs with
  | nil =>
      rw [readNameParts]
      · rfl
      · intro c rest h
        cases h
  | cons c rest =>
      rw [readNameParts]
      by_cases hc : isVariableChar c = true
      · rw [if_pos hc, readVariableName_cons hc]
        rfl
      · rw [if_neg hc, readVariableName_of_not hc]

theorem readNameParts_of_ne {cs : List Char} (h : ∀ c ∈ cs.head?, c ≠ '-') :
    readNameParts cs = ([], cs) := by
  cases cs with
  | nil => rw [readNameParts]; intro c rest h; cases h
  | cons c rest =>
      rw [readNameParts]
      rintro d rest' heq
      cases heq
      exact h '-' rfl rfl

/-- A name goes on behind a hyphen with another name, or not at all. -/
theorem readNameParts_cases (cs : List Char) :
    readNameParts cs = ([], cs) ∨
      ∃ tail name after, cs = '-' :: tail ∧ readVariableName tail = some (name, after) ∧
        readNameParts cs = ('-' :: name, after) := by
  by_cases hhyphen : ∃ tail, cs = '-' :: tail
  · obtain ⟨tail, rfl⟩ := hhyphen
    rw [readNameParts_hyphen]
    cases hread : readVariableName tail with
    | none => exact .inl rfl
    | some found => exact .inr ⟨tail, found.1, found.2, rfl, hread, rfl⟩
  · refine .inl (readNameParts_of_ne fun c hc hne => hhyphen ?_)
    cases cs with
    | nil => cases hc
    | cons d tail =>
        cases hc
        exact ⟨tail, by rw [hne]⟩

/-- What is read is a name, and what follows it is the rest. -/
theorem readVariableName_source {cs name after : List Char}
    (h : readVariableName cs = some (name, after)) : cs = name ++ after ∧ IsVariableName name := by
  induction hlength : cs.length using Nat.strong_induction_on generalizing cs name after with
  | _ n ih =>
      cases cs with
      | nil => cases h
      | cons c rest =>
          have hc : isVariableChar c = true := by
            by_contra hc
            rw [readVariableName_of_not hc] at h
            cases h
          rw [readVariableName_cons hc] at h
          have hword : IsNameWord ((c :: rest).takeWhile isVariableChar) := by
            refine ⟨?_, fun d hd => List.mem_takeWhile_imp hd⟩
            rw [List.takeWhile_cons_of_pos hc]
            exact List.cons_ne_nil _ _
          have hsplit : (c :: rest).takeWhile isVariableChar ++
              (c :: rest).dropWhile isVariableChar = c :: rest := List.takeWhile_append_dropWhile
          obtain hparts | ⟨tail, others, after', hdrop, htail, hparts⟩ :=
            readNameParts_cases ((c :: rest).dropWhile isVariableChar)
          · rw [hparts, List.append_nil] at h
            cases h
            exact ⟨hsplit.symm, .word hword⟩
          · rw [hparts] at h
            cases h
            have hlt : tail.length < n := by
              rw [← hlength, ← hsplit, hdrop, List.length_append, List.length_cons]
              omega
            obtain ⟨hsource, hothers⟩ := ih _ hlt htail rfl
            refine ⟨?_, .hyphen hword hothers⟩
            rw [List.append_assoc, List.cons_append, ← hsource, ← hdrop, hsplit]

/-- Where a name begins, one at least as long is read. -/
theorem IsVariableName.exists_read {other : List Char} (h : IsVariableName other)
    (rest : List Char) :
    ∃ name after, readVariableName (other ++ rest) = some (name, after) ∧
      other.length ≤ name.length := by
  induction h with
  | @word cs hword =>
      obtain ⟨c, tail, rfl⟩ := List.exists_cons_of_ne_nil hword.1
      refine ⟨_, _, readVariableName_cons (hword.2 c List.mem_cons_self) (tail ++ rest), ?_⟩
      rw [← List.cons_append, List.takeWhile_append_of_pos hword.2, List.append_assoc,
        List.length_append]
      exact Nat.le_add_right _ _
  | @hyphen cs others hword _ ih =>
      obtain ⟨name, after, hread, hle⟩ := ih
      obtain ⟨c, tail, rfl⟩ := List.exists_cons_of_ne_nil hword.1
      have hhyphen : Text.Stops isVariableChar ('-' :: (others ++ rest)) := Text.stops_cons.mpr rfl
      refine ⟨_, _, readVariableName_cons (hword.2 c List.mem_cons_self)
        (tail ++ '-' :: others ++ rest), ?_⟩
      have hsplit : c :: (tail ++ '-' :: others ++ rest) =
          (c :: tail) ++ '-' :: (others ++ rest) := by simp
      have htake : (c :: (tail ++ '-' :: others ++ rest)).takeWhile isVariableChar = c :: tail := by
        rw [hsplit, Text.takeWhile_stretch hword.2 hhyphen]
      have hdrop : (c :: (tail ++ '-' :: others ++ rest)).dropWhile isVariableChar =
          '-' :: (others ++ rest) := by
        rw [hsplit, Text.dropWhile_stretch hword.2 hhyphen]
      rw [htake, hdrop, readNameParts_hyphen, hread]
      simp only [List.length_append, List.length_cons]
      omega

/-- The longest name is read. -/
theorem readVariableName_eq_some {cs name after : List Char} :
    readVariableName cs = some (name, after) ↔ cs = name ++ after ∧ IsLongestName name after := by
  constructor
  · intro h
    obtain ⟨rfl, hname⟩ := readVariableName_source h
    refine ⟨rfl, hname, fun other rest heq hother => ?_⟩
    obtain ⟨name', after', hread, hle⟩ := hother.exists_read rest
    rw [← heq, h] at hread
    cases hread
    exact hle
  · rintro ⟨rfl, hname, hlongest⟩
    obtain ⟨name', after', hread, hle⟩ := hname.exists_read after
    obtain ⟨heq, hname'⟩ := readVariableName_source hread
    obtain ⟨rfl, rfl⟩ := List.append_inj heq (Nat.le_antisymm hle (hlongest name' after' heq hname'))
    exact hread

/-! ## Modifiers -/

theorem Modifier.not_mem_of_readArgument {cs argument after : List Char}
    (h : readArgument cs = some (argument, after)) : ')' ∉ argument := by
  unfold readArgument at h
  split at h
  · exact Text.not_mem_of_splitFirst h
  · cases h

namespace Modifier

/-- The modifier is written so before the text that follows: as a word that ends there, or as a
fallback with everything up to the first closing parenthesis. -/
inductive IsWritten : Modifier → List Char → List Char → Prop
  | word {word : String} {m : Modifier} {after : List Char} : (word, m) ∈ words →
      Text.Stops Text.isWordChar after → IsWritten m (':' :: word.toList) after
  | fallback {argument after : List Char} : ')' ∉ argument →
      IsWritten (.fallback (String.ofList argument)) (":default(".toList ++ (argument ++ [')'])) after

theorem all_words {word : String} {m : Modifier} (h : (word, m) ∈ words) :
    word.toList.all Text.isWordChar = true ∧ word.toList.all isLetter = true ∧
      word.toList ≠ [] ∧ word ≠ fallbackWord ∧ ofWord? word = some m := by
  have hall : ∀ p ∈ words, p.1.toList.all Text.isWordChar = true ∧ p.1.toList.all isLetter = true ∧
      p.1.toList ≠ [] ∧ p.1 ≠ fallbackWord ∧ ofWord? p.1 = some p.2 := by
    decide +kernel
  exact hall _ h

theorem mem_words_of_ofWord? {word : String} {m : Modifier} (h : ofWord? word = some m) :
    (word, m) ∈ words := by
  obtain ⟨before, after, hwords, -⟩ := List.lookup_eq_some_iff.mp h
  rw [hwords]
  simp

end Modifier

open Modifier

theorem modifierText?_word {rest : List Char} {m : Modifier}
    (h : ofWord? (String.ofList (rest.takeWhile Text.isWordChar)) = some m) :
    modifierText? (':' :: rest) =
      some (':' :: rest.takeWhile Text.isWordChar, rest.dropWhile Text.isWordChar) := by
  exact if_pos (by rw [h]; rfl)

theorem modifierText?_fallback {rest : List Char}
    (h : ofWord? (String.ofList (rest.takeWhile Text.isWordChar)) = none) :
    modifierText? (':' :: rest) = (do
      let tail ← Text.afterPrefix? fallbackWord.toList rest
      let (argument, after) ← readArgument tail
      some (':' :: (fallbackWord.toList ++ '(' :: (argument ++ [')'])), after)) := by
  exact if_neg (by rw [h]; exact Bool.false_ne_true)

theorem modifierText?_of_ne {cs : List Char} (h : ∀ rest, cs ≠ ':' :: rest) :
    modifierText? cs = none := by
  unfold modifierText?
  split
  · exact absurd rfl (h _)
  · rfl

/-- What is read is written as a modifier. -/
theorem exists_isWritten_of_modifierText? {cs item after : List Char}
    (h : modifierText? cs = some (item, after)) : ∃ m : Modifier, m.IsWritten item after := by
  by_cases hcolon : ∃ rest, cs = ':' :: rest
  · obtain ⟨rest, rfl⟩ := hcolon
    cases hword : ofWord? (String.ofList (rest.takeWhile Text.isWordChar)) with
    | some m =>
        rw [modifierText?_word hword] at h
        cases h
        have hwritten := IsWritten.word (mem_words_of_ofWord? hword)
          (Text.stops_dropWhile Text.isWordChar rest)
        rw [String.toList_ofList] at hwritten
        exact ⟨m, hwritten⟩
    | none =>
        rw [modifierText?_fallback hword] at h
        obtain ⟨tail, htail, h⟩ := Option.bind_eq_some_iff.mp h
        obtain ⟨⟨argument, after'⟩, hargument, h⟩ := Option.bind_eq_some_iff.mp h
        cases h
        exact ⟨_, .fallback (not_mem_of_readArgument hargument)⟩
  · rw [modifierText?_of_ne fun rest hrest => hcolon ⟨rest, hrest⟩] at h
    cases h

/-- A word is read where it ends. -/
theorem modifierText?_append_of_mem_words {word : String} {m : Modifier} {after : List Char}
    (hmem : (word, m) ∈ words) (hstops : Text.Stops Text.isWordChar after) :
    modifierText? (':' :: word.toList ++ after) = some (':' :: word.toList, after) := by
  obtain ⟨hall, -, -, -, hword⟩ := all_words hmem
  have htake : (word.toList ++ after).takeWhile Text.isWordChar = word.toList :=
    Text.takeWhile_stretch (List.all_eq_true.mp hall) hstops
  have hdrop : (word.toList ++ after).dropWhile Text.isWordChar = after :=
    Text.dropWhile_stretch (List.all_eq_true.mp hall) hstops
  have hword' : ofWord? (String.ofList ((word.toList ++ after).takeWhile Text.isWordChar)) =
      some m := by
    rw [htake, String.ofList_toList, hword]
  rw [List.cons_append, modifierText?_word hword', htake, hdrop]

/-- The word of fallbacks is no modifier by itself. -/
theorem ofWord?_fallbackWord_append {after : List Char} (hstops : Text.Stops Text.isWordChar after) :
    ofWord? (String.ofList ((fallbackWord.toList ++ after).takeWhile Text.isWordChar)) = none := by
  have hword : ∀ c ∈ fallbackWord.toList, Text.isWordChar c = true :=
    List.all_eq_true.mp (by decide +kernel)
  have hnone : ofWord? fallbackWord = none := by decide +kernel
  rw [Text.takeWhile_stretch hword hstops, String.ofList_toList, hnone]

/-- A fallback is read up to the first closing parenthesis. -/
theorem modifierText?_append_fallback {argument : List Char} (hargument : ')' ∉ argument)
    (after : List Char) :
    modifierText? (":default(".toList ++ (argument ++ [')']) ++ after) =
      some (":default(".toList ++ (argument ++ [')']), after) := by
  have hsplit : ":default(".toList ++ (argument ++ [')']) ++ after =
      ':' :: (fallbackWord.toList ++ '(' :: (argument ++ ')' :: after)) := by
    simp [fallbackWord]
  have hstops : Text.Stops Text.isWordChar ('(' :: (argument ++ ')' :: after)) :=
    Text.stops_cons.mpr (by decide +kernel)
  have htail : Text.afterPrefix? fallbackWord.toList
      (fallbackWord.toList ++ '(' :: (argument ++ ')' :: after)) =
      some ('(' :: (argument ++ ')' :: after)) :=
    List.isPrefixOf?_eq_some_iff_append_eq.mpr rfl
  have hread : readArgument ('(' :: (argument ++ ')' :: after)) = some (argument, after) :=
    Text.splitFirst_append hargument after
  rw [hsplit, modifierText?_fallback (ofWord?_fallbackWord_append hstops)]
  refine Option.bind_eq_some_iff.mpr ⟨_, htail, Option.bind_eq_some_iff.mpr ⟨_, hread, ?_⟩⟩
  simp [fallbackWord]

/-- A modifier is read just where one is written. -/
theorem modifierText?_eq_some {cs item after : List Char} :
    modifierText? cs = some (item, after) ↔
      cs = item ++ after ∧ ∃ m : Modifier, m.IsWritten item after := by
  constructor
  · intro h
    exact ⟨(modifierText?_source h).2, exists_isWritten_of_modifierText? h⟩
  · rintro ⟨rfl, m, hm⟩
    cases hm with
    | word hmem hstops => exact modifierText?_append_of_mem_words hmem hstops
    | fallback hargument => exact modifierText?_append_fallback hargument after

/-! ### Chains -/

/-- The modifiers are written one after the other, and no further one is written behind them. -/
inductive ChainIsWritten : List Modifier → List Char → List Char → Prop
  | nil {after : List Char} :
      (∀ (m : Modifier) item rest, after = item ++ rest → ¬ m.IsWritten item rest) →
      ChainIsWritten [] [] after
  | cons {m : Modifier} {modifiers : List Modifier} {item chain after : List Char} :
      m.IsWritten item (chain ++ after) → ChainIsWritten modifiers chain after →
      ChainIsWritten (m :: modifiers) (item ++ chain) after

theorem chainText_of_none {cs : List Char} (h : modifierText? cs = none) :
    chainText cs = ([], cs) := by
  rw [chainText.eq_def]
  split <;> simp_all

theorem chainText_of_some {cs item rest : List Char} (h : modifierText? cs = some (item, rest)) :
    chainText cs = (item ++ (chainText rest).1, (chainText rest).2) := by
  rw [chainText.eq_def]
  split <;> simp_all

/-- As many modifiers as possible are read. -/
theorem chainText_eq {cs chain after : List Char} :
    chainText cs = (chain, after) ↔
      cs = chain ++ after ∧ ∃ modifiers, ChainIsWritten modifiers chain after := by
  constructor
  · intro h
    refine ⟨?_, ?_⟩
    · have hsource := chainText_source cs
      rwa [h] at hsource
    · fun_induction chainText cs generalizing chain after with
      | case1 cs hnone =>
          cases h
          refine ⟨[], .nil fun m item rest hrest hm => ?_⟩
          rw [modifierText?_eq_some.mpr ⟨hrest, m, hm⟩] at hnone
          cases hnone
      | case2 cs item rest hsome chain' after' hrec ih =>
          cases h
          obtain ⟨modifiers, hmodifiers⟩ := ih hrec
          obtain ⟨-, m, hm⟩ := modifierText?_eq_some.mp hsome
          have hsource := chainText_source rest
          rw [hrec] at hsource
          exact ⟨m :: modifiers, .cons (hsource ▸ hm) hmodifiers⟩
  · rintro ⟨rfl, modifiers, h⟩
    induction h with
    | @nil after hnone =>
        refine chainText_of_none ?_
        cases hread : modifierText? after with
        | none => exact hread
        | some found =>
            obtain ⟨hsource, m, hm⟩ := modifierText?_eq_some.mp hread
            exact absurd hm (hnone m _ _ hsource)
    | @cons m modifiers item chain after hm _ ih =>
        have hread : modifierText? (item ++ chain ++ after) = some (item, chain ++ after) :=
          modifierText?_eq_some.mpr ⟨List.append_assoc .., m, hm⟩
        rw [chainText_of_some hread, ih]

theorem Modifier.IsWritten.exists_colon {m : Modifier} {item after : List Char}
    (h : m.IsWritten item after) : ∃ rest, item = ':' :: rest := by
  cases h with
  | word _ _ => exact ⟨_, rfl⟩
  | fallback _ => exact ⟨_, rfl⟩

theorem ChainIsWritten.beginsWithColon {modifiers : List Modifier} {chain after : List Char}
    (h : ChainIsWritten modifiers chain after) : ∀ c ∈ chain.head?, c = ':' := by
  cases h with
  | nil _ =>
      intro c hc
      cases hc
  | cons hm _ =>
      obtain ⟨rest, rfl⟩ := hm.exists_colon
      intro c hc
      cases hc
      rfl

/-- A name in a chain is read with the argument behind it. -/
theorem readChain_name {name tail after : List Char} {argument : Option String} {m : Modifier}
    (hne : name ≠ []) (hname : ∀ c ∈ name, isLetter c = true) (htail : Text.Stops isLetter tail)
    (hrest : chainRest tail = (argument, after))
    (hm : ofName? (String.ofList name) argument = some m) :
    readChain (':' :: (name ++ tail)) = m :: readChain after := by
  rw [readChain]
  dsimp only
  rw [Text.takeWhile_stretch hname htail, Text.dropWhile_stretch hname htail, if_pos ⟨rfl, hne⟩,
    hrest, hm]
  rfl

/-- A modifier at the front of a chain is the first one that the chain is read to. -/
theorem readChain_append {m : Modifier} {item chain after : List Char} (h : m.IsWritten item after)
    (hchain : ∀ c ∈ chain.head?, c = ':') : readChain (item ++ chain) = m :: readChain chain := by
  cases h with
  | @word word m after hmem _ =>
      obtain ⟨-, hall, hne, hother, hword⟩ := all_words hmem
      have hstops : Text.Stops isLetter chain := by
        intro c hc
        rw [hchain c hc]
        rfl
      have hrest : chainRest chain = (none, chain) := by
        cases chain with
        | nil => rfl
        | cons c chain =>
            obtain rfl := hchain c rfl
            rfl
      have hm : ofName? (String.ofList word.toList) none = some m := by
        rw [String.ofList_toList, ofName?, if_neg hother, hword]
      exact readChain_name hne (List.all_eq_true.mp hall) hstops hrest hm
  | @fallback argument after hargument =>
      have hsplit : ":default(".toList ++ (argument ++ [')']) ++ chain =
          ':' :: (fallbackWord.toList ++ '(' :: (argument ++ ')' :: chain)) := by
        simp [fallbackWord]
      have hparen : Text.Stops isLetter ('(' :: (argument ++ ')' :: chain)) :=
        Text.stops_cons.mpr rfl
      have hread : readArgument ('(' :: (argument ++ ')' :: chain)) = some (argument, chain) :=
        Text.splitFirst_append hargument chain
      have hrest : chainRest ('(' :: (argument ++ ')' :: chain)) =
          (some (String.ofList argument), chain) := by
        rw [chainRest, hread]
      have hletters : ∀ c ∈ fallbackWord.toList, isLetter c = true :=
        List.all_eq_true.mp (by decide +kernel)
      rw [hsplit]
      exact readChain_name (by decide) hletters hparen hrest (if_pos String.ofList_toList)

/-- The text of a chain is read to the modifiers that it is written for. -/
theorem ChainIsWritten.readChain_eq {modifiers : List Modifier} {chain after : List Char}
    (h : ChainIsWritten modifiers chain after) : readChain chain = modifiers := by
  induction h with
  | nil _ => rw [readChain]
  | cons hm hchain ih => rw [readChain_append hm hchain.beginsWithColon, ih]

/-! ## Variables -/

/-- The variable is written so before the text that follows: a dollar sign, the word for the scope, a
colon, the longest name that stands there, and all modifiers behind it. -/
inductive Variable.IsWritten : Variable → List Char → List Char → Prop
  | mk {scope : VariableScope} {name chain after : List Char} {modifiers : List Modifier} :
      IsLongestName name (chain ++ after) → ChainIsWritten modifiers chain after →
      Variable.IsWritten ⟨scope, String.ofList name, modifiers⟩
        ('$' :: (scope.name.toList ++ ':' :: (name ++ chain))) after

theorem readScope_eq_some {cs rest : List Char} {scope : VariableScope} :
    readScope cs = some (scope, rest) ↔ cs = scope.name.toList ++ ':' :: rest := by
  constructor
  · intro h
    obtain ⟨_, other, _, -, hother, -⟩ := List.findSome?_eq_some_iff.mp h
    obtain ⟨rest', hrest, heq⟩ := Option.map_eq_some_iff.mp hother
    cases heq
    rw [Text.eq_append_of_afterPrefix? hrest, List.append_assoc]
    rfl
  · rintro rfl
    -- no word for a scope begins with another one
    cases scope <;> rfl

theorem readVariable_eq {cs : List Char} :
    readVariable cs = (readScope cs).bind fun (scope, cs) =>
      (readVariableName cs).bind fun (name, cs) =>
        some (⟨scope, String.ofList name, readChain (chainText cs).1⟩, (chainText cs).2) := rfl

/-- A variable is read just where one is written. -/
theorem readVariable_eq_some {cs after : List Char} {v : Variable} :
    readVariable cs = some (v, after) ↔
      ∃ token, '$' :: cs = token ++ after ∧ v.IsWritten token after := by
  rw [readVariable_eq]
  constructor
  · intro h
    obtain ⟨⟨scope, rest⟩, hscope, h⟩ := Option.bind_eq_some_iff.mp h
    obtain ⟨⟨name, tail⟩, hname, h⟩ := Option.bind_eq_some_iff.mp h
    cases h
    obtain rfl := readScope_eq_some.mp hscope
    obtain ⟨rfl, hlongest⟩ := readVariableName_eq_some.mp hname
    have hread : chainText tail = ((chainText tail).1, (chainText tail).2) := rfl
    obtain ⟨hchain, modifiers, hmodifiers⟩ := chainText_eq.mp hread
    rw [hmodifiers.readChain_eq]
    rw [hchain] at hlongest
    refine ⟨_, ?_, .mk hlongest hmodifiers⟩
    conv => lhs; rw [hchain]
    simp
  · rintro ⟨token, htoken, hwritten⟩
    cases hwritten with
    | @mk scope name chain after modifiers hlongest hmodifiers =>
        have hcs : cs = scope.name.toList ++ ':' :: (name ++ (chain ++ after)) := by
          simpa using htoken
        have hchain : chainText (chain ++ after) = (chain, after) :=
          chainText_eq.mpr ⟨rfl, modifiers, hmodifiers⟩
        rw [readScope_eq_some.mpr hcs, Option.bind_some]
        dsimp only
        rw [readVariableName_eq_some.mpr ⟨rfl, hlongest⟩, Option.bind_some]
        dsimp only
        rw [hchain, hmodifiers.readChain_eq]

/-- An argument is taken as it is, up to the first parenthesis that closes, and a longer word is no
modifier. -/
example : readVariable "meta:a-b:default($node:(x):upper:uppers".toList =
    some (⟨.metadata, "a-b", [.fallback "$node:(x", .upper]⟩, ":uppers".toList) := by
  decide +kernel

end StaticSite.Template
