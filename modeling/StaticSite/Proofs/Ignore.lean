/-
What is left out is left out with everything below it.

The rules look at a path by its beginnings, the parts of it that end before a slash or at its end
(`IsBeginning`).  Where the trimmed path is a beginning of another one, this one is left out with it;
and the templates folder is a beginning of every path within it.  Main statement: a path is left out
just if one of its beginnings is, and so is all that lies below it and within the templates folder
(`ignoresWithin_downward_closed`).

The beginnings are found by adding up the lengths of the pieces in bytes, and taken from the path
between byte offsets (`ignoresBySlices?`).  No such part ends beyond the path or inside a character.
-/
import StaticSite.Ignore
import StaticSite.Outcome
import StaticSite.Proofs.Template.ByteScan

namespace StaticSite

/-! ## Beginnings of paths -/

/-- The first text is a part of the second one that stands at its beginning and ends before a slash
or at the end. -/
def IsBeginning (start path : List Char) : Prop :=
  ∃ rest, path = start ++ rest ∧ (rest = [] ∨ ∃ tail, rest = '/' :: tail)

section Beginnings

variable {a b c : List Char}

theorem IsBeginning.trans (hab : IsBeginning a b) (hbc : IsBeginning b c) : IsBeginning a c := by
  obtain ⟨first, rfl, hfirst⟩ := hab
  obtain ⟨second, rfl, hsecond⟩ := hbc
  refine ⟨first ++ second, List.append_assoc _ _ _, ?_⟩
  rcases hfirst with rfl | ⟨tail, rfl⟩
  · exact hsecond
  · exact .inr ⟨tail ++ second, rfl⟩

theorem isBeginning_nil {start : List Char} : IsBeginning start [] ↔ start = [] := by
  constructor
  · rintro ⟨rest, hpath, -⟩
    exact (List.append_eq_nil_iff.mp hpath.symm).1
  · rintro rfl
    exact ⟨[], rfl, .inl rfl⟩

/-- A path begins with nothing, if a slash comes first, or with its first character. -/
theorem isBeginning_cons {start rest : List Char} {d : Char} :
    IsBeginning start (d :: rest) ↔
      start = [] ∧ d = '/' ∨ ∃ more, start = d :: more ∧ IsBeginning more rest := by
  constructor
  · rintro ⟨tail, hpath, htail⟩
    cases start with
    | nil =>
        rw [List.nil_append] at hpath
        rcases htail with rfl | ⟨tail, rfl⟩
        · cases hpath
        · cases hpath
          exact .inl ⟨rfl, rfl⟩
    | cons e more =>
        cases hpath
        exact .inr ⟨more, rfl, tail, rfl, htail⟩
  · rintro (⟨rfl, rfl⟩ | ⟨more, rfl, tail, rfl, htail⟩)
    · exact ⟨'/' :: rest, rfl, .inr ⟨rest, rfl⟩⟩
    · exact ⟨tail, rfl, htail⟩

/-- A slash behind a stretch of slashes has a slash in front. -/
theorem exists_slash_append (path below : List Char) :
    ∃ tail, (path.takeWhile (· == '/')).reverse ++ '/' :: below = '/' :: tail := by
  have hall := List.all_takeWhile (p := (· == '/')) (l := path)
  rw [← List.all_reverse] at hall
  generalize (path.takeWhile (· == '/')).reverse = slashes at hall ⊢
  cases slashes with
  | nil => exact ⟨below, rfl⟩
  | cons c slashes =>
      rw [List.all_cons, Bool.and_eq_true, beq_iff_eq] at hall
      rw [hall.1]
      exact ⟨slashes ++ '/' :: below, rfl⟩

/-- A trimmed path is a beginning of the trimmed path of everything below. -/
theorem isBeginning_trimChar {path : List Char} (h : Text.trimChar '/' path ≠ [])
    (below : List Char) :
    IsBeginning (Text.trimChar '/' path) (Text.trimChar '/' (path ++ '/' :: below)) := by
  have hfront : path.dropWhile (· == '/') ≠ [] := by
    intro hnil
    rw [Text.trimChar, hnil] at h
    exact h rfl
  obtain ⟨tail, htail⟩ := exists_slash_append (path.dropWhile (· == '/')).reverse below
  have hbelow : Text.trimChar '/' (path ++ '/' :: below) =
      Text.trimChar '/' path ++ Text.dropEndWhile (· == '/') ('/' :: tail) := by
    rw [Text.trimChar, List.dropWhile_append, if_neg (by simpa using hfront),
      Text.dropEndWhile_append, htail, Text.trimChar]
  refine ⟨_, hbelow, ?_⟩
  obtain ⟨cut, hrest⟩ := Text.dropEndWhile_prefix (· == '/') ('/' :: tail)
  generalize Text.dropEndWhile (· == '/') ('/' :: tail) = rest at hrest ⊢
  cases rest with
  | nil => exact .inl rfl
  | cons c rest =>
      cases hrest
      exact .inr ⟨rest, rfl⟩

end Beginnings

namespace IgnoreRules

/-- The beginnings that the rules look at are all there are. -/
theorem mem_beginnings_splitOn {before start path : List Char} :
    start ∈ beginnings before (Text.splitOn '/' path) ↔
      ∃ part, start = before ++ part ∧ IsBeginning part path := by
  induction path generalizing before with
  | nil =>
      rw [Text.splitOn, beginnings, beginnings, List.mem_singleton]
      constructor
      · rintro rfl
        exact ⟨[], rfl, isBeginning_nil.mpr rfl⟩
      · rintro ⟨part, rfl, hpart⟩
        rw [isBeginning_nil.mp hpart]
  | cons d rest ih =>
      have hpart : (∃ part, start = before ++ part ∧ IsBeginning part (d :: rest)) ↔
          d = '/' ∧ start = before ∨ start ∈ beginnings (before ++ [d]) (Text.splitOn '/' rest) := by
        simp only [isBeginning_cons, ih, List.append_assoc, List.singleton_append]
        constructor
        · rintro ⟨part, rfl, ⟨rfl, hd⟩ | ⟨more, rfl, hmore⟩⟩
          · exact .inl ⟨hd, List.append_nil _⟩
          · exact .inr ⟨more, rfl, hmore⟩
        · rintro (⟨hd, rfl⟩ | ⟨more, rfl, hmore⟩)
          · exact ⟨[], (List.append_nil _).symm, .inl ⟨rfl, hd⟩⟩
          · exact ⟨d :: more, rfl, .inr ⟨more, rfl, hmore⟩⟩
      rw [hpart]
      by_cases hd : d = '/'
      · rw [Text.splitOn, if_pos hd, beginnings, List.mem_cons, List.append_nil, hd]
        simp only [true_and]
      · -- the first piece begins with this character
        obtain ⟨piece, pieces, hpieces⟩ :=
          List.exists_cons_of_ne_nil (Text.splitOn_ne_nil '/' rest)
        rw [Text.splitOn, if_neg hd, hpieces]
        simp only [beginnings, List.append_assoc, List.cons_append, List.nil_append, hd, false_and,
          false_or]

section Rules

variable (rules : IgnoreRules)

theorem ignores_ofList (start : List Char) :
    rules.ignores (String.ofList start) = rules.ignoresTrimmed (Text.trimChar '/' start) := by
  rw [ignores, String.toList_ofList]

theorem ignoresWithin_iff (path : String) :
    rules.ignoresWithin path = true ↔
      ∃ start, IsBeginning start (Text.trimChar '/' path.toList) ∧
        rules.ignores (String.ofList start) = true := by
  rw [ignoresWithin, List.any_eq_true]
  simp only [mem_beginnings_splitOn, List.nil_append, exists_eq_left', ignores_ofList]

/-- Nothing is left out by the path of the source folder. -/
theorem ignores_empty : rules.ignores "" = false := rfl

theorem ignoresWithin_of_isBeginning {path inner : String}
    (hpath : IsBeginning (Text.trimChar '/' path.toList) (Text.trimChar '/' inner.toList))
    (h : rules.ignoresWithin path = true) : rules.ignoresWithin inner = true := by
  obtain ⟨start, hstart, hignored⟩ := (rules.ignoresWithin_iff path).mp h
  exact (rules.ignoresWithin_iff inner).mpr ⟨start, hstart.trans hpath, hignored⟩

/-- What lies below a path that is left out is left out. -/
theorem ignoresWithin_below {path : String} (h : rules.ignoresWithin path = true)
    (below : String) : rules.ignoresWithin (path ++ "/" ++ below) = true := by
  have hne : Text.trimChar '/' path.toList ≠ [] := by
    intro hnil
    obtain ⟨start, hstart, hignored⟩ := (rules.ignoresWithin_iff path).mp h
    rw [hnil, isBeginning_nil] at hstart
    rw [hstart] at hignored
    exact absurd hignored (by rw [String.ofList_nil, ignores_empty]; exact Bool.false_ne_true)
  refine rules.ignoresWithin_of_isBeginning ?_ h
  have hpath : (path ++ "/" ++ below).toList = path.toList ++ '/' :: below.toList := by simp
  rw [hpath]
  exact isBeginning_trimChar hne below.toList

/-- A path lies within the templates folder if this is one of its beginnings. -/
theorem isWithinTemplates_iff (path : String) :
    rules.isWithinTemplates path = true ↔
      IsBeginning rules.templatesDir.toList (Text.trimChar '/' path.toList) := by
  unfold isWithinTemplates
  constructor
  · intro h
    split at h
    · rename_i hcut
      exact ⟨[], Text.eq_append_of_afterPrefix? hcut, .inl rfl⟩
    · rename_i c tail hcut
      refine ⟨c :: tail, Text.eq_append_of_afterPrefix? hcut, .inr ⟨tail, ?_⟩⟩
      rw [beq_iff_eq.mp h]
    · cases h
  · rintro ⟨rest, hpath, hrest⟩
    have hcut : Text.afterPrefix? rules.templatesDir.toList (Text.trimChar '/' path.toList) =
        some rest := List.isPrefixOf?_eq_some_iff_append_eq.mpr hpath.symm
    rw [hcut]
    rcases hrest with rfl | ⟨tail, rfl⟩
    · rfl
    · exact beq_self_eq_true '/'

variable {rules}

theorem templatesDir_of_ofConfig {c : Config} (h : ofConfig c = .ok rules) :
    rules.templatesDir = String.ofList (Text.trimChar '/' c.build.templatesDir.toList) := by
  obtain ⟨names, -, hrest⟩ := Outcome.bind_eq_ok.mp h
  obtain ⟨paths, -, hrules⟩ := Outcome.bind_eq_ok.mp hrest
  cases hrules
  rfl

/-- The templates folder is left out. -/
theorem ignores_templatesDir {c : Config} (h : ofConfig c = .ok rules)
    (hne : Text.trimChar '/' c.build.templatesDir.toList ≠ []) :
    rules.ignores rules.templatesDir = true := by
  have hdir := templatesDir_of_ofConfig h
  have htrim : Text.trimChar '/' rules.templatesDir.toList = rules.templatesDir.toList := by
    rw [hdir, String.toList_ofList, Text.trimChar_trimChar]
  have hempty : rules.templatesDir.toList.isEmpty = false := by
    rw [hdir, String.toList_ofList, List.isEmpty_eq_false_iff]
    exact hne
  rw [ignores, htrim, ignoresTrimmed, hempty, if_neg Bool.false_ne_true]
  simp

end Rules

/-! ## Beginnings by byte offsets -/

/-- The judgement on a path by the parts up to the ends of some pieces, the first of which begins at
the offset; there is none if the path has no such part. -/
def ignoresBySlicesFrom? (rules : IgnoreRules) (path : List Char) (offset : Nat) :
    List (List Char) → Option Bool
  | [] => some false
  | piece :: pieces =>
    let stop := offset + Template.byteLength piece
    (Template.slice? path 0 stop).bind fun start =>
      if rules.ignores (String.ofList start) then some true
      else ignoresBySlicesFrom? rules path (stop + 1) pieces

/-- The judgement on a path by the parts of it that end where a piece ends. -/
def ignoresBySlices? (rules : IgnoreRules) (path : String) : Option Bool :=
  let path := Text.trimChar '/' path.toList
  ignoresBySlicesFrom? rules path 0 (Text.splitOn '/' path)

/-- Behind the pieces that have been judged, the path goes on with those that are left. -/
theorem ignoresBySlicesFrom?_eq (rules : IgnoreRules) {path before : List Char}
    {pieces : List (List Char)}
    (h : pieces ≠ [] → path = before ++ Text.joinWith ['/'] pieces) :
    ignoresBySlicesFrom? rules path (Template.byteLength before) pieces =
      some ((beginnings before pieces).any fun start =>
        rules.ignores (String.ofList start)) := by
  induction pieces generalizing before with
  | nil => rfl
  | cons piece pieces ih =>
      have hpath := h (List.cons_ne_nil _ _)
      have hslice : Template.slice? path 0
          (Template.byteLength before + Template.byteLength piece) = some (before ++ piece) := by
        obtain ⟨rest, hrest⟩ : ∃ rest, path = before ++ piece ++ rest := by
          rw [hpath]
          cases pieces with
          | nil => exact ⟨[], by simp [Text.joinWith]⟩
          | cons second rest =>
              rw [Text.joinWith_cons_cons, ← List.append_assoc]
              exact ⟨_, rfl⟩
        rw [hrest, ← Template.byteLength_append]
        have hpart := Template.slice?_append [] (before ++ piece) rest
        rwa [List.nil_append, Template.byteLength_nil, Nat.zero_add] at hpart
      have hnext : Template.byteLength before + Template.byteLength piece + 1 =
          Template.byteLength (before ++ piece ++ ['/']) := by
        rw [Template.byteLength_append, Template.byteLength_append]
        rfl
      rw [ignoresBySlicesFrom?, hslice, Option.bind_some, beginnings, List.any_cons, hnext]
      cases rules.ignores (String.ofList (before ++ piece)) with
      | true => rfl
      | false =>
          rw [if_neg Bool.false_ne_true, Bool.false_or]
          refine ih fun hne => ?_
          obtain ⟨second, rest, rfl⟩ := List.exists_cons_of_ne_nil hne
          rw [hpath, Text.joinWith_cons_cons, List.append_assoc, List.append_assoc]

theorem ignoresBySlices?_eq (rules : IgnoreRules) (path : String) :
    rules.ignoresBySlices? path = some (rules.ignoresWithin path) := by
  have hwhole : Text.splitOn '/' (Text.trimChar '/' path.toList) ≠ [] →
      Text.trimChar '/' path.toList =
        [] ++ Text.joinWith ['/'] (Text.splitOn '/' (Text.trimChar '/' path.toList)) :=
    fun _ => (Text.joinWith_splitOn '/' _).symm
  rw [ignoresBySlices?, ignoresWithin]
  simp only [← ignores_ofList]
  exact ignoresBySlicesFrom?_eq rules hwhole

/-- A path is left out just if one of its beginnings is, all of which can be taken from it by byte
offsets.  So everything below a path that is left out is left out with it, and so is everything
within the templates folder, if it has a name. -/
theorem ignoresWithin_downward_closed (rules : IgnoreRules) (path : String) :
    rules.ignoresBySlices? path = some (rules.ignoresWithin path) ∧
      (rules.ignoresWithin path = true ↔
        ∃ start, IsBeginning start (Text.trimChar '/' path.toList) ∧
          rules.ignores (String.ofList start) = true) ∧
      (rules.ignoresWithin path = true →
        ∀ below, rules.ignoresWithin (path ++ "/" ++ below) = true) ∧
      ∀ c, ofConfig c = .ok rules → Text.trimChar '/' c.build.templatesDir.toList ≠ [] →
        rules.isWithinTemplates path = true → rules.ignoresWithin path = true := by
  refine ⟨rules.ignoresBySlices?_eq path, rules.ignoresWithin_iff path,
    rules.ignoresWithin_below, ?_⟩
  intro c hrules hne hwithin
  refine (rules.ignoresWithin_iff path).mpr ⟨rules.templatesDir.toList, ?_, ?_⟩
  · exact (rules.isWithinTemplates_iff path).mp hwithin
  · rw [String.ofList_toList]
    exact ignores_templatesDir hrules hne

/-- A templates folder in a folder with an accent, and two slashes in a row. -/
theorem ignoresWithin_downward_closed_nested :
    ∃ rules, ofConfig { build := { templatesDir := "/vues-é/tpl/" } } = .ok rules ∧
      Text.trimChar '/' "/vues-é/tpl/".toList ≠ [] ∧
      rules.isWithinTemplates "/vues-é/tpl/" = true ∧
      rules.ignoresWithin "/vues-é/tpl/" = true ∧
      rules.ignoresWithin ("/vues-é/tpl/" ++ "/" ++ "a.html") = true := by
  refine ⟨⟨⟨[]⟩, ⟨[]⟩, "vues-é/tpl"⟩, by cbv, by decide, by decide, ?_⟩
  obtain ⟨-, -, hbelow, htemplates⟩ :=
    ignoresWithin_downward_closed ⟨⟨[]⟩, ⟨[]⟩, "vues-é/tpl"⟩ "/vues-é/tpl/"
  have hignored := htemplates { build := { templatesDir := "/vues-é/tpl/" } }
    (by cbv) (by decide) (by decide)
  exact ⟨hignored, hbelow hignored "a.html"⟩

end IgnoreRules

end StaticSite
