/-
Output patterns as one substitution.

A pattern consists of letters and placeholders (`pieces`), and `substitute` puts a text in the place
of every placeholder at once.  Filling in goes by kind instead, folders by number first, then the
path, the name and the extension, and looks again at what it has filled in.  Main statement: it is
the substitution as long as no text reads as a placeholder before this one has its turn
(`FillsOnce`); for documents it is enough that no folder is named with the placeholders of names and
extensions, and no file with that of extensions (`apply_eq_substitute`).
-/
import StaticSite.Proofs.Output.Filling

namespace StaticSite.Output

/-! ## Pieces of a pattern -/

/-- A placeholder that is a single word. -/
inductive Field where
  | path
  | name
  | ext
  deriving Repr, DecidableEq

namespace Field

/-- All fields in the order in which they are filled in. -/
def all : List Field := [path, name, ext]

/-- The place of a field in this order. -/
def turn : Field → Nat
  | path => 0
  | name => 1
  | ext => 2

/-- How a field is written. -/
def source : Field → List Char
  | path => "[path]".toList
  | name => "[name]".toList
  | ext => "[ext]".toList

/-- The field at the front of a text, with what follows. -/
def read (cs : List Char) : Option (Field × List Char) :=
  all.findSome? fun f => (Text.afterPrefix? f.source cs).map fun after => (f, after)

end Field

/-- A placeholder of a pattern. -/
inductive Placeholder where
  /-- A folder by its number, or the last one. -/
  | folder (index : FolderIndex)
  | field (f : Field)
  deriving Repr, DecidableEq

namespace Placeholder

/-- How a placeholder is written. -/
def source : Placeholder → List Char
  | folder .last => "[path:last]".toList
  | folder (.at digits) => "[path:".toList ++ digits ++ [']']
  | field f => f.source

/-- The placeholder at the front of a text, with what follows. -/
def read (cs : List Char) : Option (Placeholder × List Char) :=
  match readFolderIndex cs with
  | some (index, after) => some (.folder index, after)
  | none => (Field.read cs).map fun (f, after) => (.field f, after)

end Placeholder

theorem Field.eq_of_read {f : Field} {cs after : List Char} (h : read cs = some (f, after)) :
    cs = f.source ++ after := by
  obtain ⟨g, -, hg⟩ := List.exists_of_findSome?_eq_some h
  obtain ⟨after', hafter, heq⟩ := Option.map_eq_some_iff.mp hg
  cases heq
  exact Text.eq_append_of_afterPrefix? hafter

theorem Placeholder.read_length {p : Placeholder} {cs after : List Char}
    (h : read cs = some (p, after)) : after.length < cs.length := by
  unfold read at h
  split at h
  · rename_i hindex
    cases h
    exact readFolderIndex_length hindex
  · obtain ⟨⟨f, after'⟩, hfield, heq⟩ := Option.map_eq_some_iff.mp h
    cases heq
    have hpos : 0 < f.source.length := by cases f <;> decide
    rw [Field.eq_of_read hfield, List.length_append]
    omega

/-- A piece of a pattern. -/
inductive Piece where
  | letter (c : Char)
  | hole (p : Placeholder)
  deriving Repr, DecidableEq

/-- The placeholders of a pattern and the letters between them. -/
def pieces (cs : List Char) : List Piece :=
  match cs with
  | [] => []
  | c :: rest =>
    match _h : Placeholder.read (c :: rest) with
    | some (p, after) => .hole p :: pieces after
    | none => .letter c :: pieces rest
termination_by cs.length
decreasing_by
  · exact Placeholder.read_length ‹_›
  · simp

/-- Pieces with texts in the place of the placeholders. -/
def textWith (value : Placeholder → List Char) (ps : List Piece) : List Char :=
  ps.flatMap fun
    | .letter c => [c]
    | .hole p => value p

/-- A pattern with texts in the place of its placeholders, all at once. -/
def substitute (value : Placeholder → List Char) (pattern : List Char) : List Char :=
  textWith value (pieces pattern)

/-- The text that a placeholder stands for. -/
def valueOf (dir name ext : String) : Placeholder → List Char
  | .folder index => folderAt (folders dir) index
  | .field .path => Text.joinWith ['/'] (folders dir)
  | .field .name => name.toList
  | .field .ext => ext.toList

/-- What has been filled in before a turn: all folders with a number and the fields of earlier
turns. -/
def filledBefore (turn : Nat) (dir name ext : String) : Placeholder → Option (List Char)
  | .folder index => some (valueOf dir name ext (.folder index))
  | .field g => if g.turn < turn then some (valueOf dir name ext (.field g)) else none

/-- No text reads as a field before this field has its turn.  The placeholders that are still there
then are left out of the text, with a slash in their place. -/
def FillsOnce (pattern dir name ext : String) : Prop :=
  ∀ f ∈ Field.all, ¬ f.source <:+:
    substitute (fun p => (filledBefore f.turn dir name ext p).getD ['/']) pattern.toList

instance (pattern dir name ext : String) : Decidable (FillsOnce pattern dir name ext) :=
  inferInstanceAs (Decidable (∀ f ∈ Field.all, _))

section Pieces

variable {value : Placeholder → List Char} {ps : List Piece} {c : Char} {p : Placeholder}

@[simp] theorem textWith_nil : textWith value [] = [] := rfl

@[simp] theorem textWith_letter :
    textWith value (.letter c :: ps) = c :: textWith value ps := rfl

@[simp] theorem textWith_hole :
    textWith value (.hole p :: ps) = value p ++ textWith value ps := List.flatMap_cons

end Pieces

/-! ## Folders by number -/

section Folders

variable {dirs : List (List Char)} {c : Char} {cs : List Char}

theorem fillFolders_cons (h : readFolderIndex (c :: cs) = none) :
    fillFolders dirs (c :: cs) = c :: fillFolders dirs cs := by
  rw [fillFolders]
  split
  · rename_i hsome
    rw [h] at hsome
    cases hsome
  · rfl

theorem readFolderIndex_of_ne (h : c ≠ '[') : readFolderIndex (c :: cs) = none := by
  have hnone : Text.afterPrefix? "[path:".toList (c :: cs) = none := by
    refine Option.eq_none_iff_forall_ne_some.mpr fun after hafter => ?_
    exact h (List.cons.inj (Text.eq_append_of_afterPrefix? hafter)).1
  rw [readFolderIndex, hnone]

theorem fillFolders_append {text : List Char} (h : '[' ∉ text) (rest : List Char) :
    fillFolders dirs (text ++ rest) = text ++ fillFolders dirs rest := by
  induction text with
  | nil => rfl
  | cons c text ih =>
      obtain ⟨hc, htext⟩ := List.ne_and_not_mem_of_not_mem_cons h
      rw [List.cons_append, fillFolders_cons (readFolderIndex_of_ne (Ne.symm hc)), ih htext,
        List.cons_append]

/-- A field is a bracket and a text without further ones. -/
theorem Field.source_eq (f : Field) : ∃ text, f.source = '[' :: text ∧ '[' ∉ text := by
  cases f
  · exact ⟨"path]".toList, by decide⟩
  · exact ⟨"name]".toList, by decide⟩
  · exact ⟨"ext]".toList, by decide⟩

/-- Before the first field has its turn, the folders with a number are filled in. -/
theorem fillFolders_eq (dir name ext : String) (cs : List Char) :
    fillFolders (folders dir) cs =
      substitute (fun p => (filledBefore 0 dir name ext p).getD p.source) cs := by
  unfold substitute
  fun_induction pieces cs with
  | case1 => rw [fillFolders, textWith_nil]
  | case2 c rest p after hread ih =>
      rw [textWith_hole, ← ih]
      unfold Placeholder.read at hread
      split at hread
      · rename_i index after' hindex
        cases hread
        rw [fillFolders, hindex]
        rfl
      · rename_i hindex
        obtain ⟨⟨f, tail⟩, hfield, heq⟩ := Option.map_eq_some_iff.mp hread
        cases heq
        obtain ⟨text, hsource, htext⟩ := f.source_eq
        obtain ⟨rfl, rfl⟩ : c = '[' ∧ rest = text ++ after := by
          have hcs := Field.eq_of_read hfield
          rwa [hsource, List.cons_append, List.cons.injEq] at hcs
        rw [fillFolders_cons hindex, fillFolders_append htext]
        exact congrArg (· ++ _) hsource.symm
  | case3 c rest hread ih =>
      have hindex : readFolderIndex (c :: rest) = none := by
        unfold Placeholder.read at hread
        split at hread
        · cases hread
        · assumption
      rw [textWith_letter, fillFolders_cons hindex, ih]

end Folders

/-! ## Fields in turn -/

section Fields

variable {part image before rest : List Char}

/-- Replacing passes over a text in which no occurrence begins. -/
theorem replaceAll_append_left (h : ∀ t, t ≠ [] → t <:+ before → ¬ part <+: t ++ rest) :
    replaceAll part image (before ++ rest) = before ++ replaceAll part image rest := by
  induction before with
  | nil => rfl
  | cons c before ih =>
      have hc := h (c :: before) (List.cons_ne_nil c before) List.suffix_rfl
      rw [List.cons_append] at hc
      rw [List.cons_append, replaceAll_cons hc, List.cons_append,
        ih fun t ht hsuffix => h t ht (hsuffix.trans (List.suffix_cons c before))]

/-- If texts without brackets that begin one text begin another one, then they do so with the same
text before the two. -/
theorem prefix_append_of_prefix {rest' : List Char}
    (h : ∀ part, '[' ∉ part → part <+: rest → part <+: rest') (hpart : '[' ∉ part)
    (hbegins : part <+: before ++ rest) : part <+: before ++ rest' := by
  induction before generalizing part with
  | nil => exact h part hpart hbegins
  | cons c before ih =>
      cases part with
      | nil => exact List.nil_prefix
      | cons d part =>
          rw [List.cons_append, List.cons_prefix_cons] at hbegins ⊢
          exact ⟨hbegins.1, ih (List.not_mem_of_not_mem_cons hpart) hbegins.2⟩

variable {turn : Nat} {dir name ext : String} {p : Placeholder} {f : Field} {ps : List Piece}

theorem eq_field_of_filledBefore_eq_none (h : filledBefore turn dir name ext p = none) :
    ∃ g : Field, p = .field g := by
  cases p with
  | folder index => cases h
  | field g => exact ⟨g, rfl⟩

/-- Reading on without brackets does not reach into a placeholder that is still there. -/
theorem prefix_of_prefix_textWith (hpart : '[' ∉ part)
    (h : part <+: textWith (fun p => (filledBefore turn dir name ext p).getD p.source) ps) :
    part <+: textWith (fun p => (filledBefore turn dir name ext p).getD ['/']) ps := by
  induction ps generalizing part with
  | nil => exact h
  | cons piece ps ih =>
      cases piece with
      | letter c =>
          rw [textWith_letter, ← List.singleton_append] at h ⊢
          exact prefix_append_of_prefix (fun _ => ih) hpart h
      | hole p =>
          rw [textWith_hole] at h ⊢
          cases hvalue : filledBefore turn dir name ext p with
          | some text =>
              rw [hvalue] at h
              exact prefix_append_of_prefix (fun _ => ih) hpart h
          | none =>
              obtain ⟨g, rfl⟩ := eq_field_of_filledBefore_eq_none hvalue
              obtain ⟨text, hsource, -⟩ := g.source_eq
              rw [hvalue] at h
              cases part with
              | nil => exact List.nil_prefix
              | cons d part =>
                  have hd : d = '[' := by
                    have hbegins : d :: part <+: g.source ++ _ := h
                    rw [hsource, List.cons_append, List.cons_prefix_cons] at hbegins
                    exact hbegins.1
                  exact absurd (hd ▸ List.mem_cons_self) hpart

/-- The text after one kind is not read as a field, if it is not with the other fields left out. -/
theorem not_prefix_append (hbefore : before ≠ [])
    (h : ¬ f.source <:+: before ++
      textWith (fun p => (filledBefore turn dir name ext p).getD ['/']) ps) :
    ¬ f.source <+: before ++
      textWith (fun p => (filledBefore turn dir name ext p).getD p.source) ps := by
  intro hbegins
  obtain ⟨text, hsource, htext⟩ := f.source_eq
  obtain ⟨c, before, rfl⟩ := List.exists_cons_of_ne_nil hbefore
  rw [hsource, List.cons_append, List.cons_prefix_cons] at hbegins
  refine h (List.IsPrefix.isInfix ?_)
  rw [hsource, List.cons_append, List.cons_prefix_cons]
  exact ⟨hbegins.1, prefix_append_of_prefix (fun _ => prefix_of_prefix_textWith) htext hbegins.2⟩

/-- In a field, no other one begins. -/
theorem not_prefix_of_suffix_source {g : Field} (hne : g ≠ f) (hbefore : before ≠ [])
    (hsuffix : before <:+ g.source) : ¬ f.source <+: before ++ rest := by
  intro hbegins
  obtain ⟨c, before, rfl⟩ := List.exists_cons_of_ne_nil hbefore
  obtain ⟨text, hsource, htext⟩ := g.source_eq
  rw [hsource, List.suffix_cons_iff] at hsuffix
  rcases hsuffix with hall | hlater
  · rw [hall, ← hsource] at hbegins
    obtain ⟨after, hafter⟩ := hbegins
    -- the two differ in the letter behind the bracket
    have hletter : ∀ (k : Field) (cs : List Char), (k.source ++ cs)[1]? = k.source[1]? := by
      intro k cs
      cases k <;> rfl
    have hinj : f.source[1]? = g.source[1]? → g = f := by cases f <;> cases g <;> decide
    refine hne (hinj ?_)
    rw [← hletter f after, ← hletter g rest, hafter]
  · obtain ⟨text', hsource', -⟩ := f.source_eq
    rw [hsource', List.cons_append, List.cons_prefix_cons] at hbegins
    exact htext (hlater.subset (hbegins.1 ▸ List.mem_cons_self))

theorem filledBefore_self : filledBefore f.turn dir name ext (.field f) = none := by
  simp [filledBefore]

theorem filledBefore_succ (hne : p ≠ .field f) :
    filledBefore (f.turn + 1) dir name ext p = filledBefore f.turn dir name ext p := by
  cases p with
  | folder index => rfl
  | field g =>
      have hinj : g.turn = f.turn → g = f := by cases f <;> cases g <;> decide
      have hturn : g.turn ≠ f.turn := fun h => hne (hinj h ▸ rfl)
      simp only [filledBefore]
      congr 1
      simp only [eq_iff_iff]
      omega

/-- One field is filled in when it is its turn. -/
theorem replaceAll_field
    (h : ¬ f.source <:+:
      textWith (fun p => (filledBefore f.turn dir name ext p).getD ['/']) ps) :
    replaceAll f.source (valueOf dir name ext (.field f))
        (textWith (fun p => (filledBefore f.turn dir name ext p).getD p.source) ps) =
      textWith (fun p => (filledBefore (f.turn + 1) dir name ext p).getD p.source) ps := by
  induction ps with
  | nil => exact replaceAll_nil _ _
  | cons piece ps ih =>
      cases piece with
      | letter c =>
          have hnot := not_prefix_append (List.cons_ne_nil c []) h
          rw [List.singleton_append] at hnot
          rw [textWith_letter, replaceAll_cons hnot, textWith_letter,
            ih fun hwithin => h (hwithin.trans (List.suffix_cons c _).isInfix)]
      | hole p =>
          rw [textWith_hole] at h ⊢
          rw [textWith_hole, ← ih fun hwithin => h (hwithin.trans (List.suffix_append _ _).isInfix)]
          by_cases hp : p = .field f
          · have hpart : f.source ≠ [] := by cases f <;> decide
            have hfilled : filledBefore (f.turn + 1) dir name ext (.field f) =
                some (valueOf dir name ext (.field f)) := by
              simp [filledBefore]
            subst hp
            rw [filledBefore_self, hfilled, Option.getD_none, Option.getD_some]
            exact replaceAll_append hpart _ _
          · rw [filledBefore_succ hp]
            refine replaceAll_append_left fun t ht hsuffix => ?_
            cases hvalue : filledBefore f.turn dir name ext p with
            | some text =>
                rw [hvalue, Option.getD_some] at h hsuffix
                obtain ⟨start, rfl⟩ := hsuffix
                refine not_prefix_append ht fun hwithin => h (hwithin.trans ?_)
                exact ⟨start, [], by simp⟩
            | none =>
                obtain ⟨g, rfl⟩ := eq_field_of_filledBefore_eq_none hvalue
                rw [hvalue] at hsuffix
                exact not_prefix_of_suffix_source (fun heq => hp (heq ▸ rfl)) ht hsuffix

end Fields

/-! ## Substituting -/

section Substituting

variable {value : Placeholder → List Char} {text : List Char}

theorem read_field (f : Field) (rest : List Char) :
    Placeholder.read (f.source ++ rest) = some (.field f, rest) := by
  cases f <;> rfl

theorem substitute_field (f : Field) (rest : List Char) :
    substitute value (f.source ++ rest) = value (.field f) ++ substitute value rest := by
  obtain ⟨text, hsource, -⟩ := f.source_eq
  have hread := read_field f rest
  rw [hsource, List.cons_append] at hread ⊢
  unfold substitute
  rw [pieces]
  split
  · rename_i p after hsome
    rw [hread] at hsome
    cases hsome
    rw [textWith_hole]
  · rename_i hnone
    rw [hread] at hnone
    cases hnone

theorem substitute_append (h : '[' ∉ text) (rest : List Char) :
    substitute value (text ++ rest) = text ++ substitute value rest := by
  unfold substitute
  induction text with
  | nil => rfl
  | cons c text ih =>
      obtain ⟨hc, htext⟩ := List.ne_and_not_mem_of_not_mem_cons h
      have hfield : Field.read (c :: (text ++ rest)) = none := by
        refine Option.eq_none_iff_forall_ne_some.mpr fun (f, after) hread => ?_
        obtain ⟨tail, hsource, -⟩ := f.source_eq
        have hcs := Field.eq_of_read hread
        rw [hsource, List.cons_append, List.cons.injEq] at hcs
        exact hc hcs.1.symm
      have hnone : Placeholder.read (c :: (text ++ rest)) = none := by
        rw [Placeholder.read, readFolderIndex_of_ne (Ne.symm hc), hfield]
        rfl
      rw [List.cons_append, pieces]
      split
      · rename_i hsome
        rw [hnone] at hsome
        cases hsome
      · rw [textWith_letter, ih htext, List.cons_append]

theorem substitute_of_not_mem (h : '[' ∉ text) : substitute value text = text := by
  have hnil : substitute value [] = [] := by rw [substitute, pieces, textWith_nil]
  have happend : substitute value (text ++ []) = text ++ substitute value [] :=
    substitute_append h []
  rwa [hnil, List.append_nil] at happend

end Substituting

/-! ## Occurrences -/

section Occurrences

variable {part before rest : List Char} {texts : List (List Char)} {c : Char}

/-- What does not hold a character occurs on one side of it. -/
theorem infix_of_append_cons (hc : c ∉ part)
    (h : part <:+: before ++ c :: rest) : part <:+: before ∨ part <:+: rest := by
  induction before with
  | nil =>
      rcases List.infix_cons_iff.mp h with hbegins | hwithin
      · exact .inl (prefix_of_append_cons hc [] hbegins).isInfix
      · exact .inr hwithin
  | cons d before ih =>
      rcases List.infix_cons_iff.mp h with hbegins | hwithin
      · exact .inl (prefix_of_append_cons hc (d :: before) hbegins).isInfix
      · exact (ih hwithin).imp_left fun hbefore => hbefore.trans (List.suffix_cons d before).isInfix

theorem infix_of_joinWith (hpart : part ≠ []) (hc : c ∉ part)
    (h : part <:+: Text.joinWith [c] texts) : ∃ text ∈ texts, part <:+: text := by
  induction texts with
  | nil => exact absurd (List.infix_nil.mp h) hpart
  | cons text texts ih =>
      cases texts with
      | nil => exact ⟨text, List.mem_cons_self, by simpa [Text.joinWith] using h⟩
      | cons second rest =>
          rw [Text.joinWith_cons_cons, List.singleton_append] at h
          rcases infix_of_append_cons hc h with hfirst | hlater
          · exact ⟨text, List.mem_cons_self, hfirst⟩
          · obtain ⟨text', hmem, hwithin⟩ := ih hlater
            exact ⟨text', List.mem_cons_of_mem text hmem, hwithin⟩

end Occurrences

/-! ## Output paths -/

section Paths

variable {pattern dir name ext : String}

/-- All placeholders are filled in at last. -/
theorem filledBefore_three (dir name ext : String) (p : Placeholder) :
    (filledBefore 3 dir name ext p).getD p.source = valueOf dir name ext p := by
  cases p with
  | folder index => rfl
  | field f => cases f <;> rfl

/-- The folders with a number come first, then one field after the other. -/
theorem apply_eq_replaceAll (pattern dir name ext : String) :
    apply pattern dir name ext = String.ofList (tidy
      (replaceAll Field.ext.source (valueOf dir name ext (.field .ext))
        (replaceAll Field.name.source (valueOf dir name ext (.field .name))
          (replaceAll Field.path.source (valueOf dir name ext (.field .path))
            (fillFolders (folders dir) pattern.toList))))) := rfl

theorem apply_of_fillsOnce (h : FillsOnce pattern dir name ext) :
    apply pattern dir name ext =
      String.ofList (tidy (substitute (valueOf dir name ext) pattern.toList)) := by
  have hpath := replaceAll_field (h .path (by decide))
  have hname := replaceAll_field (h .name (by decide))
  have hext := replaceAll_field (h .ext (by decide))
  simp only [Field.turn, zero_add, Nat.reduceAdd] at hpath hname hext
  rw [apply_eq_replaceAll, fillFolders_eq dir name ext, substitute, hpath, hname, hext]
  simp only [filledBefore_three]
  rfl

/-- What follows the name of a document. -/
def documentEnding (c : Config) (name : String) : String :=
  if c.build.useFileNames || name == "index" then ".html" else "/index.html"

theorem substitute_documentPattern {value : Placeholder → List Char} (c : Config) (name : String) :
    substitute value (documentPattern c name).toList =
      value (.field .path) ++ '/' ::
        (value (.field .name) ++ (documentEnding c name).toList) := by
  have hpattern : (documentPattern c name).toList =
      Field.path.source ++
        ("/".toList ++ (Field.name.source ++ (documentEnding c name).toList)) := by
    unfold documentPattern documentEnding
    split <;> rfl
  have hending : '[' ∉ (documentEnding c name).toList := by
    unfold documentEnding
    split <;> decide
  rw [hpattern, substitute_field, substitute_append (by decide), substitute_field,
    substitute_of_not_mem hending]
  rfl

theorem infix_of_documentEnding {f : Field} {text : List Char} {c : Config}
    (h : f.source <:+: text ++ (documentEnding c name).toList) : f.source <:+: text := by
  have hhtml : ¬ f.source <:+: "html".toList := by cases f <;> decide
  have hindex : ¬ f.source <:+: "index.html".toList := by cases f <;> decide
  unfold documentEnding at h
  split at h
  · exact (infix_of_append_cons (c := '.') (by cases f <;> decide) h).resolve_right hhtml
  · exact (infix_of_append_cons (c := '/') (by cases f <;> decide) h).resolve_right hindex

theorem fillsOnce_documentPattern (c : Config)
    (hdir : ∀ folder ∈ folders dir, HasNoPlaceholder (String.ofList folder))
    (hname : ¬ "[ext]".toList <:+: name.toList) :
    FillsOnce (documentPattern c name) dir name ext := by
  intro f _ h
  rw [substitute_documentPattern] at h
  have hslash : '/' ∉ f.source := by cases f <;> decide
  have hopen : ∀ g : Field, ¬ g.source <:+: ['/'] := by intro g; cases g <;> decide
  rcases infix_of_append_cons hslash h with hdirs | hrest
  · have hfolder : f ≠ .path → ∃ folder ∈ folders dir, f.source <:+: folder := fun hf => by
      refine infix_of_joinWith (by cases f <;> decide) hslash ?_
      cases f
      · exact absurd rfl hf
      · exact hdirs
      · exact hdirs
    cases f with
    | path => exact hopen .path hdirs
    | name =>
        obtain ⟨folder, hmem, hwithin⟩ := hfolder (by decide)
        refine (hdir folder hmem).1 ?_
        rw [String.toList_ofList (l := folder)]
        exact hwithin
    | ext =>
        obtain ⟨folder, hmem, hwithin⟩ := hfolder (by decide)
        refine (hdir folder hmem).2 ?_
        rw [String.toList_ofList (l := folder)]
        exact hwithin
  · have hfilled := infix_of_documentEnding hrest
    cases f with
    | path => exact hopen .path hfilled
    | name => exact hopen .name hfilled
    | ext => exact hname hfilled

theorem tidy_folders (dir : String) (rest : List Char) :
    tidy (Text.joinWith ['/'] (folders dir) ++ '/' :: rest) =
      Text.joinWith ['/'] (folders dir ++
        (Text.splitOn '/' rest).filter fun piece => !piece.isEmpty) := by
  have hfolders : ∀ folder ∈ folders dir, folder ≠ [] ∧ '/' ∉ folder := by
    intro folder hmem
    obtain ⟨hpiece, hname⟩ := List.mem_filter.mp hmem
    refine ⟨fun hnil => ?_, Text.not_mem_of_mem_splitOn hpiece⟩
    simp [hnil] at hname
  have hsplit : (Text.splitOn '/' (Text.joinWith ['/'] (folders dir))).filter
      (fun piece => !piece.isEmpty) = folders dir := by
    by_cases hnil : folders dir = []
    · rw [hnil]
      rfl
    · rw [Text.splitOn_eq]
      change (List.splitOn '/' (['/'].intercalate _)).filter _ = _
      rw [List.splitOn_intercalate '/' (fun folder hmem => (hfolders folder hmem).2) hnil]
      exact List.filter_eq_self.mpr fun folder hmem => by simpa using (hfolders folder hmem).1
  rw [tidy, splitOn_append_slash, List.filter_append, hsplit]

/-- The output path of a pattern is the pattern with all its placeholders substituted at once, as
long as nothing is filled in twice.  That of a document is then the folders of its file and its own
name. -/
theorem apply_eq_substitute (pattern dir name ext : String) (c : Config) :
    (FillsOnce pattern dir name ext →
      apply pattern dir name ext =
        String.ofList (tidy (substitute (valueOf dir name ext) pattern.toList))) ∧
    ((∀ folder ∈ folders dir, HasNoPlaceholder (String.ofList folder)) →
      ¬ "[ext]".toList <:+: name.toList →
      apply (documentPattern c name) dir name ext =
        String.ofList (Text.joinWith ['/'] (folders dir ++
          (Text.splitOn '/' (name.toList ++ (documentEnding c name).toList)).filter
            fun piece => !piece.isEmpty))) := by
  refine ⟨apply_of_fillsOnce, fun hdir hname => ?_⟩
  rw [apply_of_fillsOnce (fillsOnce_documentPattern c hdir hname), substitute_documentPattern]
  exact congrArg String.ofList (tidy_folders dir _)

theorem apply_eq_substitute_notes :
    apply "[path:0]/[path:last]/[name].[ext]" "notes/./today" "a" "md" = "notes/today/a.md" ∧
      apply (documentPattern {} "[name]") "notes/[path]" "[name]" "md" =
        "notes/[path]/[name]/index.html" := by
  have hfills : FillsOnce "[path:0]/[path:last]/[name].[ext]" "notes/./today" "a" "md" := by
    decide +kernel
  constructor
  · rw [(apply_eq_substitute _ "notes/./today" "a" "md" {}).1 hfills]
    decide +kernel
  · rw [(apply_eq_substitute "" "notes/[path]" "[name]" "md" {}).2 (by decide) (by decide)]
    decide +kernel

/-- A folder that is called like the placeholder of names is given the name, and a file that is
called like the one of extensions is given the extension. -/
theorem apply_placeholder_folder :
    (apply (documentPattern {} "a") "[name]" "a" "md" = "a/a/index.html" ∧
      String.ofList (tidy (substitute (valueOf "[name]" "a" "md")
        (documentPattern {} "a").toList)) = "[name]/a/index.html") ∧
    (apply (documentPattern {} "[ext]") "" "[ext]" "md" = "md/index.html" ∧
      String.ofList (tidy (substitute (valueOf "" "[ext]" "md")
        (documentPattern {} "[ext]").toList)) = "[ext]/index.html") := by
  rw [substitute_documentPattern, substitute_documentPattern]
  refine ⟨⟨?_, ?_⟩, ?_, ?_⟩ <;> decide +kernel

end Paths

end StaticSite.Output
