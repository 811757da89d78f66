/-
What a change of files leaves as it is.

Making folders and writing files only adds: folders and links stay, and a file stays a file
(`Grows`).  So a path that leads somewhere leads there ever after (`Grows.locate`), although folders
that were missing on its way may have been made.  `ChangesOnly W` says more: outside of the places
in `W` every file is as it was.  There is one lemma for each operation, and `ChangesOnly` is closed
under composition, so that it can be carried along a run.
-/
import Mathlib.Data.Set.Basic
import StaticSite.Proofs.FileSystem.Tree

namespace StaticSite.FileSystem

variable {fs fs' fs'' : FileSystem} {place : Place} {path : String} {now : Int}

/-! ## Growth -/

/-- What may become of a place when folders are made and files are written. -/
inductive Becomes : Option FileEntry → Option FileEntry → Prop
  | same (entry : Option FileEntry) : Becomes entry entry
  | made : Becomes none (some .folder)
  | new {content : ByteArray} {modified : Int} : Becomes none (some (.file content modified))
  | rewritten {content content' : ByteArray} {modified modified' : Int} :
      Becomes (some (.file content modified)) (some (.file content' modified'))

theorem Becomes.trans {x y z : Option FileEntry} (hxy : Becomes x y) (hyz : Becomes y z) :
    Becomes x z := by
  cases hxy with
  | same => exact hyz
  | made =>
      cases hyz with
      | same => exact .made
  | new =>
      cases hyz with
      | same => exact .new
      | rewritten => exact .new
  | rewritten =>
      cases hyz with
      | same => exact .rewritten
      | rewritten => exact .rewritten

/-- Folders have been made and files have been written. -/
structure Grows (fs fs' : FileSystem) : Prop where
  workingFolder_eq : fs'.workingFolder = fs.workingFolder
  becomes : ∀ place, Becomes (fs.get? place) (fs'.get? place)

namespace Grows

theorem refl (fs : FileSystem) : Grows fs fs := ⟨rfl, fun _ => .same _⟩

theorem trans (h : Grows fs fs') (h' : Grows fs' fs'') : Grows fs fs'' :=
  ⟨h'.workingFolder_eq.trans h.workingFolder_eq, fun place => (h.becomes place).trans
    (h'.becomes place)⟩

theorem get?_folder (h : Grows fs fs') (hplace : fs.get? place = some .folder) :
    fs'.get? place = some .folder := by
  have hbecomes := hplace ▸ h.becomes place
  generalize fs'.get? place = entry at hbecomes
  cases hbecomes
  rfl

theorem get?_link (h : Grows fs fs') {target : String}
    (hplace : fs.get? place = some (.link target)) : fs'.get? place = some (.link target) := by
  have hbecomes := hplace ▸ h.becomes place
  generalize fs'.get? place = entry at hbecomes
  cases hbecomes
  rfl

/-- No links are made. -/
theorem hasNoLinks (h : Grows fs fs') (hlinks : fs.HasNoLinks) : fs'.HasNoLinks := by
  intro place target hplace
  have hbecomes := hplace ▸ h.becomes place
  generalize hentry : fs.get? place = entry at hbecomes
  cases hbecomes
  exact hlinks place target hentry

theorem leads (h : Grows fs fs') {links : Nat} {here : Place} {parts : List Path.Component}
    (hleads : Leads fs links here parts place) : Leads fs' links here parts place := by
  induction hleads with
  | stop => exact .stop
  | root _ ih => exact .root ih
  | current _ ih => exact .current ih
  | parent _ ih => exact .parent ih
  | folder hname _ ih => exact .folder (h.get?_folder hname) ih
  | link hname _ ih => exact .link (h.get?_link hname) ih
  | @file links here name _ _ hname =>
      have hbecomes := hname ▸ h.becomes (here ++ [name])
      generalize hentry : fs'.get? (here ++ [name]) = entry at hbecomes
      cases hbecomes with
      | same => exact .file hentry
      | rewritten => exact .file hentry
  | @free links here name hname =>
      have hbecomes := hname ▸ h.becomes (here ++ [name])
      generalize hentry : fs'.get? (here ++ [name]) = entry at hbecomes
      cases hbecomes with
      | same => exact .free hentry
      -- what was free is a folder now, and the path leads into it
      | made => exact .folder hentry .stop
      | new => exact .file hentry

/-- A path that leads somewhere leads there ever after. -/
theorem locate (h : Grows fs fs') (hlocate : fs.locate path = .ok place) :
    fs'.locate path = .ok place := by
  unfold FileSystem.locate locateParts at hlocate ⊢
  split at hlocate
  · cases hlocate
  · rename_i hne
    rw [if_neg hne, h.workingFolder_eq]
    exact (h.leads (leads_of_walkTo hlocate)).walkTo

/-- What is a file stays a file. -/
theorem get?_file (h : Grows fs fs') {content : ByteArray} {modified : Int}
    (hplace : fs.get? place = some (.file content modified)) :
    ∃ content' modified', fs'.get? place = some (.file content' modified') := by
  have hbecomes := hplace ▸ h.becomes place
  generalize fs'.get? place = entry at hbecomes
  cases hbecomes with
  | same => exact ⟨_, _, rfl⟩
  | rewritten => exact ⟨_, _, rfl⟩

theorem exists_read (h : Grows fs fs') {content : ByteArray} (hread : fs.read path = .ok content) :
    ∃ content', fs'.read path = .ok content' := by
  obtain ⟨place, modified, hlocate, hfile⟩ := read_eq_ok.mp hread
  obtain ⟨content', modified', hfile'⟩ := h.get?_file hfile
  exact ⟨content', read_eq_ok.mpr ⟨place, modified', h.locate hlocate, hfile'⟩⟩

end Grows

/-! ## Changes at some places -/

/-- The file at a place, if there is one, is the same. -/
def KeepsFile (fs fs' : FileSystem) (place : Place) : Prop :=
  ∀ content modified,
    fs.get? place = some (.file content modified) ↔ fs'.get? place = some (.file content modified)

/-- The files grow, and every file outside of some places is the same. -/
structure ChangesOnly (W : Set Place) (fs fs' : FileSystem) : Prop where
  isTree : fs'.IsTree
  grows : Grows fs fs'
  keepsFile : ∀ place ∉ W, KeepsFile fs fs' place

namespace ChangesOnly

variable {W W' : Set Place}

theorem refl (hfs : fs.IsTree) : ChangesOnly W fs fs := ⟨hfs, .refl fs, fun _ _ _ _ => .rfl⟩

theorem mono (h : ChangesOnly W fs fs') (hW : W ⊆ W') : ChangesOnly W' fs fs' :=
  ⟨h.isTree, h.grows, fun place hplace => h.keepsFile place fun hmem => hplace (hW hmem)⟩

theorem trans (h : ChangesOnly W fs fs') (h' : ChangesOnly W fs' fs'') : ChangesOnly W fs fs'' :=
  ⟨h'.isTree, h.grows.trans h'.grows, fun place hplace content modified =>
    (h.keepsFile place hplace content modified).trans (h'.keepsFile place hplace content modified)⟩

/-- Putting an entry at a spot changes nothing but what stands there. -/
theorem setEntry (hfs : fs.IsTree) (hspot : fs.IsSpot place) {entry : FileEntry}
    (hbecomes : Becomes (fs.get? place) (some entry)) (hfolder : fs.get? place ≠ some .folder)
    (hW : place ∉ W → fs.get? place = none ∧ entry = .folder) :
    ChangesOnly W fs (fs.setEntry place entry) := by
  have hne : place ≠ [] := by
    rintro rfl
    exact hfolder rfl
  refine ⟨hfs.setEntry hspot hfolder entry, ⟨rfl, fun other => ?_⟩, fun other hother => ?_⟩
  · by_cases hsame : other = place
    · rw [hsame, get?_setEntry_self fs hne]
      exact hbecomes
    · rw [get?_setEntry_of_ne fs hsame]
      exact .same _
  · intro content modified
    by_cases hsame : other = place
    · obtain ⟨hfree, rfl⟩ := hW (hsame ▸ hother)
      rw [hsame, get?_setEntry_self fs hne, hfree]
      constructor <;> rintro ⟨⟩
    · rw [get?_setEntry_of_ne fs hsame]

/-- A file at another place has the content that it had. -/
theorem read (h : ChangesOnly W fs fs') {content : ByteArray} (hplace : place ∉ W)
    (hlocate : fs.locate path = .ok place) (hread : fs.read path = .ok content) :
    fs'.read path = .ok content := by
  obtain ⟨place', modified, hlocate', hfile⟩ := read_eq_ok.mp hread
  cases hlocate.symm.trans hlocate'
  exact read_eq_ok.mpr ⟨place, modified, h.grows.locate hlocate,
    (h.keepsFile place hplace content modified).mp hfile⟩

end ChangesOnly

/-! ## The operations -/

theorem createFolder_of_name (fs : FileSystem) {parts : List Path.Component} {name : String}
    (hlast : parts.getLast? = some (.name name)) :
    fs.createFolder parts =
      (if parts.dropLast.isEmpty then .ok fs.workingFolder
        else fs.locateParts parts.dropLast) >>= fun parent =>
      match fs.get? parent with
      | some .folder =>
        if (fs.get? (parent ++ [name])).isSome then .error .exists
        else .ok (fs.setEntry (parent ++ [name]) .folder)
      | some _ => .error .notFolder
      | none => .error .notFound := by
  unfold createFolder
  rw [hlast]
  dsimp only
  split <;> rfl

/-- A new folder stands in a folder, where nothing was. -/
theorem exists_of_createFolder {parts : List Path.Component} (h : fs.createFolder parts = .ok fs') :
    ∃ parent name, .name name ∈ parts ∧ fs.get? parent = some .folder ∧
      fs.get? (parent ++ [name]) = none ∧ fs' = fs.setEntry (parent ++ [name]) .folder := by
  by_cases hlast : ∃ name, parts.getLast? = some (.name name)
  · obtain ⟨name, hname⟩ := hlast
    rw [createFolder_of_name fs hname] at h
    obtain ⟨parent, -, hmade⟩ := Outcome.bind_eq_ok.mp h
    split at hmade
    · rename_i hfolder
      split at hmade
      · cases hmade
      · rename_i hfree
        exact ⟨parent, name, List.mem_of_getLast? hname, hfolder,
          Option.not_isSome_iff_eq_none.mp hfree, (Except.ok.inj hmade).symm⟩
    · cases hmade
    · cases hmade
  · unfold createFolder at h
    split at h
    · rename_i name hname
      exact absurd ⟨name, hname⟩ hlast
    · obtain ⟨entry, -, hmade⟩ := Outcome.bind_eq_ok.mp h
      cases hmade

theorem changesOnly_createFolder (hfs : fs.IsTree) {parts : List Path.Component}
    (hparts : ∀ name, .name name ∈ parts → Path.IsName name)
    (h : fs.createFolder parts = .ok fs') : ChangesOnly ∅ fs fs' := by
  obtain ⟨parent, name, hname, hfolder, hfree, rfl⟩ := exists_of_createFolder h
  refine .setEntry hfs (hfs.isSpot_concat hfolder (hparts name hname) hfree) ?_ ?_
    fun _ => ⟨hfree, rfl⟩
  · rw [hfree]
    exact .made
  · rw [hfree]
    rintro ⟨⟩

theorem changesOnly_createFoldersTo (hfs : fs.IsTree) {parts : List Path.Component}
    (hparts : ∀ name, .name name ∈ parts → Path.IsName name)
    (h : fs.createFoldersTo parts = .ok fs') : ChangesOnly ∅ fs fs' := by
  induction parts generalizing fs' with
  | nil =>
      cases h
      exact .refl hfs
  | cons last above ih =>
      have hreverse : ∀ name, .name name ∈ (last :: above).reverse → Path.IsName name :=
        fun name hname => hparts name (List.mem_reverse.mp hname)
      unfold createFoldersTo at h
      dsimp only at h
      split at h
      · rename_i made hmade
        cases h
        exact changesOnly_createFolder hfs hreverse hmade
      · -- the folder above is missing and is made first; then there is a second attempt
        obtain ⟨lower, hlower, hlast⟩ := Outcome.bind_eq_ok.mp h
        have hbelow := ih (fun name hname => hparts name (List.mem_cons_of_mem _ hname)) hlower
        split at hlast
        · rename_i made hmade
          cases hlast
          exact hbelow.trans (changesOnly_createFolder hbelow.isTree hreverse hmade)
        · split at hlast
          · cases hlast
            exact hbelow
          · cases hlast
      · split at h
        · cases h
          exact .refl hfs
        · cases h

theorem changesOnly_createFolders (hfs : fs.IsTree) (h : fs.createFolders path = .ok fs') :
    ChangesOnly ∅ fs fs' :=
  changesOnly_createFoldersTo hfs
    (fun _ hname => Path.isName_of_mem_components (List.mem_reverse.mp hname)) h

theorem changesOnly_createParents (hfs : fs.IsTree) (h : fs.createParents path = .ok fs') :
    ChangesOnly ∅ fs fs' := by
  unfold createParents at h
  split at h
  · rename_i parts hparts
    refine changesOnly_createFoldersTo hfs (fun name hname => ?_) h
    exact Path.isName_of_mem_components
      (Path.mem_of_mem_parent? hparts (List.mem_reverse.mp hname))
  · cases h
    exact .refl hfs

/-- A file is written at the place that its path leads to, and nowhere else. -/
theorem exists_of_write (hfs : fs.IsTree) {content : ByteArray}
    (h : fs.write path content now = .ok fs') :
    ∃ place, fs.locate path = .ok place ∧ ChangesOnly {place} fs fs' ∧
      fs'.get? place = some (.file content now) := by
  obtain ⟨place, hlocate, hwritten⟩ := Outcome.bind_eq_ok.mp h
  have hspot := hfs.isSpot_of_locate hlocate
  split at hwritten
  · cases hwritten
  · rename_i hfolder
    cases hwritten
    have hne : place ≠ [] := by
      rintro rfl
      exact hfolder rfl
    refine ⟨place, hlocate, .setEntry hfs hspot ?_ hfolder fun hplace => absurd rfl hplace,
      get?_setEntry_self fs hne _⟩
    cases hentry : fs.get? place with
    | none => exact .new
    | some e =>
        cases e with
        | file content' modified' => exact .rewritten
        | folder => exact absurd hentry hfolder
        | link target => exact absurd hentry (hspot.not_link target)

/-- A copy stands at the place that its path leads to, and nowhere else.  It has the content of its
source unless this is at the same place. -/
theorem exists_of_copy (hfs : fs.IsTree) {source target : String}
    (h : fs.copy source target now = .ok fs') :
    ∃ place, fs.locate target = .ok place ∧ ChangesOnly {place} fs fs' ∧
      ∃ content, fs'.get? place = some (.file content now) ∧
        (fs.locate source ≠ .ok place → fs.read source = .ok content) := by
  obtain ⟨content, hread, hcopied⟩ := Outcome.bind_eq_ok.mp h
  -- what is written in the end is what the source holds once the target has been emptied
  obtain ⟨emptied, hemptied, hfilled⟩ := Outcome.bind_eq_ok.mp hcopied
  obtain ⟨copied, hcopy, hwritten⟩ := Outcome.bind_eq_ok.mp hfilled
  obtain ⟨place, hlocate, hchange, -⟩ := exists_of_write hfs hemptied
  obtain ⟨place', hlocate', hchange', hfile⟩ := exists_of_write hchange.isTree hwritten
  cases (hchange.grows.locate hlocate).symm.trans hlocate'
  refine ⟨place, hlocate, hchange.trans hchange', copied, hfile, fun hsource => ?_⟩
  obtain ⟨from', modified, hfrom, -⟩ := read_eq_ok.mp hread
  have hother : from' ∉ ({place} : Set Place) := fun hsame => hsource (hsame ▸ hfrom)
  rw [hread, ← hcopy, hchange.read hother hfrom hread]

end StaticSite.FileSystem
