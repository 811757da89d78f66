/-
Putting files below a folder without links.

A file is put at a path by making the folders on its way and writing it.  Below a folder without
links this depends on what stands at the places on the way and on nothing else: a file among the
folders, or a folder in the place of the file, is in the way (`Blocked`), and the error tells which;
otherwise (`Free`) the file stands there afterwards, the folders on the way have been made, and
nothing else has changed (`Put`).

What is in the way stays in the way, and a place where a file has been put is free for it, so that
doing the same again later meets with the same success (`Blocked.grows`, `Put.free`).
-/
import StaticSite.Proofs.FileSystem.Folders

namespace StaticSite.FileSystem

variable {fs fs' : FileSystem} {place folder : Place} {now : Int}

/-! ## Putting files -/

/-- Something is in the way of a file: it fails with the error. -/
inductive Blocked (fs : FileSystem) (folder : Place) : Place → FileError → Prop
  | folder {names : Place} :
      fs.get? (folder ++ names) = some .folder → Blocked fs folder names .isFolder
  | parent {names : Place} {name : String} {content : ByteArray} {modified : Int} :
      names ≠ [] → fs.get? (folder ++ names) = some (.file content modified) →
      Blocked fs folder (names ++ [name]) .exists
  | above {names rest : Place} {name : String} {content : ByteArray} {modified : Int} :
      names ≠ [] → rest ≠ [] → fs.get? (folder ++ names) = some (.file content modified) →
      Blocked fs folder (names ++ rest ++ [name]) .notFolder

/-- Nothing is in the way of a file with this name. -/
structure Free (fs : FileSystem) (folder names : Place) (name : String) : Prop where
  no_files : fs.NoFilesOn folder names
  not_folder : fs.get? (folder ++ (names ++ [name])) ≠ some .folder

/-- A file has been put at some names below a folder, and nothing else but folders has been made. -/
structure Put (folder names : Place) (content : ByteArray) (modified : Int)
    (fs fs' : FileSystem) : Prop where
  file : fs'.get? (folder ++ names) = some (.file content modified)
  others : ∀ place ≠ folder ++ names, fs'.get? place = fs.get? place ∨
    fs.get? place = none ∧ fs'.get? place = some .folder ∧ place <+: folder ++ names.dropLast

/-- Something is in the way or nothing is. -/
theorem blocked_or_free (fs : FileSystem) (folder names : Place) (name : String) :
    (∃ e, Blocked fs folder (names ++ [name]) e) ∨ Free fs folder names name := by
  by_cases hfolder : fs.get? (folder ++ (names ++ [name])) = some .folder
  · exact .inl ⟨_, .folder hfolder⟩
  · by_cases hfiles : fs.NoFilesOn folder names
    · exact .inr ⟨hfiles, hfolder⟩
    · unfold NoFilesOn at hfiles
      push Not at hfiles
      obtain ⟨above, rest, content, modified, hne, rfl, hfile⟩ := hfiles
      by_cases hrest : rest = []
      · rw [hrest, List.append_nil]
        exact .inl ⟨_, .parent hne hfile⟩
      · exact .inl ⟨_, .above hne hrest hfile⟩

/-- What is in the way stays in the way. -/
theorem Blocked.grows {names : Place} {e : FileError} (h : Blocked fs folder names e)
    (hgrows : Grows fs fs') : Blocked fs' folder names e := by
  cases h with
  | folder hfolder => exact .folder (hgrows.get?_folder hfolder)
  | parent hne hfile =>
      obtain ⟨content, modified, hfile'⟩ := hgrows.get?_file hfile
      exact .parent hne hfile'
  | above hne hrest hfile =>
      obtain ⟨content, modified, hfile'⟩ := hgrows.get?_file hfile
      exact .above hne hrest hfile'

/-- Where a file has been put, it can be put again. -/
theorem Put.free {names : Place} {name : String} {content : ByteArray} {modified : Int}
    (hfs' : fs'.IsTree) (h : Put folder (names ++ [name]) content modified fs fs')
    {after : FileSystem} (hgrows : Grows fs' after) : Free after folder names name := by
  obtain ⟨content', modified', hfile⟩ := hgrows.get?_file h.file
  refine ⟨fun above rest content'' modified'' hne heq habove => ?_, ?_⟩
  · have hfolder : fs'.get? (folder ++ above) = some .folder := by
      have hthere := h.file
      rw [← heq, List.append_assoc, ← List.append_assoc] at hthere
      exact hfs'.get?_of_append (by simp) hthere
    cases habove.symm.trans (hgrows.get?_folder hfolder)
  · rw [hfile]
    rintro ⟨⟩

/-! ## Putting files by paths -/

/-- Make the folders of a path and then fill the file at it in some way. -/
def putAt (fs : FileSystem) (path : String) (fill : FileSystem → Except FileError FileSystem) :
    FileSystem × Option FileError :=
  match fs.createParents path with
  | .error e => (fs, some e)
  | .ok made =>
    match fill made with
    | .error e => (made, some e)
    | .ok filled => (filled, none)

/-- Where the folders are there, the file at the names is filled with the content, unless a folder
stands there. -/
structure Fills (fs : FileSystem) (place : Place) (content : ByteArray) (now : Int)
    (fill : FileSystem → Except FileError FileSystem) : Prop where
  blocked : fs.get? place = some .folder → fill fs = .error .isFolder
  free : fs.get? place ≠ some .folder → ∃ filled, fill fs = .ok filled ∧
    filled.get? place = some (.file content now) ∧
    ∀ other ≠ place, filled.get? other = fs.get? other

section PutAt

variable {dir : String} {names : Place} {name : String} {content : ByteArray}
  {fill : FileSystem → Except FileError FileSystem}

theorem createParents_below (fs : FileSystem) (dir : String)
    (hnames : ∀ n ∈ names ++ [name], Path.IsName n) :
    fs.createParents (Path.join dir ("/".intercalate (names ++ [name]))) =
      fs.createFoldersTo (Path.components dir ++ names.map Path.Component.name).reverse := by
  have hparts : Path.components (Path.join dir ("/".intercalate (names ++ [name]))) =
      Path.components dir ++ names.map Path.Component.name ++ [.name name] := by
    rw [Path.components_join dir hnames (by simp), List.map_append, ← List.append_assoc]
    rfl
  have hparent : Path.parent? (Path.components dir ++ names.map Path.Component.name ++
      [.name name]) = some (Path.components dir ++ names.map Path.Component.name) := by
    unfold Path.parent?
    rw [List.getLast?_concat]
    dsimp only
    rw [List.dropLast_concat]
  unfold createParents
  rw [hparts, hparent]

/-- Where its folders are there, a path leads to the place that it names. -/
theorem LeadsInto.locate_below (h : LeadsInto fs (Path.components dir) folder)
    (hnames : ∀ n ∈ names ++ [name], Path.IsName n)
    (hparent : fs.get? (folder ++ names) = some .folder) :
    fs.locate (Path.join dir ("/".intercalate (names ++ [name]))) =
      .ok (folder ++ (names ++ [name])) := by
  rw [locate_eq_ok, placeOf, Path.components_join dir hnames (by simp)]
  refine ⟨by simp, ?_⟩
  cases hentry : fs.get? (folder ++ (names ++ [name])) with
  | some e => exact h.walkTo_of_get? hentry
  | none =>
      have hlast : ∀ links, Leads fs links (folder ++ names) [.name name]
          (folder ++ (names ++ [name])) := fun links => by
        rw [← List.append_assoc] at hentry ⊢
        exact .free hentry
      have habove : ∀ links, Leads fs links folder ((names ++ [name]).map .name)
          (folder ++ (names ++ [name])) := fun links => by
        rw [List.map_append]
        exact (h.isTree.leads_below links hparent fun _ => FileEntry.noConfusion).append hparent hlast
      exact (h.leads.append h.isFolder habove).walkTo

/-- If something is in the way, it fails and nothing changes. -/
theorem LeadsInto.putAt_of_blocked (h : LeadsInto fs (Path.components dir) folder)
    (hnames : ∀ n ∈ names ++ [name], Path.IsName n)
    (hfill : ∀ made, fs.createParents (Path.join dir ("/".intercalate (names ++ [name]))) =
      .ok made → made.get? (folder ++ names) = some .folder →
      Fills made (folder ++ (names ++ [name])) content now fill)
    {e : FileError} (hblocked : Blocked fs folder (names ++ [name]) e) :
    ∃ fs', fs.putAt (Path.join dir ("/".intercalate (names ++ [name]))) fill = (fs', some e) ∧
      ∀ place, fs'.get? place = fs.get? place := by
  obtain ⟨habove, -⟩ := List.forall_mem_append.mp hnames
  rw [createParents_below fs dir hnames] at hfill
  unfold putAt
  rw [createParents_below fs dir hnames]
  generalize hall : names ++ [name] = all at hblocked hfill
  cases hblocked with
  | folder hfolder =>
      subst hall
      -- the folders above are there, so making them changes nothing
      have hparent : fs.get? (folder ++ names) = some .folder := by
        rw [← List.append_assoc] at hfolder
        exact h.isTree.get?_of_append (by simp) hfolder
      have hsame : fs.createFoldersTo
          (Path.components dir ++ names.map Path.Component.name).reverse = .ok fs :=
        createFoldersTo_of_leads h.isTree (h.leads.append h.isFolder fun links =>
          h.isTree.leads_below links hparent fun _ => FileEntry.noConfusion) hparent
      rw [hsame]
      dsimp only
      rw [(hfill fs hsame hparent).blocked hfolder]
      exact ⟨fs, rfl, fun _ => rfl⟩
  | parent hne hfile =>
      obtain ⟨rfl, -⟩ := List.append_inj' hall rfl
      rw [h.createFoldersTo_of_file hne hfile]
      exact ⟨fs, rfl, fun _ => rfl⟩
  | above hne hrest hfile =>
      obtain ⟨rfl, -⟩ := List.append_inj' hall rfl
      rw [h.createFoldersTo_of_file_above hne hrest hfile]
      exact ⟨fs, rfl, fun _ => rfl⟩

/-- If nothing is in the way, the file is put. -/
theorem LeadsInto.putAt_of_free (h : LeadsInto fs (Path.components dir) folder)
    (hnames : ∀ n ∈ names ++ [name], Path.IsName n)
    (hfill : ∀ made, fs.createParents (Path.join dir ("/".intercalate (names ++ [name]))) =
      .ok made → made.get? (folder ++ names) = some .folder →
      Fills made (folder ++ (names ++ [name])) content now fill)
    (hfree : Free fs folder names name) :
    ∃ fs', fs.putAt (Path.join dir ("/".intercalate (names ++ [name]))) fill = (fs', none) ∧
      Put folder (names ++ [name]) content now fs fs' := by
  obtain ⟨habove, -⟩ := List.forall_mem_append.mp hnames
  obtain ⟨made, hmade, hfolders⟩ := h.exists_makesFolders habove hfree.no_files
  have hparents := createParents_below fs dir hnames
  rw [hmade] at hparents
  have hnot : made.get? (folder ++ (names ++ [name])) ≠ some .folder := by
    rcases hfolders.others (folder ++ (names ++ [name])) with hkept | ⟨-, -, hbegins⟩
    · rw [hkept]
      exact hfree.not_folder
    · have hlength := hbegins.length_le
      simp only [List.length_append, List.length_singleton] at hlength
      omega
  obtain ⟨filled, hfilled, hfile, hothers⟩ :=
    (hfill made hparents hfolders.isFolder).free hnot
  unfold putAt
  rw [hparents]
  dsimp only
  rw [hfilled]
  refine ⟨filled, rfl, hfile, fun other hother => ?_⟩
  rw [hothers other hother, List.dropLast_concat]
  exact hfolders.others other

end PutAt

/-! ## Ways to fill a file -/

section Ways

variable {path source : String} {content : ByteArray}

theorem fills_write (hlocate : fs.locate path = .ok place) (hne : place ≠ []) (content : ByteArray)
    (now : Int) : Fills fs place content now fun fs => fs.write path content now where
  blocked hfolder := by
    unfold write
    rw [hlocate]
    dsimp only [bind, Except.bind]
    rw [hfolder]
  free hfree := by
    refine ⟨fs.setEntry place (.file content now), ?_, get?_setEntry_self fs hne _,
      fun other hother => get?_setEntry_of_ne fs hother _⟩
    unfold write
    rw [hlocate]
    dsimp only [bind, Except.bind]
    split
    · rename_i hfolder
      exact absurd hfolder hfree
    · rfl

/-- A copy is filled with its source, if this is another file. -/
theorem fills_copy (hfs : fs.IsTree) (hlocate : fs.locate path = .ok place) (hne : place ≠ [])
    (hread : fs.read source = .ok content) (hother : fs.locate source ≠ .ok place) (now : Int) :
    Fills fs place content now fun fs => fs.copy source path now where
  blocked hfolder := by
    have hblocked := (fills_write hlocate hne ByteArray.empty now).blocked hfolder
    unfold copy
    rw [hread]
    dsimp only [bind, Except.bind]
    rw [hblocked]
  free hfree := by
    obtain ⟨emptied, hemptied, hempty, hkept⟩ :=
      (fills_write hlocate hne ByteArray.empty now).free hfree
    obtain ⟨place', hplace', hchange, -⟩ := exists_of_write hfs hemptied
    cases hlocate.symm.trans hplace'
    -- the source is read once the target has been emptied, and is as it was
    obtain ⟨from', modified, hfrom, -⟩ := read_eq_ok.mp hread
    have hread' : emptied.read source = .ok content :=
      hchange.read (fun hsame => hother (hsame ▸ hfrom)) hfrom hread
    have hnot : emptied.get? place ≠ some .folder := by
      rw [hempty]
      rintro ⟨⟩
    obtain ⟨filled, hfilled, hfile, hothers⟩ :=
      (fills_write (hchange.grows.locate hlocate) hne content now).free hnot
    refine ⟨filled, ?_, hfile, fun other hdistinct => (hothers other hdistinct).trans
      (hkept other hdistinct)⟩
    unfold copy
    rw [hread]
    dsimp only [bind, Except.bind]
    rw [hemptied]
    dsimp only
    rw [hread']
    exact hfilled

end Ways

end StaticSite.FileSystem
