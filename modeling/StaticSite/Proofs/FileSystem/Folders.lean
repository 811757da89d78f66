/-
Making folders below a folder without links.

Where components lead to a folder without links (`LeadsInto`), names go on from there to the places
that they name.  So whether folders can be made depends on what stands at these places: if no file is
among them, the folders are there afterwards and nothing else has changed (`exists_makesFolders`);
otherwise it fails, with an error that tells whether the file stands in the place of the last folder
or of an earlier one.
-/
import StaticSite.Proofs.FileSystem.Below

namespace StaticSite.FileSystem

variable {fs fs' : FileSystem} {links : Nat} {here place mid folder : Place}
  {parts : List Path.Component} {now : Int}

/-! ## Walks -/

/-- A walk that gets to a folder goes on from there, with fewer links to follow maybe. -/
theorem Leads.walkTo_append (h : Leads fs links here parts mid)
    (hmid : fs.get? mid = some .folder) :
    ∃ links', ∀ rest, fs.walkTo links here (parts ++ rest) = fs.walkTo links' mid rest := by
  induction h with
  | @stop links here => exact ⟨links, fun _ => rfl⟩
  | root _ ih =>
      obtain ⟨links', hrest⟩ := ih hmid
      exact ⟨links', fun rest => by rw [List.cons_append, FileSystem.walkTo, hrest]⟩
  | current _ ih =>
      obtain ⟨links', hrest⟩ := ih hmid
      exact ⟨links', fun rest => by rw [List.cons_append, FileSystem.walkTo, hrest]⟩
  | parent _ ih =>
      obtain ⟨links', hrest⟩ := ih hmid
      exact ⟨links', fun rest => by rw [List.cons_append, FileSystem.walkTo, hrest]⟩
  | folder hname _ ih =>
      obtain ⟨links', hrest⟩ := ih hmid
      exact ⟨links', fun rest => by rw [List.cons_append, FileSystem.walkTo, hname]; exact hrest rest⟩
  | link hname _ ih =>
      obtain ⟨links', hrest⟩ := ih hmid
      refine ⟨links', fun rest => ?_⟩
      rw [List.cons_append, FileSystem.walkTo, hname]
      exact (congrArg _ (List.append_assoc _ _ _).symm).trans (hrest rest)
  | file hfile => cases hfile.symm.trans hmid
  | free hfree => cases hfree.symm.trans hmid

/-- Names lead down to what is there, if this is no link. -/
theorem IsTree.leads_below (hfs : fs.IsTree) (links : Nat) {names : Place} {e : FileEntry}
    (h : fs.get? (folder ++ names) = some e) (hlink : ∀ target, e ≠ .link target) :
    Leads fs links folder (names.map .name) (folder ++ names) := by
  induction names generalizing folder with
  | nil =>
      rw [List.map_nil, List.append_nil]
      exact .stop
  | cons name names ih =>
      rw [List.append_cons] at h ⊢
      by_cases hnil : names = []
      · subst hnil
        rw [List.append_nil] at h ⊢
        cases e with
        | folder => exact .folder h .stop
        | file content modified => exact .file h
        | link target => exact absurd rfl (hlink target)
      · exact .folder (hfs.get?_of_append hnil h) (ih h)

/-- A walk stops at a file on its way. -/
theorem IsTree.walkTo_of_file (hfs : fs.IsTree) (links : Nat) {above rest : Place}
    {content : ByteArray} {modified : Int} (habove : above ≠ []) (hrest : rest ≠ [])
    (h : fs.get? (folder ++ above) = some (.file content modified)) :
    fs.walkTo links folder ((above ++ rest).map .name) = .error .notFolder := by
  induction above generalizing folder with
  | nil => exact absurd rfl habove
  | cons name above ih =>
      rw [List.append_cons] at h
      rw [List.cons_append, List.map_cons, walkTo]
      by_cases hnil : above = []
      · subst hnil
        rw [List.append_nil] at h
        rw [h]
        simp [hrest]
      · rw [hfs.get?_of_append hnil h]
        exact ih hnil h

/-- No file is on the way of names below a folder. -/
def NoFilesOn (fs : FileSystem) (folder names : Place) : Prop :=
  ∀ above rest content modified, above ≠ [] → above ++ rest = names →
    fs.get? (folder ++ above) ≠ some (.file content modified)

/-- A walk to something missing, with no file on its way, is told so, unless all but the last name is
there. -/
theorem walkTo_of_missing (hlinks : fs.NoLinksIn folder) (links : Nat) {names : Place}
    (hfiles : fs.NoFilesOn folder names) (h : fs.get? (folder ++ names) = none) :
    fs.walkTo links folder (names.map .name) = .ok (folder ++ names) ∨
      fs.walkTo links folder (names.map .name) = .error .notFound := by
  induction names generalizing folder with
  | nil => exact .inl (by rw [List.map_nil, walkTo, List.append_nil])
  | cons name names ih =>
      rw [List.map_cons, walkTo]
      cases hentry : fs.get? (folder ++ [name]) with
      | none =>
          by_cases hnil : names = []
          · subst hnil
            exact .inl rfl
          · exact .inr (by simp [hnil])
      | some e =>
          cases e with
          | folder =>
              rw [List.append_cons] at h
              rw [List.append_cons folder name names]
              refine ih (fun below target => ?_) (fun above rest content modified habove heq => ?_) h
              · rw [List.append_assoc]
                exact hlinks _ target
              · rw [List.append_assoc]
                exact hfiles _ rest content modified (by simp) (by simp [heq])
          | file content modified =>
              exact absurd hentry (hfiles [name] names content modified (by simp) rfl)
          | link target => exact absurd hentry (hlinks [name] target)

/-! ## Making folders -/

/-- Components lead to a folder in which there are no links. -/
structure LeadsInto (fs : FileSystem) (base : List Path.Component) (folder : Place) : Prop where
  isTree : fs.IsTree
  isName : ∀ name, .name name ∈ base → Path.IsName name
  leads : Leads fs maxLinks fs.workingFolder base folder
  isFolder : fs.get? folder = some .folder
  noLinks : fs.NoLinksIn folder

theorem isFolderAt_eq_true (hne : parts ≠ []) :
    fs.isFolderAt parts = true ↔
      ∃ place, fs.walkTo maxLinks fs.workingFolder parts = .ok place ∧
        fs.get? place = some .folder := by
  rw [isFolderAt_iff_entryAt, entryAt_eq_ok, locateParts, if_neg (by simpa using hne)]

theorem createFolder_concat (fs : FileSystem) (parts : List Path.Component) (name : String) :
    fs.createFolder (parts ++ [.name name]) =
      fs.walkTo maxLinks fs.workingFolder parts >>= fun parent =>
      match fs.get? parent with
      | some .folder =>
        if (fs.get? (parent ++ [name])).isSome then .error .exists
        else .ok (fs.setEntry (parent ++ [name]) .folder)
      | some _ => .error .notFolder
      | none => .error .notFound := by
  rw [createFolder_of_name fs (List.getLast?_concat), List.dropLast_concat]
  cases parts with
  | nil => rw [walkTo]; rfl
  | cons part parts => rfl

theorem createFoldersTo_concat (fs : FileSystem) (parts : List Path.Component)
    (last : Path.Component) :
    fs.createFoldersTo (parts ++ [last]).reverse =
      match fs.createFolder (parts ++ [last]) with
      | .ok made => .ok made
      | .error .notFound =>
        fs.createFoldersTo parts.reverse >>= fun lower =>
        match lower.createFolder (parts ++ [last]) with
        | .ok made => .ok made
        | .error e => if lower.isFolderAt (parts ++ [last]) then .ok lower else .error e
      | .error e => if fs.isFolderAt (parts ++ [last]) then .ok fs else .error e := by
  have h := createFoldersTo.eq_def fs (parts ++ [last]).reverse
  simp only [List.reverse_concat, List.reverse_cons, List.reverse_reverse] at h
  rw [List.reverse_concat]
  exact h

/-- A folder that is there cannot be made. -/
theorem createFolder_of_leads (hfs : fs.IsTree) {last : Path.Component}
    (h : Leads fs maxLinks fs.workingFolder (parts ++ [last]) folder)
    (hfolder : fs.get? folder = some .folder) :
    fs.createFolder (parts ++ [last]) = .error .exists := by
  by_cases hname : ∃ name, last = .name name
  · obtain ⟨name, rfl⟩ := hname
    obtain ⟨links', mid, hmid, hlast⟩ := h.exists_mid
    -- there is something with this name, a folder or a link to one
    obtain ⟨e, he⟩ : ∃ e, fs.get? (mid ++ [name]) = some e := by
      cases hlast with
      | folder hthere _ => exact ⟨_, hthere⟩
      | link hthere _ => exact ⟨_, hthere⟩
      | file hthere => exact ⟨_, hthere⟩
      | free hfree => cases hfree.symm.trans hfolder
    have hparent := hfs.get?_dropLast he
    rw [List.dropLast_concat] at hparent
    rw [createFolder_concat, hmid.walkTo]
    dsimp only [bind, Except.bind]
    rw [hparent]
    exact if_pos (Option.isSome_of_eq_some he)
  · have hthere : fs.isFolderAt (parts ++ [last]) = true :=
      (isFolderAt_eq_true (by simp)).mpr ⟨folder, h.walkTo, hfolder⟩
    have hentry := isFolderAt_iff_entryAt.mp hthere
    unfold createFolder
    rw [List.getLast?_concat]
    cases last with
    | name name => exact absurd ⟨name, rfl⟩ hname
    | root | current | parent =>
        dsimp only
        rw [hentry]
        rfl

/-- Nothing has to be made for components that lead to a folder. -/
theorem createFoldersTo_of_leads (hfs : fs.IsTree)
    (h : Leads fs maxLinks fs.workingFolder parts folder)
    (hfolder : fs.get? folder = some .folder) :
    fs.createFoldersTo parts.reverse = .ok fs := by
  rcases List.eq_nil_or_concat' parts with rfl | ⟨above, last, rfl⟩
  · rfl
  · have hthere : fs.isFolderAt (above ++ [last]) = true :=
      (isFolderAt_eq_true (by simp)).mpr ⟨folder, h.walkTo, hfolder⟩
    rw [createFoldersTo_concat, createFolder_of_leads hfs h hfolder]
    exact if_pos hthere

namespace LeadsInto

variable {base : List Path.Component} {names : Place} {name : String}

/-- Walks on from the components of the folder are walks from the folder. -/
theorem exists_walkTo (h : LeadsInto fs base folder) :
    ∃ links, ∀ names : Place, fs.walkTo maxLinks fs.workingFolder (base ++ names.map .name) =
      fs.walkTo links folder (names.map .name) := by
  obtain ⟨links, hwalk⟩ := h.leads.walkTo_append h.isFolder
  exact ⟨links, fun names => hwalk _⟩

theorem walkTo_of_get? (h : LeadsInto fs base folder) {e : FileEntry}
    (hentry : fs.get? (folder ++ names) = some e) :
    fs.walkTo maxLinks fs.workingFolder (base ++ names.map .name) = .ok (folder ++ names) := by
  obtain ⟨links, hwalk⟩ := h.exists_walkTo
  rw [hwalk]
  refine (h.isTree.leads_below links hentry fun target htarget => ?_).walkTo
  exact h.noLinks names target (hentry.trans (congrArg some htarget))

/-- Folders are made, and files are written, below the folder. -/
theorem grows (h : LeadsInto fs base folder) (hgrows : Grows fs fs') (hfs' : fs'.IsTree) :
    LeadsInto fs' base folder where
  isTree := hfs'
  isName := h.isName
  leads := by
    rw [hgrows.workingFolder_eq]
    exact hgrows.leads h.leads
  isFolder := hgrows.get?_folder h.isFolder
  noLinks names target hlink := by
    have hbecomes := hlink ▸ hgrows.becomes (folder ++ names)
    generalize hentry : fs.get? (folder ++ names) = entry at hbecomes
    cases hbecomes
    exact h.noLinks names target hentry

end LeadsInto

/-- Folders have been made down to some names, and nothing else. -/
structure MakesFolders (folder names : Place) (fs fs' : FileSystem) : Prop where
  isFolder : fs'.get? (folder ++ names) = some .folder
  others : ∀ place, fs'.get? place = fs.get? place ∨
    fs.get? place = none ∧ fs'.get? place = some .folder ∧ place <+: folder ++ names

theorem MakesFolders.refl {names : Place} (h : fs.get? (folder ++ names) = some .folder) :
    MakesFolders folder names fs fs := ⟨h, fun _ => .inl rfl⟩

theorem MakesFolders.setEntry {names : Place} {name : String}
    (h : MakesFolders folder names fs fs') (hfree : fs'.get? (folder ++ (names ++ [name])) = none) :
    MakesFolders folder (names ++ [name]) fs
      (fs'.setEntry (folder ++ (names ++ [name])) .folder) := by
  refine ⟨get?_setEntry_self fs' (by simp) _, fun other => ?_⟩
  by_cases hsame : other = folder ++ (names ++ [name])
  · subst hsame
    rw [get?_setEntry_self fs' (by simp)]
    refine .inr ⟨?_, rfl, List.prefix_rfl⟩
    rcases h.others (folder ++ (names ++ [name])) with hkept | ⟨hnone, -, -⟩
    · rw [← hkept, hfree]
    · exact hnone
  · rw [get?_setEntry_of_ne fs' hsame]
    refine (h.others other).imp_right fun ⟨hnone, hmade, hbegins⟩ => ⟨hnone, hmade, ?_⟩
    rw [← List.append_assoc]
    exact hbegins.trans (List.prefix_append _ _)

/-- Nothing is made beyond the last folder. -/
theorem MakesFolders.get?_of_lt {names place : Place} (h : MakesFolders folder names fs fs')
    (hlt : (folder ++ names).length < place.length) : fs'.get? place = fs.get? place := by
  rcases h.others place with hkept | ⟨-, -, hbegins⟩
  · exact hkept
  · exact absurd hbegins.length_le (Nat.not_le_of_lt hlt)

namespace LeadsInto

variable {base : List Path.Component} {names : Place} {name : String}

/-- Where there is a folder, a new one is made in it. -/
theorem createFolder_of_free (h : LeadsInto fs base folder)
    (hparent : fs.get? (folder ++ names) = some .folder)
    (hfree : fs.get? (folder ++ (names ++ [name])) = none) :
    fs.createFolder (base ++ names.map .name ++ [.name name]) =
      .ok (fs.setEntry (folder ++ (names ++ [name])) .folder) := by
  rw [createFolder_concat, h.walkTo_of_get? hparent]
  dsimp only [bind, Except.bind]
  rw [hparent, List.append_assoc, hfree]
  rfl

theorem createFolder_of_missing (h : LeadsInto fs base folder) (hfiles : fs.NoFilesOn folder names)
    (hmissing : fs.get? (folder ++ names) = none) :
    fs.createFolder (base ++ names.map .name ++ [.name name]) = .error .notFound := by
  obtain ⟨links, hwalk⟩ := h.exists_walkTo
  rw [createFolder_concat, hwalk]
  rcases walkTo_of_missing h.noLinks links hfiles hmissing with hok | herror
  · rw [hok]
    dsimp only [bind, Except.bind]
    rw [hmissing]
  · rw [herror]
    rfl

theorem isName_of_mem (h : LeadsInto fs base folder) (hnames : ∀ n ∈ names, Path.IsName n)
    (name : String) (hname : .name name ∈ (base ++ names.map Path.Component.name).reverse) :
    Path.IsName name := by
  rcases List.mem_append.mp (List.mem_reverse.mp hname) with hbase | hmem
  · exact h.isName name hbase
  · obtain ⟨n, hn, hsame⟩ := List.mem_map.mp hmem
    cases hsame
    exact hnames name hn

/-- What is there, with no file on the way to it, is a folder. -/
theorem get?_of_noFilesOn (h : LeadsInto fs base folder) (hfiles : fs.NoFilesOn folder names)
    {e : FileEntry} (he : fs.get? (folder ++ names) = some e) :
    fs.get? (folder ++ names) = some .folder := by
  by_cases hnil : names = []
  · rw [hnil, List.append_nil]
    exact h.isFolder
  · cases e with
    | folder => exact he
    | file content modified => exact absurd he (hfiles names [] content modified hnil (by simp))
    | link target => exact absurd he (h.noLinks names target)

/-- Where no file is in the way, folders are made. -/
theorem exists_makesFolders (h : LeadsInto fs base folder) (hnames : ∀ n ∈ names, Path.IsName n)
    (hfiles : fs.NoFilesOn folder names) :
    ∃ fs', fs.createFoldersTo (base ++ names.map Path.Component.name).reverse = .ok fs' ∧
      MakesFolders folder names fs fs' := by
  induction names using List.reverseRecOn with
  | nil =>
      have hsame := createFoldersTo_of_leads h.isTree h.leads h.isFolder
      refine ⟨fs, by rwa [List.map_nil, List.append_nil], .refl ?_⟩
      rw [List.append_nil]
      exact h.isFolder
  | append_singleton names name ih =>
      obtain ⟨habove, -⟩ := List.forall_mem_append.mp hnames
      have hfiles' : fs.NoFilesOn folder names := fun above rest content modified hne heq =>
        hfiles above (rest ++ [name]) content modified hne (by rw [← heq, List.append_assoc])
      have hparts : base ++ (names ++ [name]).map Path.Component.name =
          base ++ names.map Path.Component.name ++ [.name name] := by simp
      rw [hparts]
      cases hlast : fs.get? (folder ++ (names ++ [name])) with
      | some e =>
          have hthere := h.get?_of_noFilesOn hfiles hlast
          have hleads := h.leads.append h.isFolder fun links =>
            h.isTree.leads_below links hthere fun _ => FileEntry.noConfusion
          rw [hparts] at hleads
          exact ⟨fs, createFoldersTo_of_leads h.isTree hleads hthere, .refl hthere⟩
      | none =>
          rw [createFoldersTo_concat]
          cases hparent : fs.get? (folder ++ names) with
          | some e =>
              have hfolder := h.get?_of_noFilesOn hfiles' hparent
              rw [h.createFolder_of_free hfolder hlast]
              exact ⟨_, rfl, (MakesFolders.refl hfolder).setEntry hlast⟩
          | none =>
              -- the folder above is made first
              obtain ⟨lower, hlower, hmade⟩ := ih habove hfiles'
              have hchange := changesOnly_createFoldersTo h.isTree (h.isName_of_mem habove) hlower
              have hlast' : lower.get? (folder ++ (names ++ [name])) = none := by
                rw [hmade.get?_of_lt (by simp), hlast]
              have hinto := h.grows hchange.grows hchange.isTree
              rw [h.createFolder_of_missing hfiles' hparent, hlower]
              dsimp only [bind, Except.bind]
              rw [hinto.createFolder_of_free hmade.isFolder hlast']
              exact ⟨_, rfl, hmade.setEntry hlast'⟩

/-- A file in the place of the last folder is in the way. -/
theorem createFoldersTo_of_file (h : LeadsInto fs base folder) {content : ByteArray}
    {modified : Int} (hne : names ≠ [])
    (hfile : fs.get? (folder ++ names) = some (.file content modified)) :
    fs.createFoldersTo (base ++ names.map Path.Component.name).reverse = .error .exists := by
  obtain ⟨above, name, rfl⟩ := (List.eq_nil_or_concat' names).resolve_left hne
  have hparent : fs.get? (folder ++ above) = some .folder := by
    rw [← List.append_assoc] at hfile
    exact h.isTree.get?_of_append (by simp) hfile
  have hparts : base ++ (above ++ [name]).map Path.Component.name =
      base ++ above.map Path.Component.name ++ [.name name] := by simp
  have hexists : fs.createFolder (base ++ above.map Path.Component.name ++ [.name name]) =
      .error .exists := by
    rw [createFolder_concat, h.walkTo_of_get? hparent]
    dsimp only [bind, Except.bind]
    rw [hparent, List.append_assoc, hfile]
    rfl
  have hnot : ¬ fs.isFolderAt (base ++ above.map Path.Component.name ++ [.name name]) = true := by
    rw [isFolderAt_eq_true (by simp), ← hparts, h.walkTo_of_get? hfile]
    rintro ⟨place, hplace, hfolder⟩
    cases hplace
    cases hfile.symm.trans hfolder
  rw [hparts, createFoldersTo_concat, hexists]
  exact if_neg hnot

/-- A file in the place of an earlier folder is in the way too. -/
theorem createFoldersTo_of_file_above (h : LeadsInto fs base folder) {rest : Place}
    {content : ByteArray} {modified : Int} (hne : names ≠ []) (hrest : rest ≠ [])
    (hfile : fs.get? (folder ++ names) = some (.file content modified)) :
    fs.createFoldersTo (base ++ (names ++ rest).map Path.Component.name).reverse =
      .error .notFolder := by
  obtain ⟨between, name, rfl⟩ := (List.eq_nil_or_concat' rest).resolve_left hrest
  obtain ⟨links, hwalk⟩ := h.exists_walkTo
  have hparts : base ++ (names ++ (between ++ [name])).map Path.Component.name =
      base ++ (names ++ between).map Path.Component.name ++ [.name name] := by simp
  have hnotFolder : fs.createFolder (base ++ (names ++ between).map Path.Component.name ++
      [.name name]) = .error .notFolder := by
    rw [createFolder_concat]
    by_cases hnil : between = []
    · rw [hnil, List.append_nil, h.walkTo_of_get? hfile]
      dsimp only [bind, Except.bind]
      rw [hfile]
    · rw [hwalk, h.isTree.walkTo_of_file links hne hnil hfile]
      rfl
  have hnot : ¬ fs.isFolderAt (base ++ (names ++ between).map Path.Component.name ++
      [.name name]) = true := by
    rw [isFolderAt_eq_true (by simp), ← hparts, hwalk,
      h.isTree.walkTo_of_file links hne (by simp) hfile]
    rintro ⟨place, hplace, -⟩
    cases hplace
  rw [hparts, createFoldersTo_concat, hnotFolder]
  exact if_neg hnot

end LeadsInto

/-! ## Folders that have been made -/

theorem exists_folder_of_createFolder (hfs : fs.IsTree)
    (hparts : ∀ name, .name name ∈ parts → Path.IsName name)
    (h : fs.createFolder parts = .ok fs') :
    ∃ folder, Leads fs' maxLinks fs'.workingFolder parts folder ∧ fs'.get? folder = some .folder := by
  have hgrows := (changesOnly_createFolder hfs hparts h).grows
  rcases List.eq_nil_or_concat' parts with rfl | ⟨above, last, rfl⟩
  · obtain ⟨_, _, hname, -⟩ := exists_of_createFolder h
    cases hname
  · cases last with
    | name name =>
        rw [createFolder_concat] at h
        obtain ⟨parent, hwalk, hmade⟩ := Outcome.bind_eq_ok.mp h
        split at hmade
        · rename_i hparent
          split at hmade
          · cases hmade
          · cases hmade
            have hthere : (fs.setEntry (parent ++ [name]) .folder).get? (parent ++ [name]) =
                some .folder := get?_setEntry_self fs (by simp) _
            exact ⟨parent ++ [name], (hgrows.leads (leads_of_walkTo hwalk)).append
              (hgrows.get?_folder hparent) fun _ => .folder hthere .stop, hthere⟩
        · cases hmade
        · cases hmade
    | root | current | parent =>
        unfold createFolder at h
        rw [List.getLast?_concat] at h
        obtain ⟨_, -, hmade⟩ := Outcome.bind_eq_ok.mp h
        cases hmade

theorem exists_folder_of_isFolderAt (hne : parts ≠ []) (h : fs.isFolderAt parts = true) :
    ∃ folder, Leads fs maxLinks fs.workingFolder parts folder ∧ fs.get? folder = some .folder := by
  obtain ⟨folder, hwalk, hentry⟩ := (isFolderAt_eq_true hne).mp h
  exact ⟨folder, leads_of_walkTo hwalk, hentry⟩

theorem exists_folder_of_createFoldersTo (hfs : fs.IsTree)
    (hparts : ∀ name, .name name ∈ parts → Path.IsName name)
    (h : fs.createFoldersTo parts.reverse = .ok fs') :
    ∃ folder, Leads fs' maxLinks fs'.workingFolder parts folder ∧ fs'.get? folder = some .folder := by
  rcases List.eq_nil_or_concat' parts with rfl | ⟨above, last, rfl⟩
  · cases h
    exact ⟨_, .stop, hfs.working⟩
  · rw [createFoldersTo_concat] at h
    split at h
    · rename_i made hmade
      cases h
      exact exists_folder_of_createFolder hfs hparts hmade
    · obtain ⟨lower, hlower, hlast⟩ := Outcome.bind_eq_ok.mp h
      have hchange := changesOnly_createFoldersTo hfs (fun name hname =>
        hparts name (List.mem_append_left _ (List.mem_reverse.mp hname))) hlower
      split at hlast
      · rename_i made hmade
        cases hlast
        exact exists_folder_of_createFolder hchange.isTree hparts hmade
      · split at hlast
        · rename_i hfolder
          cases hlast
          exact exists_folder_of_isFolderAt (by simp) hfolder
        · cases hlast
    · split at h
      · rename_i hfolder
        cases h
        exact exists_folder_of_isFolderAt (by simp) hfolder
      · cases h

theorem LeadsInto.placeOf_eq {path : String} (h : LeadsInto fs (Path.components path) folder) :
    fs.placeOf path = .ok folder := h.leads.walkTo

/-- A path whose folders have been made leads into the last of them, if there are no links in it. -/
theorem exists_leadsInto_of_createFolders (hfs : fs.IsTree) {path : String}
    (h : fs.createFolders path = .ok fs') {after : FileSystem} (hgrows : Grows fs' after)
    (hlinks : ∀ folder, after.placeOf path = .ok folder → after.NoLinksIn folder) :
    ∃ folder, LeadsInto fs' (Path.components path) folder := by
  have hparts : ∀ name, .name name ∈ Path.components path → Path.IsName name := fun _ hname =>
    Path.isName_of_mem_components hname
  obtain ⟨folder, hleads, hfolder⟩ := exists_folder_of_createFoldersTo hfs hparts h
  have hplace : after.placeOf path = .ok folder := by
    rw [placeOf, hgrows.workingFolder_eq]
    exact (hgrows.leads hleads).walkTo
  exact ⟨folder, (changesOnly_createFolders hfs h).isTree, hparts, hleads, hfolder,
    fun names target hlink => hlinks folder hplace names target (hgrows.get?_link hlink)⟩

/-- Nothing has to be made for a path that leads into a folder. -/
theorem LeadsInto.createFolders_eq {path : String}
    (h : LeadsInto fs (Path.components path) folder) : fs.createFolders path = .ok fs :=
  createFoldersTo_of_leads h.isTree h.leads h.isFolder

end StaticSite.FileSystem
