/-
Trees of files, and where paths lead in them.

In a tree (`IsTree`) every entry has a name and lies in a folder.  A path leads to a spot: there is
a folder above it, and it is no link (`IsTree.isSpot_of_locate`), so that a file may stand there
unless a folder does.  Putting an entry at such a spot gives a tree again (`IsTree.setEntry`).
-/
import Mathlib.Data.List.Induction
import StaticSite.FileSystem
import StaticSite.Outcome
import StaticSite.Proofs.Path.Names

namespace StaticSite

theorem OrderedMap.mem_of_mem_put {κ α : Type} [DecidableEq κ] {key : κ} {value : α}
    {entry : κ × α} {entries : List (κ × α)} (h : entry ∈ put key value entries) :
    entry = (key, value) ∨ entry ∈ entries := by
  induction entries with
  | nil => exact .inl (List.mem_singleton.mp h)
  | cons first rest ih =>
      obtain ⟨k, v⟩ := first
      by_cases hk : k = key
      · rw [put, if_pos hk, hk] at h
        rcases List.mem_cons.mp h with rfl | hrest
        · exact .inl rfl
        · exact .inr (List.mem_cons_of_mem _ hrest)
      · rw [put, if_neg hk] at h
        rcases List.mem_cons.mp h with rfl | hrest
        · exact .inr List.mem_cons_self
        · exact (ih hrest).imp_right (List.mem_cons_of_mem _)

namespace FileSystem

/-! ## Trees -/

/-- Every file and folder of the tree has a name. -/
def HasNames (fs : FileSystem) : Prop :=
  ∀ entry ∈ fs.entries.entries, ∀ name ∈ entry.1, Path.IsName name

instance (fs : FileSystem) : Decidable fs.HasNames :=
  inferInstanceAs (Decidable (∀ entry ∈ fs.entries.entries, ∀ name ∈ entry.1, Path.IsName name))

/-- What is in the tree has one entry, has a name at every step and lies in a folder, and one works
in a folder. -/
structure IsTree (fs : FileSystem) : Prop where
  nodup : fs.entries.keys.Nodup
  hasNames : fs.HasNames
  parent : ∀ entry ∈ fs.entries.entries, fs.get? entry.1.dropLast = some .folder
  working : fs.get? fs.workingFolder = some .folder

instance (fs : FileSystem) : Decidable fs.IsTree :=
  decidable_of_iff
    (fs.entries.keys.Nodup ∧ fs.HasNames ∧
      (∀ entry ∈ fs.entries.entries, fs.get? entry.1.dropLast = some .folder) ∧
      fs.get? fs.workingFolder = some .folder)
    ⟨fun ⟨h₁, h₂, h₃, h₄⟩ => ⟨h₁, h₂, h₃, h₄⟩, fun h => ⟨h.1, h.2, h.3, h.4⟩⟩

variable {fs : FileSystem} {place : Place} {e : FileEntry}

theorem isTree_empty : FileSystem.empty.IsTree := by
  decide

theorem get?_of_ne_nil (fs : FileSystem) (h : place ≠ []) :
    fs.get? place = fs.entries.get? place := by
  cases place with
  | nil => exact absurd rfl h
  | cons name names => rfl

theorem mem_of_get?_eq_some (hne : place ≠ []) (h : fs.get? place = some e) :
    (place, e) ∈ fs.entries.entries := by
  rw [get?_of_ne_nil fs hne] at h
  exact OrderedMap.mem_of_find?_eq_some h

/-- What components lead to stands where they lead. -/
theorem entryAt_eq_ok {parts : List Path.Component} :
    fs.entryAt parts = .ok e ↔
      ∃ place, fs.locateParts parts = .ok place ∧ fs.get? place = some e := by
  unfold entryAt
  constructor
  · intro h
    obtain ⟨place, hplace, h⟩ := Outcome.bind_eq_ok.mp h
    split at h
    · rename_i hentry
      cases h
      exact ⟨place, hplace, hentry⟩
    · cases h
  · rintro ⟨place, hplace, hentry⟩
    refine Outcome.bind_eq_ok.mpr ⟨place, hplace, ?_⟩
    rw [hentry]

theorem isFolderAt_iff_entryAt {parts : List Path.Component} :
    fs.isFolderAt parts = true ↔ fs.entryAt parts = .ok .folder := by
  unfold isFolderAt
  split <;> simp_all

/-- What is read is the content of the file that the path leads to. -/
theorem read_eq_ok {path : String} {content : ByteArray} :
    fs.read path = .ok content ↔
      ∃ place modified, fs.locate path = .ok place ∧
        fs.get? place = some (.file content modified) := by
  unfold read
  constructor
  · intro h
    obtain ⟨e, hentry, h⟩ := Outcome.bind_eq_ok.mp h
    obtain ⟨place, hplace, hget⟩ := entryAt_eq_ok.mp hentry
    split at h
    · rename_i modified
      cases h
      exact ⟨place, modified, hplace, hget⟩
    · cases h
  · rintro ⟨place, modified, hplace, hget⟩
    exact Outcome.bind_eq_ok.mpr ⟨_, entryAt_eq_ok.mpr ⟨place, hplace, hget⟩, rfl⟩

theorem readText_of_read {path text : String} (h : fs.read path = .ok text.toUTF8) :
    fs.readText path = .ok text := by
  have hdecoded : String.fromUTF8? text.toUTF8 = some text := dif_pos text.isValidUTF8
  unfold readText
  rw [h]
  dsimp only [bind, Except.bind]
  rw [hdecoded]

theorem isFolder_eq_true {path : String} :
    fs.isFolder path = true ↔
      ∃ folder, fs.locate path = .ok folder ∧ fs.get? folder = some .folder :=
  isFolderAt_iff_entryAt.trans entryAt_eq_ok

namespace IsTree

/-- With one entry for each place, an entry is what stands there. -/
theorem get?_eq_some_iff (hfs : fs.IsTree) (hne : place ≠ []) :
    fs.get? place = some e ↔ (place, e) ∈ fs.entries.entries := by
  refine ⟨mem_of_get?_eq_some hne, fun h => ?_⟩
  rw [get?_of_ne_nil fs hne]
  exact OrderedMap.find?_of_mem hfs.nodup h

/-- Above what is there is a folder. -/
theorem get?_dropLast (hfs : fs.IsTree) (h : fs.get? place = some e) :
    fs.get? place.dropLast = some .folder := by
  by_cases hne : place = []
  · rw [hne]
    rfl
  · exact hfs.parent _ (mem_of_get?_eq_some hne h)

/-- Everything on the way down to what is there is a folder. -/
theorem get?_of_append (hfs : fs.IsTree) {folder names : Place} (hne : names ≠ [])
    (h : fs.get? (folder ++ names) = some e) : fs.get? folder = some .folder := by
  induction names using List.reverseRecOn generalizing e with
  | nil => exact absurd rfl hne
  | append_singleton names name ih =>
      have habove := hfs.get?_dropLast h
      rw [← List.append_assoc, List.dropLast_concat] at habove
      by_cases hnil : names = []
      · rwa [hnil, List.append_nil] at habove
      · exact ih hnil habove

theorem isName_of_get?_eq_some (hfs : fs.IsTree) (h : fs.get? place = some e) :
    ∀ name ∈ place, Path.IsName name := by
  by_cases hne : place = []
  · rw [hne]
    exact List.forall_mem_nil _
  · exact hfs.hasNames _ (mem_of_get?_eq_some hne h)

end IsTree

/-! ## Spots -/

/-- A place in a folder, which has a name and is no link. -/
structure IsSpot (fs : FileSystem) (place : Place) : Prop where
  parent : fs.get? place.dropLast = some .folder
  isName : ∀ name ∈ place, Path.IsName name
  not_link : ∀ target, fs.get? place ≠ some (.link target)

theorem IsTree.isSpot_of_get? (hfs : fs.IsTree) (h : fs.get? place = some e)
    (hlink : ∀ target, e ≠ .link target) : fs.IsSpot place where
  parent := hfs.get?_dropLast h
  isName := hfs.isName_of_get?_eq_some h
  not_link target htarget := hlink target (Option.some.inj (h.symm.trans htarget))

/-- A free place in a folder is a spot for anything with a name. -/
theorem IsTree.isSpot_concat (hfs : fs.IsTree) {folder : Place} {name : String}
    (hfolder : fs.get? folder = some .folder) (hname : Path.IsName name)
    (hfree : fs.get? (folder ++ [name]) = none) : fs.IsSpot (folder ++ [name]) where
  parent := by rwa [List.dropLast_concat]
  isName := List.forall_mem_append.mpr
    ⟨hfs.isName_of_get?_eq_some hfolder, List.forall_mem_singleton.mpr hname⟩
  not_link target htarget := by
    rw [hfree] at htarget
    cases htarget

/-- From a folder, components lead to a place, by way of some links at most.  What they end in is a
folder, a file or nothing. -/
inductive Leads (fs : FileSystem) : Nat → Place → List Path.Component → Place → Prop
  | stop {links : Nat} {here : Place} : Leads fs links here [] here
  | root {links : Nat} {here place : Place} {rest : List Path.Component} :
      Leads fs links [] rest place → Leads fs links here (.root :: rest) place
  | current {links : Nat} {here place : Place} {rest : List Path.Component} :
      Leads fs links here rest place → Leads fs links here (.current :: rest) place
  | parent {links : Nat} {here place : Place} {rest : List Path.Component} :
      Leads fs links here.dropLast rest place → Leads fs links here (.parent :: rest) place
  | folder {links : Nat} {here place : Place} {name : String} {rest : List Path.Component} :
      fs.get? (here ++ [name]) = some .folder → Leads fs links (here ++ [name]) rest place →
      Leads fs links here (.name name :: rest) place
  | link {links : Nat} {here place : Place} {name target : String} {rest : List Path.Component} :
      fs.get? (here ++ [name]) = some (.link target) →
      Leads fs links here (Path.components target ++ rest) place →
      Leads fs (links + 1) here (.name name :: rest) place
  | file {links : Nat} {here : Place} {name : String} {content : ByteArray} {modified : Int} :
      fs.get? (here ++ [name]) = some (.file content modified) →
      Leads fs links here [.name name] (here ++ [name])
  | free {links : Nat} {here : Place} {name : String} :
      fs.get? (here ++ [name]) = none → Leads fs links here [.name name] (here ++ [name])

theorem leads_of_walkTo {links : Nat} {here : Place} {parts : List Path.Component}
    (h : fs.walkTo links here parts = .ok place) : Leads fs links here parts place := by
  induction links, here, parts using FileSystem.walkTo.induct fs <;> rw [walkTo] at h
  case case1 =>
    cases h
    exact .stop
  case case2 ih => exact .root (ih h)
  case case3 ih => exact .current (ih h)
  case case4 ih => exact .parent (ih h)
  case case5 next hnext ih =>
    rw [hnext] at h
    exact .folder hnext (ih h)
  case case6 next target hnext =>
    rw [hnext] at h
    cases h
  case case7 next target hnext links ih =>
    rw [hnext] at h
    exact .link hnext (ih h)
  case case8 next content modified hnext hrest =>
    rw [hnext, List.isEmpty_iff.mp hrest] at h
    cases h
    rw [List.isEmpty_iff.mp hrest]
    exact .file hnext
  case case9 next content modified hnext hrest =>
    rw [hnext] at h
    dsimp only at h
    rw [if_neg hrest] at h
    cases h
  case case10 next hnext hrest =>
    rw [hnext, List.isEmpty_iff.mp hrest] at h
    cases h
    rw [List.isEmpty_iff.mp hrest]
    exact .free hnext
  case case11 next hnext hrest =>
    rw [hnext] at h
    dsimp only at h
    rw [if_neg hrest] at h
    cases h

theorem Leads.walkTo {links : Nat} {here : Place} {parts : List Path.Component}
    (h : Leads fs links here parts place) : fs.walkTo links here parts = .ok place := by
  induction h with
  | stop => rw [FileSystem.walkTo]
  | root _ ih => rw [FileSystem.walkTo, ih]
  | current _ ih => rw [FileSystem.walkTo, ih]
  | parent _ ih => rw [FileSystem.walkTo, ih]
  | folder hname _ ih => rw [FileSystem.walkTo, hname]; exact ih
  | link hname _ ih => rw [FileSystem.walkTo, hname]; exact ih
  | file hname => rw [FileSystem.walkTo, hname]; rfl
  | free hname => rw [FileSystem.walkTo, hname]; rfl

/-- Nothing in the tree is a link. -/
def HasNoLinks (fs : FileSystem) : Prop := ∀ place target, fs.get? place ≠ some (.link target)

/-- The place that components stand for as they are written, whatever is there. -/
def straight (here : Place) : List Path.Component → Place
  | [] => here
  | .root :: rest => straight [] rest
  | .current :: rest => straight here rest
  | .parent :: rest => straight here.dropLast rest
  | .name name :: rest => straight (here ++ [name]) rest

/-- Without links, components lead to the place that they stand for. -/
theorem HasNoLinks.eq_straight (hlinks : fs.HasNoLinks) {links : Nat} {here : Place}
    {parts : List Path.Component} (h : Leads fs links here parts place) :
    place = straight here parts := by
  induction h with
  | stop => rfl
  | root _ ih => exact ih
  | current _ ih => exact ih
  | parent _ ih => exact ih
  | folder _ _ ih => exact ih
  | link hname _ _ => exact absurd hname (hlinks _ _)
  | file _ => rfl
  | free _ => rfl

theorem HasNoLinks.locate_eq_straight (hlinks : fs.HasNoLinks) {path : String}
    (h : fs.locate path = .ok place) :
    place = straight fs.workingFolder (Path.components path) := by
  unfold locate locateParts at h
  split at h
  · cases h
  · exact hlinks.eq_straight (leads_of_walkTo h)

/-- Where components lead to a folder, further ones go on from there. -/
theorem Leads.append {links : Nat} {here mid : Place} {parts rest : List Path.Component}
    (h : Leads fs links here parts mid) (hmid : fs.get? mid = some .folder)
    (hrest : ∀ links, Leads fs links mid rest place) :
    Leads fs links here (parts ++ rest) place := by
  induction h with
  | stop => exact hrest _
  | root _ ih => exact .root (ih hmid hrest)
  | current _ ih => exact .current (ih hmid hrest)
  | parent _ ih => exact .parent (ih hmid hrest)
  | folder hname _ ih => exact .folder hname (ih hmid hrest)
  | link hname _ ih => exact .link hname (List.append_assoc .. ▸ ih hmid hrest)
  | file hfile => cases hfile.symm.trans hmid
  | free hfree => cases hfree.symm.trans hmid

/-- Names lead down to a file. -/
theorem IsTree.leads_names (hfs : fs.IsTree) (links : Nat) {here : Place} {names : List String}
    {content : ByteArray} {modified : Int} (hne : names ≠ [])
    (h : fs.get? (here ++ names) = some (.file content modified)) :
    Leads fs links here (names.map .name) (here ++ names) := by
  induction names generalizing here with
  | nil => exact absurd rfl hne
  | cons name names ih =>
      by_cases hnil : names = []
      · subst hnil
        exact .file h
      · rw [List.append_cons] at h ⊢
        exact .folder (hfs.get?_of_append hnil h) (ih hnil h)

theorem IsTree.locate_join (hfs : fs.IsTree) {base : String} {folder names : Place}
    {content : ByteArray} {modified : Int} (hbase : fs.locate base = .ok folder)
    (hfolder : fs.get? folder = some .folder) (hne : names ≠ [])
    (hfile : fs.get? (folder ++ names) = some (.file content modified)) :
    fs.locate (Path.join base ("/".intercalate names)) = .ok (folder ++ names) := by
  have hnames : ∀ name ∈ names, Path.IsName name := fun name hname =>
    hfs.isName_of_get?_eq_some hfile name (List.mem_append_right _ hname)
  unfold locate locateParts at hbase ⊢
  split at hbase
  · cases hbase
  · rename_i hparts
    rw [Path.components_join base hnames hne, if_neg (by simp [hne])]
    have hleads := (leads_of_walkTo hbase).append hfolder fun links =>
      hfs.leads_names links hne hfile
    exact hleads.walkTo

/-- Components lead from a folder to a spot. -/
theorem IsTree.isSpot_of_leads (hfs : fs.IsTree) {links : Nat} {here : Place}
    {parts : List Path.Component} (hhere : fs.get? here = some .folder)
    (hparts : ∀ name, .name name ∈ parts → Path.IsName name)
    (h : Leads fs links here parts place) : fs.IsSpot place := by
  induction h with
  | stop => exact hfs.isSpot_of_get? hhere fun _ => FileEntry.noConfusion
  | root _ ih => exact ih rfl fun name hname => hparts name (List.mem_cons_of_mem _ hname)
  | current _ ih => exact ih hhere fun name hname => hparts name (List.mem_cons_of_mem _ hname)
  | parent _ ih =>
      exact ih (hfs.get?_dropLast hhere) fun name hname =>
        hparts name (List.mem_cons_of_mem _ hname)
  | folder hnext _ ih => exact ih hnext fun name hname => hparts name (List.mem_cons_of_mem _ hname)
  | link _ _ ih =>
      refine ih hhere fun name hname => ?_
      rcases List.mem_append.mp hname with htarget | hrest
      · exact Path.isName_of_mem_components htarget
      · exact hparts name (List.mem_cons_of_mem _ hrest)
  | file hfile => exact hfs.isSpot_of_get? hfile fun _ => FileEntry.noConfusion
  | free hfree => exact hfs.isSpot_concat hhere (hparts _ List.mem_cons_self) hfree

theorem IsTree.isSpot_of_locateParts (hfs : fs.IsTree) {parts : List Path.Component}
    (hparts : ∀ name, .name name ∈ parts → Path.IsName name)
    (h : fs.locateParts parts = .ok place) : fs.IsSpot place := by
  unfold locateParts at h
  split at h
  · cases h
  · exact hfs.isSpot_of_leads hfs.working hparts (leads_of_walkTo h)

theorem IsTree.isSpot_of_locate (hfs : fs.IsTree) {path : String}
    (h : fs.locate path = .ok place) : fs.IsSpot place :=
  hfs.isSpot_of_locateParts (fun _ => Path.isName_of_mem_components) h

/-- An entry that is put at a spot where no folder stands gives a tree again. -/
theorem IsTree.setEntry (hfs : fs.IsTree) (hspot : fs.IsSpot place)
    (hfolder : fs.get? place ≠ some .folder) (e : FileEntry) : (fs.setEntry place e).IsTree := by
  have hne : place ≠ [] := by
    rintro rfl
    exact hfolder rfl
  have hkeep : ∀ other, fs.get? other = some .folder →
      (fs.setEntry place e).get? other = some .folder := by
    intro other hother
    have hdistinct : other ≠ place := by
      rintro rfl
      exact hfolder hother
    rwa [get?_setEntry_of_ne fs hdistinct]
  refine ⟨OrderedMap.nodup_keys_insert hfs.nodup place e, ?_, ?_, hkeep _ hfs.working⟩
  · intro entry hentry
    rcases OrderedMap.mem_of_mem_put hentry with rfl | hold
    · exact hspot.isName
    · exact hfs.hasNames entry hold
  · intro entry hentry
    rcases OrderedMap.mem_of_mem_put hentry with rfl | hold
    · exact hkeep _ hspot.parent
    · exact hkeep _ (hfs.parent entry hold)

end FileSystem

end StaticSite
