/-
Below a folder that holds no links.

Where a path leads can be told in two steps: where its folder leads, and where the rest of it leads
from there (`Leads.exists_mid`).  Below a folder without links, names lead to the place that they
name (`Leads.eq_append`), so that different names lead to different places.
-/
import StaticSite.Proofs.FileSystem.Change

namespace StaticSite.FileSystem

variable {fs fs' : FileSystem} {links : Nat} {here place folder : Place}

/-- The place that the components of a path lead to; a path without components leads to the working
folder. -/
def placeOf (fs : FileSystem) (path : String) : Except FileError Place :=
  fs.walkTo maxLinks fs.workingFolder (Path.components path)

/-- No link stands in the folder or below it. -/
def NoLinksIn (fs : FileSystem) (folder : Place) : Prop :=
  ∀ names target, fs.get? (folder ++ names) ≠ some (.link target)

/-- A folder holds no links if there are none at all. -/
theorem noLinksIn_of_forall (h : ∀ entry ∈ fs.entries.entries, ∀ target, entry.2 ≠ .link target)
    (folder : Place) : fs.NoLinksIn folder := by
  intro names target hlink
  have hne : folder ++ names ≠ [] := by
    intro hnil
    rw [hnil] at hlink
    cases hlink
  exact h _ (mem_of_get?_eq_some hne hlink) target rfl

theorem locate_eq_ok {path : String} :
    fs.locate path = .ok place ↔ Path.components path ≠ [] ∧ fs.placeOf path = .ok place := by
  unfold locate locateParts placeOf
  split <;> simp_all

/-- A step with one component, and then by way of where the ones after it lead. -/
theorem exists_mid_of_step {links₁ : Nat} {here₁ : Place} {part : Path.Component}
    {parts tail rest : List Path.Component} (hall : parts ++ rest = part :: tail)
    (h : Leads fs links here (part :: tail) place)
    (htail : ∀ {parts}, parts ++ rest = tail →
      ∃ links' mid, Leads fs links₁ here₁ parts mid ∧ Leads fs links' mid rest place)
    (step : ∀ {parts mid}, Leads fs links₁ here₁ parts mid →
      Leads fs links here (part :: parts) mid) :
    ∃ links' mid, Leads fs links here parts mid ∧ Leads fs links' mid rest place := by
  rcases List.append_eq_cons_iff.mp hall with ⟨rfl, rfl⟩ | ⟨parts', rfl, hrest⟩
  · exact ⟨_, _, .stop, h⟩
  · obtain ⟨links', mid, hmid, hlast⟩ := htail hrest.symm
    exact ⟨links', mid, step hmid, hlast⟩

/-- Components lead somewhere by way of where the first ones of them lead. -/
theorem Leads.exists_mid {parts rest : List Path.Component}
    (h : Leads fs links here (parts ++ rest) place) :
    ∃ links' mid, Leads fs links here parts mid ∧ Leads fs links' mid rest place := by
  generalize hall : parts ++ rest = all at h
  induction h generalizing parts with
  | stop =>
      obtain ⟨rfl, rfl⟩ := List.append_eq_nil_iff.mp hall
      exact ⟨0, _, .stop, .stop⟩
  | root h ih => exact exists_mid_of_step hall (.root h) ih .root
  | current h ih => exact exists_mid_of_step hall (.current h) ih .current
  | parent h ih => exact exists_mid_of_step hall (.parent h) ih .parent
  | folder hname h ih => exact exists_mid_of_step hall (.folder hname h) ih (.folder hname)
  | link hname h ih =>
      -- the target of the link belongs to the first components
      rcases List.append_eq_cons_iff.mp hall with ⟨rfl, rfl⟩ | ⟨parts', rfl, hrest⟩
      · exact ⟨_, _, .stop, .link hname h⟩
      · obtain ⟨links', mid, hmid, hlast⟩ := ih (by rw [hrest, List.append_assoc])
        exact ⟨links', mid, .link hname hmid, hlast⟩
  | file hname =>
      rcases List.append_eq_cons_iff.mp hall with ⟨rfl, rfl⟩ | ⟨parts', rfl, hrest⟩
      · exact ⟨0, _, .stop, .file hname⟩
      · obtain ⟨rfl, rfl⟩ := List.append_eq_nil_iff.mp hrest.symm
        exact ⟨0, _, .file hname, .stop⟩
  | free hname =>
      rcases List.append_eq_cons_iff.mp hall with ⟨rfl, rfl⟩ | ⟨parts', rfl, hrest⟩
      · exact ⟨0, _, .stop, .free hname⟩
      · obtain ⟨rfl, rfl⟩ := List.append_eq_nil_iff.mp hrest.symm
        exact ⟨0, _, .free hname, .stop⟩

/-- Below a folder without links, names lead to the place that they name. -/
theorem Leads.eq_append {names : List String} (hlinks : fs.NoLinksIn folder)
    (h : Leads fs links folder (names.map .name) place) : place = folder ++ names := by
  generalize hparts : names.map Path.Component.name = parts at h
  induction h generalizing names with
  | stop =>
      rw [List.map_eq_nil_iff.mp hparts, List.append_nil]
  | root _ _ =>
      obtain ⟨name, names, rfl, hname, hrest⟩ := List.map_eq_cons_iff.mp hparts
      cases hname
  | current _ _ =>
      obtain ⟨name, names, rfl, hname, hrest⟩ := List.map_eq_cons_iff.mp hparts
      cases hname
  | parent _ _ =>
      obtain ⟨name, names, rfl, hname, hrest⟩ := List.map_eq_cons_iff.mp hparts
      cases hname
  | folder _ _ ih =>
      obtain ⟨name, names, rfl, hname, hrest⟩ := List.map_eq_cons_iff.mp hparts
      cases hname
      rw [ih (fun below target => by rw [List.append_assoc]; exact hlinks _ target) hrest]
      simp
  | link hlink _ _ => exact absurd hlink (hlinks _ _)
  | file _ =>
      obtain ⟨name, names, rfl, hname, hrest⟩ := List.map_eq_cons_iff.mp hparts
      cases hname
      rw [List.map_eq_nil_iff.mp hrest]
  | free _ =>
      obtain ⟨name, names, rfl, hname, hrest⟩ := List.map_eq_cons_iff.mp hparts
      cases hname
      rw [List.map_eq_nil_iff.mp hrest]

/-- A path made of names below such a folder leads to the place that it names. -/
theorem eq_append_of_locate {base : String} {names : Place}
    (hlinks : ∀ folder, fs.placeOf base = .ok folder → fs.NoLinksIn folder)
    (hnames : ∀ n ∈ names, Path.IsName n) (hne : names ≠ [])
    (h : fs.locate (Path.join base ("/".intercalate names)) = .ok place) :
    ∃ folder, fs.placeOf base = .ok folder ∧ place = folder ++ names := by
  obtain ⟨-, hplace⟩ := locate_eq_ok.mp h
  rw [placeOf, Path.components_join base hnames hne] at hplace
  obtain ⟨links', folder, hbase, hrest⟩ := (leads_of_walkTo hplace).exists_mid
  exact ⟨folder, hbase.walkTo, hrest.eq_append (hlinks folder hbase.walkTo)⟩

end StaticSite.FileSystem
