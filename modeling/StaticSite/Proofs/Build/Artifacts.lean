/-
Requests for artifacts.

An index holds the first record of each kind and logical name (`holdsFirst_ofRecords`).  The scan of a
folder reads the logical name off the name of a file, and a request is reduced to the same logical
name when it ends in the name of the file (`logicalName_of_classify`).  Main statement: an artifact
that was scanned is found by its logical name, by its file name and by its path, unless the request
is the logical name of another one (`resolve_of_scanned`).
-/
import Mathlib
import StaticSite.Proofs.Build.Walk
import StaticSite.Proofs.OrderedMap

namespace StaticSite

namespace Artifact

/-- What an index tells artifacts by. -/
def key (a : Artifact) : AssetKind × String := (a.kind, a.logicalName)

/-- The name of the file that the path leads to. -/
def fileName (a : Artifact) : String := String.ofList (Text.lastPiece '/' a.path.toList)

/-- The kind and the logical name are those of the file. -/
def IsScanned (a : Artifact) : Prop := classify a.fileName = some a.key

/-- The ways to ask for an artifact: by its logical name, by its file name, and by its path with any
number of slashes before it. -/
inductive IsRequest (a : Artifact) : String → Prop
  | logicalName : a.IsRequest a.logicalName
  | fileName : a.IsRequest a.fileName
  | path (slashes : Nat) : a.IsRequest (String.ofList (List.replicate slashes '/') ++ a.path)

end Artifact

/-! ## The index -/

namespace ArtifactIndex

variable {index : ArtifactIndex} {records : List Artifact} {a b : Artifact}

/-- The record is the first one of its kind and logical name. -/
def IsFirst (records : List Artifact) (a : Artifact) : Prop :=
  ∃ before after, records = before ++ a :: after ∧ a.key ∉ before.map Artifact.key

/-- The index has one artifact for each kind and logical name of the records, and this is the first
record of them. -/
structure HoldsFirst (index : ArtifactIndex) (records : List Artifact) : Prop where
  nodup : (index.artifacts.map Artifact.key).Nodup
  mem_keys : ∀ key, key ∈ index.artifacts.map Artifact.key ↔ key ∈ records.map Artifact.key
  mem_iff : ∀ a, a ∈ index.artifacts ↔ IsFirst records a

theorem not_isFirst_nil (a : Artifact) : ¬ IsFirst [] a := by
  rintro ⟨before, after, h, -⟩
  cases before <;> cases h

/-- The record at the end is a first one if there is none of its key before it. -/
theorem isFirst_concat :
    IsFirst (records ++ [b]) a ↔
      IsFirst records a ∨ a = b ∧ b.key ∉ records.map Artifact.key := by
  constructor
  · rintro ⟨before, after, hrecords, hfirst⟩
    rcases List.eq_nil_or_concat after with rfl | ⟨after, last, rfl⟩
    · obtain ⟨rfl, heq⟩ := List.append_inj' hrecords rfl
      cases heq
      exact .inr ⟨rfl, hfirst⟩
    · rw [List.concat_eq_append, ← List.cons_append, ← List.append_assoc] at hrecords
      obtain ⟨rfl, -⟩ := List.append_inj' hrecords rfl
      exact .inl ⟨before, after, rfl, hfirst⟩
  · rintro (⟨before, after, rfl, hfirst⟩ | ⟨rfl, hnew⟩)
    · exact ⟨before, after ++ [b], by simp, hfirst⟩
    · exact ⟨records, [], rfl, hnew⟩

/-- What is found under a key is in the index and has this key. -/
theorem mem_of_get? {kind : AssetKind} {name : String} (h : index.get? kind name = some a) :
    a ∈ index.artifacts ∧ a.key = (kind, name) := by
  unfold ArtifactIndex.get? at h
  have hkey := List.find?_some h
  exact ⟨List.mem_of_find?_eq_some h, by simpa [Artifact.key] using hkey⟩

/-- With distinct keys, an artifact is what is found under its key. -/
theorem get?_eq_some_iff (h : (index.artifacts.map Artifact.key).Nodup) {kind : AssetKind}
    {name : String} :
    index.get? kind name = some a ↔ a ∈ index.artifacts ∧ a.key = (kind, name) := by
  refine ⟨mem_of_get?, fun ⟨hmem, ha⟩ => ?_⟩
  cases hget : index.get? kind name with
  | none =>
      refine absurd ?_ (List.find?_eq_none.mp hget a hmem)
      simpa [Artifact.key] using ha
  | some b =>
      obtain ⟨hmem', hb⟩ := mem_of_get? hget
      rw [List.inj_on_of_nodup_map h hmem' hmem (hb.trans ha.symm)]

theorem isSome_get?_iff (h : (index.artifacts.map Artifact.key).Nodup) :
    (index.get? a.kind a.logicalName).isSome = true ↔
      a.key ∈ index.artifacts.map Artifact.key := by
  rw [Option.isSome_iff_exists, List.mem_map]
  exact exists_congr fun b => get?_eq_some_iff h

theorem holdsFirst_nil : HoldsFirst ⟨[]⟩ [] where
  nodup := .nil
  mem_keys _ := Iff.rfl
  mem_iff a := iff_of_false List.not_mem_nil (not_isFirst_nil a)

/-- A record that is added counts as one more record at the end. -/
theorem HoldsFirst.add (h : index.HoldsFirst records) (b : Artifact) :
    (index.add b).HoldsFirst (records ++ [b]) := by
  unfold ArtifactIndex.add
  split
  · -- its key is there already
    rename_i htaken
    have hold : b.key ∈ records.map Artifact.key :=
      (h.mem_keys b.key).mp ((isSome_get?_iff h.nodup).mp htaken)
    refine ⟨h.nodup, fun key => ?_, fun a => ?_⟩
    · rw [h.mem_keys, List.map_append, List.mem_append]
      refine ⟨.inl, fun hkey => hkey.elim id fun hlast => ?_⟩
      rwa [List.mem_singleton.mp hlast]
    · rw [h.mem_iff, isFirst_concat]
      exact (or_iff_left fun ⟨_, hnew⟩ => hnew hold).symm
  · rename_i hnew
    have hnew : b.key ∉ index.artifacts.map Artifact.key := fun hmem =>
      hnew ((isSome_get?_iff h.nodup).mpr hmem)
    refine ⟨?_, fun key => ?_, fun a => ?_⟩
    · rw [List.map_append]
      exact List.nodup_append.mpr ⟨h.nodup, List.pairwise_singleton _ _, by
        rintro key hkey key' hkey' rfl
        exact hnew (List.mem_singleton.mp hkey' ▸ hkey)⟩
    · rw [List.map_append, List.map_append, List.mem_append, List.mem_append, h.mem_keys]
    · rw [isFirst_concat, List.mem_append, List.mem_singleton, h.mem_iff, ← h.mem_keys]
      exact or_congr_right ⟨fun heq => ⟨heq, hnew⟩, And.left⟩

theorem HoldsFirst.addAll (h : index.HoldsFirst records) (more : List Artifact) :
    (more.foldl ArtifactIndex.add index).HoldsFirst (records ++ more) := by
  apply OrderedMap.foldl_keeps _ h more
  intro index records b hindex
  exact hindex.add b

/-- An index made of records holds the first one of each kind and logical name. -/
theorem holdsFirst_ofRecords (records : List Artifact) :
    (ofRecords records).HoldsFirst records :=
  holdsFirst_nil.addAll records

end ArtifactIndex

/-! ## Names of files -/

namespace Artifact

variable {kind : AssetKind} {file name : String}

/-- The logical name is the file name without the ending of its kind. -/
theorem cases_of_classify (h : classify file = some (kind, name)) :
    (kind = .css ∧ Text.beforeSuffix? ".min.css".toList file.toList = some name.toList) ∨
    (kind = .js ∧ Text.beforeSuffix? ".min.js".toList file.toList = some name.toList) ∨
    (kind = .font ∧ ∃ ending, Text.splitLast '.' file.toList = some (name.toList, ending)) := by
  unfold classify at h
  dsimp only at h
  split at h
  · rename_i stem _ hcut
    cases h
    exact .inl ⟨rfl, by rw [hcut, String.toList_ofList]⟩
  · rename_i stem _ hcut
    cases h
    exact .inr (.inl ⟨rfl, by rw [hcut, String.toList_ofList]⟩)
  · split at h
    · rename_i stem ending hcut
      split at h
      · cases h
        exact .inr (.inr ⟨rfl, ending, by rw [hcut, String.toList_ofList]⟩)
      · cases h
    · cases h

theorem kind_ne_image_of_classify (h : classify file = some (kind, name)) : kind ≠ .image := by
  rcases cases_of_classify h with ⟨rfl, -⟩ | ⟨rfl, -⟩ | ⟨rfl, -⟩ <;> exact nofun

/-- A request that ends in the name of a file is reduced to the logical name of the file. -/
theorem logicalName_of_classify (h : classify file = some (kind, name)) {request : String}
    (hrequest : Text.lastPiece '/' request.toList = file.toList) :
    Resolver.logicalName kind request = name := by
  unfold Resolver.logicalName
  dsimp only
  rw [hrequest]
  rcases cases_of_classify h with ⟨rfl, hcut⟩ | ⟨rfl, hcut⟩ | ⟨rfl, ending, hcut⟩
  · have hending : (".min." ++ "css").toList = ".min.css".toList := by decide
    dsimp only
    rw [hending, hcut]
    exact String.ofList_toList
  · have hending : (".min." ++ "js").toList = ".min.js".toList := by decide
    dsimp only
    rw [hending, hcut]
    exact String.ofList_toList
  · dsimp only
    rw [hcut]
    exact String.ofList_toList

/-- What a scan finds is named by its files. -/
theorem isScanned_of_mem_scanArtifacts {fs : FileSystem} (hfs : fs.HasNames) {folder : String}
    {a : Artifact} (h : a ∈ Build.scanArtifacts fs folder) : a.IsScanned := by
  obtain ⟨f, hf, hartifact⟩ := List.mem_filterMap.mp h
  obtain ⟨⟨kind, name⟩, hclassify, rfl⟩ := Option.map_eq_some_iff.mp hartifact
  obtain ⟨hne, hnames⟩ := Build.isName_of_mem_filesOf hfs hf
  obtain ⟨names, modified⟩ := f
  obtain ⟨folders, file, rfl⟩ := (List.eq_nil_or_concat' names).resolve_left hne
  have hfile : Text.lastPiece '/' ("/".intercalate (folders ++ [file])).toList = file.toList :=
    Path.lastPiece_intercalate folders (hnames file (by simp))
  rw [FileSystem.Found.name_concat] at hclassify
  rw [IsScanned, fileName, FileSystem.Found.path, hfile, String.ofList_toList]
  exact hclassify

/-- A request for the file of an artifact is reduced to its logical name. -/
theorem IsScanned.logicalName_request {a : Artifact} (h : a.IsScanned) {request : String}
    (hrequest : a.IsRequest request) :
    request = a.logicalName ∨ Resolver.logicalName a.kind request = a.logicalName := by
  cases hrequest with
  | logicalName => exact .inl rfl
  | fileName =>
      refine .inr (logicalName_of_classify h ?_)
      rw [fileName, String.toList_ofList, Text.lastPiece_lastPiece]
  | path slashes =>
      refine .inr (logicalName_of_classify h ?_)
      rw [String.toList_append, String.toList_ofList, Text.lastPiece_replicate_append, fileName,
        String.toList_ofList]

end Artifact

/-! ## Requests -/

namespace Resolver

variable {records : List Artifact} {r : Resolver} {kind : AssetKind} {request : String}

theorem resolve_eq_resolveArtifact (hkind : kind ≠ .image) :
    r.resolve kind request = r.resolveArtifact kind request := by
  cases kind with
  | image => exact absurd rfl hkind
  | _ => rfl

/-- A request for an artifact of the index finds it, if it is the logical name of no other one. -/
theorem resolveArtifact_of_isRequest {a : Artifact} (hfirst : r.index.HoldsFirst records)
    (ha : a ∈ r.index.artifacts) (hscanned : a.IsScanned) (hrequest : a.IsRequest request)
    (honly : ∀ b ∈ r.index.artifacts, b.kind = a.kind → b.logicalName = request → b = a) :
    r.resolveArtifact a.kind request = some ⟨r.config.rootedUrl a.path, a.version, a.path⟩ := by
  have hself : r.index.get? a.kind a.logicalName = some a :=
    (ArtifactIndex.get?_eq_some_iff hfirst.nodup).mpr ⟨ha, rfl⟩
  rw [resolveArtifact]
  cases hget : r.index.get? a.kind request with
  | some b =>
      obtain ⟨hb, hkey⟩ := ArtifactIndex.mem_of_get? hget
      obtain ⟨hkind, hname⟩ := Prod.mk.inj hkey
      rw [honly b hb hkind hname]
      rfl
  | none =>
      rcases hscanned.logicalName_request hrequest with rfl | hlogical
      · rw [hself] at hget
        cases hget
      · rw [hlogical, hself]
        rfl

/-- What is found is an artifact of the kind that is asked for. -/
theorem exists_of_resolveArtifact {asset : ResolvedAsset}
    (h : r.resolveArtifact kind request = some asset) :
    ∃ a ∈ r.index.artifacts, a.kind = kind ∧
      asset = ⟨r.config.rootedUrl a.path, a.version, a.path⟩ := by
  obtain ⟨a, hget, rfl⟩ := Option.map_eq_some_iff.mp h
  have hname : ∃ name, r.index.get? kind name = some a := by
    cases hexact : r.index.get? kind request with
    | some b =>
        rw [hexact] at hget
        exact ⟨request, hexact.trans hget⟩
    | none =>
        rw [hexact] at hget
        exact ⟨_, hget⟩
  obtain ⟨name, hname⟩ := hname
  obtain ⟨ha, hkey⟩ := ArtifactIndex.mem_of_get? hname
  exact ⟨a, ha, (Prod.mk.inj hkey).1, rfl⟩

end Resolver

/-- The index of scanned artifacts holds the first one of each kind and logical name.  A request for
one of them finds it, unless the request is the logical name of another one of its kind; and what is
found for a kind is an artifact of this kind, images apart. -/
theorem Resolver.resolve_of_scanned {records : List Artifact}
    (hscan : ∀ a ∈ records, a.IsScanned) {r : Resolver} (hindex : r.index = .ofRecords records) :
    r.index.HoldsFirst records ∧
    (∀ a ∈ r.index.artifacts, ∀ request, a.IsRequest request →
      (∀ b ∈ r.index.artifacts, b.kind = a.kind → b.logicalName = request → b = a) →
      r.resolve a.kind request = some ⟨r.config.rootedUrl a.path, a.version, a.path⟩) ∧
    (∀ kind request asset, kind ≠ .image → r.resolve kind request = some asset →
      ∃ a ∈ r.index.artifacts, a.kind = kind ∧
        asset = ⟨r.config.rootedUrl a.path, a.version, a.path⟩) := by
  have hfirst : r.index.HoldsFirst records := hindex ▸ ArtifactIndex.holdsFirst_ofRecords records
  refine ⟨hfirst, fun a ha request hrequest honly => ?_, fun kind request asset hkind h => ?_⟩
  · obtain ⟨before, after, hrecords, -⟩ := (hfirst.mem_iff a).mp ha
    have hscanned : a.IsScanned := hscan a (hrecords ▸ by simp)
    rw [resolve_eq_resolveArtifact (Artifact.kind_ne_image_of_classify hscanned)]
    exact resolveArtifact_of_isRequest hfirst ha hscanned hrequest honly
  · rw [resolve_eq_resolveArtifact hkind] at h
    exact exists_of_resolveArtifact h

/-! ## A folder with two stylesheets of one name -/

/-- Two stylesheets called `main`, and a font with a dot in its name. -/
def artifactSite : FileSystem :=
  ⟨⟨[(["public"], .folder), (["public", "a"], .folder),
      (["public", "a", "main.min.css"], .file ByteArray.empty 1),
      (["public", "b"], .folder), (["public", "b", "main.min.css"], .file ByteArray.empty 2),
      (["public", "x.y.WOFF2"], .file ByteArray.empty 3)]⟩, []⟩

def mainStyle : Artifact := ⟨"main", .css, "a/main.min.css", "public/a/main.min.css", 1⟩

def otherStyle : Artifact := ⟨"main", .css, "b/main.min.css", "public/b/main.min.css", 2⟩

def dottedFont : Artifact := ⟨"x.y", .font, "x.y.WOFF2", "public/x.y.WOFF2", 3⟩

theorem scanArtifacts_artifactSite :
    Build.scanArtifacts artifactSite "public" = [mainStyle, otherStyle, dottedFont] := by
  have hfiles : Build.filesOf artifactSite "public" =
      [⟨["a", "main.min.css"], 1⟩, ⟨["b", "main.min.css"], 2⟩, ⟨["x.y.WOFF2"], 3⟩] := by
    cbv
  rw [Build.scanArtifacts, hfiles]
  decide +kernel

/-- What refers to the artifacts of the folder. -/
def artifactResolver : Resolver :=
  ⟨{}, .ofRecords [mainStyle, otherStyle, dottedFont], ⟨[]⟩, "0"⟩

/-- Of two stylesheets with one name the first counts, and its path finds it behind slashes; a font
is found by the name of its file. -/
theorem Resolver.resolve_of_scanned_artifactSite :
    artifactSite.HasNames ∧
      Build.scanArtifacts artifactSite "public" = [mainStyle, otherStyle, dottedFont] ∧
      artifactResolver.index.artifacts = [mainStyle, dottedFont] ∧
      artifactResolver.resolve .css "//a/main.min.css" =
        some ⟨"/a/main.min.css", "1", "a/main.min.css"⟩ ∧
      artifactResolver.resolve .font "x.y.WOFF2" = some ⟨"/x.y.WOFF2", "3", "x.y.WOFF2"⟩ := by
  have hnames : artifactSite.HasNames := by decide
  have hartifacts : artifactResolver.index.artifacts = [mainStyle, dottedFont] := by decide
  have hscan : ∀ a ∈ [mainStyle, otherStyle, dottedFont], a.IsScanned := by
    rw [← scanArtifacts_artifactSite]
    exact fun a => Artifact.isScanned_of_mem_scanArtifacts hnames
  obtain ⟨-, hfound, -⟩ := resolve_of_scanned hscan (r := artifactResolver) rfl
  rw [hartifacts] at hfound
  have hpath : mainStyle.IsRequest "//a/main.min.css" := .path 2
  have hfile : dottedFont.IsRequest "x.y.WOFF2" := .fileName
  refine ⟨hnames, scanArtifacts_artifactSite, hartifacts,
    (hfound mainStyle (by decide) _ hpath (by decide)).trans ?_,
    (hfound dottedFont (by decide) _ hfile (by decide)).trans ?_⟩
  · decide +kernel
  · decide +kernel

end StaticSite
