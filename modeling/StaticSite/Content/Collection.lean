/-
The collection: all documents and assets of a source tree, in the order of its walk.
-/
import StaticSite.Content.Document

namespace StaticSite.Content

/-- A file of the source tree. -/
inductive Entry where
  | document (d : Document)
  | asset (a : Asset)
  deriving Repr, DecidableEq

namespace Entry

/-- The content type of a document; assets have one of their own. -/
def type : Entry → String
  | document d => d.type
  | asset _ => assetType

/-- The path below the source folder. -/
def path : Entry → String
  | document d => d.path
  | asset a => a.path

/-- Is the entry an asset? -/
def isAsset : Entry → Bool
  | document _ => false
  | asset _ => true

/-- The field with a name. -/
def field : Entry → String → Option String
  | document d => d.field
  | asset a => a.field

/-- The entry, if it is a document. -/
def asDocument? : Entry → Option Document
  | document d => some d
  | asset _ => none

/-- The entry, if it is an asset. -/
def asAsset? : Entry → Option Asset
  | document _ => none
  | asset a => some a

/-- The entry as a document, which is how a template lists it. -/
def toDocument : Entry → Document
  | document d => d
  | asset a => a.toDocument

end Entry

/-- The files of a source tree in the order of its walk. -/
structure Collection where
  entries : List Entry
  deriving Repr, DecidableEq

namespace Collection

/-- The documents in order. -/
def documents (c : Collection) : List Document := c.entries.filterMap Entry.asDocument?

/-- The assets in order. -/
def assets (c : Collection) : List Asset := c.entries.filterMap Entry.asAsset?

theorem mem_documents {c : Collection} {d : Document} :
    d ∈ c.documents ↔ .document d ∈ c.entries := by
  rw [documents, List.mem_filterMap]
  constructor
  · rintro ⟨entry, hentry, hdocument⟩
    cases entry <;> cases hdocument
    exact hentry
  · exact fun h => ⟨_, h, rfl⟩

theorem mem_assets {c : Collection} {a : Asset} : a ∈ c.assets ↔ .asset a ∈ c.entries := by
  rw [assets, List.mem_filterMap]
  constructor
  · rintro ⟨entry, hentry, hasset⟩
    cases entry <;> cases hasset
    exact hentry
  · exact fun h => ⟨_, h, rfl⟩

/-- The first document with a path. -/
def document? (c : Collection) (path : String) : Option Document :=
  c.documents.find? fun d => d.path == path

/-- The first asset with a path, or else the first one with a file name; leading slashes do not
count. -/
def asset? (c : Collection) (name : String) : Option Asset :=
  let name := String.ofList (name.toList.dropWhile (· == '/'))
  (c.assets.find? fun a => a.path == name) <|> c.assets.find? fun a => a.fileName == name

end Collection

end StaticSite.Content
