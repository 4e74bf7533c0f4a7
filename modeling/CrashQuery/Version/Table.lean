import CrashQuery.Error
import CrashQuery.Json.Reader
import CrashQuery.Json.Record
import CrashQuery.Text.Lower

/-!
# Version tables

What is known about the versions of a product: their release channel, the version that they lead up
to, and their builds. Keys of the table are compared ignoring case.
-/

namespace CrashQuery

open Json (Written)
open Text (lowered)

/-- What is known about one version of a product. -/
structure VersionInfo where
  /-- The channel that the version was released through. -/
  channel : String
  /-- The version that it leads up to. -/
  majorVersion : String
  /-- Its builds, sorted. -/
  buildIds : List String
  deriving DecidableEq

namespace VersionInfo

/-- Reads what is known about a version. -/
def ofWritten? (w : Written) : Option VersionInfo := do
  match ← w.slots? ["release_channel", "major_version", "build_ids"] with
  | [channel, majorVersion, buildIds] =>
    let channel ← Written.required? Written.string? channel
    let majorVersion ← Written.required? Written.string? majorVersion
    let buildIds ← Written.orElse? [] (Written.listOf? Written.string?) buildIds
    some { channel, majorVersion, buildIds := Entries.sortStrings buildIds }
  | _ => none

/-- What is known about a version, as a JSON object. -/
def toJson (info : VersionInfo) : Json :=
  Json.object
    [("release_channel", .str info.channel), ("major_version", .str info.majorVersion),
      ("build_ids", Json.strings info.buildIds)]

end VersionInfo

/-- What is known about versions, by their lower-case keys. -/
structure VersionTable where
  /-- The entries. -/
  entries : Entries VersionInfo

namespace VersionTable

/-- The table that knows nothing. -/
def empty : VersionTable := ⟨[]⟩

/-- Sets what is known about a version. -/
def insert (key : String) (info : VersionInfo) (t : VersionTable) : VersionTable :=
  ⟨Entries.insert (lowered key) info t.entries⟩

/-- The table of the entries, of which a later one replaces an earlier one. -/
def ofEntries (entries : List (String × VersionInfo)) : VersionTable :=
  entries.foldl (fun t e => t.insert e.1 e.2) empty

/-- What is known about a version. -/
def find? (t : VersionTable) (key : String) : Option VersionInfo :=
  Entries.find? (lowered key) t.entries

/-- How many versions are known. -/
def size (t : VersionTable) : Nat := t.entries.length

/-- What is known about the keys, by the keys as they are given. -/
def findAll (t : VersionTable) (keys : List String) : Entries VersionInfo :=
  Entries.ofList (keys.filterMap fun key => (t.find? key).map fun info => (key, info))

/-- The table that a text defines. -/
def ofText (text : String) : Except SettingsFault VersionTable :=
  match (Written.ofText? text).bind (Written.mapOf? VersionInfo.ofWritten?) with
  | some entries => .ok (ofEntries (Entries.ofList entries))
  | none => .error .malformedVersions

end VersionTable

/-- Where version information comes from. A search asks its source once, and is answered from a
table or with a failure. -/
inductive VersionSource where
  /-- A table. -/
  | table (t : VersionTable)
  /-- A source that fails with the given text. -/
  | failing (detail : String)

namespace VersionSource

/-- What the source knows about the keys. -/
def findAll (source : VersionSource) (keys : List String) :
    Except Failure (Entries VersionInfo) :=
  match source with
  | .table t => .ok (t.findAll keys)
  | .failing detail => .error (.error (.database (.versions detail)))

end VersionSource

end CrashQuery
