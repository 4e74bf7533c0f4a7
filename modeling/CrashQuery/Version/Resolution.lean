import CrashQuery.Request.Condition
import CrashQuery.Version.Table

/-!
# Version resolution

Values of the form `product:version` are taken out of the conditions on the version field and
resolved by what is known about them: versions of a pre-release channel are found by the version
that they lead up to, their channel and perhaps their builds, and released versions by not being in
a pre-release channel.
-/

namespace CrashQuery

open Text

/-- What the channel of a report must be. -/
inductive ChannelRule where
  /-- The channel itself. -/
  | only (channel : String)
  /-- None of the channels. -/
  | exclude (channels : List String)
  deriving DecidableEq

/-- What a report of a version of a product is found by. -/
structure VersionRule where
  /-- The product. -/
  product : String
  /-- The version in reports. -/
  version : String
  /-- What the channel must be. -/
  channel : Option ChannelRule
  /-- The builds, of which the report must have one. -/
  buildIds : Option (List String)
  deriving DecidableEq

namespace VersionRule

/-- The channel of released versions. -/
def releaseChannel : String := "release"

/-- The channel whose versions are told apart by their builds. -/
def betaChannel : String := "beta"

/-- The public name of the version field. -/
def versionField : String := "version"

/-- Product and version of a key. -/
def splitKey? (key : String) : Option (String × String) :=
  match splitFirst? ':' key.toList with
  | none => none
  | some (product, version) =>
    let product := trim product
    let version := trim version
    if product = [] ∨ version = [] then none
    else some (String.ofList product, String.ofList version)

/-- Whether a value is a key. -/
def isKey (value : String) : Bool := (splitKey? value).isSome

/-- Whether keys are taken out of the condition. -/
def takesKeys (c : Condition) : Bool :=
  c.name == versionField && !c.negated && (c.operator == .any || c.operator == .equal)

/-- The keys in the conditions, each once and in the order in which they were first seen. -/
def keysOf (conditions : List Condition) : List String :=
  Condition.mergeValues []
    ((conditions.filter takesKeys).flatMap fun c => c.values.filter isKey)

/-- The condition without its keys. -/
def withoutKeys (c : Condition) : Condition :=
  if takesKeys c then { c with values := c.values.filter fun v => !isKey v } else c

/-- Whether something is left of the condition. -/
def isLeft (c : Condition) : Bool :=
  c.name != versionField || !c.values.isEmpty || c.operator == .isNull

/-- The conditions without keys; those of which nothing is left are dropped. -/
def remaining (conditions : List Condition) : List Condition :=
  (conditions.map withoutKeys).filter isLeft

/-- The rule for a version of a product. -/
def resolve (restricted : List String) (product version : String) (info : Option VersionInfo) :
    VersionRule :=
  let literal : VersionRule := ⟨lowered product, version, none, none⟩
  match info with
  | none => literal
  | some info =>
    let channel := lowered info.channel
    -- Only the capitals of ASCII are made small for this comparison.
    if restricted.any fun c => sameIgnoringAsciiCase c channel then
      { literal with
        version := info.majorVersion
        channel := some (.only channel)
        buildIds := if channel = betaChannel then some info.buildIds else none }
    else if channel = releaseChannel then
      { literal with channel := some (.exclude (restricted.map lowered)) }
    else literal

/-- The rules for the keys, in order. -/
def resolveAll (restricted : List String) (known : Entries VersionInfo) (keys : List String) :
    List VersionRule :=
  keys.filterMap fun key =>
    (splitKey? key).map fun (product, version) =>
      resolve restricted product version (Entries.find? key known)

end VersionRule

end CrashQuery
