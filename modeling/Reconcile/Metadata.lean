import Reconcile.Instant
import Reconcile.Json.Printer
import Reconcile.Json.Record

/-!
# Object metadata

What a repair looks at in the metadata of an object: the blobs that hold its data, its version and
the time it was last modified. All other members of the metadata are ignored. Every field may be
left out, and the time of modification is kept as the text it is, so that a text that is no time
is metadata all the same.
-/

namespace Reconcile

/-- The fields of an object's metadata that a repair looks at. -/
structure Metadata where
  /-- The keys of the blobs that hold the object's data, in order. -/
  location : Option (List String)
  versionId : Option String
  lastModified : Option String
  deriving DecidableEq, Repr, Inhabited

namespace Metadata

/-- Reads the reference to one blob: a record of the blob's key. -/
def blobOfJson? (json : Json) : Option String := do
  match ← Json.fields? ["key"] json with
  | [some key] => key.text?
  | _ => none

/-- Reads metadata from a document. -/
def ofJson? (json : Json) : Option Metadata := do
  match ← Json.fields? ["location", "versionId", "last-modified"] json with
  | [location, versionId, lastModified] =>
    let blobs (json : Json) : Option (List String) := do
      (← json.items?).mapM blobOfJson?
    some
      { location := ← Json.optional? blobs location
        versionId := ← Json.optional? Json.text? versionId
        lastModified := ← Json.optional? Json.text? lastModified }
  | _ => none

/-- Reads metadata from its JSON text. -/
def parse? (text : String) : Option Metadata :=
  (Json.parse? text).bind ofJson?

/-- The keys of the blobs that hold the object's data; none if there is no such list. -/
def blobs (metadata : Metadata) : List String :=
  metadata.location.getD []

/-- The time of the last modification, if it is there and is a time. -/
def lastModifiedAt? (metadata : Metadata) : Option Instant :=
  metadata.lastModified.bind Instant.parse?

/-- Metadata as JSON, with all three fields. -/
def print (metadata : Metadata) : List Char :=
  let blob (key : String) := Json.printObject [("key", Json.printString key)]
  Json.printObject
    [("location", Json.printOption (fun keys => Json.printArray (keys.map blob)) metadata.location),
      ("versionId", Json.printOption Json.printString metadata.versionId),
      ("last-modified", Json.printOption Json.printString metadata.lastModified)]

/-- Metadata as JSON, with all three fields. -/
def render (metadata : Metadata) : String :=
  String.ofList metadata.print

end Metadata

end Reconcile
