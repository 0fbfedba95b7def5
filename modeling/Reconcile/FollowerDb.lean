import Reconcile.Item
import Reconcile.Ordered
import Reconcile.Text.Utf8

/-!
# Follower databases

A follower keeps its metadata in an ordered map from byte strings to byte strings, where a later
write of a key replaces an earlier one. A scan goes through the map in key order and gives the
entries whose keys name objects, decoded as text; keys without a slash belong to the follower
itself and are left out. An entry that is no text gives an error in its place.
-/

namespace Reconcile

/-- Why a follower database cannot be read. -/
inductive DatabaseError where
  /-- A key or a value is no text. -/
  | notText (error : Utf8.DecodeError)
  /-- The medium fails. -/
  | io (reason : String)
  deriving DecidableEq, Repr

/-- The wording of a database error. -/
def DatabaseError.message : DatabaseError → String
  | .notText error => "non utf-8 entry in database: " ++ error.message
  | .io reason => "io error: " ++ reason

/-- The items that a scan of a follower gives, and the failure that ends it, if one does. -/
structure ItemSource where
  items : List Item
  fault : Option DatabaseError
  deriving DecidableEq, Repr

/-- A follower's database. -/
structure FollowerDb where
  /-- Keys and values, in key order. -/
  entries : List (List UInt8 × List UInt8)
  deriving DecidableEq, Repr

namespace FollowerDb

/-- The database without entries. -/
def empty : FollowerDb :=
  ⟨[]⟩

/-- Writes a value under a key. -/
def write (db : FollowerDb) (key value : List UInt8) : FollowerDb :=
  ⟨insertByKey Prod.fst (key, value) db.entries⟩

/-- Writes a text under a textual key. -/
def put (db : FollowerDb) (item : Item) : FollowerDb :=
  db.write (Utf8.bytes item.key) (Utf8.bytes item.value)

/-- The database after some writes. -/
def ofItems (items : List Item) : FollowerDb :=
  items.foldl put empty

/-- An entry as an item. The key is decoded first. -/
def decodeEntry (entry : List UInt8 × List UInt8) : Except DatabaseError Item := do
  let key ← (Utf8.decode entry.1).mapError DatabaseError.notText
  let value ← (Utf8.decode entry.2).mapError DatabaseError.notText
  return ⟨key, value⟩

/-- Whether what an entry decodes to belongs into a scan. -/
def isScanned : Except DatabaseError Item → Bool
  | .ok item => item.key.toList.contains '/'
  | .error _ => true

/-- The entries of objects in key order. -/
def scan (db : FollowerDb) : List (Except DatabaseError Item) :=
  (db.entries.map decodeEntry).filter isScanned

/-- Results up to the first error, with that error. -/
def upToError : List (Except DatabaseError Item) → ItemSource
  | [] => ⟨[], none⟩
  | .ok item :: results =>
    let rest := upToError results
    { rest with items := item :: rest.items }
  | .error error :: _ => ⟨[], some error⟩

/-- The items of a scan up to the first entry that cannot be decoded. -/
def source (db : FollowerDb) : ItemSource :=
  upToError db.scan

/-- The databases of a follower that hold no objects but the state of the cluster. -/
def systemNames : List String :=
  ["sdb", "stdb", "dbAttributes"]

/-- The last name of a path. Slashes at the end and names of a single dot do not count; a path
that ends in two dots has none. -/
def fileName? (path : String) : Option String :=
  let names := (path.splitOn "/").filter fun name => name ≠ "" ∧ name ≠ "."
  match names.getLast? with
  | some ".." | none => none
  | some name => some name

/-- Whether a database, by its directory, holds no objects. -/
def isSystem (path : String) : Bool :=
  (fileName? path).any systemNames.contains

end FollowerDb

end Reconcile
