import Reconcile.Item
import Reconcile.Ordered

/-!
# Stores

What a metadata service holds: texts under keys, as a list of items in key order. A key without a
bucket may be in the list, but no listing shows it.

A listing is asked for the items of one bucket whose object keys lie after a marker and do not
exceed an end, at most so many of them; whoever answers may give fewer than it could.
-/

namespace Reconcile

/-- The texts that a metadata service holds. -/
structure Store where
  /-- The items, in key order. -/
  items : List Item
  deriving DecidableEq, Repr, Inhabited

/-- A request for one page of a listing. -/
structure ListRequest where
  bucket : String
  /-- The marker: object keys have to lie after it. -/
  after : Option String
  /-- The end: object keys may not exceed it. -/
  upTo : Option String
  /-- The greatest number of items wanted. -/
  limit : Nat
  deriving DecidableEq, Repr, Inhabited

namespace ListRequest

/-- Whether an object key lies between the bounds of a request. -/
def admits (request : ListRequest) (objectKey : String) : Bool :=
  request.after.all (· < objectKey) && request.upTo.all (objectKey ≤ ·)

/-- Whether an item is one that a request asks for. -/
def covers (request : ListRequest) (item : Item) : Bool :=
  match splitKey? item.key with
  | some (bucket, objectKey) => bucket == request.bucket && request.admits objectKey
  | none => false

end ListRequest

namespace Store

/-- The store that holds nothing. -/
def empty : Store :=
  ⟨[]⟩

/-- The store that holds some items. Items that share a key are all kept, in the order given. -/
def ofItems (items : List Item) : Store :=
  ⟨items.mergeSort fun a b => a.key ≤ b.key⟩

/-- Whether the keys ascend strictly, so that each key is there at most once. -/
def Ascending (store : Store) : Prop :=
  AscendingByKey Item.key store.items

/-- The text under a key. -/
def find? (store : Store) (key : String) : Option String :=
  (store.items.find? fun item => item.key = key).map Item.value

/-- The text of an object. -/
def get? (store : Store) (name : ObjectName) : Option String :=
  store.find? name.fullKey

/-- Writes the text of an object. -/
def put (store : Store) (name : ObjectName) (value : String) : Store :=
  ⟨insertByKey Item.key ⟨name.fullKey, value⟩ store.items⟩

/-- Removes an object. -/
def erase (store : Store) (name : ObjectName) : Store :=
  ⟨store.items.filter fun item => item.key ≠ name.fullKey⟩

/-- All items that a request asks for, however many. -/
def inRange (store : Store) (request : ListRequest) : List Item :=
  store.items.filter request.covers

/-- One page: the first items that a request asks for, at most `cap` of them if there is a cap. -/
def list (store : Store) (cap : Option Nat) (request : ListRequest) : List Item :=
  (store.inRange request).take (cap.elim request.limit (min request.limit))

/-- The objects with their texts, in the order of their buckets and object keys. -/
def objects (store : Store) : List (ObjectName × String) :=
  let named := store.items.filterMap fun item =>
    (splitKey? item.key).map fun parts => (ObjectName.mk parts.1 parts.2, item.value)
  named.mergeSort fun a b => !b.1.precedes a.1

end Store

end Reconcile
