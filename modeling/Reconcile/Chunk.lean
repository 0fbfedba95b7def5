import Reconcile.Item
import Reconcile.Digest

/-!
# Chunks

The follower's items, which come in key order, are cut into chunks: runs of items of one bucket
together with the range of the leader's keys that has to be compared with them. The ranges of a
bucket follow one another without a gap, and the last one runs to the end of the bucket, so that
together they show every key that the leader has in the bucket.

A chunk ends where the next item belongs to another bucket, or where it holds as many items as it
may. Digests can take items out of the cutting: while no item is held, an item inside a span that
is known to be the same on both sides is skipped, and the next range starts at the end of the
span.
-/

namespace Reconcile

/-- A range of object keys of one bucket. -/
structure Range where
  bucket : String
  /-- The object key before the range; without one the range starts with the bucket. -/
  marker : Option String
  /-- The last object key of the range; without one the range ends with the bucket. -/
  last : Option String
  deriving DecidableEq, Repr, Inhabited

/-- A run of the follower's items with the range to compare them with. -/
structure Chunk where
  range : Range
  items : List Item
  deriving DecidableEq, Repr, Inhabited

namespace DigestIndex

/-- Follows the spans from a marker on until one reaches an object key or there is none. Gives
whether the key was reached, and the end of the last span followed. -/
def climb (index : DigestIndex) (bucket key : String) (marker : Option String) :
    Bool × Option String :=
  match _h : index.next? bucket marker with
  | none => (false, marker)
  | some last =>
    if key ≤ last then (true, some last)
    else climb index bucket key (some last)
  termination_by (index.terminates bucket key).wrap marker
  decreasing_by
    obtain ⟨hspan, hahead⟩ :=
      DigestIndex.next?_eq_some_iff.1 ‹index.next? bucket marker = some last›
    exact ⟨last, hspan, hahead, Decidable.not_not.1 ‹¬key ≤ last›, rfl⟩

end DigestIndex

/-- The state of the cutting. -/
structure Chunker where
  /-- The greatest number of items of a chunk; 0 counts as 1. -/
  capacity : Nat
  /-- The spans that can be skipped. -/
  digests : Option DigestIndex
  /-- The items of the chunk that is being filled. -/
  held : Array Item
  /-- The bucket of the last item. -/
  bucket : Option String
  /-- Where the range of the chunk that is being filled starts. -/
  marker : Option String
  /-- The end of the span that the last item was skipped in. -/
  openThrough : Option String
  /-- The number of items skipped since it was last asked for. -/
  skipped : Nat

namespace Chunker

/-- Before the first item. -/
def start (capacity : Nat) (digests : Option DigestIndex) : Chunker :=
  ⟨capacity, digests, #[], none, none, none, 0⟩

/-- Ends the chunk that is being filled, with a range up to `last`. Even without items it has to
be compared: the leader may have keys where the follower has none. -/
def flush (chunker : Chunker) (last : Option String) : Option Chunk × Chunker :=
  match chunker.bucket with
  | none => (none, chunker)
  | some bucket =>
    (some ⟨⟨bucket, chunker.marker, last⟩, chunker.held.toList⟩, { chunker with held := #[] })

/-- Ends the chunk that is being filled if an item of a bucket cannot join it. -/
def makeRoom (chunker : Chunker) (bucket : String) : Option Chunk × Chunker :=
  if chunker.bucket.any (· ≠ bucket) then
    let (chunk, chunker) := chunker.flush none
    (chunk, { chunker with marker := none, openThrough := none })
  else if max chunker.capacity 1 ≤ chunker.held.size then
    let last := chunker.held.back?.bind Item.objectKey?
    let (chunk, chunker) := chunker.flush last
    (chunk, { chunker with marker := last })
  else (none, chunker)

/-- Whether an object key lies in a span that starts where the range starts. Spans that the key
is past move the start of the range. -/
def skip? (chunker : Chunker) (bucket key : String) : Bool × Chunker :=
  match chunker.digests with
  | none => (false, chunker)
  | some index =>
    if chunker.openThrough.any (key ≤ ·) then (true, chunker)
    else
      let (reached, marker) := index.climb bucket key chunker.marker
      (reached, { chunker with marker, openThrough := if reached then marker else none })

/-- Skips an item or adds it to the chunk that is being filled. -/
def take (chunker : Chunker) (name : ObjectName) (item : Item) : Chunker :=
  if chunker.held.isEmpty then
    match chunker.skip? name.bucket name.key with
    | (true, chunker) => { chunker with skipped := chunker.skipped + 1 }
    | (false, chunker) => { chunker with held := chunker.held.push item }
  else { chunker with held := chunker.held.push item }

/-- Takes the next item, unless its key has no bucket. Gives the chunk that ends before it, if one
does. -/
def advance (chunker : Chunker) (item : Item) : Except KeyError (Option Chunk) × Chunker :=
  match ObjectName.ofKey item.key with
  | .error error => (.error error, chunker)
  | .ok name =>
    let (chunk, chunker) := chunker.makeRoom name.bucket
    (.ok chunk, ({ chunker with bucket := some name.bucket }).take name item)

/-- Ends the last chunk; its range runs to the end of the bucket. -/
def finish (chunker : Chunker) : Option Chunk × Chunker :=
  let (chunk, chunker) := chunker.flush none
  (chunk, { chunker with bucket := none, marker := none, openThrough := none })

/-- The number of items skipped since this was last asked. -/
def takeSkipped (chunker : Chunker) : Nat × Chunker :=
  (chunker.skipped, { chunker with skipped := 0 })

end Chunker

end Reconcile
