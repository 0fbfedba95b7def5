import Reconcile.Repair
import Reconcile.Store

/-!
# A leader and a blob store in memory

The world that a repair acts on, as a value: what the leader and the blob store hold, which calls
fail, and the calls made so far, in order and with the failed ones. A call that fails changes
nothing but the record.
-/

namespace Reconcile

/-- A call to the leader or the blob store. -/
inductive Call where
  | probe (blob : String)
  | get (name : ObjectName)
  | put (name : ObjectName) (text : String)
  deriving DecidableEq, Repr

/-- A leader and a blob store. -/
structure World where
  /-- What the leader holds. -/
  store : Store
  /-- The blobs that are there. -/
  blobs : List String
  /-- The objects whose reading fails. -/
  failGet : List ObjectName
  /-- The objects whose writing fails. -/
  failPut : List ObjectName
  /-- The blobs whose search fails. -/
  failProbe : List String
  /-- The calls so far. -/
  calls : Array Call
  deriving Repr, Inhabited

namespace World

/-- How a call fails. -/
def failure (method : Method) : NetError :=
  .status method "" 500 ""

/-- Records a call. -/
def record (world : World) (call : Call) : World :=
  { world with calls := world.calls.push call }

/-- Reads the text of an object. -/
def get (name : ObjectName) (world : World) : Except NetError (Option String) × World :=
  (if world.failGet.contains name then .error (failure .get) else .ok (world.store.get? name),
    world.record (.get name))

/-- Writes the text of an object. -/
def put (name : ObjectName) (text : String) (world : World) : Except NetError Unit × World :=
  if world.failPut.contains name then (.error (failure .post), world.record (.put name text))
  else (.ok (), { world.record (.put name text) with store := world.store.put name text })

/-- Looks for a blob. -/
def probe (blob : String) (world : World) : Except NetError BlobStatus × World :=
  (if world.failProbe.contains blob then .error (failure .head)
    else .ok (if world.blobs.contains blob then .present else .missing),
    world.record (.probe blob))

/-- The services that this world offers. -/
def services : Services World :=
  ⟨get, put, probe⟩

end World

end Reconcile
