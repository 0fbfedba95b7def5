import Mathlib.Data.List.Induction
import Reconcile.Proofs.Decision
import Reconcile.Proofs.Key
import Reconcile.Proofs.Ordered
import Reconcile.Repair.World

/-!
# One repair in a world

A repair in a world first looks things up, which changes nothing but the record of the calls, and
then acts. What it finds out is a function of the world, `World.plan`, so that a repair is this plan
and what follows from it (`Repair.entry_eq`). The parts have their own equations: for the blobs
(`World.allPresent_eq`), the master key (`World.masterToWrite?_eq`), all lookups
(`World.lookUp_eq`) and the writes (`World.exists_writes`).
-/

namespace Reconcile

/-! ### The record of the calls -/

/-- The object and the text of a call that writes. -/
def Call.put? : Call → Option (ObjectName × String)
  | .put name text => some (name, text)
  | _ => none

/-- The objects and texts that calls write, in order. -/
def putsOf (calls : List Call) : List (ObjectName × String) :=
  calls.filterMap Call.put?

namespace World

/-- The world with more calls on the record. -/
def after (world : World) (made : List Call) : World :=
  { world with calls := world.calls ++ made.toArray }

/-- No call leaves the world as it is. -/
@[simp] theorem after_nil (world : World) : world.after [] = world := by
  simp [after]

/-- Calls made after other calls add up. -/
@[simp] theorem after_after (world : World) (made more : List Call) :
    (world.after made).after more = world.after (made ++ more) := by
  simp [after]

/-- Noting a call is the special case of one call being made. -/
theorem record_eq (world : World) (call : Call) : world.record call = world.after [call] := by
  simp [record, after]

/-! ### Lookups -/

/-- Whether a blob is there and can be looked for. -/
def isPresent (world : World) (blob : String) : Bool :=
  world.blobs.contains blob && !world.failProbe.contains blob

/-- The calls that look for blobs, up to the first that is not found. -/
def probesOf (isPresent : String → Bool) : List String → List Call
  | [] => []
  | blob :: blobs => .probe blob :: if isPresent blob then probesOf isPresent blobs else []

/-- A blob that is there is found, and the probe is noted. -/
theorem probe_of_isPresent {world : World} {blob : String} (h : world.isPresent blob = true) :
    World.services.probe blob world = (.ok .present, world.after [.probe blob]) := by
  rw [isPresent, Bool.and_eq_true, Bool.not_eq_true'] at h
  have hprobe : World.services.probe blob world =
      (if world.failProbe.contains blob then .error (failure .head)
        else .ok (if world.blobs.contains blob then .present else .missing),
        world.record (.probe blob)) := rfl
  rw [hprobe, h.1, h.2, record_eq]
  rfl

/-- A blob that is not there, or whose probe fails, gives some other answer than that it is present,
and the probe is noted all the same. -/
theorem probe_of_not_isPresent {world : World} {blob : String} (h : world.isPresent blob = false) :
    ∃ answer, answer ≠ .ok .present ∧
      World.services.probe blob world = (answer, world.after [.probe blob]) := by
  refine ⟨(World.services.probe blob world).1, fun hanswer => ?_, ?_⟩
  · have hprobe : (if world.failProbe.contains blob then .error (failure .head)
        else .ok (if world.blobs.contains blob then .present else .missing)) =
          Except.ok BlobStatus.present := hanswer
    rw [isPresent] at h
    cases hblob : world.blobs.contains blob <;> cases hfail : world.failProbe.contains blob <;>
      simp_all
  · rw [← record_eq]
    rfl

/-- A search for blobs tells whether all are there. -/
theorem allPresent_eq (world : World) (blobs : List String) :
    World.services.allPresent blobs world =
      (blobs.all world.isPresent, world.after (probesOf world.isPresent blobs)) := by
  induction blobs generalizing world with
  | nil => rw [Services.allPresent, probesOf, after_nil, List.all_nil]
  | cons blob blobs ih =>
      rw [Services.allPresent, probesOf, List.all_cons]
      cases hpresent : world.isPresent blob with
      | true =>
          rw [probe_of_isPresent hpresent, if_pos rfl, Bool.true_and]
          dsimp only
          rw [ih, after_after]
          rfl
      | false =>
          obtain ⟨answer, hanswer, hprobe⟩ := probe_of_not_isPresent hpresent
          rw [hprobe, if_neg Bool.false_ne_true, Bool.false_and]
          split
          · rename_i heq
            exact absurd (Prod.mk.inj heq).1 hanswer
          · rename_i heq
            rw [(Prod.mk.inj heq).2]

/-- Whether a value is readable: it is metadata, and all its blobs are there. -/
def readable (world : World) (value : Option String) : Bool :=
  (value.bind Metadata.parse?).any fun metadata => metadata.blobs.all world.isPresent

/-- The calls that look for the blobs of a value. -/
def probes (world : World) (value : Option String) : List Call :=
  (value.bind Metadata.parse?).elim [] fun metadata => probesOf world.isPresent metadata.blobs

/-- Probing the blobs of a value finds out whether it is readable, at the cost of its probes. -/
theorem blobsPresent_eq (world : World) (value : Option String) :
    World.services.blobsPresent (value.bind Metadata.parse?) world =
      (world.readable value, world.after (world.probes value)) := by
  rw [readable, probes]
  cases value.bind Metadata.parse? with
  | none => rw [Services.blobsPresent, Option.any_none, Option.elim_none, after_nil]
  | some metadata => exact world.allPresent_eq metadata.blobs

/-- What reading an object gives. -/
def read (world : World) (name : ObjectName) : Except NetError (Option String) :=
  if world.failGet.contains name then .error (failure .get) else .ok (world.store.get? name)

/-- A request for an object reads the store, unless requests for it fail, and is noted. -/
theorem get_eq (world : World) (name : ObjectName) :
    World.services.get name world = (world.read name, world.after [.get name]) := by
  rw [← record_eq]
  rfl

/-- Whether an object is missing or at a version, by the text that it holds. -/
def isAtVersion (version : String) (text : Option String) : Bool :=
  text.all fun text => (Metadata.parse? text).any fun metadata => metadata.versionId = some version

/-- The object key that a repair has to write as well. -/
def master? (world : World) (name : ObjectName) : Except NetError (Option String) :=
  match name.masterKey?, name.versionId? with
  | some master, some version =>
    (world.read (name.sibling master)).map fun text =>
      if isAtVersion version text then some master else none
  | _, _ => .ok none

/-- The calls that look up the object of a version. -/
def masterCalls (name : ObjectName) : List Call :=
  (name.masterKey?.map fun master => .get (name.sibling master)).toList

/-- The lookup of a master key finds what `master?` says, at one request if the name has one. -/
theorem masterToWrite?_eq (world : World) (name : ObjectName) :
    World.services.masterToWrite? name world =
      (world.master? name, world.after (masterCalls name)) := by
  rw [Services.masterToWrite?, master?, masterCalls, ObjectName.masterKey?, ObjectName.versionId?]
  cases splitText? '\x00' name.key with
  | none => rw [Option.map_none, Option.map_none, Option.map_none, Option.toList_none, after_nil]
  | some parts =>
      rw [Option.map_some, Option.map_some, Option.map_some, Option.toList_some]
      dsimp only
      rw [get_eq]
      cases world.read (name.sibling parts.1) with
      | error error => rfl
      | ok text =>
          cases text with
          | none => rfl
          | some text =>
              rw [Except.map, isAtVersion, Option.all_some]
              dsimp only
              cases Metadata.parse? text with
              | none => rfl
              | some metadata =>
                  rw [Option.any_some]
                  by_cases hversion : metadata.versionId = some parts.2 <;> simp [hversion]

/-- The calls of all lookups for an object and its two values. -/
def lookupCalls (world : World) (name : ObjectName) (follower leader : Option String) :
    List Call :=
  world.probes follower ++ world.probes leader ++ .get name :: masterCalls name

/-- All lookups are made in the world as it is. -/
theorem lookUp_eq (world : World) (name : ObjectName) (follower leader : Option String) :
    Repair.lookUp World.services name (follower.bind Metadata.parse?)
        (leader.bind Metadata.parse?) world =
      (⟨world.readable follower, world.readable leader, world.read name, world.master? name⟩,
        world.after (world.lookupCalls name follower leader)) := by
  simp only [Repair.lookUp, blobsPresent_eq, get_eq, masterToWrite?_eq, after_after, lookupCalls,
    List.append_assoc, List.singleton_append]
  rfl

end World

/-! ### The plan of a repair -/

/-- Whether a value is missing or is metadata. -/
def parses (value : Option String) : Bool :=
  value.all fun text => (Metadata.parse? text).isSome

/-- The metadata of an item can be read exactly if its value parses, and a value that does not is
reported under its name. -/
theorem Repair.metadataOf_eq (name : ObjectName) (item : Option Item) :
    metadataOf name item =
      if parses (item.map Item.value) then .ok ((item.map Item.value).bind Metadata.parse?)
      else .error (.malformedMetadata name) := by
  cases item with
  | none => rfl
  | some item =>
      rw [metadataOf, parses, Option.map_some, Option.all_some, Option.bind_some]
      cases Metadata.parse? item.value <;> rfl

/-- What a repair has found out when it acts. -/
structure Repair.Plan where
  name : ObjectName
  verdict : Verdict
  /-- The object key that is to be written as well. -/
  master : Option String

namespace World

/-- The verdict on a difference, by what the leader holds now and the blobs that are there. -/
def verdict (world : World) (cutoff : Option Instant) (difference : Difference)
    (refreshed : Option String) : Verdict :=
  decideRepair (.observed difference.followerValue? (world.readable difference.followerValue?))
    (.observed difference.leaderValue? (world.readable difference.leaderValue?)) refreshed cutoff

/-- What a repair of a difference finds out: an error of the difference itself, or nothing if a
lookup fails. -/
def plan (world : World) (cutoff : Option Instant) (difference : Difference) :
    Except RepairError (Option Repair.Plan) :=
  match ObjectName.ofKey difference.key with
  | .error error => .error (.key error)
  | .ok name =>
    if parses difference.followerValue? && parses difference.leaderValue? then
      match world.read name, world.master? name with
      | .ok refreshed, .ok master =>
        .ok (some ⟨name, world.verdict cutoff difference refreshed, master⟩)
      | _, _ => .ok none
    else .error (.malformedMetadata name)

/-- The lookups that a repair of a difference makes. -/
def lookups (world : World) (difference : Difference) : List Call :=
  match ObjectName.ofKey difference.key with
  | .error _ => []
  | .ok name =>
    if parses difference.followerValue? && parses difference.leaderValue? then
      world.lookupCalls name difference.followerValue? difference.leaderValue?
    else []

end World

/-- **A repair is its plan and what follows from it.** -/
theorem Repair.entry_eq (world : World) (cutoff : Option Instant) (difference : Difference)
    (counters : RepairCounters) :
    entry World.services cutoff difference world counters =
      match world.plan cutoff difference with
      | .error error => (.error error, world, counters)
      | .ok none =>
        (.ok .failed, world.after (world.lookups difference), counters.recordLookupError)
      | .ok (some plan) =>
        let acted := act World.services plan.name difference plan.verdict plan.master
          (world.after (world.lookups difference)) counters
        (.ok acted.1, acted.2.1, acted.2.2) := by
  rw [entry, World.plan, World.lookups]
  cases ObjectName.ofKey difference.key with
  | error error => rfl
  | ok name =>
      dsimp only
      rw [metadataOf_eq, metadataOf_eq, ← Difference.followerValue?, ← Difference.leaderValue?]
      by_cases hfollower : parses difference.followerValue? = true
      · by_cases hleader : parses difference.leaderValue? = true
        · rw [if_pos hfollower, if_pos hleader, hfollower, hleader, Bool.and_self, if_pos rfl]
          dsimp only
          rw [World.lookUp_eq]
          cases world.read name with
          | error error => rfl
          | ok refreshed =>
              cases world.master? name with
              | error error => rfl
              | ok master => rfl
        · rw [if_pos hfollower, if_neg hleader, Bool.eq_false_iff.2 hleader, Bool.and_false]
          rfl
      · rw [if_neg hfollower, Bool.eq_false_iff.2 hfollower, Bool.false_and]
        rfl

/-! ### The writes of a repair -/

/-- A look-up after a write. -/
theorem Store.find?_put (store : Store) (name : ObjectName) (text key : String) :
    (store.put name text).find? key =
      if name.fullKey = key then some text else store.find? key := by
  rw [find?, put, find?_insertByKey]
  split
  · rfl
  · rfl

namespace World

/-- The world with a text written to an object, and the call on the record. -/
def written (world : World) (name : ObjectName) (text : String) : World :=
  { world.record (.put name text) with store := world.store.put name text }

/-- What the leader holds after some writes. Those that fail change nothing. -/
def storeAfter (world : World) (puts : List (ObjectName × String)) : Store :=
  puts.foldl (fun store put => if put.1 ∈ world.failPut then store else store.put put.1 put.2)
    world.store

/-- What is not written keeps its text. -/
theorem find?_storeAfter (world : World) {puts : List (ObjectName × String)} {key : String}
    (h : ∀ put ∈ puts, put.1.fullKey ≠ key) :
    (world.storeAfter puts).find? key = world.store.find? key := by
  refine List.foldlRecOn (motive := fun store : Store => store.find? key = world.store.find? key)
    puts _ rfl fun store hstore put hput => ?_
  split
  · exact hstore
  · rw [Store.find?_put, if_neg (h put hput), hstore]

/-- An object that is written and can be holds the text, if all writes are of this text. -/
theorem get?_storeAfter (world : World) {puts : List (ObjectName × String)} {text : String}
    (htexts : ∀ put ∈ puts, put.2 = text) {name : ObjectName} (hmem : name ∈ puts.map Prod.fst)
    (hok : name ∉ world.failPut) : (world.storeAfter puts).get? name = some text := by
  induction puts using List.reverseRecOn with
  | nil => cases hmem
  | append_singleton puts put ih =>
      have hrest : name ≠ put.1 → (world.storeAfter puts).get? name = some text := by
        intro hne
        refine ih (fun other hother => htexts other (List.mem_append_left _ hother)) ?_
        rw [List.map_append, List.mem_append] at hmem
        exact hmem.resolve_right fun hlast => hne (List.mem_singleton.1 hlast)
      rw [storeAfter, List.foldl_concat, ← storeAfter]
      split
      next hfail => exact hrest fun heq => hok (heq ▸ hfail)
      next =>
        rw [Store.get?, Store.find?_put]
        split
        next => rw [htexts put (List.mem_append_right _ List.mem_cons_self)]
        next hne => exact hrest fun heq => hne (heq ▸ rfl)

/-- **How a text is written** to an object and, if there is one, to the object of its versions: the
calls that are made, and what they leave. -/
structure Writes (world : World) (name : ObjectName) (master : Option String) (text : String)
    (result : Except NetError Unit) (made : List Call) (after : World) : Prop where
  /-- The calls are noted. -/
  calls_eq : after.calls = world.calls ++ made.toArray
  /-- No blob comes or goes. -/
  isPresent_eq : after.isPresent = world.isPresent
  /-- The store changes by the writes that do not fail. -/
  store_eq : after.store = world.storeAfter (putsOf made)
  /-- Nothing is read. -/
  get_notMem : ∀ n, .get n ∉ made
  /-- The second write comes after the first one has succeeded. -/
  puts_eq : (putsOf made = [(name, text)] ∧ (master = none ∨ name ∈ world.failPut)) ∨
    ∃ key, master = some key ∧ name ∉ world.failPut ∧
      putsOf made = [(name, text), (name.sibling key, text)]
  /-- If none fails, all is well. -/
  result_eq : (∀ put ∈ putsOf made, put.1 ∉ world.failPut) → result = .ok ()

/-- Every write goes this way. -/
theorem exists_writes (world : World) (name : ObjectName) (master : Option String)
    (text : String) : ∃ result made after,
      Repair.write World.services name master text world = (result, after) ∧
        world.Writes name master text result made after := by
  have hfail : ∀ (world : World) (name : ObjectName), name ∈ world.failPut →
      World.services.put name text world =
        (.error (failure .post), world.record (.put name text)) :=
    fun world name h => if_pos (List.contains_iff_mem.2 h)
  have hok : ∀ (world : World) (name : ObjectName), name ∉ world.failPut →
      World.services.put name text world = (.ok (), world.written name text) :=
    fun world name h => if_neg fun hmem => h (List.contains_iff_mem.1 hmem)
  -- The object of the version is written only once the version is.
  rw [Repair.write]
  by_cases hname : name ∈ world.failPut
  · rw [hfail world name hname]
    refine ⟨_, [.put name text], _, rfl, by simp [record], rfl, (if_pos hname).symm, by simp,
      .inl ⟨rfl, .inr hname⟩, fun h => ?_⟩
    exact absurd hname (h (name, text) List.mem_cons_self)
  · rw [hok world name hname]
    cases master with
    | none =>
        exact ⟨_, [.put name text], _, rfl, by simp [record, written], rfl, (if_neg hname).symm,
          by simp, .inl ⟨rfl, .inl rfl⟩, fun _ => rfl⟩
    | some key =>
        dsimp only
        by_cases hkey : name.sibling key ∈ world.failPut
        · rw [hfail (world.written name text) _ hkey]
          refine ⟨_, [.put name text, .put (name.sibling key) text], _, rfl,
            Array.ext' (by simp [record, written]), rfl, ((if_pos hkey).trans (if_neg hname)).symm,
            by simp, .inr ⟨key, rfl, hname, rfl⟩, fun h => ?_⟩
          exact absurd hkey (h (name.sibling key, text) (List.mem_cons_of_mem _ List.mem_cons_self))
        · rw [hok (world.written name text) _ hkey]
          exact ⟨_, [.put name text, .put (name.sibling key) text], _, rfl,
            Array.ext' (by simp [record, written]), rfl,
            ((if_neg hkey).trans (congrArg (Store.put · _ text) (if_neg hname))).symm,
            by simp, .inr ⟨key, rfl, hname, rfl⟩, fun _ => rfl⟩

end World

/-! ### What a plan rests on -/

/-- Whether a value was last modified at a cutoff or after it. -/
def isRecent (cutoff : Option Instant) (value : Option String) : Bool :=
  cutoff.any fun limit =>
    ((value.bind Metadata.parse?).bind Metadata.lastModifiedAt?).any fun modified =>
      decide (limit ≤ modified)

namespace World

/-- **When a repair may write the value of a side**: the leader holds what it held at the scan, the
side is readable and the other is not, and nothing readable is too recent. -/
structure Allows (world : World) (cutoff : Option Instant) (difference : Difference)
    (name : ObjectName) (side : Side) : Prop where
  /-- The leader holds what it held when the difference was found. -/
  current : world.store.get? name = difference.leaderValue?
  /-- The side can be repaired from. -/
  readable : world.readable (Repair.sideValue? difference side) = true
  /-- The other one cannot. -/
  unreadable : world.readable (Repair.sideValue? difference side.other) = false
  /-- Neither side that can be read is recent. -/
  settled : ∀ side, world.readable (Repair.sideValue? difference side) = true →
    isRecent cutoff (Repair.sideValue? difference side) = false

/-- **When a repair may write the object of a version**: the object is missing or is at this very
version. -/
def Couples (world : World) (name : ObjectName) (master : String) : Prop :=
  name.masterKey? = some master ∧
    ∀ text, world.store.get? (name.sibling master) = some text →
      ∃ metadata, Metadata.parse? text = some metadata ∧ metadata.versionId = name.versionId?

variable {world : World} {cutoff : Option Instant} {difference : Difference} {name : ObjectName}

/-- A value that is readable is there. -/
theorem exists_of_readable {value : Option String} (h : world.readable value = true) :
    ∃ text, value = some text := by
  cases value with
  | none => cases h
  | some text => exact ⟨text, rfl⟩

/-- An observed state is readable exactly if its value is. -/
theorem readable_observed (world : World) (value : Option String) :
    (ReplicaState.observed value (world.readable value)).readable = world.readable value := by
  rw [ReplicaState.readable, ReplicaState.observed]
  cases value <;> simp [World.readable]

/-- An observed state is too recent exactly if its value is readable and recent. -/
theorem tooRecent_observed (world : World) (cutoff : Option Instant) (value : Option String) :
    (ReplicaState.observed value (world.readable value)).tooRecent cutoff =
      (world.readable value && isRecent cutoff value) := by
  rw [ReplicaState.tooRecent.eq_def, readable_observed, isRecent, ReplicaState.observed]
  cases cutoff with
  | none => simp
  | some limit =>
      cases (value.bind Metadata.parse?).bind Metadata.lastModifiedAt? <;> simp

/-- **The verdict names a side** exactly if its value may be written. -/
theorem verdict_eq_repairFrom_iff {side : Side} :
    world.verdict cutoff difference (world.store.get? name) = .repairFrom side ↔
      world.Allows cutoff difference name side := by
  have hpick : ∀ side : Side, side.pick
      (ReplicaState.observed difference.followerValue? (world.readable difference.followerValue?))
      (ReplicaState.observed difference.leaderValue? (world.readable difference.leaderValue?)) =
        .observed (Repair.sideValue? difference side)
          (world.readable (Repair.sideValue? difference side)) := by
    intro side
    cases side <;> rfl
  rw [World.verdict, decideRepair_eq_repairFrom_iff]
  simp only [hpick, readable_observed, tooRecent_observed]
  constructor
  · rintro ⟨hcurrent, hrecent, hreadable, hother⟩
    refine ⟨hcurrent, hreadable, hother, fun side hside => ?_⟩
    have h := hrecent side
    rwa [hside, Bool.true_and] at h
  · rintro ⟨hcurrent, hreadable, hother, hsettled⟩
    refine ⟨hcurrent, fun side => ?_, hreadable, hother⟩
    cases hside : world.readable (Repair.sideValue? difference side) with
    | false => rfl
    | true => rw [hsettled side hside, Bool.and_false]

/-- At most one side may be written. -/
theorem Allows.side_eq {side side' : Side} (h : world.Allows cutoff difference name side)
    (h' : world.Allows cutoff difference name side') : side' = side := by
  have hverdict := verdict_eq_repairFrom_iff.2 h
  rw [verdict_eq_repairFrom_iff.2 h'] at hverdict
  exact Verdict.repairFrom.inj hverdict

/-- Nothing counts as a write of a client as long as the leader holds what it held at the scan. -/
theorem status_verdict_ne {refreshed : Option String} (h : refreshed = difference.leaderValue?) :
    (world.verdict cutoff difference refreshed).status ≠ .updatedByClient := by
  rw [verdict, Ne, status_decideRepair_eq_updatedByClient_iff, not_not, h]
  rfl

/-- A request that is made to fail reads an error. -/
theorem read_of_mem {name : ObjectName} (h : name ∈ world.failGet) :
    world.read name = .error (failure .get) :=
  if_pos (List.contains_iff_mem.2 h)

/-- A request that is not made to fail reads what the store holds. -/
theorem read_of_not_mem {name : ObjectName} (h : name ∉ world.failGet) :
    world.read name = .ok (world.store.get? name) :=
  if_neg fun hmem => h (List.contains_iff_mem.1 hmem)

/-- A text that a repair finds at the object of a version couples the two, or nothing does. -/
theorem isAtVersion_iff {version : String} {text : Option String} :
    isAtVersion version text = true ↔ ∀ t, text = some t →
      ∃ metadata, Metadata.parse? t = some metadata ∧ metadata.versionId = some version := by
  cases text with
  | none => exact iff_of_true rfl nofun
  | some text => simp [isAtVersion, Option.any_eq_true]

/-- **The master key is looked up**: the reading of the object fails, or it tells whether the object
is to be written as well. -/
theorem master?_cases (world : World) (name : ObjectName) :
    (∃ key, name.masterKey? = some key ∧ name.sibling key ∈ world.failGet ∧
        world.master? name = .error (failure .get)) ∨
      (∀ key, name.masterKey? = some key → name.sibling key ∉ world.failGet) ∧
        ∃ master, world.master? name = .ok master ∧
          ∀ key, master = some key ↔ world.Couples name key := by
  -- Only a key with a null character is that of a version, and it tells both the object and the
  -- version.
  cases hsplit : splitText? '\x00' name.key with
  | none =>
      have hmaster : name.masterKey? = none := by
        rw [ObjectName.masterKey?, hsplit, Option.map_none]
      refine .inr ⟨fun key hkey => (nomatch hmaster.symm.trans hkey), none, ?_, fun key => ?_⟩
      · rw [master?, hmaster]
      · exact iff_of_false nofun fun h => (nomatch hmaster.symm.trans h.1)
  | some parts =>
      have hmaster : name.masterKey? = some parts.1 := by
        rw [ObjectName.masterKey?, hsplit, Option.map_some]
      have hversion : name.versionId? = some parts.2 := by
        rw [ObjectName.versionId?, hsplit, Option.map_some]
      by_cases hfail : name.sibling parts.1 ∈ world.failGet
      · refine .inl ⟨parts.1, hmaster, hfail, ?_⟩
        rw [master?, hmaster, hversion]
        dsimp only
        rw [read_of_mem hfail]
        rfl
      · have hlookup : world.master? name = .ok
            (if isAtVersion parts.2 (world.store.get? (name.sibling parts.1)) then some parts.1
              else none) := by
          rw [master?, hmaster, hversion]
          dsimp only
          rw [read_of_not_mem hfail]
          rfl
        refine .inr ⟨fun key hkey => Option.some.inj (hmaster.symm.trans hkey) ▸ hfail, _, hlookup,
          fun key => ?_⟩
        rw [Couples, hmaster, hversion]
        by_cases hcoupled : isAtVersion parts.2 (world.store.get? (name.sibling parts.1)) = true
        · rw [if_pos hcoupled, iff_self_and]
          rintro hkey
          obtain rfl := Option.some.inj hkey
          exact isAtVersion_iff.1 hcoupled
        · rw [if_neg hcoupled]
          refine iff_of_false nofun ?_
          rintro ⟨hkey, hversion⟩
          obtain rfl := Option.some.inj hkey
          exact hcoupled (isAtVersion_iff.2 hversion)

/-! ### The calls of the lookups -/

/-- The probes of a value are nothing but probes. -/
theorem exists_of_mem_probes {value : Option String} {call : Call} (h : call ∈ world.probes value) :
    ∃ blob, call = .probe blob := by
  have hprobes : ∀ blobs, call ∈ probesOf world.isPresent blobs → ∃ blob, call = .probe blob := by
    intro blobs h
    induction blobs with
    | nil => cases h
    | cons blob blobs ih =>
        rw [probesOf, List.mem_cons] at h
        rcases h with rfl | h
        · exact ⟨blob, rfl⟩
        · split at h
          · exact ih h
          · cases h
  rw [probes] at h
  cases hmetadata : value.bind Metadata.parse? with
  | none =>
      rw [hmetadata] at h
      cases h
  | some metadata =>
      rw [hmetadata] at h
      exact hprobes metadata.blobs h

/-- The calls of a lookup are probes, the request for the object, and the one for its master key. -/
theorem mem_lookupCalls {follower leader : Option String} {call : Call}
    (h : call ∈ world.lookupCalls name follower leader) :
    (∃ blob, call = .probe blob) ∨ call = .get name ∨
      ∃ key, name.masterKey? = some key ∧ call = .get (name.sibling key) := by
  rw [lookupCalls, List.mem_append, List.mem_append, List.mem_cons] at h
  rcases h with (h | h) | rfl | h
  · exact .inl (exists_of_mem_probes h)
  · exact .inl (exists_of_mem_probes h)
  · exact .inr (.inl rfl)
  · obtain ⟨key, hkey, rfl⟩ := Option.map_eq_some_iff.1 (Option.mem_toList.1 h)
    exact .inr (.inr ⟨key, hkey, rfl⟩)

/-- No lookup writes. -/
theorem putsOf_lookups (world : World) (difference : Difference) :
    putsOf (world.lookups difference) = [] := by
  refine List.filterMap_eq_nil_iff.2 fun call hcall => ?_
  rw [lookups] at hcall
  split at hcall
  · cases hcall
  · split at hcall
    · rcases mem_lookupCalls hcall with ⟨_, rfl⟩ | rfl | ⟨_, _, rfl⟩ <;> rfl
    · cases hcall

/-- The objects that the lookups read. -/
theorem get_mem_lookupCalls_iff {n : ObjectName} {follower leader : Option String} :
    .get n ∈ world.lookupCalls name follower leader ↔
      n = name ∨ ∃ key, name.masterKey? = some key ∧ n = name.sibling key := by
  constructor
  · intro h
    rcases mem_lookupCalls h with ⟨_, h⟩ | h | ⟨key, hkey, h⟩
    · cases h
    · exact .inl (Call.get.inj h)
    · exact .inr ⟨key, hkey, Call.get.inj h⟩
  · rw [lookupCalls]
    rintro (rfl | ⟨key, hkey, rfl⟩)
    · exact List.mem_append_right _ List.mem_cons_self
    · refine List.mem_append_right _ (List.mem_cons_of_mem _ (Option.mem_toList.2 ?_))
      rw [hkey]
      rfl

/-! ### What comes of a plan -/

/-- **How a plan comes about**: the difference itself is at fault; or one of the objects that are
read cannot be read; or everything is known. -/
theorem plan_cases (world : World) (cutoff : Option Instant) (difference : Difference) :
    (∃ error, world.plan cutoff difference = .error error ∧ world.lookups difference = [] ∧
        ∀ name, ObjectName.ofKey difference.key = .ok name →
          (parses difference.followerValue? && parses difference.leaderValue?) = false) ∨
      (∃ name ∈ world.failGet, .get name ∈ world.lookups difference ∧
        world.plan cutoff difference = .ok none) ∨
      ∃ name master, ObjectName.ofKey difference.key = .ok name ∧
        (∀ key, master = some key ↔ world.Couples name key) ∧
        (∀ n, .get n ∈ world.lookups difference → n ∉ world.failGet) ∧
        world.plan cutoff difference =
          .ok (some ⟨name, world.verdict cutoff difference (world.store.get? name), master⟩) := by
  rw [plan, lookups]
  cases ObjectName.ofKey difference.key with
  | error error => exact .inl ⟨_, rfl, rfl, nofun⟩
  | ok name =>
      dsimp only
      cases hparses : parses difference.followerValue? && parses difference.leaderValue? with
      | false => exact .inl ⟨_, rfl, rfl, fun _ _ => rfl⟩
      | true =>
          rw [if_pos rfl, if_pos rfl]
          -- the object is read before its master key
          by_cases hname : name ∈ world.failGet
          · refine .inr (.inl ⟨name, hname, get_mem_lookupCalls_iff.2 (.inl rfl), ?_⟩)
            rw [read_of_mem hname]
          · rw [read_of_not_mem hname]
            rcases world.master?_cases name with ⟨key, hkey, hfail, hmaster⟩ |
              ⟨hkeys, master, hmaster, hcouples⟩
            · refine .inr (.inl ⟨_, hfail, get_mem_lookupCalls_iff.2 (.inr ⟨key, hkey, rfl⟩), ?_⟩)
              rw [hmaster]
            · refine .inr (.inr ⟨name, master, rfl, hcouples, fun n hn => ?_, ?_⟩)
              · rcases get_mem_lookupCalls_iff.1 hn with rfl | ⟨key, hkey, rfl⟩
                · exact hname
                · exact hkeys key hkey
              · rw [hmaster]

end World

end Reconcile
