import Mathlib.Algebra.BigOperators.Group.List.Basic
import Reconcile.Proofs.RepairLedger
import Reconcile.Proofs.Rescan

/-!
# Repairs in another order

Repairs of differences that concern different objects can be made in any order: each makes the same
calls and comes to the same, and in the end the leader holds the same texts and the counters are the
same.

A repair comes to the same in two worlds that are alike at the keys that it concerns, and it leaves
the world alike at all other keys (`World.AlikeAt`). So every repair of a run is one in the world
before the run, whatever was repaired before it, and each of its objects is left as that repair
alone leaves it. In what is said of the whole run the order then plays no part.

## Main results

* `Repair.counters_repairEach`, `Repair.find?_repairEach_of_apart`: what a run counts, and what it
  leaves of each object;
* `Ledger.calls_repairEach`: the calls on the ledger are those that the world has on record;
* `Ledger.eachAlone_of_pairwise`: each repair of a run is one in the world before it;
* `Ledger.isOrderFree_of_perm`: what does not depend on the order.
-/

namespace Reconcile

namespace World

/-- A world keeps the same record of its calls. -/
theorem agree_calls (objects : List ObjectName) (world : World) :
    World.services.recorded.Agree
      (fun state state' => state = state' ∧ state.1.calls = world.calls ++ state.2.toArray) objects
      World.services.recorded where
  get := by
    rintro name - ⟨state, made⟩ _ ⟨rfl, h⟩
    refine ⟨rfl, rfl, ?_⟩
    change state.calls.push (Call.get name) = world.calls ++ (made ++ [Call.get name]).toArray
    rw [h, Array.push_append, List.push_toArray]
  put := by
    rintro name - text ⟨state, made⟩ _ ⟨rfl, h⟩
    refine ⟨rfl, rfl, ?_⟩
    have hcalls : (World.put name text state).2.calls = state.calls.push (Call.put name text) := by
      rw [World.put]
      split <;> rfl
    change (World.put name text state).2.calls =
      world.calls ++ (made ++ [Call.put name text]).toArray
    rw [hcalls, h, Array.push_append, List.push_toArray]
  probe := by
    rintro blob ⟨state, made⟩ _ ⟨rfl, h⟩
    refine ⟨Iff.rfl, rfl, ?_⟩
    change state.calls.push (Call.probe blob) = world.calls ++ (made ++ [Call.probe blob]).toArray
    rw [h, Array.push_append, List.push_toArray]

end World

/-- Whether two differences concern different objects. -/
def Difference.Apart (a b : Difference) : Prop :=
  ∀ name ∈ a.objects, name ∉ b.objects

instance (a b : Difference) : Decidable (a.Apart b) :=
  inferInstanceAs (Decidable (∀ name ∈ a.objects, name ∉ b.objects))

/-- Being apart is symmetric. -/
theorem Difference.Apart.symm {a b : Difference} (h : a.Apart b) : b.Apart a :=
  fun name hname hother => h name hother hname

/-- Differences that are apart concern no key in common. -/
theorem Difference.Apart.keysOf_subset {a b : Difference} (h : a.Apart b) :
    keysOf b.objects ⊆ (keysOf a.objects)ᶜ := by
  rintro key ⟨name, hname, rfl⟩ ⟨other, hother, hkey⟩
  obtain rfl := (ObjectName.fullKey_inj (Difference.proper_of_mem_objects hother)
    (Difference.proper_of_mem_objects hname)).1 hkey
  exact h other hother hname

/-! ### Stores that hold the same -/

namespace Store

/-- A store with ascending keys has the items that it finds. -/
theorem Ascending.mem_items_iff {store : Store} (h : store.Ascending) {item : Item} :
    item ∈ store.items ↔ store.find? item.key = some item.value := by
  rw [find?, Option.map_eq_some_iff]
  constructor
  · exact fun hitem => ⟨item, (findKey?_eq_some_iff h).2 ⟨hitem, rfl⟩, rfl⟩
  · rintro ⟨other, hfind, hvalue⟩
    obtain ⟨hother, hkey⟩ := findKey?_eq_some hfind
    obtain rfl : other = item := by
      cases other
      cases item
      exact congrArg₂ Item.mk hkey hvalue
    exact hother

/-- **A store is known by the texts under its keys**, if these ascend. -/
theorem Ascending.ext {store other : Store} (h : store.Ascending) (h' : other.Ascending)
    (hfind : ∀ key, store.find? key = other.find? key) : store = other := by
  have hitems : store.items = other.items := AscendingByKey.ext h h' fun item => by
    rw [h.mem_items_iff, h'.mem_items_iff, hfind]
  exact congrArg Store.mk hitems

end Store

/-! ### A run of repairs that are apart -/

namespace Repair

variable {cutoff : Option Instant} {world : World} {state : World × RepairCounters}

/-- What one difference concerns is left as it is by the repair of another that is apart. -/
theorem alikeAt_entry_of_apart {a b : Difference} (hapart : a.Apart b)
    (h : world.AlikeAt (keysOf b.objects) state.1) :
    world.AlikeAt (keysOf b.objects) (entry World.services cutoff a state.1 state.2).2.1 :=
  h.trans ((state.1.alikeAt_entry cutoff a state.2).mono hapart.keysOf_subset)

section

variable {differences : List Difference} (hapart : differences.Pairwise Difference.Apart)
  (halike : ∀ difference ∈ differences, world.AlikeAt (keysOf difference.objects) state.1)

include hapart halike

/-- **A run counts what each repair counts in the world before it.** -/
theorem counters_repairEach :
    (repairEach World.services cutoff state differences).2 =
      state.2 + (differences.map fun difference =>
        (entry World.services cutoff difference world 0).2.2).sum := by
  induction differences generalizing state with
  | nil => rw [List.map_nil, List.sum_nil, add_zero, repairEach, List.foldl_nil]
  | cons difference rest ih =>
      obtain ⟨hfirst, hrest⟩ := List.pairwise_cons.1 hapart
      obtain ⟨halikeFirst, halikeRest⟩ := List.forall_mem_cons.1 halike
      obtain ⟨_, _, _, counted, hentry, hentry', -⟩ :=
        halikeFirst.entry Set.Subset.rfl cutoff 0 state.2
      rw [repairEach_cons, List.map_cons, List.sum_cons, ← add_assoc, ih hrest fun other hother =>
        alikeAt_entry_of_apart (hfirst other hother) (halikeRest other hother)]
      rw [hentry, hentry', zero_add]

/-- **A run leaves each object as its repair alone leaves it.** -/
theorem find?_repairEach_of_apart {difference : Difference} (hdifference : difference ∈ differences)
    {key : String} (hkey : key ∈ keysOf difference.objects) :
    (repairEach World.services cutoff state differences).1.store.find? key =
      (entry World.services cutoff difference world 0).2.1.store.find? key := by
  induction differences generalizing state with
  | nil => cases hdifference
  | cons first rest ih =>
      obtain ⟨hfirst, hrest⟩ := List.pairwise_cons.1 hapart
      obtain ⟨halikeFirst, halikeRest⟩ := List.forall_mem_cons.1 halike
      rw [repairEach_cons]
      rcases List.mem_cons.1 hdifference with rfl | hdifference
      · -- the repairs after this one leave its objects as they are
        obtain ⟨_, _, _, _, hentry, hentry', hafter⟩ :=
          halikeFirst.entry Set.Subset.rfl cutoff 0 state.2
        have hlater : ∀ later ∈ rest, keysOf difference.objects ⊆ (keysOf later.objects)ᶜ :=
          fun later hlater => (hfirst later hlater).symm.keysOf_subset
        rw [(alikeAt_repairEach hlater).find?_eq key hkey, hentry, hentry']
        exact hafter.find?_eq key hkey
      · exact ih hrest (fun other hother =>
          alikeAt_entry_of_apart (hfirst other hother) (halikeRest other hother)) hdifference

end

end Repair

namespace Ledger

/-- What is seen of a repair: what it repairs, what comes of it, and the calls that it makes. -/
def Posting.seen (posting : Posting) :
    Difference × Except RepairError RepairOutcome × List Call :=
  (posting.difference, posting.result, posting.calls)

/-- A repair is seen alike with services that agree on what it touches. -/
theorem seen_post_of_agree {σ τ : Type} {R : σ → τ → Prop} {services : Services σ}
    {other : Services τ} {difference : Difference}
    (h : services.Agree R difference.objects other) {state : σ × RepairCounters}
    {state' : τ × RepairCounters} (hstate : R state.1 state'.1) (cutoff : Option Instant) :
    (post services cutoff state difference).seen = (post other cutoff state' difference).seen := by
  obtain ⟨_, _, _, _, hentry, hentry', -⟩ :=
    Repair.exists_entry_eq_of_agree h hstate cutoff 0
  let start : σ × List Call := (state.1, [])
  let start' : τ × List Call := (state'.1, [])
  have hstart : R start.1 start'.1 ∧ start.2 = start'.2 := ⟨hstate, rfl⟩
  obtain ⟨_, ⟨_, _⟩, ⟨_, _⟩, _, hrecorded, hrecorded', -, hcalls⟩ :=
    Repair.exists_entry_eq_of_agree h.recorded hstart cutoff 0
  rw [Posting.seen, Posting.seen, post, post]
  dsimp only at hcalls ⊢
  rw [Repair.entry_eq_add services _ _ state.1 state.2, Repair.entry_eq_add other _ _ state'.1,
    Repair.entry_eq_add services.recorded, Repair.entry_eq_add other.recorded, hentry, hentry',
    hrecorded, hrecorded', hcalls]

/-- The calls on the ledger are those that the world has on record. -/
theorem calls_entry (cutoff : Option Instant) (state : World × RepairCounters)
    (difference : Difference) :
    (Repair.entry World.services cutoff difference state.1 state.2).2.1.calls =
      state.1.calls ++ (post World.services cutoff state difference).calls.toArray := by
  obtain ⟨after, hentry, hrecorded⟩ := recorded_post World.services cutoff state difference
  let start : World × List Call := (state.1, [])
  have hstart : start = start ∧ start.1.calls = state.1.calls ++ start.2.toArray :=
    ⟨rfl, Array.append_empty.symm⟩
  obtain ⟨_, _, _, _, hsame, -, -, hcalls⟩ :=
    Repair.exists_entry_eq_of_agree (World.agree_calls difference.objects state.1) hstart cutoff
      state.2
  obtain ⟨-, rfl, -⟩ := (Prod.mk.injEq ..).mp (hrecorded.symm.trans hsame) |>.imp_right
    (Prod.mk.injEq ..).mp
  rw [hentry]
  exact hcalls

/-- **A run has the calls of its repairs on record**, one repair after the other. -/
theorem calls_repairEach (cutoff : Option Instant) (state : World × RepairCounters)
    (differences : List Difference) :
    (Repair.repairEach World.services cutoff state differences).1.calls =
      state.1.calls ++
        ((postEach World.services cutoff state differences).flatMap Posting.calls).toArray := by
  induction differences generalizing state with
  | nil => exact Array.append_empty.symm
  | cons difference rest ih =>
      rw [Repair.repairEach_cons, ih, calls_entry, postEach, List.flatMap_cons,
        ← List.append_toArray, Array.append_assoc]

variable {cutoff : Option Instant} {world : World}

/-- **Each repair of a run is seen as one in the world before it.** -/
theorem map_seen_postEach {differences : List Difference}
    (hapart : differences.Pairwise Difference.Apart) {state : World × RepairCounters}
    (halike : ∀ difference ∈ differences, world.AlikeAt (keysOf difference.objects) state.1)
    (counters : RepairCounters) :
    (postEach World.services cutoff state differences).map Posting.seen =
      differences.map fun difference =>
        (post World.services cutoff (world, counters) difference).seen := by
  induction differences generalizing state with
  | nil => rfl
  | cons difference rest ih =>
      obtain ⟨hfirst, hrest⟩ := List.pairwise_cons.1 hapart
      obtain ⟨halikeFirst, halikeRest⟩ := List.forall_mem_cons.1 halike
      have hseen : (post World.services cutoff (world, counters) difference).seen =
          (post World.services cutoff state difference).seen :=
        seen_post_of_agree (World.agree_alikeAt Set.Subset.rfl) halikeFirst cutoff
      rw [postEach, List.map_cons, List.map_cons, hseen, ih hrest fun other hother =>
        Repair.alikeAt_entry_of_apart (hfirst other hother) (halikeRest other hother)]

/-- A run in which each repair goes as it would go alone. -/
structure EachAlone (world : World) (cutoff : Option Instant) (counters : RepairCounters)
    (differences : List Difference) : Prop where
  /-- Each comes to the same and makes the same calls as in the world before the run. -/
  seen : (postEach World.services cutoff (world, counters) differences).map Posting.seen =
    differences.map fun difference =>
      (post World.services cutoff (world, counters) difference).seen
  /-- These are the calls that are on record in the end, one repair after the other. -/
  calls_eq : (Repair.repairEach World.services cutoff (world, counters) differences).1.calls =
    world.calls ++ ((postEach World.services cutoff (world, counters) differences).flatMap
      Posting.calls).toArray

/-- **Repairs of differences that are apart go as they would go alone.** -/
theorem eachAlone_of_pairwise {differences : List Difference}
    (hapart : differences.Pairwise Difference.Apart) (counters : RepairCounters) :
    EachAlone world cutoff counters differences where
  seen := map_seen_postEach hapart (fun _ _ => .refl _ world) counters
  calls_eq := calls_repairEach cutoff (world, counters) differences

/-- **What does not depend on the order of repairs.** -/
structure IsOrderFree (world : World) (cutoff : Option Instant) (counters : RepairCounters)
    (differences differences' : List Difference) : Prop where
  /-- Each repair comes to the same and makes the same calls in both orders. -/
  alone : EachAlone world cutoff counters differences
  alone' : EachAlone world cutoff counters differences'
  /-- The leader holds the same texts. -/
  find?_eq : ∀ key,
    (Repair.repairEach World.services cutoff (world, counters) differences).1.store.find? key =
      (Repair.repairEach World.services cutoff (world, counters) differences').1.store.find? key
  /-- The leader is the same, if its keys ascend. -/
  store_eq : world.store.Ascending →
    (Repair.repairEach World.services cutoff (world, counters) differences).1.store =
      (Repair.repairEach World.services cutoff (world, counters) differences').1.store
  /-- The counters are the same. -/
  counters_eq : (Repair.repairEach World.services cutoff (world, counters) differences).2 =
    (Repair.repairEach World.services cutoff (world, counters) differences').2

/-- **Repairs of differences that are apart can be made in any order**: each comes to the same and
makes the same calls, and the leader and the counters are left the same.

A difference finds its own keys as they were at the start, wherever it stands in the order, since
the repairs before it leave them alone (`eachAlone_of_pairwise`). -/
theorem isOrderFree_of_perm {differences differences' : List Difference}
    (hapart : differences.Pairwise Difference.Apart) (hperm : differences.Perm differences')
    (world : World) (cutoff : Option Instant) (counters : RepairCounters) :
    IsOrderFree world cutoff counters differences differences' := by
  have hapart' : differences'.Pairwise Difference.Apart :=
    hperm.pairwise hapart Difference.Apart.symm
  have halike : ∀ order : List Difference, ∀ difference ∈ order,
      world.AlikeAt (keysOf difference.objects) world := fun _ _ _ => .refl _ world
  -- A key is written by one difference at most, which finds it as it was at the start in either
  -- order.
  have hfind : ∀ key,
      (Repair.repairEach World.services cutoff (world, counters) differences).1.store.find? key =
        (Repair.repairEach World.services cutoff (world, counters)
          differences').1.store.find? key := by
    intro key
    by_cases hkey : ∃ difference ∈ differences, key ∈ keysOf difference.objects
    · obtain ⟨difference, hdifference, hkey⟩ := hkey
      exact (Repair.find?_repairEach_of_apart hapart (halike _) hdifference hkey).trans
        (Repair.find?_repairEach_of_apart hapart' (halike _) (hperm.mem_iff.1 hdifference)
          hkey).symm
    · have hout : ∀ difference ∈ differences, {key} ⊆ (keysOf difference.objects)ᶜ :=
        fun difference hdifference => Set.singleton_subset_iff.2 fun hmem =>
          hkey ⟨difference, hdifference, hmem⟩
      rw [(Repair.alikeAt_repairEach hout).find?_eq key rfl,
        (Repair.alikeAt_repairEach fun difference hdifference =>
          hout difference (hperm.mem_iff.2 hdifference)).find?_eq key rfl]
  constructor
  · exact eachAlone_of_pairwise hapart counters
  · exact eachAlone_of_pairwise hapart' counters
  · exact hfind
  · intro hstore
    exact (Repair.ascending_repairEach hstore).ext (Repair.ascending_repairEach hstore) hfind
  · rw [Repair.counters_repairEach hapart (halike _), Repair.counters_repairEach hapart' (halike _),
      (hperm.map _).sum_eq]

/-- An object, and a version of another one. -/
theorem isOrderFree_of_perm_pair :
    let object : Difference := .onlyOnFollower ⟨"b/k", "{}"⟩
    let version : Difference := .onlyOnFollower ⟨"b/m\x00v", "{}"⟩
    [object, version].Pairwise Difference.Apart ∧ [object, version].Perm [version, object] ∧
      IsOrderFree default none 0 [object, version] [version, object] :=
  have hapart : [Difference.onlyOnFollower ⟨"b/k", "{}"⟩,
      .onlyOnFollower ⟨"b/m\x00v", "{}"⟩].Pairwise Difference.Apart := by decide +kernel
  ⟨hapart, .swap _ _ _, isOrderFree_of_perm hapart (.swap _ _ _) default none 0⟩

end Ledger

end Reconcile
