import Reconcile.Proofs.DifferenceFile
import Reconcile.Proofs.RepairRun
import Reconcile.Proofs.WriteSafety

/-!
# A scan after a repair

A scan finds the differences of the follower and the leader, a repair works through them, and a
second scan shows what is left. A repair from the follower makes the leader hold what the follower
holds, and one from the leader changes nothing. What a version is repaired with may be mirrored onto
the key of its object as well, after that key has had its own turn; from then on it is the text
mirrored last that counts there.

## Main results

* `Repair.find?_repairEach`: what the leader holds under a key after a run of repairs;
* `leftovers_of_repair`: what the second scan finds.
-/

namespace Reconcile

namespace Repair

/-! ### What repairs have written -/

/-- For a key of a version, the key of its object. -/
def masterOf? (key : String) : Option String :=
  match ObjectName.ofKey key with
  | .ok name => name.masterKey?.map fun master => (name.sibling master).fullKey
  | .error _ => none

/-- The text that a repair has written to a key if the key is that of its difference. -/
def ownText? (key : String) : Difference × Except RepairError RepairOutcome → Option String
  | (difference, .ok (.repaired side _)) =>
    if difference.key = key then sideValue? difference side else none
  | _ => none

/-- The text that a repair has mirrored onto a key. -/
def mirroredText? (key : String) : Difference × Except RepairError RepairOutcome → Option String
  | (difference, .ok (.repaired side true)) =>
    if masterOf? difference.key = some key then sideValue? difference side else none
  | _ => none

/-- The text that repairs have mirrored onto a key last. -/
def lastMirrored? (repaired : List (Difference × Except RepairError RepairOutcome))
    (key : String) : Option String :=
  repaired.reverse.findSome? (mirroredText? key)

/-- What repairs that are made in turn come to, each with its difference. -/
def outcomes {σ : Type} (services : Services σ) (cutoff : Option Instant)
    (state : σ × RepairCounters) :
    List Difference → List (Difference × Except RepairError RepairOutcome)
  | [] => []
  | difference :: rest =>
    (difference, (entry services cutoff difference state.1 state.2).1) ::
      outcomes services cutoff (entry services cutoff difference state.1 state.2).2 rest

/-- The key of an object comes before the keys of its versions. -/
theorem lt_of_masterOf? {key master : String} (h : masterOf? key = some master) : master < key := by
  rw [masterOf?] at h
  split at h
  · next name hname =>
      obtain ⟨m, hm, rfl⟩ := Option.map_eq_some_iff.1 h
      rw [(ObjectName.ofKey_eq_ok_iff.1 hname).1]
      exact ObjectName.sibling_masterKey_lt hm
  · cases h

section

variable {key text : String} {repaired : Difference × Except RepairError RepairOutcome}

/-- What a repair has written to the key of its difference is the value of the side it has repaired
from. -/
theorem ownText?_eq_some (h : ownText? key repaired = some text) :
    ∃ side withMaster, repaired.2 = .ok (.repaired side withMaster) ∧ repaired.1.key = key ∧
      sideValue? repaired.1 side = some text := by
  rw [ownText?.eq_def] at h
  split at h
  · next difference side withMaster =>
      obtain ⟨hkey, htext⟩ := Option.ite_none_right_eq_some.1 h
      exact ⟨side, withMaster, rfl, hkey, htext⟩
  · cases h

/-- A repair mirrors onto the object key of its version, and onto no other. -/
theorem mirroredText?_eq_some (h : mirroredText? key repaired = some text) :
    masterOf? repaired.1.key = some key := by
  rw [mirroredText?.eq_def] at h
  split at h
  · exact (Option.ite_none_right_eq_some.1 h).1
  · cases h

/-- A repair of another key has not written to a key by itself. -/
theorem ownText?_eq_none_of_ne {difference : Difference}
    (h : difference.key ≠ key) (outcome : Except RepairError RepairOutcome) :
    ownText? key (difference, outcome) = none := by
  refine Option.eq_none_iff_forall_ne_some.2 fun text htext => ?_
  obtain ⟨_, _, -, hkey, -⟩ := ownText?_eq_some htext
  exact h hkey

/-- A repair has mirrored nothing onto a key that comes later. -/
theorem mirroredText?_eq_none_of_lt {difference : Difference}
    (h : difference.key < key) (outcome : Except RepairError RepairOutcome) :
    mirroredText? key (difference, outcome) = none := by
  refine Option.eq_none_iff_forall_ne_some.2 fun text htext => ?_
  exact (lt_of_masterOf? (mirroredText?_eq_some htext)).not_gt h

/-- A repair that does not say that it has repaired has written nothing. -/
theorem ownText?_eq_none (h : ∀ side withMaster, repaired.2 ≠ .ok (.repaired side withMaster)) :
    ownText? key repaired = none := by
  rw [ownText?.eq_def]
  split
  · exact absurd rfl (h _ _)
  · rfl

/-- A repair that has repaired nothing has mirrored nothing. -/
theorem mirroredText?_eq_none
    (h : ∀ side withMaster, repaired.2 ≠ .ok (.repaired side withMaster)) :
    mirroredText? key repaired = none := by
  rw [mirroredText?.eq_def]
  split
  · exact absurd rfl (h _ _)
  · rfl

end

/-! ### One repair -/

variable {world : World} {cutoff : Option Instant}

/-- What a repair of a difference does to the leader, if no write fails. -/
theorem find?_entry (hputs : world.failPut = []) (difference : Difference)
    (counters : RepairCounters) (key : String) :
    (entry World.services cutoff difference world counters).2.1.store.find? key =
      (mirroredText? key
          (difference, (entry World.services cutoff difference world counters).1)).or
        ((ownText? key
            (difference, (entry World.services cutoff difference world counters).1)).or
          (world.store.find? key)) := by
  -- A repair that writes nothing leaves nothing to find; one that writes puts its text to the
  -- object, and to the master key behind it if there is one.
  rcases entry_quiet_or_writes world cutoff difference counters with
    ⟨result, made, _, hentry, hquiet, -⟩ |
    ⟨name, side, text, master, _, hname, -, htext, hcouples, -, hentry⟩
  · rw [hentry, mirroredText?_eq_none hquiet, ownText?_eq_none hquiet]
    rfl
  · obtain ⟨result, made, after, hwrite, hwrites⟩ :=
      (world.after (world.lookups difference)).exists_writes name master text
    have hok : ∀ other : ObjectName, other ∉ (world.after (world.lookups difference)).failPut := by
      intro other
      change other ∉ world.failPut
      rw [hputs]
      exact List.not_mem_nil
    have hresult := hwrites.result_eq fun put _ => hok put.1
    have hkey := (ObjectName.ofKey_eq_ok_iff.1 hname).1
    rw [hentry, hwrite, hresult, outcomeOf, hwrites.store_eq]
    have hown : ∀ withMaster, ownText? key (difference, .ok (.repaired side withMaster)) =
        if name.fullKey = key then some text else none := by
      intro withMaster
      rw [ownText?, hkey, htext]
    rcases hwrites.puts_eq with ⟨hmade, rfl | hfail⟩ | ⟨m, rfl, -, hmade⟩
    · rw [hmade, World.storeAfter, List.foldl_cons, List.foldl_nil, if_neg (hok name),
        Store.find?_put, hown]
      split <;> rfl
    · exact absurd hfail (hok name)
    · have hmaster : masterOf? difference.key = some (name.sibling m).fullKey := by
        rw [masterOf?, hname]
        dsimp only
        rw [((hcouples m).1 rfl).1, Option.map_some]
      have hmirrored : mirroredText? key (difference, .ok (.repaired side (some m).isSome)) =
          if (name.sibling m).fullKey = key then some text else none := by
        rw [Option.isSome_some, mirroredText?, hmaster, htext]
        simp only [Option.some.injEq]
      -- the master key is written last, so it has the last word
      rw [hmade, World.storeAfter, List.foldl_cons, List.foldl_cons, List.foldl_nil,
        if_neg (hok name), if_neg (hok _), Store.find?_put, Store.find?_put, hown, hmirrored]
      split
      · rfl
      · split <;> rfl

/-- A repair of a difference leaves it that no write fails. -/
theorem failPut_entry (difference : Difference) (counters : RepairCounters) :
    (entry World.services cutoff difference world counters).2.1.failPut = world.failPut :=
  (world.alikeAt_entry cutoff difference counters).failPut_eq

end Repair

/-- A write keeps the keys of a store ascending. -/
theorem Store.Ascending.put {store : Store} (h : store.Ascending) (name : ObjectName)
    (text : String) : (store.put name text).Ascending :=
  ascendingByKey_insertByKey h _

/-- Writes leave the keys of a store in order. -/
theorem World.ascending_storeAfter {world : World} (h : world.store.Ascending)
    (puts : List (ObjectName × String)) : (world.storeAfter puts).Ascending := by
  refine List.foldlRecOn puts _ h fun store hstore put _ => ?_
  split
  · exact hstore
  · exact hstore.put put.1 put.2

namespace Repair

variable {world : World} {cutoff : Option Instant}

/-- A repair of a difference keeps the keys of the leader ascending. -/
theorem ascending_entry (h : world.store.Ascending) (difference : Difference)
    (counters : RepairCounters) :
    (entry World.services cutoff difference world counters).2.1.store.Ascending := by
  rcases entry_cases world cutoff difference counters with
    ⟨_, _, _, hentry, -⟩ | ⟨name, _, text, master, _, -, -, -, -, -, hentry⟩
  · rw [hentry]
    exact h
  · obtain ⟨_, made, after, hwrite, hwrites⟩ :=
      (world.after (world.lookups difference)).exists_writes name master text
    rw [hentry, hwrite, hwrites.store_eq]
    exact World.ascending_storeAfter h _

/-- A repair that says it has repaired from a side has written the text of this side. -/
theorem exists_text_of_repaired {difference : Difference} {counters : RepairCounters} {side : Side}
    {withMaster : Bool}
    (h : (entry World.services cutoff difference world counters).1 =
      .ok (.repaired side withMaster)) : ∃ text, sideValue? difference side = some text := by
  rcases entry_quiet_or_writes world cutoff difference counters with
    ⟨result, _, _, hentry, hquiet, -⟩ | ⟨_, side', text, _, _, -, -, htext, -, -, hentry⟩
  · rw [hentry] at h
    exact absurd h (hquiet side withMaster)
  · rw [hentry, outcomeOf.eq_def] at h
    split at h <;> cases h
    exact ⟨text, htext⟩

/-! ### A run of repairs -/

section

variable {state : World × RepairCounters} {differences : List Difference}

/-- Each difference has an outcome, in their order. -/
theorem map_fst_outcomes : (outcomes World.services cutoff state differences).map Prod.fst =
    differences := by
  induction differences generalizing state with
  | nil => rfl
  | cons difference rest ih => rw [outcomes, List.map_cons, ih]

/-- An outcome is that of one of the differences. -/
theorem fst_mem_of_mem_outcomes {repaired : Difference × Except RepairError RepairOutcome}
    (h : repaired ∈ outcomes World.services cutoff state differences) :
    repaired.1 ∈ differences := by
  have hmem := List.mem_map_of_mem (f := Prod.fst) h
  rwa [map_fst_outcomes] at hmem

/-- A difference comes to one outcome. -/
theorem eq_of_mem_outcomes (hordered : AscendingByKey Difference.key differences)
    {repaired repaired' : Difference × Except RepairError RepairOutcome}
    (h : repaired ∈ outcomes World.services cutoff state differences)
    (h' : repaired' ∈ outcomes World.services cutoff state differences)
    (hkey : repaired.1.key = repaired'.1.key) : repaired = repaired' := by
  have houtcomes : AscendingByKey (fun repaired => Difference.key repaired.1)
      (outcomes World.services cutoff state differences) := by
    rw [← @map_fst_outcomes cutoff state differences, AscendingByKey, List.pairwise_map] at hordered
    exact hordered
  exact houtcomes.eq_of_key_eq h h' hkey

/-- A whole run leaves the keys of a store in order. -/
theorem ascending_repairEach (h : state.1.store.Ascending) :
    (repairEach World.services cutoff state differences).1.store.Ascending := by
  induction differences generalizing state with
  | nil => exact h
  | cons difference rest ih =>
      rw [repairEach_cons]
      exact ih (ascending_entry h difference state.2)

/-- A side that has been repaired from has a value. -/
theorem exists_text_of_mem_outcomes {difference : Difference} {side : Side} {withMaster : Bool}
    (h : (difference, .ok (.repaired side withMaster)) ∈
      outcomes World.services cutoff state differences) :
    ∃ text, sideValue? difference side = some text := by
  induction differences generalizing state with
  | nil => cases h
  | cons other rest ih =>
      rw [outcomes, List.mem_cons] at h
      rcases h with h | h
      · obtain ⟨rfl, hrepaired⟩ := Prod.mk.inj h
        exact exists_text_of_repaired hrepaired.symm
      · exact ih h

/-- A key was repaired with no text itself if no difference of this key was repaired. -/
theorem findSome?_ownText?_eq_none_iff {key : String} :
    (outcomes World.services cutoff state differences).findSome? (ownText? key) = none ↔
      ∀ repaired ∈ outcomes World.services cutoff state differences, ∀ side withMaster,
        repaired.2 = .ok (.repaired side withMaster) → repaired.1.key ≠ key := by
  rw [List.findSome?_eq_none_iff]
  constructor
  · rintro hnone ⟨difference, outcome⟩ hmem side withMaster rfl hkey
    obtain ⟨text, htext⟩ := exists_text_of_mem_outcomes hmem
    have hquiet := hnone _ hmem
    rw [ownText?, if_pos hkey, htext] at hquiet
    cases hquiet
  · intro hnot repaired hmem
    refine Option.eq_none_iff_forall_ne_some.2 fun text htext => ?_
    obtain ⟨side, withMaster, hrepaired, hkey, -⟩ := ownText?_eq_some htext
    exact hnot repaired hmem side withMaster hrepaired hkey

/-- Later repairs have the last word on what is mirrored. -/
theorem lastMirrored?_cons (first : Difference × Except RepairError RepairOutcome)
    (repaired : List (Difference × Except RepairError RepairOutcome)) (key : String) :
    lastMirrored? (first :: repaired) key =
      (lastMirrored? repaired key).or (mirroredText? key first) := by
  rw [lastMirrored?, List.reverse_cons, List.findSome?_append, lastMirrored?, List.findSome?_cons,
    List.findSome?_nil]
  cases mirroredText? key first <;> rfl

/-- **What the leader holds under a key after a run of repairs** in key order: the text that was
mirrored onto it last, or else what it was repaired with itself, or else what it held before. -/
theorem find?_repairEach (hputs : state.1.failPut = [])
    (hordered : AscendingByKey Difference.key differences) (key : String) :
    (repairEach World.services cutoff state differences).1.store.find? key =
      (lastMirrored? (outcomes World.services cutoff state differences) key).or
        (((outcomes World.services cutoff state differences).findSome? (ownText? key)).or
          (state.1.store.find? key)) := by
  induction differences generalizing state with
  | nil => rfl
  | cons difference rest ih =>
      obtain ⟨hfirst, hrest⟩ := List.pairwise_cons.1 hordered
      have ih := @ih (entry World.services cutoff difference state.1 state.2).2
        ((failPut_entry _ _).trans hputs) hrest
      rw [repairEach_cons, outcomes, lastMirrored?_cons, ih, find?_entry hputs, List.findSome?_cons]
      cases hown : (outcomes World.services cutoff
          (entry World.services cutoff difference state.1 state.2).2 rest).findSome?
            (ownText? key) with
      | none =>
          cases ownText? key (difference, (entry World.services cutoff difference state.1
            state.2).1) <;> simp only [Option.or_assoc, Option.none_or]
      | some text =>
          -- a key whose turn is still to come is not written yet
          obtain ⟨repaired, hmem, htext⟩ := List.exists_of_findSome?_eq_some hown
          obtain ⟨_, _, -, rfl, -⟩ := ownText?_eq_some htext
          have hlater : difference.key < repaired.1.key :=
            hfirst _ (fst_mem_of_mem_outcomes hmem)
          rw [mirroredText?_eq_none_of_lt hlater, ownText?_eq_none_of_ne hlater.ne, Option.or_none]
          rfl

/-- A run of repairs that comes to its normal end has made them all. -/
theorem repairEach_of_inTurn_eq_ok {σ : Type} {services : Services σ} {state after : σ}
    {counters counters' : RepairCounters} {differences : List Difference}
    (h : inTurn services cutoff (.ok ()) state counters differences =
      (.ok (), after, counters')) :
    repairEach services cutoff (state, counters) differences = (after, counters') := by
  induction differences generalizing state counters with
  | nil => exact (Prod.mk.inj h).2
  | cons difference rest ih =>
      rw [inTurn] at h
      rw [repairEach_cons]
      rcases hentry : entry services cutoff difference state counters with ⟨_ | _, next, counters''⟩
      all_goals rw [hentry] at h
      · cases h
      · exact ih h

end

end Repair

/-! ### What a scan reports -/

section

variable {items : List Item} (hascending : AscendingByKey Item.key items)
  (hnamed : ∀ item ∈ items, '/' ∈ item.key.toList)

include hascending in
/-- A difference that a merge finds has a side. -/
theorem hasSide_of_mem_mergeSorted {leader : List Item} (hleader : AscendingByKey Item.key leader)
    {difference : Difference} (h : difference ∈ mergeSorted items leader) :
    difference.HasSide := by
  rw [mem_mergeSorted_iff hascending hleader, differenceAt] at h
  split at h
  · cases h
  next hne =>
    obtain ⟨hfollower, hleader⟩ := Difference.mk.inj (Option.some.inj h)
    rw [Difference.HasSide, ← not_and_or, ← hfollower, ← hleader]
    rintro ⟨hf, hl⟩
    rw [hf, hl] at hne
    exact hne rfl

include hnamed in
/-- A key that a scan reports is one of the follower's buckets. -/
theorem inBuckets_of_mem_mergeSorted {store : Store} {difference : Difference}
    (h : difference ∈ mergeSorted items (store.ofBuckets (bucketsOf items))) :
    InBuckets (bucketsOf items) difference.key := by
  obtain ⟨item, hitem, hkey⟩ := exists_key_of_mem_mergeSorted h
  rw [hkey, inBuckets_iff]
  rcases List.mem_append.1 hitem with hitem | hitem
  · rw [← filter_bucketsOf hnamed] at hitem
    exact (List.mem_filter.1 hitem).2
  · exact (List.mem_filter.1 hitem).2

include hascending hnamed in
/-- **Which keys a scan reports**: those of the follower's buckets under which the follower and the
leader hold different texts, or one of them none. -/
theorem reported_iff {store : Store} (hstore : store.Ascending) {key : String} :
    (∃ difference ∈ mergeSorted items (store.ofBuckets (bucketsOf items)), difference.key = key) ↔
      InBuckets (bucketsOf items) key ∧ (findKey? items key).map Item.value ≠ store.find? key := by
  have hreported : InBuckets (bucketsOf items) key →
      ((∃ difference ∈ mergeSorted items (store.ofBuckets (bucketsOf items)),
          difference.key = key) ↔ (findKey? items key).map Item.value ≠ store.find? key) := by
    intro hkey
    rw [exists_mem_mergeSorted_iff hascending (hstore.ofBuckets _),
      findKey?_eq_find? (hstore.ofBuckets _) hstore hkey fun _ _ => Iff.rfl]
  constructor
  · rintro ⟨difference, hmem, rfl⟩
    have hkey := inBuckets_of_mem_mergeSorted hnamed hmem
    exact ⟨hkey, (hreported hkey).1 ⟨difference, hmem, rfl⟩⟩
  · rintro ⟨hkey, hne⟩
    exact (hreported hkey).2 hne

end

/-- The key of an object is in the bucket of its versions. -/
theorem InBuckets.masterOf? {buckets : List String} {key master : String}
    (h : InBuckets buckets key) (hmaster : Repair.masterOf? key = some master) :
    InBuckets buckets master := by
  obtain ⟨name, hname, hbucket⟩ := h
  rw [Repair.masterOf?, hname] at hmaster
  obtain ⟨m, -, rfl⟩ := Option.map_eq_some_iff.1 hmaster
  have hproper := (ObjectName.ofKey_eq_ok_iff.1 hname).2
  exact ⟨name.sibling m, ObjectName.ofKey_fullKey (hproper.sibling m), hbucket⟩

/-! ### What is left -/

/-- **What a second scan finds**, after a scan that found some differences and what came of their
repair. -/
structure Leftovers (items : List Item) (found left : List Difference)
    (repaired : List (Difference × Except RepairError RepairOutcome)) (before after : Store) :
    Prop where
  /-- A key onto which nothing was mirrored is found again, unless it was repaired from the
  follower. -/
  unmirrored : ∀ key, Repair.lastMirrored? repaired key = none →
    ((∃ difference ∈ left, difference.key = key) ↔
      ∃ difference ∈ found, difference.key = key ∧
        ∀ withMaster, (difference, .ok (.repaired .follower withMaster)) ∉ repaired)
  /-- For another key it is the text that counts which was mirrored onto it last. -/
  mirrored : ∀ key text, Repair.lastMirrored? repaired key = some text →
    ((∃ difference ∈ left, difference.key = key) ↔
      (findKey? items key).map Item.value ≠ some text)
  /-- What is in no difference and is not mirrored onto keeps its text. -/
  untouched : ∀ key, (∀ difference ∈ found, difference.key ≠ key) →
    Repair.lastMirrored? repaired key = none → after.find? key = before.find? key

section

variable {items : List Item} (hascending : AscendingByKey Item.key items)
  (hnamed : ∀ item ∈ items, '/' ∈ item.key.toList)

include hascending hnamed

/-- What a run of repairs on the differences of a merge leaves to the next merge. -/
theorem leftovers_of_repairEach {world after : World} (hstore : world.store.Ascending)
    (hputs : world.failPut = []) {found : List Difference}
    (hfound : found = mergeSorted items (world.store.ofBuckets (bucketsOf items)))
    {cutoff : Option Instant} {counters counters' : RepairCounters}
    (hrepaired : Repair.repairEach World.services cutoff (world, counters) found =
      (after, counters')) :
    Leftovers items found (mergeSorted items (after.store.ofBuckets (bucketsOf items)))
      (Repair.outcomes World.services cutoff (world, counters) found) world.store after.store := by
  have hordered : AscendingByKey Difference.key found :=
    hfound ▸ ascendingByKey_mergeSorted hascending (hstore.ofBuckets _)
  -- Both merges are read key by key, as items that differ from the store.
  have hbefore : ∀ key, (∃ difference ∈ found, difference.key = key) ↔
      InBuckets (bucketsOf items) key ∧
        (findKey? items key).map Item.value ≠ world.store.find? key := fun key =>
    hfound ▸ reported_iff hascending hnamed hstore
  have hfind := @Repair.find?_repairEach cutoff (world, counters) found hputs hordered
  have hascended := @Repair.ascending_repairEach cutoff (world, counters) found hstore
  rw [hrepaired] at hfind hascended
  have hafter := fun key => @reported_iff items hascending hnamed after.store hascended key
  -- A key that nothing was mirrored onto, one that was, and one without any repair.
  refine ⟨fun key hnone => ?_, fun key text hsome => ?_, fun key hnot hnone => ?_⟩
  · have hkept := hfind key
    rw [hnone, Option.none_or] at hkept
    cases hown : (Repair.outcomes World.services cutoff (world, counters) found).findSome?
        (Repair.ownText? key) with
    | none =>
        rw [hown, Option.none_or] at hkept
        rw [hafter, hkept, ← hbefore]
        refine exists_congr fun difference => and_congr_right fun _ => ?_
        refine ⟨fun hkey => ⟨hkey, fun withMaster hmem => ?_⟩, And.left⟩
        exact Repair.findSome?_ownText?_eq_none_iff.1 hown _ hmem _ _ rfl hkey
    | some text =>
        rw [hown, Option.some_or] at hkept
        obtain ⟨⟨difference, outcome⟩, hmem, htext⟩ := List.exists_of_findSome?_eq_some hown
        obtain ⟨side, withMaster, rfl, rfl, hside⟩ := Repair.ownText?_eq_some htext
        have hdifference := Repair.fst_mem_of_mem_outcomes hmem
        obtain ⟨hfollower, hleader⟩ :=
          values_of_mem_mergeSorted hascending hnamed hstore (hfound ▸ hdifference)
        cases side with
        -- repaired from the follower: the leader now holds what the follower does
        | follower =>
            refine iff_of_false (fun hleft => ?_) ?_
            · rw [hafter, hkept, ← hfollower] at hleft
              exact hleft.2 hside
            · rintro ⟨other, hother, hkey, hnot⟩
              obtain rfl := hordered.eq_of_key_eq hother hdifference hkey
              exact hnot withMaster hmem
        -- repaired from the leader: its own text is written again, and the key differs as before
        | leader =>
            have hsame := hkept.trans (hside.symm.trans hleader)
            refine iff_of_true ?_ ⟨difference, hdifference, rfl, fun withMaster' hmem' => ?_⟩
            · rw [hafter, hsame, ← hbefore]
              exact ⟨difference, hdifference, rfl⟩
            · cases Repair.eq_of_mem_outcomes hordered hmem hmem' rfl
  · have hkept := hfind key
    rw [hsome, Option.some_or] at hkept
    obtain ⟨repaired, hmem, htext⟩ := List.exists_of_findSome?_eq_some hsome
    have hversion := Repair.fst_mem_of_mem_outcomes (List.mem_reverse.1 hmem)
    have hbucket := inBuckets_of_mem_mergeSorted hnamed (hfound ▸ hversion)
    rw [hafter, hkept]
    exact and_iff_right (hbucket.masterOf? (Repair.mirroredText?_eq_some htext))
  · have hown : (Repair.outcomes World.services cutoff (world, counters) found).findSome?
        (Repair.ownText? key) = none :=
      Repair.findSome?_ownText?_eq_none_iff.2 fun repaired hmem _ _ _ =>
        hnot repaired.1 (Repair.fst_mem_of_mem_outcomes hmem)
    rw [hfind key, hnone, hown, Option.none_or, Option.none_or]

end

/-- **A scan after a repair** finds the leftovers of the repair, if no write has failed.

Both scans are merges, and between them the file gives back the differences that the first one
found. So it is enough to follow a run of repairs over these, which `leftovers_of_repairEach` does.
-/
theorem leftovers_of_repair {items : List Item} (hascending : AscendingByKey Item.key items)
    (hnamed : ∀ item ∈ items, '/' ∈ item.key.toList) {world : World}
    (hstore : world.store.Ascending) (hputs : world.failPut = []) {cap cap' : Option Nat}
    (hcap : ∀ n, cap = some n → 1 ≤ n) (hcap' : ∀ n, cap' = some n → 1 ≤ n)
    (settings settings' : ScanSettings) (progress progress' : Progress) (cutoff : Option Instant)
    (counters : RepairCounters) :
    ∃ requests found,
      Scan.run (Serving.steady cap).leader settings none ⟨items, none⟩ (.holding world.store [])
          (Output.start progress none) = (.ok (), .holding world.store requests, found) ∧
        ∀ after counters',
          DifferenceFile.repair World.services cutoff
              (DifferenceFile.write found.delivered.toList) world counters =
            (.ok (), after, counters') →
          ∃ requests' left,
            Scan.run (Serving.steady cap').leader settings' none ⟨items, none⟩
                (.holding after.store []) (Output.start progress' none) =
              (.ok (), .holding after.store requests', left) ∧
            Leftovers items found.delivered.toList left.delivered.toList
              (Repair.outcomes World.services cutoff (world, counters) found.delivered.toList)
              world.store after.store := by
  obtain ⟨requests, found, hrun, hfound, -⟩ :=
    isMerge_of_ascending hstore hcap settings progress hascending hnamed
  refine ⟨requests, found, hrun, fun after counters' hrepair => ?_⟩
  -- The file is written by a scan, so each of its lines can be read back.
  have hsides : ∀ difference ∈ found.delivered.toList, difference.HasSide := fun difference h =>
    hasSide_of_mem_mergeSorted hascending (hstore.ofBuckets _) (hfound ▸ h)
  rw [DifferenceFile.repair_write hsides] at hrepair
  have hrepaired := Repair.repairEach_of_inTurn_eq_ok hrepair
  have hleft := leftovers_of_repairEach hascending hnamed hstore hputs hfound hrepaired
  have hafter := @Repair.ascending_repairEach cutoff (world, counters) found.delivered.toList hstore
  rw [hrepaired] at hafter
  obtain ⟨requests', left, hrescan, hdelivered, -⟩ :=
    isMerge_of_ascending hafter hcap' settings' progress' hascending hnamed
  rw [← hdelivered] at hleft
  exact ⟨requests', left, hrescan, hleft⟩

/-- A version is missing from the leader, and its object as well: both are written. The second scan
finds the object, which the follower lacks. -/
theorem leftovers_of_repair_mirrored :
    ∃ requests found after counters requests' left,
      Scan.run (Serving.steady none).leader ⟨1, 1⟩ none ⟨[⟨"b/k\x00v", "{}"⟩], none⟩
          (.holding ⟨[]⟩ []) (Output.start .zero none) =
        (.ok (), .holding ⟨[]⟩ requests, found) ∧
      DifferenceFile.repair World.services none
          (DifferenceFile.write found.delivered.toList) ⟨⟨[]⟩, [], [], [], [], #[]⟩ .zero =
        (.ok (), after, counters) ∧
      Scan.run (Serving.steady none).leader ⟨1, 1⟩ none ⟨[⟨"b/k\x00v", "{}"⟩], none⟩
          (.holding after.store []) (Output.start .zero none) =
        (.ok (), .holding after.store requests', left) ∧
      Leftovers [⟨"b/k\x00v", "{}"⟩] found.delivered.toList left.delivered.toList
        (Repair.outcomes World.services none (⟨⟨[]⟩, [], [], [], [], #[]⟩, .zero)
          found.delivered.toList) ⟨[]⟩ after.store ∧
      Repair.lastMirrored? (Repair.outcomes World.services none
        (⟨⟨[]⟩, [], [], [], [], #[]⟩, .zero) found.delivered.toList) "b/k" = some "{}" := by
  have hascending : AscendingByKey Item.key [⟨"b/k\x00v", "{}"⟩] := by decide
  have hnamed : ∀ item ∈ [(⟨"b/k\x00v", "{}"⟩ : Item)], '/' ∈ item.key.toList := by decide
  have hcap : ∀ n, (none : Option Nat) = some n → 1 ≤ n := nofun
  obtain ⟨requests, found, hrun, hafter⟩ := @leftovers_of_repair _ hascending hnamed
    ⟨⟨[]⟩, [], [], [], [], #[]⟩ .nil rfl none none hcap hcap ⟨1, 1⟩ ⟨1, 1⟩ .zero .zero none .zero
  obtain ⟨_, _, hmerge, hdelivered, -⟩ :=
    @isMerge_of_ascending _ ⟨[]⟩ .nil none hcap ⟨1, 1⟩ .zero hascending hnamed
  have hfound : found.delivered.toList = [⟨some ⟨"b/k\x00v", "{}"⟩, none⟩] := by
    obtain rfl := (Prod.mk.inj (Prod.mk.inj (hrun.symm.trans hmerge)).2).2
    rw [hdelivered]
    exact mergeSorted_nil_right _
  have hsides : ∀ difference ∈ [⟨some ⟨"b/k\x00v", "{}"⟩, none⟩], Difference.HasSide difference :=
    List.forall_mem_singleton.2 (.inl (Option.some_ne_none _))
  have hrepair : DifferenceFile.repair World.services none
      (DifferenceFile.write found.delivered.toList) ⟨⟨[]⟩, [], [], [], [], #[]⟩ .zero =
        (.ok (), (Repair.inTurn World.services none (.ok ()) ⟨⟨[]⟩, [], [], [], [], #[]⟩ .zero
          [⟨some ⟨"b/k\x00v", "{}"⟩, none⟩]).2) := by
    rw [hfound, DifferenceFile.repair_write hsides]
    exact Prod.ext (by decide) rfl
  obtain ⟨requests', left, hrescan, hleft⟩ := hafter _ _ hrepair
  exact ⟨requests, found, _, _, requests', left, hrun, hrepair, hrescan, hleft,
    by rw [hfound]; decide⟩

end Reconcile
