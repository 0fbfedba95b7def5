import Reconcile.Proofs.RepairFootprint
import Reconcile.Proofs.Transparency
import Reconcile.Repair.File

/-!
# A run of repairs

Differences are repaired one after the other, each on what the ones before have left. A repair
writes only its own key and perhaps that of the object of its version, which comes before it. So if
the keys ascend, every difference finds the leader from its own key on as it was at the scan
(`World.SameFrom`, `Repair.sameFrom_repairEach`), and none is taken for a write of somebody else.

In a run on a file, whether a line ends it is said by the bytes of the line alone
(`DifferenceFile.fatal?`), whatever the leader and the blob store answer. So a run repairs what
stands before the first line that ends it (`DifferenceFile.repairLines_eq`).
-/

namespace Reconcile

/-- What two worlds have in common: the blobs, and the texts from a key on. -/
structure World.SameFrom (world after : World) (key : String) : Prop where
  /-- The same blobs are found. -/
  isPresent_eq : after.isPresent = world.isPresent
  /-- The store holds the same from the key on. -/
  find?_eq : ∀ other, key ≤ other → after.store.find? other = world.store.find? other

namespace Repair

/-! ### The verdict that a repair acts on -/

/-- **A repair acts on a verdict**, unless it ends before it has one: with an error, or since a
lookup fails. -/
def ActsOn (verdict : Verdict) (cutoff : Option Instant) (difference : Difference) (world : World)
    (counters : RepairCounters) : Prop :=
  (∃ error, entry World.services cutoff difference world counters =
      (.error error, world, counters)) ∨
    (∃ made, entry World.services cutoff difference world counters =
      (.ok .failed, world.after made, counters.recordLookupError)) ∨
    ∃ name master made outcome after counters',
      act World.services name difference verdict master (world.after made) counters =
          (outcome, after, counters') ∧
        entry World.services cutoff difference world counters = (.ok outcome, after, counters')

/-- A repair acts on the verdict of its plan. -/
theorem actsOn_of_plan {world : World} {cutoff : Option Instant} {difference : Difference}
    {verdict : Verdict}
    (h : ∀ plan, world.plan cutoff difference = .ok (some plan) → plan.verdict = verdict)
    (counters : RepairCounters) : ActsOn verdict cutoff difference world counters := by
  rw [ActsOn, entry_eq]
  cases hplan : world.plan cutoff difference with
  | error error => exact .inl ⟨_, rfl⟩
  | ok plan? =>
      cases plan? with
      | none => exact .inr (.inl ⟨_, rfl⟩)
      | some plan =>
          rw [← h plan hplan]
          exact .inr (.inr ⟨_, _, _, _, _, _, rfl, rfl⟩)

/-- Where the leader is still as it was, a repair acts on the verdict on the values at the scan. -/
theorem actsOn_of_sameFrom {world after : World} {difference : Difference}
    (hsame : world.SameFrom after difference.key) (cutoff : Option Instant)
    (counters : RepairCounters) :
    ActsOn (world.verdict cutoff difference (world.store.find? difference.key)) cutoff difference
      after counters := by
  refine actsOn_of_plan (fun plan hplan => ?_) counters
  rcases after.plan_cases cutoff difference with ⟨_, h, -⟩ | ⟨_, -, -, h⟩ |
    ⟨name, master, hname, -, -, h⟩
  · exact nomatch h.symm.trans hplan
  · exact nomatch h.symm.trans hplan
  · obtain rfl := Option.some.inj (Except.ok.inj (h.symm.trans hplan))
    have hkey := (ObjectName.ofKey_eq_ok_iff.1 hname).1
    have hget : after.store.get? name = world.store.find? difference.key := by
      rw [Store.get?, ← hkey]
      exact hsame.find?_eq _ le_rfl
    have hreadable : after.readable = world.readable := by
      funext value
      rw [World.readable, World.readable, hsame.isPresent_eq]
    rw [World.verdict, World.verdict, hget, hreadable]

/-- A repair that takes nothing for a write of somebody else counts nothing as one. -/
theorem ActsOn.updatedByClient_eq {verdict : Verdict} {cutoff : Option Instant}
    {difference : Difference} {world : World} {counters : RepairCounters}
    (h : ActsOn verdict cutoff difference world counters)
    (hverdict : verdict.status ≠ .updatedByClient) :
    (entry World.services cutoff difference world counters).2.2.updatedByClient =
      counters.updatedByClient := by
  rcases h with ⟨_, h⟩ | ⟨_, h⟩ | ⟨_, _, _, _, _, counters', hact, h⟩
  · rw [h]
  · rw [h]
    rfl
  · have hrecord : (counters.record verdict.status).updatedByClient = counters.updatedByClient := by
      cases hstatus : verdict.status with
      | updatedByClient => exact absurd hstatus hverdict
      | _ => rfl
    rw [h, ← hrecord]
    rw [act] at hact
    split at hact
    · rw [← (Prod.mk.inj (Prod.mk.inj hact).2).2]
    · split at hact
      · rw [← (Prod.mk.inj (Prod.mk.inj hact).2).2]
      · split at hact
        · rw [← (Prod.mk.inj (Prod.mk.inj hact).2).2]
        · rw [← (Prod.mk.inj (Prod.mk.inj hact).2).2]
          rfl

/-! ### A run of repairs -/

/-- What is left when differences have been repaired in turn, whatever came of each. -/
def repairEach {σ : Type} (services : Services σ) (cutoff : Option Instant)
    (state : σ × RepairCounters) (differences : List Difference) : σ × RepairCounters :=
  differences.foldl
    (fun state difference => (entry services cutoff difference state.1 state.2).2) state

/-- The differences are repaired one after the other. -/
theorem repairEach_cons {σ : Type} (services : Services σ) (cutoff : Option Instant)
    (state : σ × RepairCounters) (difference : Difference) (rest : List Difference) :
    repairEach services cutoff state (difference :: rest) =
      repairEach services cutoff (entry services cutoff difference state.1 state.2).2 rest :=
  rfl

/-- A run of repairs leaves the world alike at the keys that none of them concerns. -/
theorem alikeAt_repairEach {cutoff : Option Instant} {state : World × RepairCounters}
    {keys : Set String} {differences : List Difference}
    (hkeys : ∀ difference ∈ differences, keys ⊆ (keysOf difference.objects)ᶜ) :
    state.1.AlikeAt keys (repairEach World.services cutoff state differences).1 := by
  induction differences generalizing state with
  | nil => exact .refl _ _
  | cons difference rest ih =>
      obtain ⟨hfirst, hrest⟩ := List.forall_mem_cons.1 hkeys
      rw [repairEach_cons]
      exact ((state.1.alikeAt_entry cutoff difference state.2).mono hfirst).trans (ih hrest)

/-- A run leaves the leader as it was after all keys that it has repaired. -/
theorem sameFrom_repairEach (cutoff : Option Instant) (state : World × RepairCounters)
    {differences : List Difference} {key : String}
    (h : ∀ difference ∈ differences, difference.key < key) :
    state.1.SameFrom (repairEach World.services cutoff state differences).1 key := by
  have hkeys : ∀ difference ∈ differences, Set.Ici key ⊆ (keysOf difference.objects)ᶜ :=
    fun difference hmem other hle hother =>
      (Difference.le_key_of_mem_keysOf hother).not_gt ((h difference hmem).trans_le hle)
  have halike : state.1.AlikeAt (Set.Ici key)
      (repairEach World.services cutoff state differences).1 := alikeAt_repairEach hkeys
  exact ⟨halike.isPresent_eq, halike.find?_eq⟩

/-- If no repair of a run counts its difference as a write of somebody else, the run counts none. -/
theorem updatedByClient_repairEach {cutoff : Option Instant} {differences : List Difference}
    {state : World × RepairCounters}
    (h : ∀ before difference rest, differences = before ++ difference :: rest →
      ∀ after counters, repairEach World.services cutoff state before = (after, counters) →
        (entry World.services cutoff difference after counters).2.2.updatedByClient =
          counters.updatedByClient) :
    (repairEach World.services cutoff state differences).2.updatedByClient =
      state.2.updatedByClient := by
  induction differences generalizing state with
  | nil => rfl
  | cons difference rest ih =>
      rw [repairEach_cons, ih fun before other more hsplit => ?_]
      · exact h [] difference rest rfl _ _ rfl
      · exact h (difference :: before) other more (congrArg _ hsplit)

/-- **Each repair of a run acts on the verdict that the leader gave before the run**, if the keys
ascend. -/
theorem actsOn_repairEach {differences : List Difference}
    (hordered : AscendingByKey Difference.key differences) {world after : World}
    {cutoff : Option Instant} {counters counters' : RepairCounters} {before rest : List Difference}
    {difference : Difference} (hsplit : differences = before ++ difference :: rest)
    (hrepaired : repairEach World.services cutoff (world, counters) before = (after, counters')) :
    ActsOn (world.verdict cutoff difference (world.store.find? difference.key)) cutoff difference
      after counters' := by
  have hearlier : ∀ earlier ∈ before, earlier.key < difference.key := by
    intro earlier hearlier
    rw [AscendingByKey, hsplit] at hordered
    exact (List.pairwise_append.1 hordered).2.2 earlier hearlier difference List.mem_cons_self
  have hsame := sameFrom_repairEach cutoff (world, counters) hearlier
  rw [hrepaired] at hsame
  exact actsOn_of_sameFrom hsame cutoff counters'

/-- A run counts no write of a client, if the keys ascend and the leader held before the run what
it held at the scan. -/
theorem updatedByClient_of_ascending {differences : List Difference}
    (hordered : AscendingByKey Difference.key differences) {world : World}
    (hcurrent : ∀ difference ∈ differences,
      world.store.find? difference.key = difference.leaderValue?)
    (cutoff : Option Instant) (counters : RepairCounters) :
    (repairEach World.services cutoff (world, counters) differences).2.updatedByClient =
      counters.updatedByClient := by
  refine updatedByClient_repairEach
    fun before difference rest hsplit after counters' hrepaired => ?_
  have hmem : difference ∈ differences := by
    rw [hsplit]
    exact List.mem_append_right _ List.mem_cons_self
  exact (actsOn_repairEach hordered hsplit hrepaired).updatedByClient_eq
    (World.status_verdict_ne (hcurrent difference hmem))

end Repair

/-! ### A run on a file -/

namespace DifferenceFile

/-- The difference that a line holds. -/
def heldIn? (bytes : List UInt8) : Option Difference :=
  match readLine bytes with
  | .difference held => some held
  | _ => none

/-- The differences that some lines hold. -/
def differencesOf (lines : List (List UInt8)) : List Difference :=
  lines.filterMap heldIn?

/-- The error with which a line ends a run, if it does; `number` is that of the line. -/
def fatal? (number : Nat) (bytes : List UInt8) : Option RepairError :=
  match readLine bytes with
  | .notText => some (.io notTextReason)
  | .malformed => some (.malformedEntry number)
  | .blank => none
  | .difference difference => difference.fault?

/-- Whether a run goes on after a line. -/
def isHarmless (bytes : List UInt8) : Bool :=
  (fatal? 0 bytes).isNone

/-- How a run on some lines ends; `number` is that of the first one. -/
def ending (number : Nat) : List (List UInt8) → Except RepairError Unit
  | [] => .ok ()
  | bytes :: rest =>
    match fatal? number bytes with
    | some error => .error error
    | none => ending (number + 1) rest

/-- Whether a line is harmless does not depend on its number. -/
theorem isHarmless_eq (number : Nat) (bytes : List UInt8) :
    isHarmless bytes = (fatal? number bytes).isNone := by
  rw [isHarmless, fatal?, fatal?]
  cases readLine bytes <;> rfl

section

variable {σ : Type} (services : Services σ) (cutoff : Option Instant)

/-- **A run goes line by line**: a line that ends it does nothing, and another one has its
difference repaired, if it holds one. -/
theorem repairLines_cons (number : Nat) (state : σ) (counters : RepairCounters)
    (bytes : List UInt8) (rest : List (List UInt8)) :
    repairLines services cutoff number state counters (bytes :: rest) =
      match fatal? number bytes with
      | some error => (.error error, state, counters)
      | none =>
        let left := Repair.repairEach services cutoff (state, counters) (heldIn? bytes).toList
        repairLines services cutoff (number + 1) left.1 left.2 rest := by
  rw [repairLines, fatal?, heldIn?.eq_def]
  cases readLine bytes with
  | notText => rfl
  | malformed => rfl
  | blank => rfl
  | difference difference =>
      dsimp only
      cases hfault : difference.fault? with
      | some error => rw [Repair.entry_of_fault hfault]
      | none =>
          rw [Option.toList_some, Repair.repairEach_cons]
          rcases hentry : Repair.entry services cutoff difference state counters with
            ⟨error | outcome, after, counters'⟩
          · have herror := Repair.entry_fst_eq_error_iff.1 (congrArg Prod.fst hentry)
            cases hfault.symm.trans herror
          · rfl

/-- **A run does what stands before the first line that ends it**, and nothing else. -/
theorem repairLines_eq (number : Nat) (state : σ) (counters : RepairCounters)
    (lines : List (List UInt8)) :
    repairLines services cutoff number state counters lines =
      (ending number lines, Repair.repairEach services cutoff (state, counters)
        (differencesOf (lines.takeWhile isHarmless))) := by
  induction lines generalizing number state counters with
  | nil => rfl
  | cons bytes rest ih =>
      rw [repairLines_cons, ending, List.takeWhile_cons, isHarmless_eq number]
      cases fatal? number bytes with
      | some error => rfl
      | none =>
          dsimp only
          rw [ih, Option.isNone_none, if_pos rfl, differencesOf, differencesOf,
            List.filterMap_cons, Repair.repairEach, Repair.repairEach, Repair.repairEach,
            Prod.mk.eta, ← List.foldl_append]
          cases heldIn? bytes <;> rfl

end

end DifferenceFile

/-! ### The differences of a scan -/

/-- **A difference carries what both sides hold under its key.** -/
theorem values_of_mem_mergeSorted {items : List Item} (hascending : AscendingByKey Item.key items)
    (hnamed : ∀ item ∈ items, '/' ∈ item.key.toList) {store : Store} (hstore : store.Ascending)
    {difference : Difference}
    (h : difference ∈ mergeSorted items (store.ofBuckets (bucketsOf items))) :
    difference.followerValue? = (findKey? items difference.key).map Item.value ∧
      difference.leaderValue? = store.find? difference.key := by
  rw [mem_mergeSorted_iff hascending (hstore.ofBuckets _), differenceAt] at h
  split at h
  · cases h
  next hne =>
    have hsides := Option.some.inj h
    -- The leader's items are looked up in the buckets of the follower's alone, so the key has to be
    -- in one of them, whichever side has it.
    have hfollower := congrArg Difference.followerValue? hsides
    have hleader := congrArg Difference.leaderValue? hsides
    have hbucket : ∃ item : Item, item.key = difference.key ∧
        ∃ bucket, item.bucket? = some bucket ∧ bucket ∈ bucketsOf items := by
      cases hf : findKey? items difference.key with
      | some item =>
          obtain ⟨hitem, hkey⟩ := findKey?_eq_some hf
          obtain ⟨name, hname⟩ := Item.exists_name?_eq_some_iff.2 (hnamed item hitem)
          have hbucket : item.bucket? = some name.bucket := by
            rw [Item.bucket?, hname, Option.map_some]
          exact ⟨item, hkey, _, hbucket, mem_bucketsOf_iff.2 ⟨item, hitem, hbucket⟩⟩
      | none =>
          cases hl : findKey? (store.ofBuckets (bucketsOf items)) difference.key with
          | none => exact absurd (by rw [hf, hl]) hne
          | some item =>
              obtain ⟨hitem, hkey⟩ := findKey?_eq_some hl
              obtain ⟨bucket, hbucket, hmem⟩ :=
                (Option.any_eq_true _ _).1 (List.mem_filter.1 hitem).2
              exact ⟨item, hkey, bucket, hbucket, of_decide_eq_true hmem⟩
    obtain ⟨item, hkey, bucket, hbucket, hmem⟩ := hbucket
    refine ⟨hfollower.symm, hleader.symm.trans ?_⟩
    rw [Difference.leaderValue?, hstore.findKey?_ofBuckets hkey hbucket hmem]
    rfl

/-- **A run of repairs is never confused by its own writes.** Repair some of the differences that a
scan delivers, in their order, while nobody else writes. Then each repair that comes to a verdict
acts on the one on the values at the scan, so that none is taken for a write of a client. The same
holds for a file that holds these differences.

Keys of the differences ascend, and the master key that a repair writes as well is below the key of
its version. So no repair touches the key of a later difference, and each finds the leader as the
scan did (`Repair.actsOn_repairEach`). -/
theorem verdict_eq_of_scan {items : List Item} (hascending : AscendingByKey Item.key items)
    (hnamed : ∀ item ∈ items, '/' ∈ item.key.toList) {world : World}
    (hstore : world.store.Ascending) {cap : Option Nat} (hcap : ∀ n, cap = some n → 1 ≤ n)
    (settings : ScanSettings) (progress : Progress) {differences : List Difference}
    (hdifferences : differences.Sublist (Scan.run (Serving.steady cap).leader settings none
      ⟨items, none⟩ (.holding world.store []) (Output.start progress none)).2.2.delivered.toList)
    (cutoff : Option Instant) (counters : RepairCounters) :
    (∀ before difference rest, differences = before ++ difference :: rest →
        ∀ after counters',
          Repair.repairEach World.services cutoff (world, counters) before = (after, counters') →
          ∃ verdict, Repair.ActsOn verdict cutoff difference after counters' ∧
            verdict = decideRepair
              (.observed ((findKey? items difference.key).map Item.value)
                (world.readable ((findKey? items difference.key).map Item.value)))
              (.observed (world.store.find? difference.key)
                (world.readable (world.store.find? difference.key)))
              (world.store.find? difference.key) cutoff ∧
            verdict.status ≠ .updatedByClient) ∧
      (Repair.repairEach World.services cutoff (world, counters) differences).2.updatedByClient =
        counters.updatedByClient ∧
      ∀ input, DifferenceFile.differencesOf (DifferenceFile.lines input) = differences →
        (DifferenceFile.repair World.services cutoff input world counters).2.2.updatedByClient =
          counters.updatedByClient := by
  obtain ⟨requests, output, hrun, hdelivered, -⟩ :=
    isMerge_of_ascending hstore hcap settings progress hascending hnamed
  rw [hrun, hdelivered] at hdifferences
  have hordered : AscendingByKey Difference.key differences :=
    (ascendingByKey_mergeSorted hascending (hstore.ofBuckets _)).sublist hdifferences
  have hvalues : ∀ difference ∈ differences,
      difference.followerValue? = (findKey? items difference.key).map Item.value ∧
        difference.leaderValue? = world.store.find? difference.key :=
    fun difference h => values_of_mem_mergeSorted hascending hnamed hstore (hdifferences.subset h)
  -- The leader still holds what the scan has read, since nobody else writes.
  have hcurrent : ∀ difference ∈ differences,
      world.store.find? difference.key = difference.leaderValue? :=
    fun difference h => (hvalues difference h).2.symm
  refine ⟨fun before difference rest hsplit after counters' hrepaired => ?_,
    Repair.updatedByClient_of_ascending hordered hcurrent cutoff counters, ?_⟩
  · have hmem : difference ∈ differences := by
      rw [hsplit]
      exact List.mem_append_right _ List.mem_cons_self
    obtain ⟨hfollower, hleader⟩ := hvalues difference hmem
    refine ⟨_, Repair.actsOn_repairEach hordered hsplit hrepaired, ?_,
      World.status_verdict_ne (hcurrent difference hmem)⟩
    rw [World.verdict, hfollower, hleader]
  · -- a run on a file ends at the first harmful line, and the differences before it are some of
    -- these
    rintro input rfl
    have hdone : DifferenceFile.differencesOf
        ((DifferenceFile.lines input).takeWhile DifferenceFile.isHarmless) <+:
          DifferenceFile.differencesOf (DifferenceFile.lines input) :=
      (List.takeWhile_prefix _).filterMap _
    rw [DifferenceFile.repair, DifferenceFile.repairLines_eq]
    exact Repair.updatedByClient_of_ascending (hordered.sublist hdone.sublist)
      (fun difference h => hcurrent difference (hdone.subset h)) cutoff counters

/-- All differences of a scan are repaired; one side lacks a version and the other its object. -/
theorem verdict_eq_of_scan_version :
    (⟨[⟨"b/k", "{}"⟩]⟩ : Store).Ascending ∧
      (Repair.repairEach World.services none (⟨⟨[⟨"b/k", "{}"⟩]⟩, [], [], [], [], #[]⟩, .zero)
        (Scan.run (Serving.steady (some 1)).leader ⟨1, 0⟩ none ⟨[⟨"b/k\x00v", "{}"⟩], none⟩
          (.holding ⟨[⟨"b/k", "{}"⟩]⟩ [])
          (Output.start .zero none)).2.2.delivered.toList).2.updatedByClient = 0 :=
  have hstore : (⟨[⟨"b/k", "{}"⟩]⟩ : Store).Ascending := by
    rw [Store.Ascending]
    decide
  have hcap : ∀ n, some 1 = some n → 1 ≤ n := fun _ h => (Option.some.inj h).le
  ⟨hstore, (@verdict_eq_of_scan [⟨"b/k\x00v", "{}"⟩] (by decide) (by decide)
    ⟨⟨[⟨"b/k", "{}"⟩]⟩, [], [], [], [], #[]⟩ hstore (some 1) hcap ⟨1, 0⟩ .zero _
    (List.Sublist.refl _) none .zero).2.1⟩

end Reconcile
