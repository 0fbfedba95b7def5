import Mathlib.Algebra.Group.Defs
import Mathlib.Data.Set.Basic
import Reconcile.Proofs.Repair

/-!
# What a repair touches

A repair reads and writes the object of its key and, for a version, that of the version, and no
other (`Difference.objects`). Of a blob it learns whether it is there, and of the counters it reads
nothing.

All this is one statement about two runs (`Repair.exists_entry_eq_of_agree`): take services that
agree on these objects, in that a call on related states has the same answer and leaves related
states. Then so does the repair, and it adds the same to the counters. What the states are and how
they are related is left open. So the statement shows for one relation that a record of the calls
changes nothing, for another that other objects do not matter (`World.AlikeAt.entry`), and for a
third that they stay as they are (`World.alikeAt_entry`).

## Main results

* `Services.Agree`: services that agree on some objects;
* `Repair.exists_entry_eq_of_agree`: a repair does the same with services that agree on what it
  touches;
* `Repair.entry_eq_add`: a repair depends on no counter;
* `World.AlikeAt.entry`, `World.alikeAt_entry`: what a repair sees and changes of a world.
-/

namespace Reconcile

/-! ### A repair in two parts -/

/-- What keeps a difference from being looked at: its key names no object, or one of its values is
no metadata. -/
def Difference.fault? (difference : Difference) : Option RepairError :=
  match ObjectName.ofKey difference.key with
  | .error error => some (.key error)
  | .ok name =>
    if parses difference.followerValue? && parses difference.leaderValue? then none
    else some (.malformedMetadata name)

namespace Repair

variable {σ : Type} {difference : Difference}

/-- **A difference with a fault is not looked up and not counted.** -/
theorem entry_of_fault {error : RepairError} (h : difference.fault? = some error)
    (services : Services σ) (cutoff : Option Instant) (state : σ) (counters : RepairCounters) :
    entry services cutoff difference state counters = (.error error, state, counters) := by
  rw [Difference.fault?] at h
  rw [entry]
  cases hname : ObjectName.ofKey difference.key with
  | error keyError =>
      rw [hname] at h
      rw [← Option.some.inj h]
  | ok name =>
      rw [hname] at h
      dsimp only at h ⊢
      rw [metadataOf_eq, metadataOf_eq, ← Difference.followerValue?, ← Difference.leaderValue?]
      split at h
      · cases h
      next hparses =>
        rw [← Option.some.inj h]
        by_cases hfollower : parses difference.followerValue? = true
        · rw [hfollower, Bool.true_and] at hparses
          rw [if_pos hfollower, if_neg hparses]
        · rw [if_neg hfollower]

/-- What a repair does when it has looked everything up. -/
def settle (services : Services σ) (cutoff : Option Instant) (name : ObjectName)
    (difference : Difference) (found : Lookup × σ) (counters : RepairCounters) :
    RepairOutcome × σ × RepairCounters :=
  match found.1.refreshed, found.1.master with
  | .ok refreshed, .ok master =>
    act services name difference (verdict difference found.1 refreshed cutoff) master found.2
      counters
  | _, _ => (.failed, found.2, counters.recordLookupError)

/-- **A difference without a fault** is looked up, and that is settled. -/
theorem entry_of_not_fault (h : difference.fault? = none) :
    ∃ name, ObjectName.ofKey difference.key = .ok name ∧
      ∀ {σ : Type} (services : Services σ) (cutoff : Option Instant) (state : σ)
        (counters : RepairCounters),
        entry services cutoff difference state counters =
          Prod.map .ok id (settle services cutoff name difference
            (lookUp services name (difference.followerValue?.bind Metadata.parse?)
              (difference.leaderValue?.bind Metadata.parse?) state) counters) := by
  rw [Difference.fault?] at h
  cases hname : ObjectName.ofKey difference.key with
  | error keyError =>
      rw [hname] at h
      cases h
  | ok name =>
      rw [hname] at h
      dsimp only at h
      split at h
      · next hparses =>
        obtain ⟨hfollower, hleader⟩ := Bool.and_eq_true_iff.1 hparses
        refine ⟨name, rfl, fun services cutoff state counters => ?_⟩
        rw [entry, hname]
        dsimp only
        rw [metadataOf_eq, metadataOf_eq, ← Difference.followerValue?, ← Difference.leaderValue?,
          if_pos hfollower, if_pos hleader]
        dsimp only
        rcases lookUp services name _ _ state with
          ⟨⟨_, _, error | refreshed, error | master⟩, after⟩ <;> rfl
      · cases h

/-- An error of a repair is the fault of its difference. -/
theorem entry_fst_eq_error_iff {services : Services σ} {cutoff : Option Instant} {state : σ}
    {counters : RepairCounters} {error : RepairError} :
    (entry services cutoff difference state counters).1 = .error error ↔
      difference.fault? = some error := by
  refine ⟨fun h => ?_, fun h => by rw [entry_of_fault h]⟩
  cases hfault : difference.fault? with
  | some other =>
      rw [entry_of_fault hfault] at h
      rw [Except.error.inj h]
  | none =>
      obtain ⟨name, -, hentry⟩ := entry_of_not_fault hfault
      rw [hentry] at h
      cases h

end Repair

/-! ### Counting together -/

namespace RepairCounters

instance : Zero RepairCounters :=
  ⟨.zero⟩

/-- What is counted in two places. -/
instance : Add RepairCounters :=
  ⟨fun a b =>
    ⟨a.autoRepair + b.autoRepair, a.autoRepairError + b.autoRepairError,
      a.manualRepair + b.manualRepair, a.notRepairable + b.notRepairable,
      a.updatedByClient + b.updatedByClient, a.tooRecent + b.tooRecent,
      a.lookupError + b.lookupError⟩⟩

/-- Counters are added one by one. -/
theorem add_def (a b : RepairCounters) :
    a + b = ⟨a.autoRepair + b.autoRepair, a.autoRepairError + b.autoRepairError,
      a.manualRepair + b.manualRepair, a.notRepairable + b.notRepairable,
      a.updatedByClient + b.updatedByClient, a.tooRecent + b.tooRecent,
      a.lookupError + b.lookupError⟩ :=
  rfl

/-- At first nothing is counted. -/
theorem zero_def : (0 : RepairCounters) = ⟨0, 0, 0, 0, 0, 0, 0⟩ :=
  rfl

instance : AddCommMonoid RepairCounters where
  add_assoc a b c := by simp only [add_def, Nat.add_assoc]
  zero_add a := by simp only [add_def, zero_def, Nat.zero_add]
  add_zero a := by simp only [add_def, zero_def, Nat.add_zero]
  add_comm a b := by simp only [add_def, Nat.add_comm]
  nsmul := nsmulRec

/-- Recording a status adds the same whatever has been counted. -/
theorem record_eq (counters : RepairCounters) (status : RepairStatus) :
    counters.record status = counters + (0 : RepairCounters).record status := by
  cases status <;> rfl

/-- So does recording a look-up that failed. -/
theorem recordLookupError_eq (counters : RepairCounters) :
    counters.recordLookupError = counters + (0 : RepairCounters).recordLookupError :=
  rfl

/-- And a write that failed. -/
theorem recordWriteError_add (a b : RepairCounters) :
    (a + b).recordWriteError = a + b.recordWriteError :=
  rfl

end RepairCounters

/-! ### What a repair touches -/

/-- The objects that a name concerns: its own and, if it is that of a version, that of the
version. -/
def ObjectName.coupled (name : ObjectName) : List ObjectName :=
  name :: (name.masterKey?.map name.sibling).toList

/-- The objects that a repair of a difference may touch. -/
def Difference.objects (difference : Difference) : List ObjectName :=
  match ObjectName.ofKey difference.key with
  | .error _ => []
  | .ok name => name.coupled

/-- The object of its master key is coupled with a version. -/
theorem ObjectName.sibling_mem_coupled {name : ObjectName} {master : String}
    (h : name.masterKey? = some master) : name.sibling master ∈ name.coupled := by
  rw [coupled, h]
  exact List.mem_cons_of_mem _ List.mem_cons_self

/-- What a repair may touch has proper names. -/
theorem Difference.proper_of_mem_objects {difference : Difference} {name : ObjectName}
    (h : name ∈ difference.objects) : name.Proper := by
  rw [objects] at h
  split at h
  · cases h
  · next own hown =>
    have hproper := (ObjectName.ofKey_eq_ok_iff.1 hown).2
    rcases List.mem_cons.1 h with rfl | h
    · exact hproper
    · obtain ⟨master, -, rfl⟩ := Option.map_eq_some_iff.1 (Option.mem_toList.1 h)
      exact hproper.sibling master

/-! ### Services that agree -/

section

variable {σ τ α : Type} {R : σ → τ → Prop}

/-- Two calls that have the same answer and leave related states. -/
def AnswerAlike (R : σ → τ → Prop) (call : α × σ) (other : α × τ) : Prop :=
  call.1 = other.1 ∧ R call.2 other.2

/-- Two calls that answer alike, taken apart. -/
theorem AnswerAlike.exists_eq {call : α × σ} {other : α × τ} (h : AnswerAlike R call other) :
    ∃ answer after after', call = (answer, after) ∧ other = (answer, after') ∧ R after after' :=
  ⟨call.1, call.2, other.2, rfl, Prod.ext h.1.symm rfl, h.2⟩

/-- **Services that agree on some objects**: called in related states they answer the same and leave
related states. Of a blob it is enough that they agree on whether it is there. -/
structure Services.Agree (R : σ → τ → Prop) (objects : List ObjectName) (services : Services σ)
    (other : Services τ) : Prop where
  /-- They read the same of the objects. -/
  get : ∀ name ∈ objects, ∀ state state', R state state' →
    AnswerAlike R (services.get name state) (other.get name state')
  /-- They write the objects alike. -/
  put : ∀ name ∈ objects, ∀ text state state', R state state' →
    AnswerAlike R (services.put name text state) (other.put name text state')
  /-- They find the same blobs present. -/
  probe : ∀ blob state state', R state state' →
    ((services.probe blob state).1 = .ok .present ↔ (other.probe blob state').1 = .ok .present) ∧
      R (services.probe blob state).2 (other.probe blob state').2

namespace Services

/-- A blob that is there leaves it to the others. -/
theorem allPresent_cons_of_present {services : Services σ} {blob : String} {state : σ}
    (h : (services.probe blob state).1 = .ok .present) (blobs : List String) :
    services.allPresent (blob :: blobs) state =
      services.allPresent blobs (services.probe blob state).2 := by
  rw [allPresent, ← Prod.mk.eta (p := services.probe blob state), h]

/-- A blob that is not there, or may not be, ends the search: the others are not probed. -/
theorem allPresent_cons_of_not_present {services : Services σ} {blob : String} {state : σ}
    (h : (services.probe blob state).1 ≠ .ok .present) (blobs : List String) :
    services.allPresent (blob :: blobs) state = (false, (services.probe blob state).2) := by
  rw [allPresent]
  split
  · next heq => exact absurd (congrArg Prod.fst heq) h
  · next heq => rw [heq]

variable {objects : List ObjectName} {services : Services σ} {other : Services τ} {state : σ}
  {state' : τ} (h : services.Agree R objects other) (hstate : R state state')

include h hstate

/-- Services that agree find the same blobs of a list. -/
theorem Agree.allPresent (blobs : List String) :
    AnswerAlike R (services.allPresent blobs state) (other.allPresent blobs state') := by
  induction blobs generalizing state state' with
  | nil => exact ⟨rfl, hstate⟩
  | cons blob blobs ih =>
      obtain ⟨hanswer, hafter⟩ := h.probe blob state state' hstate
      by_cases hpresent : (services.probe blob state).1 = .ok .present
      · rw [allPresent_cons_of_present hpresent, allPresent_cons_of_present (hanswer.1 hpresent)]
        exact ih hafter
      · rw [allPresent_cons_of_not_present hpresent,
          allPresent_cons_of_not_present (mt hanswer.2 hpresent)]
        exact ⟨rfl, hafter⟩

/-- They find the same of the blobs that some metadata names. -/
theorem Agree.blobsPresent (metadata : Option Metadata) :
    AnswerAlike R (services.blobsPresent metadata state) (other.blobsPresent metadata state') := by
  cases metadata with
  | none => exact ⟨rfl, hstate⟩
  | some metadata => exact h.allPresent hstate metadata.blobs

/-- They give a version the same master key to write. -/
theorem Agree.masterToWrite? {name : ObjectName} (hname : name.coupled ⊆ objects) :
    AnswerAlike R (services.masterToWrite? name state) (other.masterToWrite? name state') := by
  rw [Services.masterToWrite?, Services.masterToWrite?]
  split
  · next master version hmaster hversion =>
    have hmem := hname (ObjectName.sibling_mem_coupled hmaster)
    obtain ⟨answer, after, after', heq, heq', hafter⟩ := (h.get _ hmem _ _ hstate).exists_eq
    rw [heq, heq']
    rcases answer with error | ⟨⟨⟩ | ⟨text⟩⟩
    · exact ⟨rfl, hafter⟩
    · exact ⟨rfl, hafter⟩
    · dsimp only
      cases Metadata.parse? text with
      | none => exact ⟨rfl, hafter⟩
      | some metadata => exact ⟨rfl, hafter⟩
  · exact ⟨rfl, hstate⟩

end Services

end

/-- What is to be written as well is the object of the version. -/
theorem Services.masterKey?_of_masterToWrite? {σ : Type} {services : Services σ}
    {name : ObjectName} {state : σ} {key : String}
    (h : (services.masterToWrite? name state).1 = .ok (some key)) : name.masterKey? = some key := by
  rw [masterToWrite?] at h
  split at h
  · next master version hmaster hversion =>
    rw [hmaster]
    split at h
    · cases h
    · exact Except.ok.inj h
    · split at h
      · rw [Except.ok.injEq, Option.ite_none_right_eq_some] at h
        exact h.2
      · cases h
  · cases h

/-- So is what a lookup finds. -/
theorem Repair.masterKey?_of_lookUp {σ : Type} {services : Services σ} {name : ObjectName}
    {follower leader : Option Metadata} {state : σ} {key : String}
    (h : (lookUp services name follower leader state).1.master = .ok (some key)) :
    name.masterKey? = some key :=
  Services.masterKey?_of_masterToWrite? h

namespace Repair

section

variable {σ τ : Type} {R : σ → τ → Prop} {objects : List ObjectName} {services : Services σ}
  {other : Services τ} {state : σ} {state' : τ} (h : services.Agree R objects other)
  (hstate : R state state') {name : ObjectName} (hname : name.coupled ⊆ objects)

include h hstate hname

/-- They look the same up for a difference: nothing is read but the blobs and the coupled objects.
-/
theorem lookUp_answerAlike (follower leader : Option Metadata) :
    AnswerAlike R (lookUp services name follower leader state)
      (lookUp other name follower leader state') := by
  obtain ⟨followerPresent, s₁, t₁, hs₁, ht₁, h₁⟩ := (h.blobsPresent hstate follower).exists_eq
  obtain ⟨leaderPresent, s₂, t₂, hs₂, ht₂, h₂⟩ := (h.blobsPresent h₁ leader).exists_eq
  obtain ⟨refreshed, s₃, t₃, hs₃, ht₃, h₃⟩ :=
    (h.get name (hname List.mem_cons_self) s₂ t₂ h₂).exists_eq
  obtain ⟨master, s₄, t₄, hs₄, ht₄, h₄⟩ := (h.masterToWrite? h₃ hname).exists_eq
  simp only [lookUp, hs₁, ht₁, hs₂, ht₂, hs₃, ht₃, hs₄, ht₄]
  exact ⟨rfl, h₄⟩

/-- They write the same, with the same end. -/
theorem write_answerAlike {master : Option String}
    (hmaster : ∀ key, master = some key → name.masterKey? = some key) (text : String) :
    AnswerAlike R (write services name master text state)
      (write other name master text state') := by
  obtain ⟨answer, after, after', heq, heq', hafter⟩ :=
    (h.put name (hname List.mem_cons_self) text _ _ hstate).exists_eq
  rw [write, write, heq, heq']
  cases answer with
  | error error => exact ⟨rfl, hafter⟩
  | ok _ =>
      cases master with
      | none => exact ⟨rfl, hafter⟩
      | some key =>
          have hmem := hname (ObjectName.sibling_mem_coupled (hmaster key rfl))
          exact h.put _ hmem text _ _ hafter

/-- They are told to do the same, and come to the same outcome and the same counters. -/
theorem exists_act_eq_of_agree {master : Option String}
    (hmaster : ∀ key, master = some key → name.masterKey? = some key) (difference : Difference)
    (verdict : Verdict) (counters : RepairCounters) :
    ∃ outcome after after' counters',
      act services name difference verdict master state counters = (outcome, after, counters') ∧
        act other name difference verdict master state' counters = (outcome, after', counters') ∧
        R after after' := by
  rw [act, act]
  cases verdict.source? with
  | none => exact ⟨_, _, _, _, rfl, rfl, hstate⟩
  | some side =>
      dsimp only
      cases sideValue? difference side with
      | none => exact ⟨_, _, _, _, rfl, rfl, hstate⟩
      | some text =>
          dsimp only
          obtain ⟨answer, after, after', heq, heq', hafter⟩ :=
            (write_answerAlike h hstate hname hmaster text).exists_eq
          rw [heq, heq']
          cases answer with
          | error error => exact ⟨_, _, _, _, rfl, rfl, hafter⟩
          | ok _ => exact ⟨_, _, _, _, rfl, rfl, hafter⟩

end

variable {σ τ : Type}

/-- What they have looked up is settled in the same way. -/
theorem exists_settle_eq_of_agree {R : σ → τ → Prop} {objects : List ObjectName}
    {services : Services σ} {other : Services τ} (h : services.Agree R objects other)
    {name : ObjectName} (hname : name.coupled ⊆ objects) {state : σ} {state' : τ}
    (hstate : R state state') {found : Lookup}
    (hmaster : ∀ key, found.master = .ok (some key) → name.masterKey? = some key)
    (cutoff : Option Instant) (difference : Difference) (counters : RepairCounters) :
    ∃ outcome after after' counters',
      settle services cutoff name difference (found, state) counters =
          (outcome, after, counters') ∧
        settle other cutoff name difference (found, state') counters =
          (outcome, after', counters') ∧
        R after after' := by
  rw [settle, settle]
  dsimp only
  cases found.refreshed with
  | error error => exact ⟨_, _, _, _, rfl, rfl, hstate⟩
  | ok refreshed =>
      cases hfound : found.master with
      | error error => exact ⟨_, _, _, _, rfl, rfl, hstate⟩
      | ok master =>
          refine exists_act_eq_of_agree h hstate hname (fun key hkey => hmaster key ?_) difference
            _ counters
          rw [hfound, hkey]

/-- **A repair does the same with services that agree on what it touches**: it comes to the same,
counts the same and leaves related states. -/
theorem exists_entry_eq_of_agree {R : σ → τ → Prop} {difference : Difference}
    {services : Services σ} {other : Services τ} (h : services.Agree R difference.objects other)
    {state : σ} {state' : τ} (hstate : R state state') (cutoff : Option Instant)
    (counters : RepairCounters) :
    ∃ result after after' counters',
      entry services cutoff difference state counters = (result, after, counters') ∧
        entry other cutoff difference state' counters = (result, after', counters') ∧
        R after after' := by
  cases hfault : difference.fault? with
  | some error =>
      rw [entry_of_fault hfault, entry_of_fault hfault]
      exact ⟨_, _, _, _, rfl, rfl, hstate⟩
  | none =>
      -- The lookups find the same, and on the same findings both do the same.
      obtain ⟨name, hname, hentry⟩ := entry_of_not_fault hfault
      have hcoupled : name.coupled ⊆ difference.objects := by
        rw [Difference.objects, hname]
        exact List.Subset.refl _
      obtain ⟨found, after, after', hfound, hfound', hafter⟩ :=
        (lookUp_answerAlike h hstate hcoupled (difference.followerValue?.bind Metadata.parse?)
          (difference.leaderValue?.bind Metadata.parse?)).exists_eq
      have hmaster : ∀ key, found.master = .ok (some key) → name.masterKey? = some key := by
        intro key hkey
        have hfirst : (lookUp services name _ _ state).1 = found := congrArg Prod.fst hfound
        exact masterKey?_of_lookUp (hfirst ▸ hkey)
      obtain ⟨outcome, last, last', counters', hsettle, hsettle', hlast⟩ :=
        exists_settle_eq_of_agree h hcoupled hafter hmaster cutoff difference counters
      rw [hentry, hentry, hfound, hfound', hsettle, hsettle']
      exact ⟨_, _, _, _, rfl, rfl, hlast⟩

/-- What is counted when a verdict is acted on does not depend on what has been counted. -/
theorem act_eq_add (services : Services σ) (name : ObjectName) (difference : Difference)
    (verdict : Verdict) (master : Option String) (state : σ) (counters : RepairCounters) :
    act services name difference verdict master state counters =
      ((act services name difference verdict master state 0).1,
        (act services name difference verdict master state 0).2.1,
        counters + (act services name difference verdict master state 0).2.2) := by
  rw [act, act, RepairCounters.record_eq counters]
  cases verdict.source? with
  | none => rfl
  | some side =>
      dsimp only
      cases sideValue? difference side with
      | none => rfl
      | some text =>
          dsimp only
          rcases write services name master text state with ⟨error | ⟨⟩, after⟩
          · rw [RepairCounters.recordWriteError_add]
          · rfl

/-- **What a repair does depends on no counter**, and what it counts is added. -/
theorem entry_eq_add (services : Services σ) (cutoff : Option Instant) (difference : Difference)
    (state : σ) (counters : RepairCounters) :
    entry services cutoff difference state counters =
      ((entry services cutoff difference state 0).1, (entry services cutoff difference state 0).2.1,
        counters + (entry services cutoff difference state 0).2.2) := by
  cases hfault : difference.fault? with
  | some error => rw [entry_of_fault hfault, entry_of_fault hfault, add_zero]
  | none =>
      obtain ⟨name, -, hentry⟩ := entry_of_not_fault hfault
      rw [hentry, hentry]
      rcases lookUp services name _ _ state with
        ⟨⟨_, _, error | refreshed, error | master⟩, after⟩
      · exact congrArg (fun counted => (_, _, counted)) counters.recordLookupError_eq
      · exact congrArg (fun counted => (_, _, counted)) counters.recordLookupError_eq
      · exact congrArg (fun counted => (_, _, counted)) counters.recordLookupError_eq
      · rw [settle, settle]
        dsimp only
        rw [act_eq_add]
        rfl

end Repair

/-! ### Worlds that are alike -/

/-- The keys of objects. -/
def keysOf (objects : List ObjectName) : Set String :=
  {key | ∃ name ∈ objects, name.fullKey = key}

/-- What a repair touches comes no later than its own key. -/
theorem Difference.le_key_of_mem_keysOf {difference : Difference} {key : String}
    (h : key ∈ keysOf difference.objects) : key ≤ difference.key := by
  obtain ⟨name, hname, rfl⟩ := h
  rw [objects] at hname
  split at hname
  · cases hname
  · next own hown =>
    rw [(ObjectName.ofKey_eq_ok_iff.1 hown).1]
    rcases List.mem_cons.1 hname with rfl | hname
    · exact le_rfl
    · obtain ⟨master, hmaster, rfl⟩ := Option.map_eq_some_iff.1 (Option.mem_toList.1 hname)
      exact (ObjectName.sibling_masterKey_lt hmaster).le

/-- The full key of an object is one of the keys of a list that holds it. -/
theorem fullKey_mem_keysOf {objects : List ObjectName} {name : ObjectName} (h : name ∈ objects) :
    name.fullKey ∈ keysOf objects :=
  ⟨name, h, rfl⟩

namespace World

/-- Two worlds that are alike at some keys: these hold the same texts, the same blobs are found, and
the same objects cannot be read or written. -/
structure AlikeAt (keys : Set String) (world other : World) : Prop where
  /-- The same blobs are found. -/
  isPresent_eq : other.isPresent = world.isPresent
  /-- The same objects cannot be read. -/
  failGet_eq : other.failGet = world.failGet
  /-- The same objects cannot be written. -/
  failPut_eq : other.failPut = world.failPut
  /-- The stores hold the same texts under the keys. -/
  find?_eq : ∀ key ∈ keys, other.store.find? key = world.store.find? key

variable {keys : Set String} {world other : World}

/-- A world is alike to itself. -/
theorem AlikeAt.refl (keys : Set String) (world : World) : AlikeAt keys world world :=
  ⟨rfl, rfl, rfl, fun _ _ => rfl⟩

/-- Worlds that are alike to a third one are alike. -/
theorem AlikeAt.trans {next after : World} (h : AlikeAt keys world next)
    (h' : AlikeAt keys next after) : AlikeAt keys world after :=
  ⟨h'.isPresent_eq.trans h.isPresent_eq, h'.failGet_eq.trans h.failGet_eq,
    h'.failPut_eq.trans h.failPut_eq, fun key hkey =>
      (h'.find?_eq key hkey).trans (h.find?_eq key hkey)⟩

/-- Worlds that are alike at some keys are alike at fewer. -/
theorem AlikeAt.mono {keys' : Set String} (h : AlikeAt keys' world other) (hkeys : keys ⊆ keys') :
    AlikeAt keys world other :=
  ⟨h.isPresent_eq, h.failGet_eq, h.failPut_eq, fun key hkey => h.find?_eq key (hkeys hkey)⟩

/-- The same text is written, or not, and no other text changes. -/
theorem AlikeAt.put (h : AlikeAt keys world other) (name : ObjectName) (text : String) :
    AnswerAlike (AlikeAt keys) (World.services.put name text world)
      (World.services.put name text other) := by
  change AnswerAlike _ (World.put name text world) (World.put name text other)
  rw [World.put, World.put, h.failPut_eq]
  split
  · exact ⟨rfl, h.isPresent_eq, h.failGet_eq, h.failPut_eq, h.find?_eq⟩
  · refine ⟨rfl, h.isPresent_eq, h.failGet_eq, h.failPut_eq, fun key hkey => ?_⟩
    change (other.store.put name text).find? key = (world.store.put name text).find? key
    rw [Store.find?_put, Store.find?_put, h.find?_eq key hkey]

/-- A write changes the text of its object only. -/
theorem alikeAt_put (name : ObjectName) (text : String) (world : World)
    (hname : name.fullKey ∉ keys) :
    AlikeAt keys world (World.services.put name text world).2 := by
  change AlikeAt keys world (World.put name text world).2
  rw [World.put]
  split
  · exact ⟨rfl, rfl, rfl, fun _ _ => rfl⟩
  · refine ⟨rfl, rfl, rfl, fun key hkey => ?_⟩
    change (world.store.put name text).find? key = _
    rw [Store.find?_put, if_neg (ne_of_mem_of_not_mem hkey hname).symm]

/-- Whether a blob is found is said by whether it is there and can be looked for. -/
theorem probe_fst_eq_present_iff (world : World) (blob : String) :
    (World.services.probe blob world).1 = .ok .present ↔ world.isPresent blob = true := by
  cases hpresent : world.isPresent blob with
  | true => exact iff_of_true (by rw [probe_of_isPresent hpresent]) rfl
  | false =>
      obtain ⟨answer, hanswer, hprobe⟩ := probe_of_not_isPresent hpresent
      exact iff_of_false (by rwa [hprobe]) Bool.false_ne_true

/-- **Worlds that are alike at the keys of some objects answer alike** for these. -/
theorem agree_alikeAt {objects : List ObjectName} (hkeys : keysOf objects ⊆ keys) :
    World.services.Agree (AlikeAt keys) objects World.services where
  get name hname world other h := by
    refine ⟨?_, h.isPresent_eq, h.failGet_eq, h.failPut_eq, h.find?_eq⟩
    change (World.get name world).1 = (World.get name other).1
    rw [World.get, World.get, h.failGet_eq, Store.get?, Store.get?,
      h.find?_eq _ (hkeys (fullKey_mem_keysOf hname))]
  put name _ text _ _ h := h.put name text
  probe blob world other h := by
    refine ⟨?_, h.isPresent_eq, h.failGet_eq, h.failPut_eq, h.find?_eq⟩
    rw [probe_fst_eq_present_iff, probe_fst_eq_present_iff, h.isPresent_eq]

/-- Calls on some objects leave a world alike at all other keys. -/
theorem agree_alikeAt_compl (objects : List ObjectName) (world : World) :
    World.services.Agree
      (fun state state' => state = state' ∧ AlikeAt (keysOf objects)ᶜ world state) objects
      World.services where
  get := by
    rintro name - state _ ⟨rfl, h⟩
    exact ⟨rfl, rfl, h.isPresent_eq, h.failGet_eq, h.failPut_eq, h.find?_eq⟩
  put := by
    rintro name hname text state _ ⟨rfl, h⟩
    exact ⟨rfl, rfl, h.trans (alikeAt_put name text state (not_not.2 (fullKey_mem_keysOf hname)))⟩
  probe := by
    rintro blob state _ ⟨rfl, h⟩
    exact ⟨Iff.rfl, rfl, h.isPresent_eq, h.failGet_eq, h.failPut_eq, h.find?_eq⟩

/-- **A repair comes to the same in worlds that are alike at what it touches**, and leaves them
alike. -/
theorem AlikeAt.entry {difference : Difference} (h : AlikeAt keys world other)
    (hkeys : keysOf difference.objects ⊆ keys) (cutoff : Option Instant)
    (counters counters' : RepairCounters) :
    ∃ result after after' counted,
      Repair.entry World.services cutoff difference world counters =
          (result, after, counters + counted) ∧
        Repair.entry World.services cutoff difference other counters' =
          (result, after', counters' + counted) ∧
        AlikeAt keys after after' := by
  obtain ⟨result, after, after', counted, hworld, hother, hafter⟩ :=
    Repair.exists_entry_eq_of_agree (agree_alikeAt hkeys) h cutoff 0
  refine ⟨result, after, after', counted, ?_, ?_, hafter⟩
  · rw [Repair.entry_eq_add, hworld]
  · rw [Repair.entry_eq_add, hother]

/-- **A repair leaves the world alike at all keys but those that it touches.** -/
theorem alikeAt_entry (world : World) (cutoff : Option Instant) (difference : Difference)
    (counters : RepairCounters) :
    AlikeAt (keysOf difference.objects)ᶜ world
      (Repair.entry World.services cutoff difference world counters).2.1 := by
  obtain ⟨_, after, _, _, hentry, -, -, hafter⟩ :=
    Repair.exists_entry_eq_of_agree (agree_alikeAt_compl difference.objects world)
      ⟨rfl, .refl _ world⟩ cutoff counters
  rw [hentry]
  exact hafter

end World

end Reconcile
