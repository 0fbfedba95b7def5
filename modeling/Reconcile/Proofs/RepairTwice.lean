import Reconcile.Proofs.RepairAgain
import Reconcile.Proofs.RepairOrder

/-!
# Repairing twice

A repair may be run again on what it has left, with nobody else writing and the same calls failing.
Then the leader stays as it is: the first repair has settled the difference (`Repair.Settled`),
whatever it came to. The main result is `Repair.settled_entry`.

A repair changes nothing, or it writes the text of a side to an object and perhaps to the object of
its version (`Repair.store_entry_cases`). A second repair that writes at all needs the leader to
hold what it held at the scan, and the first one has put the text of a readable side there. So that
side is the leader's own (`World.Allows.eq_leader`), and each text that is written twice is in its
place already or could not be put there the first time (`World.held_of_store_eq`).
-/

namespace Reconcile

/-- The writes of a text to an object and, if there is one, to the object of its version. -/
def ObjectName.putsOf (name : ObjectName) (master : Option String) (text : String) :
    List (ObjectName × String) :=
  (name, text) :: (master.map fun key => (name.sibling key, text)).toList

namespace World

variable {world after : World} {cutoff : Option Instant} {difference : Difference}
  {name : ObjectName} {master master' : Option String} {text : String}
  {puts : List (ObjectName × String)}

/-! ### Texts that are in their place -/

/-- Writes that fail, and writes of texts that are already there, change no text. -/
theorem find?_storeAfter_of_held
    (h : ∀ put ∈ puts, put.1 ∈ world.failPut ∨ world.store.get? put.1 = some put.2)
    (key : String) : (world.storeAfter puts).find? key = world.store.find? key := by
  refine List.foldlRecOn
    (motive := fun store : Store => ∀ key, store.find? key = world.store.find? key)
    puts _ (fun _ => rfl) (fun store hstore put hput key => ?_) key
  split
  next => exact hstore key
  next hok =>
    have hheld : world.store.find? put.1.fullKey = some put.2 := (h put hput).resolve_left hok
    rw [Store.find?_put]
    split
    next hkey => rw [← hkey, hheld]
    next => exact hstore key

/-- **What a text is written to twice holds it already**, or cannot be written: what couples a
version to its object the second time did so the first time, or its text would be another one. -/
theorem held_of_store_eq (hok : name ∉ world.failPut)
    (hcouples : ∀ key, master = some key ↔ world.Couples name key)
    (hstore : after.store = world.storeAfter (name.putsOf master text))
    (hcouples' : ∀ key, master' = some key ↔ after.Couples name key) :
    ∀ put ∈ name.putsOf master' text,
      put.1 ∈ world.failPut ∨ after.store.get? put.1 = some put.2 := by
  have htexts : ∀ put ∈ name.putsOf master text, put.2 = text := by
    intro put hput
    rcases List.mem_cons.1 hput with rfl | hput
    · rfl
    · obtain ⟨_, -, rfl⟩ := Option.map_eq_some_iff.1 (Option.mem_toList.1 hput)
      rfl
  intro put hput
  rw [hstore]
  rcases List.mem_cons.1 hput with rfl | hput
  · exact .inr (world.get?_storeAfter htexts List.mem_cons_self hok)
  obtain ⟨key, hkey, rfl⟩ := Option.map_eq_some_iff.1 (Option.mem_toList.1 hput)
  have hcoupled := (hcouples' key).1 hkey
  refine Classical.or_iff_not_imp_left.2 fun hfail => world.get?_storeAfter htexts ?_ hfail
  cases hmaster : master with
  | some first =>
      obtain rfl : first = key :=
        Option.some.inj (((hcouples first).1 hmaster).1.symm.trans hcoupled.1)
      exact List.mem_cons_of_mem _ List.mem_cons_self
  | none =>
      -- the object was left alone, so it is coupled as it was before
      have hne : name.fullKey ≠ (name.sibling key).fullKey :=
        (ObjectName.sibling_masterKey_lt hcoupled.1).ne'
      have hsame : after.store.get? (name.sibling key) = world.store.get? (name.sibling key) := by
        rw [hstore, hmaster]
        exact world.find?_storeAfter (List.forall_mem_singleton.2 hne)
      have hbefore : world.Couples name key :=
        ⟨hcoupled.1, fun text htext => hcoupled.2 text (hsame.trans htext)⟩
      exact nomatch hmaster.symm.trans ((hcouples key).2 hbefore)

/-! ### The side that is written twice -/

/-- **Only the leader's own text is written twice**: where a side may be written in two worlds that
find the same blobs, and the second holds the text of the first one's side. -/
theorem Allows.eq_leader {side side' : Side} (h : world.Allows cutoff difference name side)
    (h' : after.Allows cutoff difference name side')
    (hpresent : after.isPresent = world.isPresent)
    (hheld : after.store.get? name = Repair.sideValue? difference side) :
    side = .leader ∧ side' = .leader := by
  have hreadable : ∀ value, after.readable value = world.readable value := fun value => by
    rw [World.readable, World.readable, hpresent]
  have hleader : world.readable difference.leaderValue? = true := by
    rw [← h'.current, hheld]
    exact h.readable
  have hother : ∀ s : Side, world.readable (Repair.sideValue? difference s.other) = false →
      s = .leader := by
    intro s hs
    cases s with
    | leader => rfl
    | follower => cases hleader.symm.trans hs
  exact ⟨hother side h.unreadable, hother side' ((hreadable _).symm.trans h'.unreadable)⟩

end World

namespace Repair

variable {world : World} {cutoff : Option Instant} {difference : Difference}

/-! ### A second repair -/

/-- **What a repair does to the store**: nothing, or it writes the text of a side that it may write
to an object that can be written, and to the object of its version if the two are coupled. -/
theorem store_entry_cases (world : World) (cutoff : Option Instant) (difference : Difference)
    (counters : RepairCounters) :
    (entry World.services cutoff difference world counters).2.1.store = world.store ∨
      ∃ name side text master, ObjectName.ofKey difference.key = .ok name ∧
        world.Allows cutoff difference name side ∧ sideValue? difference side = some text ∧
        (∀ key, master = some key ↔ world.Couples name key) ∧ name ∉ world.failPut ∧
        (entry World.services cutoff difference world counters).2.1.store =
          world.storeAfter (name.putsOf master text) := by
  rcases entry_quiet_or_writes world cutoff difference counters with
    ⟨_, made, _, hentry, -⟩ |
    ⟨name, side, text, master, _, hname, hallows, htext, hcouples, -, hentry⟩
  · rw [hentry]
    exact .inl rfl
  obtain ⟨result, made, after, hwrite, hwrites⟩ :=
    (world.after (world.lookups difference)).exists_writes name master text
  have hstore : after.store = world.storeAfter (Reconcile.putsOf made) := hwrites.store_eq
  rw [hentry, hwrite]
  dsimp only
  rw [hstore]
  -- The version comes first, so if it cannot be written the object is not tried either.
  by_cases hfail : name ∈ world.failPut
  · rcases hwrites.puts_eq with ⟨hmade, -⟩ | ⟨_, -, hok, -⟩
    · rw [hmade]
      exact .inl (if_pos hfail)
    · exact absurd hfail hok
  · refine .inr ⟨name, side, text, master, hname, hallows, htext, hcouples, hfail, ?_⟩
    rcases hwrites.puts_eq with ⟨hmade, hnone⟩ | ⟨key, rfl, -, hmade⟩
    · rw [hmade, hnone.resolve_right hfail]
      rfl
    · rw [hmade]
      rfl

/-- **Whether a repair has settled a difference**: to repair it again changes no text of the leader,
and not the list of them either if each key is there once. -/
structure Settled (world : World) (cutoff : Option Instant) (difference : Difference) : Prop where
  /-- Another repair leaves each key what it holds. -/
  find?_eq : ∀ counters key,
    (entry World.services cutoff difference world counters).2.1.store.find? key =
      world.store.find? key
  /-- So it leaves an ascending store as it is. -/
  store_eq : world.store.Ascending → ∀ counters,
    (entry World.services cutoff difference world counters).2.1.store = world.store

/-- Where no text changes, the store stays. -/
theorem settled_of_find?_eq (h : ∀ counters key,
    (entry World.services cutoff difference world counters).2.1.store.find? key =
      world.store.find? key) : Settled world cutoff difference :=
  ⟨h, fun hascending counters =>
    (ascending_entry hascending difference counters).ext hascending (h counters)⟩

/-- **A repair settles its difference**, whatever it comes to: the text of either side is written,
or the difference is skipped, or a call fails, be it between the two writes.

If the next repair writes as well, both have written the text of the leader
(`World.Allows.eq_leader`), and wherever the next one would put it, it is there already or cannot be
put there (`World.held_of_store_eq`). -/
theorem settled_entry (world : World) (cutoff : Option Instant) (difference : Difference)
    (counters : RepairCounters) :
    Settled (entry World.services cutoff difference world counters).2.1 cutoff difference := by
  have hafter := world.alikeAt_entry cutoff difference counters
  have hcases := store_entry_cases world cutoff difference counters
  generalize hentry : (entry World.services cutoff difference world counters).2.1 = after
    at hafter hcases
  refine settled_of_find?_eq fun counters' key => ?_
  rcases hcases with hsame |
    ⟨name, side, text, master, hname, hallows, htext, hcouples, hok, hstore⟩
  · have halike : world.Alike after :=
      ⟨hafter.isPresent_eq, hafter.failGet_eq, hafter.failPut_eq, fun _ => by rw [hsame]⟩
    rw [(halike.entry cutoff difference counters counters').2.find?_eq key, hentry]
  rcases store_entry_cases after cutoff difference counters' with hsame |
    ⟨name', side', text', master', hname', hallows', htext', hcouples', -, hstore'⟩
  · rw [hsame]
  obtain rfl := Except.ok.inj (hname.symm.trans hname')
  have hheld := World.held_of_store_eq hok hcouples hstore hcouples'
  have htext₀ : after.store.get? name = some text :=
    (hheld (name, text) List.mem_cons_self).resolve_left hok
  obtain ⟨rfl, rfl⟩ := hallows.eq_leader hallows' hafter.isPresent_eq (htext₀.trans htext.symm)
  obtain rfl := Option.some.inj (htext.symm.trans htext')
  rw [hstore']
  exact World.find?_storeAfter_of_held (fun put hput => hafter.failPut_eq ▸ hheld put hput) key

end Repair

end Reconcile
