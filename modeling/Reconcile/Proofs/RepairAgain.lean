import Reconcile.Proofs.Rescan

/-!
# Repairing again after a failure

A repair that fails may be run again once nothing fails any more. Whatever the failed one has left,
a repair cannot tell two worlds apart that agree on the blobs, on the texts and on the calls that
fail (`World.Alike`), so it is enough to see how the texts differ from those before the failure.

They do not, unless the failed repair stopped between its two writes (`World.failed_cases`): then
the text of the follower stands under the key of the version and not yet under that of its object
(`World.StopsHalfway`). The next repair finds the leader changed since the scan and leaves it alone.
So a failure is made up for by running the repair again, except for this one
(`Repair.again_of_failed`).
-/

namespace Reconcile

namespace World

/-! ### Worlds that a repair cannot tell apart -/

/-- Two worlds that only differ in how the texts are stored and in the calls on record. -/
structure Alike (world other : World) : Prop where
  /-- The same blobs are found. -/
  isPresent_eq : other.isPresent = world.isPresent
  /-- The same objects cannot be read. -/
  failGet_eq : other.failGet = world.failGet
  /-- The same objects cannot be written. -/
  failPut_eq : other.failPut = world.failPut
  /-- The stores hold the same texts. -/
  find?_eq : ∀ key, other.store.find? key = world.store.find? key

/-- **A repair cannot tell alike worlds apart**, and leaves them alike. -/
theorem Alike.entry {world other : World} (h : world.Alike other) (cutoff : Option Instant)
    (difference : Difference) (counters counters' : RepairCounters) :
    (Repair.entry World.services cutoff difference other counters').1 =
        (Repair.entry World.services cutoff difference world counters).1 ∧
      (Repair.entry World.services cutoff difference world counters).2.1.Alike
        (Repair.entry World.services cutoff difference other counters').2.1 := by
  have hall : AlikeAt Set.univ world other :=
    ⟨h.isPresent_eq, h.failGet_eq, h.failPut_eq, fun key _ => h.find?_eq key⟩
  obtain ⟨_, _, _, _, hworld, hother, hafter⟩ :=
    hall.entry (Set.subset_univ _) cutoff counters counters'
  rw [hworld, hother]
  exact ⟨rfl, hafter.isPresent_eq, hafter.failGet_eq, hafter.failPut_eq, fun key =>
    hafter.find?_eq key (Set.mem_univ key)⟩

/-! ### A repair that stops between its writes -/

/-- The world with nothing that fails to be read or written any more. -/
def mended (world : World) : World :=
  { world with failGet := [], failPut := [] }

/-- **When a repair stops halfway**: it repairs a version from the follower, has to write the object
of the version as well, and only this last call fails. -/
structure StopsHalfway (world : World) (cutoff : Option Instant) (difference : Difference)
    (name : ObjectName) (master : String) : Prop where
  /-- The key names an object. -/
  name_eq : ObjectName.ofKey difference.key = .ok name
  /-- Both sides are metadata. -/
  parses : (parses difference.followerValue? && parses difference.leaderValue?) = true
  /-- It is to be repaired from the follower. -/
  allows : world.Allows cutoff difference name .follower
  /-- The object key has to be written as well. -/
  couples : world.Couples name master
  /-- The version can be read. -/
  read : name ∉ world.failGet
  /-- So can the object. -/
  readMaster : name.sibling master ∉ world.failGet
  /-- The version can be written. -/
  written : name ∉ world.failPut
  /-- The object cannot. -/
  unwritten : name.sibling master ∈ world.failPut

variable {world : World} {cutoff : Option Instant} {difference : Difference}

/-- The objects that the lookups for a version read. -/
theorem get_mem_lookups_iff {name : ObjectName} {master : String}
    (hname : ObjectName.ofKey difference.key = .ok name)
    (hparses : (parses difference.followerValue? && parses difference.leaderValue?) = true)
    (hmaster : name.masterKey? = some master) {n : ObjectName} :
    .get n ∈ world.lookups difference ↔ n = name ∨ n = name.sibling master := by
  rw [lookups, hname]
  dsimp only
  rw [if_pos hparses, get_mem_lookupCalls_iff, hmaster]
  simp only [Option.some.injEq, exists_eq_left']

/-- What a repair has planned that can look everything up and may write. -/
theorem plan_of_allows {name : ObjectName} {master : String} {side : Side}
    (hname : ObjectName.ofKey difference.key = .ok name)
    (hparses : (parses difference.followerValue? && parses difference.leaderValue?) = true)
    (hallows : world.Allows cutoff difference name side) (hcouples : world.Couples name master)
    (hread : name ∉ world.failGet) (hreadMaster : name.sibling master ∉ world.failGet) :
    world.plan cutoff difference = .ok (some ⟨name, .repairFrom side, some master⟩) := by
  rcases world.plan_cases cutoff difference with ⟨_, -, -, hfault⟩ | ⟨n, hn, hget, -⟩ |
    ⟨name', master', hname', hmaster', -, hplan⟩
  · exact nomatch (hfault name hname).symm.trans hparses
  · rcases (get_mem_lookups_iff hname hparses hcouples.1).1 hget with rfl | rfl
    · exact absurd hn hread
    · exact absurd hn hreadMaster
  · obtain rfl := Except.ok.inj (hname.symm.trans hname')
    rw [hplan, verdict_eq_repairFrom_iff.2 hallows, (hmaster' master).2 hcouples]

/-- A repair that does not end with an error has found metadata on both sides. -/
theorem parses_of_entry {name : ObjectName} {outcome : RepairOutcome} {after : World}
    {counters counters' : RepairCounters}
    (h : Repair.entry World.services cutoff difference world counters =
      (.ok outcome, after, counters')) (hname : ObjectName.ofKey difference.key = .ok name) :
    (parses difference.followerValue? && parses difference.leaderValue?) = true := by
  by_contra hparses
  have hplan : world.plan cutoff difference = .error (.malformedMetadata name) := by
    rw [plan, hname]
    exact if_neg hparses
  rw [Repair.entry_eq, hplan] at h
  cases h

/-- A repair that can look everything up and may write comes to what its writes come to. -/
theorem entry_of_plan {name : ObjectName} {side : Side} {master : Option String} {text : String}
    (hplan : world.plan cutoff difference = .ok (some ⟨name, .repairFrom side, master⟩))
    (htext : Repair.sideValue? difference side = some text) (counters : RepairCounters) :
    ∃ result made after counters',
      Repair.entry World.services cutoff difference world counters =
        (.ok (Repair.outcomeOf side master result), after, counters') ∧
      (world.after (world.lookups difference)).Writes name master text result made after := by
  obtain ⟨counters', hact⟩ := Repair.exists_act_eq difference World.services name htext master
    (world.after (world.lookups difference)) counters
  obtain ⟨result, made, after, hwrite, hwrites⟩ :=
    (world.after (world.lookups difference)).exists_writes name master text
  refine ⟨result, made, after, counters', ?_, hwrites⟩
  rw [Repair.entry_eq, hplan]
  dsimp only
  rw [hact, hwrite]

/-- **What a failed repair leaves**: the texts as they were, unless it stopped halfway. -/
theorem failed_cases {after : World} {counters counters' : RepairCounters}
    (h : Repair.entry World.services cutoff difference world counters =
      (.ok .failed, after, counters')) :
    world.mended.Alike after.mended ∨
      ∃ name master, world.StopsHalfway cutoff difference name master := by
  rcases Repair.entry_quiet_or_writes world cutoff difference counters with
    ⟨_, made, _, hentry, -⟩ |
    ⟨name, side, text, master, _, hname, hallows, htext, hcouples, hgets, hentry⟩
  · obtain ⟨-, hafter⟩ := Prod.mk.inj (h.symm.trans hentry)
    obtain ⟨rfl, -⟩ := Prod.mk.inj hafter
    exact .inl ⟨rfl, rfl, rfl, fun _ => rfl⟩
  obtain ⟨result, made, written, hwrite, hwrites⟩ :=
    (world.after (world.lookups difference)).exists_writes name master text
  rw [hwrite, h] at hentry
  obtain ⟨houtcome, hafter⟩ := Prod.mk.inj hentry
  obtain ⟨rfl, -⟩ := Prod.mk.inj hafter
  -- a write has failed, or the outcome would be another one
  have hfails : ¬∀ put ∈ putsOf made, put.1 ∉ world.failPut := by
    intro hnone
    rw [hwrites.result_eq hnone] at houtcome
    cases houtcome
  have halike : (∀ key, after.store.find? key = world.store.find? key) →
      world.mended.Alike after.mended := fun hfind => ⟨hwrites.isPresent_eq, rfl, rfl, hfind⟩
  have hstore : after.store = world.storeAfter (putsOf made) := hwrites.store_eq
  rcases hwrites.puts_eq with ⟨hmade, -⟩ | ⟨key, rfl, hok, hmade⟩
  · refine .inl (halike fun key => ?_)
    rw [hmade, List.forall_mem_singleton, not_not] at hfails
    rw [hstore, hmade, storeAfter, List.foldl_cons, List.foldl_nil, if_pos hfails]
  · have hwritten : name ∉ world.failPut := hok
    have hmaster : name.sibling key ∈ world.failPut := by
      by_contra hother
      rw [hmade, List.forall_mem_cons, List.forall_mem_singleton] at hfails
      exact hfails ⟨hok, hother⟩
    have hcoupled := (hcouples key).1 rfl
    have hparses := parses_of_entry h hname
    have hreads : ∀ n, n = name ∨ n = name.sibling key → n ∉ world.failGet := fun n hn =>
      hgets n ((get_mem_lookups_iff hname hparses hcoupled.1).2 hn)
    cases side with
    | follower =>
        exact .inr ⟨name, key, hname, hparses, hallows, hcoupled, hreads _ (.inl rfl),
          hreads _ (.inr rfl), hwritten, hmaster⟩
    | leader =>
        -- the leader's own text is written over itself
        refine .inl (halike fun other => ?_)
        have hown : world.store.find? name.fullKey = some text := hallows.current.trans htext
        rw [hstore, hmade, storeAfter, List.foldl_cons, List.foldl_cons, List.foldl_nil,
          if_pos hmaster, if_neg hwritten, Store.find?_put]
        split
        next heq => rw [← heq, hown]
        next => rfl

/-- A second write that fails leaves the first one. -/
theorem write_of_unwritten (world : World) {name : ObjectName} {master : String} (text : String)
    (hwritten : name ∉ world.failPut) (hunwritten : name.sibling master ∈ world.failPut) :
    Repair.write World.services name (some master) text world =
      (.error (failure .post),
        (world.written name text).record (.put (name.sibling master) text)) := by
  have hfirst : World.services.put name text world = (.ok (), world.written name text) :=
    if_neg fun hmem => hwritten (List.contains_iff_mem.1 hmem)
  have hsecond : World.services.put (name.sibling master) text (world.written name text) =
      (.error (failure .post),
        (world.written name text).record (.put (name.sibling master) text)) :=
    if_pos (List.contains_iff_mem.2 hunwritten)
  rw [Repair.write, hfirst]
  exact hsecond

/-- **A repair that stops halfway fails**, and leaves the text of the follower under the key of the
version. -/
theorem StopsHalfway.exists_entry_eq {name : ObjectName} {master : String}
    (h : world.StopsHalfway cutoff difference name master) (counters : RepairCounters) :
    ∃ text after counters', difference.followerValue? = some text ∧
      Repair.entry World.services cutoff difference world counters =
        (.ok .failed, after, counters') ∧
      after.isPresent = world.isPresent ∧ after.store = world.store.put name text := by
  obtain ⟨text, htext⟩ := exists_of_readable h.allows.readable
  have hplan := plan_of_allows h.name_eq h.parses h.allows h.couples h.read h.readMaster
  obtain ⟨counters', hact⟩ := Repair.exists_act_eq difference World.services name htext
    (some master) (world.after (world.lookups difference)) counters
  have hwrite := (world.after (world.lookups difference)).write_of_unwritten text h.written
    h.unwritten
  rw [Repair.entry_eq, hplan]
  dsimp only
  rw [hact, hwrite]
  exact ⟨text, _, counters', htext, rfl, rfl, rfl⟩

/-- **What a repair leaves that does not stop**: the text of the follower under both keys. -/
theorem StopsHalfway.find?_mended {name : ObjectName} {master text : String}
    (h : world.StopsHalfway cutoff difference name master)
    (htext : difference.followerValue? = some text) (counters : RepairCounters) (key : String) :
    (Repair.entry World.services cutoff difference world.mended counters).2.1.store.find? key =
      if (name.sibling master).fullKey = key then some text
        else if name.fullKey = key then some text else world.store.find? key := by
  have hallows : world.mended.Allows cutoff difference name .follower :=
    ⟨h.allows.current, h.allows.readable, h.allows.unreadable, h.allows.settled⟩
  have hcouples : world.mended.Couples name master := h.couples
  have hplan := plan_of_allows h.name_eq h.parses hallows hcouples List.not_mem_nil
    List.not_mem_nil
  obtain ⟨result, made, after, counters', hentry, hwrites⟩ := entry_of_plan hplan htext counters
  have hstore : after.store = world.mended.storeAfter (putsOf made) := hwrites.store_eq
  have hok : ∀ n : ObjectName, n ∉ world.mended.failPut := fun _ => List.not_mem_nil
  rw [hentry, hstore]
  rcases hwrites.puts_eq with ⟨-, hnone | hfail⟩ | ⟨key', hkey', -, hmade⟩
  · cases hnone
  · exact absurd hfail (hok name)
  · obtain rfl := Option.some.inj hkey'
    rw [hmade, storeAfter, List.foldl_cons, List.foldl_cons, List.foldl_nil, if_neg (hok _),
      if_neg (hok _), Store.find?_put, Store.find?_put]
    rfl

/-- A difference that the leader does not hold as at the scan is skipped. -/
theorem exists_entry_eq_of_ne (cutoff : Option Instant) {name : ObjectName}
    (hgets : world.failGet = [])
    (hname : ObjectName.ofKey difference.key = .ok name)
    (hparses : (parses difference.followerValue? && parses difference.leaderValue?) = true)
    (hne : world.store.get? name ≠ difference.leaderValue?) (counters : RepairCounters) :
    ∃ made counters', Repair.entry World.services cutoff difference world counters =
      (.ok (.skipped .updatedByClient), world.after made, counters') := by
  rcases world.plan_cases cutoff difference with ⟨_, -, -, hfault⟩ | ⟨n, hn, -⟩ |
    ⟨name', master, hname', -, -, hplan⟩
  · exact nomatch (hfault name hname).symm.trans hparses
  · rw [hgets] at hn
    cases hn
  · obtain rfl := Except.ok.inj (hname.symm.trans hname')
    have hstatus : (world.verdict cutoff difference (world.store.get? name)).status =
        .updatedByClient := status_decideRepair_of_ne hne
    have hsource : (world.verdict cutoff difference (world.store.get? name)).source? = none := by
      rw [← Option.not_isSome_iff_eq_none, Verdict.isSome_source?_iff, hstatus]
      exact nofun
    rw [Repair.entry_eq, hplan]
    dsimp only
    rw [Repair.act, hsource, hstatus]
    exact ⟨_, _, rfl⟩

end World

namespace Repair

variable {world : World} {cutoff : Option Instant} {difference : Difference}

/-- **What is left of a repair that stopped halfway**, once nothing fails any more: the next repair
of the difference takes the first one's write for that of a client, and leaves the leader as it is,
with all that a repair without failures would have written but the object of the version. -/
structure LeftHalf (world : World) (cutoff : Option Instant) (difference : Difference)
    (name : ObjectName) (master : String) (after : World) (again once : RepairCounters) : Prop where
  /-- The next repair takes the half for a change by a client. -/
  skipped : (entry World.services cutoff difference after.mended again).1 =
    .ok (.skipped .updatedByClient)
  /-- It changes nothing. -/
  store_eq : (entry World.services cutoff difference after.mended again).2.1.store = after.store
  /-- The version has been written. -/
  version : after.store.get? name = difference.followerValue?
  /-- The object has not. -/
  object : after.store.get? (name.sibling master) = world.store.get? (name.sibling master)
  /-- A repair without a failure would have written it. -/
  object_once : (entry World.services cutoff difference world.mended once).2.1.store.get?
    (name.sibling master) = difference.followerValue?
  /-- All else is as such a repair would have left it. -/
  rest : ∀ key, key ≠ (name.sibling master).fullKey → after.store.find? key =
    (entry World.services cutoff difference world.mended once).2.1.store.find? key

/-- **A repair that stops halfway leaves half of it done**, whatever the counters of the run that
failed and of the next one. -/
theorem leftHalf_of_stopsHalfway {name : ObjectName} {master : String} {after : World}
    {counters counters' : RepairCounters}
    (hentry : entry World.services cutoff difference world counters =
      (.ok .failed, after, counters'))
    (h : world.StopsHalfway cutoff difference name master) (again once : RepairCounters) :
    LeftHalf world cutoff difference name master after again once := by
  obtain ⟨text, left, _, htext, hleft, -, hstore⟩ := h.exists_entry_eq counters
  obtain ⟨rfl, -⟩ := Prod.mk.inj (Prod.mk.inj (hentry.symm.trans hleft)).2
  have hlt := ObjectName.sibling_masterKey_lt h.couples.1
  have hversion : after.store.get? name = some text := by
    rw [hstore, Store.get?, Store.find?_put, if_pos rfl]
  -- the two texts differ, since only one of them is readable
  have hne : after.mended.store.get? name ≠ difference.leaderValue? := by
    intro heq
    have hsame : sideValue? difference Side.leader = sideValue? difference Side.follower :=
      heq.symm.trans (hversion.trans htext.symm)
    have hunreadable := h.allows.unreadable
    rw [Side.other, hsame, h.allows.readable] at hunreadable
    cases hunreadable
  obtain ⟨made, _, hagain⟩ :=
    World.exists_entry_eq_of_ne cutoff rfl h.name_eq h.parses hne again
  have honce := h.find?_mended htext once
  refine ⟨by rw [hagain], by rw [hagain]; rfl, hversion.trans htext.symm, ?_, ?_,
    fun key hkey => ?_⟩
  · rw [hstore, Store.get?, Store.find?_put, if_neg hlt.ne', Store.get?]
  · rw [Store.get?, honce, if_pos rfl, htext]
  · rw [hstore, Store.find?_put, honce, if_neg hkey.symm]

/-- **A repair that failed is made up for by repairing again**: once nothing fails any more, it
leaves the texts that it would have left at once, unless it had stopped halfway.

A repair that fails has written nothing, or the version without its object, which is to stop halfway
(`World.failed_cases`). In the first case the next repair finds the world as the failed one did. -/
theorem again_of_failed {after : World} {counters counters' : RepairCounters}
    (h : entry World.services cutoff difference world counters = (.ok .failed, after, counters'))
    (again once : RepairCounters) :
    ((¬∃ name master, world.StopsHalfway cutoff difference name master) →
      ∀ key, (entry World.services cutoff difference after.mended again).2.1.store.find? key =
        (entry World.services cutoff difference world.mended once).2.1.store.find? key) ∧
      ∀ name master, world.StopsHalfway cutoff difference name master →
        LeftHalf world cutoff difference name master after again once := by
  refine ⟨fun hwhole key => ?_, fun name master hhalf =>
    leftHalf_of_stopsHalfway h hhalf again once⟩
  have halike := (World.failed_cases h).resolve_right hwhole
  exact (halike.entry cutoff difference once again).2.find?_eq key

/-- The object of a version cannot be written at first: only the version is, and the next repair
leaves it at that. -/
theorem again_of_failed_mirror :
    ∃ after counters,
      entry World.services none ⟨some ⟨"b/k\x00v", "{}"⟩, none⟩
          ⟨⟨[]⟩, [], [], [⟨"b", "k"⟩], [], #[]⟩ .zero = (.ok .failed, after, counters) ∧
        World.StopsHalfway ⟨⟨[]⟩, [], [], [⟨"b", "k"⟩], [], #[]⟩ none
          ⟨some ⟨"b/k\x00v", "{}"⟩, none⟩ ⟨"b", "k\x00v"⟩ "k" ∧
        LeftHalf ⟨⟨[]⟩, [], [], [⟨"b", "k"⟩], [], #[]⟩ none ⟨some ⟨"b/k\x00v", "{}"⟩, none⟩
          ⟨"b", "k\x00v"⟩ "k" after counters .zero := by
  have hfailed : entry World.services none ⟨some ⟨"b/k\x00v", "{}"⟩, none⟩
      ⟨⟨[]⟩, [], [], [⟨"b", "k"⟩], [], #[]⟩ .zero = (.ok .failed, _, _) := Prod.ext (by decide) rfl
  have hstops : World.StopsHalfway ⟨⟨[]⟩, [], [], [⟨"b", "k"⟩], [], #[]⟩ none
      ⟨some ⟨"b/k\x00v", "{}"⟩, none⟩ ⟨"b", "k\x00v"⟩ "k" :=
    { name_eq := by rfl
      parses := by decide
      allows := ⟨by decide, by decide, by decide, fun _ _ => rfl⟩
      couples := ⟨by decide, nofun⟩
      read := by decide
      readMaster := by decide
      written := by decide
      unwritten := by decide }
  exact ⟨_, _, hfailed, hstops, (again_of_failed hfailed _ _).2 _ _ hstops⟩

/-- So a failure is not always made up for by repairing again. -/
theorem again_ne_once :
    ∃ (world after : World) (difference : Difference) (counters : RepairCounters),
      entry World.services none difference world .zero = (.ok .failed, after, counters) ∧
        (entry World.services none difference after.mended counters).2.1.store.find? "b/k" ≠
          (entry World.services none difference world.mended .zero).2.1.store.find? "b/k" :=
  ⟨⟨⟨[]⟩, [], [], [⟨"b", "k"⟩], [], #[]⟩, _, ⟨some ⟨"b/k\x00v", "{}"⟩, none⟩, _,
    Prod.ext (by decide) rfl, by decide⟩

end Repair

end Reconcile
