import Reconcile.Proofs.Repair

/-!
# When a repair writes, and what

A repair writes to the leader only where `World.Allows` says so, and only the text of the side that
it allows. The object of a version is written second, after the first write has succeeded, and only
if `World.Couples` says so. Everything else in the store stays as it is. Conversely, what may be
written is written, unless a call fails. `Repair.IsSafe` puts this together, and
`Repair.isSafe_entry` shows it of every repair.
-/

namespace Reconcile

namespace Repair

variable (world : World) (cutoff : Option Instant) (difference : Difference)

/-- What a repair comes to, by how its writes end. -/
def outcomeOf (side : Side) (master : Option String) : Except NetError Unit → RepairOutcome
  | .ok () => .repaired side master.isSome
  | .error _ => .failed

/-- A verdict that names a side is acted on by writing its text. -/
theorem exists_act_eq {σ : Type} (services : Services σ) (name : ObjectName) {side : Side}
    {text : String} (htext : sideValue? difference side = some text) (master : Option String)
    (state : σ) (counters : RepairCounters) :
    ∃ counters', act services name difference (.repairFrom side) master state counters =
      (outcomeOf side master (write services name master text state).1,
        (write services name master text state).2, counters') := by
  rw [act, Verdict.source?]
  dsimp only
  rw [htext]
  dsimp only
  rcases write services name master text state with ⟨_ | _, after⟩
  · exact ⟨_, rfl⟩
  · exact ⟨_, rfl⟩

/-- **A repair writes nothing and does not say that it has repaired, or it writes what it may.** -/
theorem entry_quiet_or_writes (counters : RepairCounters) :
    (∃ result made counters',
        entry World.services cutoff difference world counters =
          (result, world.after made, counters') ∧
        (∀ side withMaster, result ≠ .ok (.repaired side withMaster)) ∧
        putsOf made = [] ∧
        (∀ name ∈ world.failGet, .get name ∈ made → result = .ok .failed) ∧
        ∀ name side, ObjectName.ofKey difference.key = .ok name →
          (parses difference.followerValue? && parses difference.leaderValue?) = true →
          (∀ n, .get n ∈ made → n ∉ world.failGet) → ¬world.Allows cutoff difference name side) ∨
      ∃ name side text master counters', ObjectName.ofKey difference.key = .ok name ∧
        world.Allows cutoff difference name side ∧ sideValue? difference side = some text ∧
        (∀ key, master = some key ↔ world.Couples name key) ∧
        (∀ n, .get n ∈ world.lookups difference → n ∉ world.failGet) ∧
        entry World.services cutoff difference world counters =
          (.ok (outcomeOf side master
            (write World.services name master text (world.after (world.lookups difference))).1),
          (write World.services name master text (world.after (world.lookups difference))).2,
          counters') := by
  -- The plan decides: a fault of the entry, a failed lookup, or a verdict on what was looked up.
  rw [entry_eq]
  rcases world.plan_cases cutoff difference with ⟨error, hplan, -, hfault⟩ |
    ⟨name, hfail, hget, hplan⟩ | ⟨name, master, hname, hcouples, hgets, hplan⟩
  · rw [hplan]
    refine .inl ⟨.error error, [], _, by rw [World.after_nil], nofun, rfl, by simp,
      fun name _ hname hparses => ?_⟩
    exact nomatch (hfault name hname).symm.trans hparses
  · rw [hplan]
    refine .inl ⟨_, _, _, rfl, nofun, world.putsOf_lookups difference, fun _ _ _ => rfl, ?_⟩
    exact fun _ _ _ _ hgets => absurd hfail (hgets name hget)
  · rw [hplan]
    dsimp only
    cases hverdict : (world.verdict cutoff difference (world.store.get? name)).source? with
    | none =>
        let status := (world.verdict cutoff difference (world.store.get? name)).status
        refine .inl ⟨.ok (.skipped status), _, _, by rw [act, hverdict], nofun,
          world.putsOf_lookups difference, ?_, ?_⟩
        · exact fun n hfail hget => absurd hfail (hgets n hget)
        · intro name' side hname' _ _ hallows
          obtain rfl := Except.ok.inj (hname.symm.trans hname')
          rw [← World.verdict_eq_repairFrom_iff] at hallows
          rw [hallows] at hverdict
          cases hverdict
    | some side =>
        have hside := Verdict.source?_eq_some_iff.1 hverdict
        have hallows := World.verdict_eq_repairFrom_iff.1 hside
        obtain ⟨text, htext⟩ := World.exists_of_readable hallows.readable
        obtain ⟨counters', hact⟩ := exists_act_eq difference World.services name htext master
          (world.after (world.lookups difference)) counters
        refine .inr
          ⟨name, side, text, master, counters', hname, hallows, htext, hcouples, hgets, ?_⟩
        rw [hside, hact]

/-- **A repair writes nothing, or it writes what it may.** -/
theorem entry_cases (counters : RepairCounters) :
    (∃ result made counters',
        entry World.services cutoff difference world counters =
          (result, world.after made, counters') ∧
        putsOf made = [] ∧
        (∀ name ∈ world.failGet, .get name ∈ made → result = .ok .failed) ∧
        ∀ name side, ObjectName.ofKey difference.key = .ok name →
          (parses difference.followerValue? && parses difference.leaderValue?) = true →
          (∀ n, .get n ∈ made → n ∉ world.failGet) → ¬world.Allows cutoff difference name side) ∨
      ∃ name side text master counters', ObjectName.ofKey difference.key = .ok name ∧
        world.Allows cutoff difference name side ∧ sideValue? difference side = some text ∧
        (∀ key, master = some key ↔ world.Couples name key) ∧
        (∀ n, .get n ∈ world.lookups difference → n ∉ world.failGet) ∧
        entry World.services cutoff difference world counters =
          (.ok (outcomeOf side master
            (write World.services name master text (world.after (world.lookups difference))).1),
          (write World.services name master text (world.after (world.lookups difference))).2,
          counters') := by
  refine (entry_quiet_or_writes world cutoff difference counters).imp_left ?_
  rintro ⟨result, made, counters', hentry, -, hquiet⟩
  exact ⟨result, made, counters', hentry, hquiet⟩

/-- **What a repair may do to a world**, by the calls that it makes and the world that it leaves. -/
structure IsSafe (result : Except RepairError RepairOutcome) (made : List Call) (after : World) :
    Prop where
  /-- What is written is the text of a side that may be written, to the object; after that, if that
  write succeeds, to the object of the version, if that may be written. -/
  puts : putsOf made = [] ∨ ∃ name side text, ObjectName.ofKey difference.key = .ok name ∧
    world.Allows cutoff difference name side ∧ sideValue? difference side = some text ∧
    (putsOf made = [(name, text)] ∨ ∃ master, world.Couples name master ∧ name ∉ world.failPut ∧
      putsOf made = [(name, text), (name.sibling master, text)])
  /-- The leader then holds what these writes leave. -/
  store : after.store = world.storeAfter (putsOf made)
  /-- What is not written keeps its text. -/
  frame : ∀ key, (∀ put ∈ putsOf made, put.1.fullKey ≠ key) →
    after.store.find? key = world.store.find? key
  /-- A repair that is skipped leaves the store as it is. -/
  skipped : ∀ status, result = .ok (.skipped status) → after.store = world.store
  /-- So does one that ends with an error. -/
  error : ∀ error, result = .error error → after.store = world.store
  /-- So does one that fails to look something up. -/
  lookup : ∀ name ∈ world.failGet, .get name ∈ made →
    result = .ok .failed ∧ after.store = world.store
  /-- What may be written is written, if both sides are metadata and no call fails. -/
  repaired : ∀ name side, ObjectName.ofKey difference.key = .ok name →
    world.Allows cutoff difference name side →
    (parses difference.followerValue? && parses difference.leaderValue?) = true →
    (∀ n, .get n ∈ made → n ∉ world.failGet) → (∀ put ∈ putsOf made, put.1 ∉ world.failPut) →
    ∃ text withMaster, sideValue? difference side = some text ∧
      result = .ok (.repaired side withMaster) ∧
      (withMaster = true ↔ ∃ master, world.Couples name master) ∧
      after.store.get? name = some text ∧
      ∀ master, world.Couples name master → after.store.get? (name.sibling master) = some text

variable {world cutoff difference}

/-- **A repair that writes what it may is safe.** -/
theorem isSafe_of_writes {name : ObjectName} {side : Side} {text : String}
    {master : Option String} {result : Except NetError Unit} {made : List Call} {after : World}
    (hname : ObjectName.ofKey difference.key = .ok name)
    (hallows : world.Allows cutoff difference name side)
    (htext : sideValue? difference side = some text)
    (hcouples : ∀ key, master = some key ↔ world.Couples name key)
    (hgets : ∀ n, .get n ∈ world.lookups difference → n ∉ world.failGet)
    (hwrites : (world.after (world.lookups difference)).Writes name master text result made after) :
    IsSafe world cutoff difference (.ok (outcomeOf side master result))
      (world.lookups difference ++ made) after := by
  have hputs : putsOf (world.lookups difference ++ made) = putsOf made := by
    rw [putsOf, List.filterMap_append, ← putsOf, ← putsOf, world.putsOf_lookups, List.nil_append]
  have hstore : after.store = world.storeAfter (putsOf made) := hwrites.store_eq
  -- One text goes to all the objects that are written.
  have htexts : ∀ put ∈ putsOf made, put.2 = text := by
    rcases hwrites.puts_eq with ⟨h, -⟩ | ⟨key, -, -, h⟩ <;> simp [h]
  constructor
  · rw [hputs]
    refine .inr ⟨name, side, text, hname, hallows, htext, hwrites.puts_eq.imp And.left ?_⟩
    exact fun ⟨key, hmaster, hok, h⟩ => ⟨key, (hcouples key).1 hmaster, hok, h⟩
  · rw [hputs, hstore]
  · intro key hkey
    rw [hputs] at hkey
    rw [hstore, world.find?_storeAfter hkey]
  · intro status h
    rcases result with _ | _ <;> cases h
  · exact nofun
  · intro n hfail hget
    rcases List.mem_append.1 hget with hget | hget
    · exact absurd hfail (hgets n hget)
    · exact absurd hget (hwrites.get_notMem n)
  · intro name' side' hname' hallows' _ _ hok
    rw [hputs] at hok
    obtain rfl := Except.ok.inj (hname.symm.trans hname')
    obtain rfl := hallows.side_eq hallows'
    have hwritten : ∀ n ∈ (putsOf made).map Prod.fst, after.store.get? n = some text := by
      intro n hn
      obtain ⟨put, hput, rfl⟩ := List.mem_map.1 hn
      rw [hstore]
      exact world.get?_storeAfter htexts hn (hok put hput)
    refine ⟨text, master.isSome, htext, ?_, ?_, hwritten name ?_, fun key hkey => hwritten _ ?_⟩
    · rw [hwrites.result_eq hok, outcomeOf]
    · rw [Option.isSome_iff_exists]
      exact exists_congr hcouples
    · rcases hwrites.puts_eq with ⟨h, -⟩ | ⟨key, -, -, h⟩ <;> simp [h]
    · -- the coupled object is written unless the write of the version failed, and none did
      have hmaster := (hcouples key).2 hkey
      rcases hwrites.puts_eq with ⟨h, hnone | hfail⟩ | ⟨key', hkey', -, h⟩
      · exact nomatch hmaster.symm.trans hnone
      · exact absurd hfail (hok (name, text) (by simp [h]))
      · obtain rfl := Option.some.inj (hmaster.symm.trans hkey')
        simp [h]

/-- **Every repair is safe**, whatever the leader and the blob store hold and whichever calls fail:
what it writes is what it may, and what it may write it writes, unless a call fails.

A repair is quiet or it writes (`entry_cases`). In the second case its calls are those of the
lookups and then those of the writes, of which `isSafe_of_writes` speaks. -/
theorem isSafe_entry (world : World) (cutoff : Option Instant) (difference : Difference)
    (counters : RepairCounters) :
    ∃ result made after counters',
      entry World.services cutoff difference world counters = (result, after, counters') ∧
        after.calls = world.calls ++ made.toArray ∧
        IsSafe world cutoff difference result made after := by
  rcases entry_cases world cutoff difference counters with
    ⟨result, made, counters', hentry, hputs, hlookup, hquiet⟩ |
    ⟨name, side, text, master, counters', hname, hallows, htext, hcouples, hgets, hentry⟩
  · have hstore : (world.after made).store = world.storeAfter (putsOf made) := by
      rw [hputs]
      rfl
    refine ⟨result, made, _, counters', hentry, rfl, .inl hputs, hstore, fun _ _ => rfl,
      fun _ _ => rfl, fun _ _ => rfl, fun n hfail hget => ⟨hlookup n hfail hget, rfl⟩, ?_⟩
    exact fun name side hname hallows hparses hgets _ =>
      absurd hallows (hquiet name side hname hparses hgets)
  · obtain ⟨result, made, after, hwrite, hwrites⟩ :=
      (world.after (world.lookups difference)).exists_writes name master text
    rw [hwrite] at hentry
    refine ⟨_, world.lookups difference ++ made, _, _, hentry, ?_,
      isSafe_of_writes hname hallows htext hcouples hgets hwrites⟩
    simp [hwrites.calls_eq, World.after]

end Repair

end Reconcile
