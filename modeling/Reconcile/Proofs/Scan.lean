import Reconcile.Proofs.Comparison
import Reconcile.Proofs.Listing
import Reconcile.Proofs.Tile
import Reconcile.Scan

/-!
# What a scan delivers

A scan whose listings all come to their end, and whose output stays open, delivers what comparing
its chunks finds. `Scan.Finds` follows the chunks of a scan one by one, through the states that
their listings leave the leader in, and gives the differences that they find together.

## Main results

* `Comparison.takeListing_of_yields`: a listing that yields items makes its comparison deliver what
  a comparison with these items finds;
* `Scan.scanFrom_of_finds`: a scan delivers what its chunks find;
* `Scan.finds_steady`: what chunks find at a leader that holds one store;
* `Scan.finds_changing`: what chunks find while others write to the leader.
-/

namespace Reconcile

/-! ### An output that stays open -/

/-- An output after it has received more differences; it stays open. -/
structure Output.Received (output : Output) (found : List Difference) (after : Output) : Prop where
  /-- It still receives all. -/
  room_eq : after.room = none
  /-- It has received the differences. -/
  delivered_eq : after.delivered.toList = output.delivered.toList ++ found

namespace Output

/-- Differences received in two lots are received in one. -/
theorem Received.trans {output next after : Output} {found more : List Difference}
    (h : output.Received found next) (h' : next.Received more after) :
    output.Received (found ++ more) after := by
  refine ⟨h'.room_eq, ?_⟩
  rw [h'.delivered_eq, h.delivered_eq, List.append_assoc]

/-- An open output receives a difference. -/
theorem emit_of_open {output : Output} (hopen : output.room = none) (difference : Difference) :
    output.emit difference = (.ok (), { output with
      progress := output.progress.record difference.kind
      delivered := output.delivered.push difference }) := by
  rw [emit, hopen]

/-- An open output receives all that is found. -/
theorem exists_received_emitAll {output : Output} (hopen : output.room = none)
    (found : List Difference) :
    ∃ after, output.emitAll found = (.ok (), after) ∧ output.Received found after := by
  induction found generalizing output with
  | nil => exact ⟨output, rfl, hopen, (List.append_nil _).symm⟩
  | cons difference found ih =>
      obtain ⟨after, hafter, hreceived⟩ := @ih { output with
        progress := output.progress.record difference.kind
        delivered := output.delivered.push difference } hopen
      refine ⟨after, ?_, hreceived.room_eq, ?_⟩
      · rw [emitAll, emit_of_open hopen]
        exact hafter
      · rw [hreceived.delivered_eq, Array.toList_push, List.append_assoc, List.singleton_append]

end Output

/-! ### A comparison with a listing -/

namespace Comparison

/-- A page is compared item by item. -/
theorem exists_received_takePage {output : Output} (hopen : output.room = none)
    (comparison : Comparison) (page rest : List Item) :
    ∃ found following after, comparison.takePage output page = (.ok following, after) ∧
      output.Received found after ∧
      comparison.found (page ++ rest) = found ++ following.found rest := by
  induction page generalizing comparison output with
  | nil => exact ⟨[], comparison, output, rfl, ⟨hopen, (List.append_nil _).symm⟩, rfl⟩
  | cons item page ih =>
      obtain ⟨next, hnext, hreceived⟩ :=
        Output.exists_received_emitAll hopen (comparison.push item).1
      obtain ⟨found, following, after, hpage, hafter, hfound⟩ :=
        ih hreceived.room_eq (comparison.push item).2
      refine ⟨(comparison.push item).1 ++ found, following, after, ?_, hreceived.trans hafter, ?_⟩
      · rw [takePage]
        dsimp only
        rw [hnext]
        exact hpage
      · rw [List.cons_append, Comparison.found, hfound, List.append_assoc]

variable {σ : Type} {leader : Leader σ} {listing following : Listing} {state next after : σ}

/-- At the end of a listing the comparison ends. -/
theorem takeListing_of_done (h : listing.next leader state = (.ok none, following, after))
    (comparison : Comparison) (output : Output) :
    comparison.takeListing leader listing state output =
      ((output.emitAll comparison.finish).1, after, (output.emitAll comparison.finish).2) := by
  rw [takeListing]
  split <;> rename_i h' <;> cases h.symm.trans h'
  rfl

/-- A page of a listing is compared before the next one is asked for. -/
theorem takeListing_of_page {page : List Item}
    (h : listing.next leader state = (.ok (some page), following, next))
    {comparison comparison' : Comparison} {output output' : Output}
    (hpage : comparison.takePage output page = (.ok comparison', output')) :
    comparison.takeListing leader listing state output =
      comparison'.takeListing leader following next output' := by
  rw [takeListing]
  split <;> rename_i h' <;> cases h.symm.trans h'
  rw [hpage]

/-- **A comparison with a listing** delivers what a comparison with the items of the listing
finds. -/
theorem takeListing_of_yields {items : List Item} (h : listing.Yields leader state items after)
    {output : Output} (hopen : output.room = none) (comparison : Comparison) :
    ∃ output', comparison.takeListing leader listing state output = (.ok (), after, output') ∧
      output.Received (comparison.found items) output' := by
  induction h generalizing comparison output with
  | done hnext =>
      obtain ⟨output', hemit, hreceived⟩ :=
        Output.exists_received_emitAll hopen comparison.finish
      refine ⟨output', ?_, hreceived⟩
      rw [takeListing_of_done hnext, hemit]
  | @page listing following state next after page items hnext _ ih =>
      obtain ⟨found, rest, output₁, hpage, hreceived, hfound⟩ :=
        exists_received_takePage hopen comparison page items
      obtain ⟨output', hrest, hafter⟩ := ih hreceived.room_eq rest
      refine ⟨output', ?_, ?_⟩
      · rw [takeListing_of_page hnext hpage, hrest]
      · rw [hfound]
        exact hreceived.trans hafter

end Comparison

/-! ### A scan -/

namespace Scan

/-- What chunks find, one after the other, if no listing fails. -/
inductive Finds {σ : Type} (leader : Leader σ) (settings : ScanSettings) :
    List Chunk → σ → List Difference → σ → Prop
  | nil (state : σ) : Finds leader settings [] state [] state
  | cons {chunk : Chunk} {chunks : List Chunk} {state next after : σ} {items : List Item}
      {found : List Difference} :
      (Listing.start chunk.range settings.pageSize).Yields leader state items next →
      Finds leader settings chunks next found after →
      Finds leader settings (chunk :: chunks) state
        ((Comparison.start settings.bufferSize chunk.items).found items ++ found) after

variable {σ : Type} {leader : Leader σ} {settings : ScanSettings}

/-- A chunk delivers what it finds. -/
theorem compare?_of_finds {chunk : Option Chunk} {chunks : List Chunk} {state after : σ}
    {found : List Difference} (h : Finds leader settings (chunk.toList ++ chunks) state found after)
    {output : Output} (hopen : output.room = none) :
    ∃ first rest next output', found = first ++ rest ∧
      compare? leader settings state output chunk = (.ok (), next, output') ∧
      output.Received first output' ∧ Finds leader settings chunks next rest after := by
  cases chunk with
  | none => exact ⟨[], found, state, output, rfl, rfl, ⟨hopen, (List.append_nil _).symm⟩, h⟩
  | some chunk =>
      cases h with
      | cons hyields hrest =>
          obtain ⟨output', hcompare, hreceived⟩ :=
            @Comparison.takeListing_of_yields _ _ _ _ _ _ hyields output.countRange hopen
              (Comparison.start settings.bufferSize chunk.items)
          exact ⟨_, _, _, output', rfl, hcompare,
            ⟨hreceived.room_eq, hreceived.delivered_eq⟩, hrest⟩

/-- Where the chunk that the next item ends, if it ends one, is compared to its end, the scan goes
on after the item. -/
theorem scanFrom_of_advance {fault : Option DatabaseError} {chunker following : Chunker}
    {chunk : Option Chunk} {state next : σ} {output output' : Output} {item : Item}
    (hadvance : chunker.advance item = (.ok chunk, following))
    (hcompare : compare? leader settings state
      (output.countScanned.countSkipped following.takeSkipped.1) chunk = (.ok (), next, output'))
    (items : List Item) :
    scanFrom leader settings fault chunker state output (item :: items) =
      scanFrom leader settings fault following.takeSkipped.2 next output' items := by
  rw [scanFrom, hadvance]
  dsimp only
  rw [hcompare]

/-- **A scan delivers what its chunks find.** -/
theorem scanFrom_of_finds {chunker : Chunker} {items : List Item}
    (hnamed : ∀ item ∈ items, '/' ∈ item.key.toList) {state after : σ} {found : List Difference}
    (h : Finds leader settings (chunker.chunks items) state found after) {output : Output}
    (hopen : output.room = none) :
    ∃ output', scanFrom leader settings none chunker state output items =
      (.ok (), after, output') ∧ output.Received found output' := by
  induction items generalizing chunker state found output with
  | nil =>
      have hchunks : chunker.chunks [] = chunker.finish.1.toList ++ [] := by
        rw [Chunker.chunks, Chunker.tiles, List.filterMap_map, List.append_nil]
        exact List.filterMap_some
      rw [hchunks] at h
      obtain ⟨first, rest, next, output', rfl, hcompare, hreceived, hrest⟩ :=
        compare?_of_finds h hopen
      cases hrest
      refine ⟨output', hcompare, ?_⟩
      rw [List.append_nil]
      exact hreceived
  | cons item items ih =>
      obtain ⟨name, hname⟩ := Item.exists_name?_eq_some_iff.2 (hnamed item List.mem_cons_self)
      rw [Chunker.chunks_cons hname] at h
      obtain ⟨first, rest, next, output₁, rfl, hcompare, hreceived, hrest⟩ :=
        @compare?_of_finds _ _ _ _ _ _ _ _ h (output.countScanned.countSkipped
          (((chunker.room name.bucket).take name item).takeSkipped).1) hopen
      obtain ⟨output', hscan, hafter⟩ :=
        ih (fun other hother => hnamed other (List.mem_cons_of_mem _ hother)) hrest
          hreceived.room_eq
      refine ⟨output', ?_, hafter.room_eq, ?_⟩
      · exact (scanFrom_of_advance (Chunker.advance_eq hname) hcompare items).trans hscan
      · rw [hafter.delivered_eq, hreceived.delivered_eq, List.append_assoc]
        rfl

/-- A chunk whose listing yields items in key order finds what a merge with these items finds. -/
theorem Finds.cons_merge {chunk : Chunk} {chunks : List Chunk} {state next after : σ}
    {listed : List Item} {found : List Difference} (hchunk : AscendingByKey Item.key chunk.items)
    (hlisted : AscendingByKey Item.key listed)
    (hyields : (Listing.start chunk.range settings.pageSize).Yields leader state listed next)
    (hrest : Finds leader settings chunks next found after) :
    Finds leader settings (chunk :: chunks) state (mergeSorted chunk.items listed ++ found)
      after := by
  have hfollower : (Comparison.start settings.bufferSize chunk.items).follower.Pairwise
      fun a b => a.key ≤ b.key := hchunk.imp fun h => h.le
  have hfound : (Comparison.start settings.bufferSize chunk.items).found listed =
      mergeSorted chunk.items listed := Comparison.found_eq hfollower hlisted
  rw [← hfound]
  exact .cons hyields hrest

/-- **What chunks find at a leader that holds one store**: what a merge with the items of their
ranges finds. All requests that are made stay within the ranges. -/
theorem finds_steady {store : Store} (hstore : store.Ascending) {cap : Option Nat}
    (hcap : ∀ n, cap = some n → 1 ≤ n) (settings : ScanSettings) {chunks : List Chunk}
    (hchunks : ∀ chunk ∈ chunks, AscendingByKey Item.key chunk.items)
    (requests : List ListRequest) :
    ∃ made, (∀ request ∈ made, ∃ chunk ∈ chunks, request.Within chunk.range) ∧
      Finds (Serving.steady cap).leader settings chunks (.holding store requests)
        (chunks.flatMap fun chunk =>
          mergeSorted chunk.items (store.items.filter chunk.range.covers))
        (.holding store (requests ++ made)) := by
  induction chunks generalizing requests with
  | nil =>
      refine ⟨[], by simp, ?_⟩
      rw [List.append_nil]
      exact .nil _
  | cons chunk chunks ih =>
      obtain ⟨made, hmade, hyields⟩ := Serving.exists_yields_steady hstore hcap
        (le_max_right settings.pageSize 1) chunk.range requests
      obtain ⟨more, hmore, hfinds⟩ :=
        ih (fun other hother => hchunks other (List.mem_cons_of_mem _ hother)) (requests ++ made)
      refine ⟨made ++ more, ?_, ?_⟩
      · intro request hrequest
        rcases List.mem_append.1 hrequest with hrequest | hrequest
        · exact ⟨chunk, List.mem_cons_self, hmade request hrequest⟩
        · obtain ⟨other, hother, hwithin⟩ := hmore request hrequest
          exact ⟨other, List.mem_cons_of_mem _ hother, hwithin⟩
      · rw [List.flatMap_cons, ← List.append_assoc]
        exact .cons_merge (hchunks chunk List.mem_cons_self) (hstore.filter _) hyields hfinds

/-- **What chunks find while others write to the leader**: what one merge of all their items with
what the pages of their ranges show finds. -/
theorem finds_changing {first : Store} {later : List Store}
    (hstores : ∀ n, (storeAt first later n).Ascending) {cap : Option Nat}
    (hcap : ∀ n, cap = some n → 1 ≤ n) (settings : ScanSettings) {chunks : List Chunk}
    (hranges : (chunks.map Chunk.range).Pairwise fun r s =>
      ∀ a b : Item, r.covers a = true → s.covers b = true → a.key < b.key)
    (hascending : ∀ chunk ∈ chunks, AscendingByKey Item.key chunk.items)
    (hcovered : ∀ chunk ∈ chunks, ∀ item ∈ chunk.items, chunk.range.covers item = true)
    (requests : List ListRequest) :
    ∃ pages, Paged (chunks.map Chunk.range) pages ∧
      Finds (Serving.steady cap).leader settings chunks (.changing first later requests)
        (mergeSorted (chunks.flatMap Chunk.items)
          (itemsShown first later requests.length pages))
        (.changing first later (requests ++
          pages.map fun page => page.asked.request (max settings.pageSize 1))) := by
  induction chunks generalizing requests with
  | nil =>
      refine ⟨[], .nil, ?_⟩
      rw [List.map_nil, List.append_nil, List.flatMap_nil, mergeSorted_nil_left]
      exact .nil _
  | cons chunk chunks ih =>
      obtain ⟨hfirst, htail⟩ := List.pairwise_cons.1 hranges
      obtain ⟨pages, hpages, hyields⟩ := Serving.exists_yields_changing hstores hcap
        (le_max_right settings.pageSize 1) chunk.range requests
      obtain ⟨rest, hrest, hfinds⟩ :=
        ih htail (fun other hother => hascending other (List.mem_cons_of_mem _ hother))
          (fun other hother => hcovered other (List.mem_cons_of_mem _ hother))
          (requests ++ pages.map fun page => page.asked.request (max settings.pageSize 1))
      rw [List.length_append, List.length_map, List.append_assoc, ← List.map_append] at hfinds
      refine ⟨pages ++ rest, hpages.append hrest, ?_⟩
      -- The ranges are apart, so all that one chunk sees comes before all that the others see, and
      -- the merge of the whole can be cut there.
      have hapart : ∀ x ∈ chunk.items ++ itemsShown first later requests.length pages,
          ∀ y ∈ chunks.flatMap Chunk.items ++
            itemsShown first later (requests.length + pages.length) rest, x.key < y.key := by
        intro x hx y hy
        have hx : chunk.range.covers x = true := by
          rcases List.mem_append.1 hx with hx | hx
          · exact hcovered chunk List.mem_cons_self x hx
          · obtain ⟨range, hrange, hcovers⟩ := hpages.covers_of_mem_itemsShown hx
            exact List.mem_singleton.1 hrange ▸ hcovers
        have hy : ∃ range ∈ chunks.map Chunk.range, range.covers y = true := by
          rcases List.mem_append.1 hy with hy | hy
          · obtain ⟨other, hother, hy⟩ := List.mem_flatMap.1 hy
            exact ⟨other.range, List.mem_map_of_mem hother,
              hcovered other (List.mem_cons_of_mem _ hother) y hy⟩
          · exact hrest.covers_of_mem_itemsShown hy
        obtain ⟨range, hrange, hy⟩ := hy
        exact hfirst range hrange x y hx hy
      rw [List.flatMap_cons, itemsShown_append, mergeSorted_append hapart]
      exact .cons_merge (hascending chunk List.mem_cons_self)
        (hpages.ascending_itemsShown (List.pairwise_singleton _ _) hstores _) hyields hfinds

end Scan

end Reconcile
