import Reconcile.Listing.Served
import Reconcile.Proofs.Paging

/-!
# What a listing yields

`Listing.Yields leader listing state items after` says that a listing comes to its end without a
failure, that its pages hold the items one page after the other, and in which state the leader is
left.

A leader that never fails, `Serving.steady`, may be written to while it is listed, so that each
request finds the next store of a sequence. It yields the range that was asked for cut into pages,
of each the items of the store that its request found (`Serving.exists_yields_changing`). If nobody
writes, these are the items of the range (`Serving.exists_yields_steady`), however small the pages
are.
-/

namespace Reconcile

/-- A listing ends without a failure; its pages hold these items. -/
inductive Listing.Yields {σ : Type} (leader : Leader σ) :
    Listing → σ → List Item → σ → Prop
  /-- The range is exhausted. -/
  | done {listing following : Listing} {state after : σ} :
      listing.next leader state = (.ok none, following, after) →
      Yields leader listing state [] after
  /-- A page comes, and then the rest. -/
  | page {listing following : Listing} {state next after : σ} {page items : List Item} :
      listing.next leader state = (.ok (some page), following, next) →
      Yields leader following next items after →
      Yields leader listing state (page ++ items) after

/-! ### Pages of a store -/

/-- Of the items of a range in key order, those after one of them are those of the range that
starts after its object key. -/
theorem filter_covers_after {items before after : List Item} {item : Item} {name : ObjectName}
    {range : Range} (hitems : AscendingByKey Item.key items) (hname : item.name? = some name)
    (hsplit : items.filter range.covers = before ++ item :: after) :
    items.filter (range.after name.key).covers = after := by
  have hascending : AscendingByKey Item.key (before ++ item :: after) :=
    hsplit ▸ hitems.filter _
  obtain ⟨-, htail, hbefore⟩ := List.pairwise_append.1 hascending
  obtain ⟨hafter, -⟩ := List.pairwise_cons.1 htail
  have hitem : item ∈ items.filter range.covers :=
    hsplit ▸ List.mem_append_right _ List.mem_cons_self
  have hcovers := (List.mem_filter.1 hitem).2
  calc items.filter (range.after name.key).covers
      = (items.filter range.covers).filter (fun other => decide (item.key < other.key)) := by
        rw [List.filter_filter]
        refine List.filter_congr fun other _ => ?_
        rw [Range.covers_after hname hcovers, Bool.and_comm]
    _ = after := by
        rw [hsplit, List.append_cons]
        refine filter_append_eq_right (fun other hother => ?_) fun other hother => ?_
        · rcases List.mem_append.1 hother with hother | hother
          · exact decide_eq_false (hbefore other hother item List.mem_cons_self).not_gt
          · exact decide_eq_false (List.mem_singleton.1 hother ▸ lt_irrefl _)
        · exact decide_eq_true (hafter other hother)

/-- The number of items that a page may have. -/
def pageLimit (cap : Option Nat) (limit : Nat) : Nat :=
  cap.elim limit (min limit)

/-- If neither the server nor the request forbids it, a page may have an item. -/
theorem one_le_pageLimit {cap : Option Nat} {limit : Nat} (hcap : ∀ n, cap = some n → 1 ≤ n)
    (hlimit : 1 ≤ limit) : 1 ≤ pageLimit cap limit := by
  cases cap with
  | none => exact hlimit
  | some n => exact le_min hlimit (hcap n rfl)

/-- A store answers with the items that the range covers, in their order, and no more than the limit
and the cap allow. -/
theorem Store.list_request (store : Store) (cap : Option Nat) (range : Range) (limit : Nat) :
    store.list cap (range.request limit) =
      (store.items.filter range.covers).take (pageLimit cap limit) :=
  rfl

/-- A page is empty only if nothing is asked for. Otherwise what follows it is what lies after the
object key that it ends with. -/
theorem Store.list_cases {store : Store} (hstore : store.Ascending) (range : Range) {limit : Nat}
    {cap : Option Nat} (hlimit : 1 ≤ pageLimit cap limit) :
    (store.items.filter range.covers = [] ∧ store.list cap (range.request limit) = []) ∨
      ∃ name : ObjectName, lastObjectKey? (store.list cap (range.request limit)) = some name.key ∧
        range.Contains name ∧
        store.items.filter range.covers = store.list cap (range.request limit) ++
          store.items.filter (range.after name.key).covers := by
  rw [Store.list_request]
  generalize pageLimit cap limit = size at hlimit
  have hcut := List.take_append_drop size (store.items.filter range.covers)
  rcases List.eq_nil_or_concat' ((store.items.filter range.covers).take size) with
    hnil | ⟨page, item, hpage⟩
  · have hempty := (List.take_eq_nil_iff.1 hnil).resolve_left (by omega)
    exact .inl ⟨hempty, hnil⟩
  · have hsplit : store.items.filter range.covers =
        page ++ item :: (store.items.filter range.covers).drop size := by
      rw [List.append_cons, ← hpage, hcut]
    have hitem : item ∈ store.items.filter range.covers :=
      hsplit ▸ List.mem_append_right _ List.mem_cons_self
    obtain ⟨name, hname, hcontains⟩ := Range.covers_iff.1 (List.mem_filter.1 hitem).2
    refine .inr ⟨name, ?_, hcontains, ?_⟩
    · rw [hpage, lastObjectKey?, List.getLast?_concat, Option.bind_some, Item.objectKey?_eq, hname]
      rfl
    · rw [filter_covers_after hstore hname hsplit, hcut]

/-- Nothing lies after the last object key of a range. -/
theorem filter_covers_after_last {items : List Item} {range : Range} {key : String}
    (h : range.last = some key) : items.filter (range.after key).covers = [] := by
  refine List.filter_eq_nil_iff.2 fun item _ hcovers => ?_
  obtain ⟨name, -, -, hahead, hlast⟩ := Range.covers_iff.1 hcovers
  exact absurd (hlast key h) (not_le.2 (of_decide_eq_true hahead))

/-- A page shows what the store has in the range up to the object key that the page ends with. -/
theorem Store.filter_upTo {store : Store} (hstore : store.Ascending) {range : Range}
    {name : ObjectName} {page : List Item} (hcontains : range.Contains name)
    (hsplit : store.items.filter range.covers =
      page ++ store.items.filter (range.after name.key).covers) :
    store.items.filter (range.upTo name.key).covers = page := by
  have hcut : store.items.filter (range.upTo name.key).covers ++
      store.items.filter (range.after name.key).covers = store.items.filter range.covers := by
    rw [AscendingByKey.filter_append_filter hstore
      fun a _ b _ ha hb => Range.key_lt_of_upTo_of_after ha hb]
    exact List.filter_congr fun item _ => Range.covers_upTo_or_after hcontains item
  exact List.append_cancel_right (hcut.trans hsplit)

/-! ### A leader that others write to -/

/-- How a leader answers that never fails; its pages may be capped. -/
def Serving.steady (cap : Option Nat) : Serving :=
  ⟨cap, fun _ => none⟩

/-- The store that a request finds, by the number of the requests before it. The last one stays. -/
def storeAt (first : Store) (later : List Store) (n : Nat) : Store :=
  (later.take n).getLastD first

/-- A leader that others write to between the requests, after some requests. -/
def Served.changing (first : Store) (later : List Store) (requests : List ListRequest) : Served :=
  ⟨.stores (storeAt first later requests.length) (later.drop requests.length), requests.toArray⟩

/-- A leader that holds a store to which nobody writes, after some requests. -/
def Served.holding (store : Store) (requests : List ListRequest) : Served :=
  ⟨.stores store [], requests.toArray⟩

/-- A store to which nobody writes stays. -/
theorem storeAt_nil (store : Store) (n : Nat) : storeAt store [] n = store := by
  rw [storeAt, List.take_nil]
  rfl

/-- A leader without later stores holds its first one. -/
theorem Served.changing_nil (store : Store) (requests : List ListRequest) :
    changing store [] requests = holding store requests := by
  rw [changing, storeAt_nil, List.drop_nil]
  rfl

section Changing

variable {first : Store} {later : List Store} {cap : Option Nat} {requests : List ListRequest}

/-- A request is answered from the store that it finds, and the next one finds the next store. -/
theorem PageSource.page_storeAt (cap : Option Nat) (request : ListRequest) (first : Store)
    (later : List Store) (n : Nat) :
    PageSource.page cap request (.stores (storeAt first later n) (later.drop n)) =
      ((storeAt first later n).list cap request,
        .stores (storeAt first later (n + 1)) (later.drop (n + 1))) := by
  cases hdrop : later.drop n with
  | nil =>
      have hlength : later.length ≤ n := List.drop_eq_nil_iff.1 hdrop
      have hstays : storeAt first later (n + 1) = storeAt first later n := by
        rw [storeAt, storeAt, List.take_of_length_le hlength,
          List.take_of_length_le (by omega)]
      rw [hstays, List.drop_eq_nil_iff.2 (by omega : later.length ≤ n + 1)]
      rfl
  | cons next rest =>
      have hnext : later[n]? = some next := by
        rw [← List.head?_drop, hdrop]
        rfl
      have hrest : later.drop (n + 1) = rest := by
        rw [← List.tail_drop, hdrop]
        rfl
      have hstore : storeAt first later (n + 1) = next := by
        rw [storeAt, List.take_add_one, hnext, Option.toList_some, List.getLastD_concat]
      rw [hrest, hstore]
      rfl

/-- A request is answered from the store of its moment, and noted. -/
theorem Serving.list_changing (cap : Option Nat) (request : ListRequest) (first : Store)
    (later : List Store) (requests : List ListRequest) :
    (Serving.steady cap).leader.list request (.changing first later requests) =
      (.ok ((storeAt first later requests.length).list cap request),
        .changing first later (requests ++ [request])) := by
  have hpage := PageSource.page_storeAt cap request first later requests.length
  have hanswer : (Serving.steady cap).leader.list request (.changing first later requests) =
      (.ok (PageSource.page cap request (Served.changing first later requests).source).1,
        ⟨(PageSource.page cap request (Served.changing first later requests).source).2,
          requests.toArray.push request⟩) := rfl
  rw [hanswer, Served.changing, hpage, Served.changing, List.length_append, List.push_toArray]
  rfl

/-- A listing that is done asks for nothing. -/
theorem Listing.next_done {σ : Type} (leader : Leader σ) (request : ListRequest) (state : σ) :
    Listing.next ⟨request, true⟩ leader state = (.ok none, ⟨request, true⟩, state) :=
  rfl

/-- The next page of such a leader, where nothing is left. -/
theorem Listing.next_changing_nil {request : ListRequest}
    (hpage : (storeAt first later requests.length).list cap request = []) :
    Listing.next ⟨request, false⟩ (Serving.steady cap).leader (.changing first later requests) =
      (.ok none, ⟨request, true⟩, .changing first later (requests ++ [request])) := by
  rw [Listing.next, if_neg Bool.false_ne_true, Serving.list_changing]
  dsimp only
  rw [hpage]
  rfl

/-- The next page of such a leader, where something is left. -/
theorem Listing.next_changing {range : Range} {limit : Nat} {key : String}
    (hkey : lastObjectKey? ((storeAt first later requests.length).list cap
      (range.request limit)) = some key) :
    Listing.next ⟨range.request limit, false⟩ (Serving.steady cap).leader
        (.changing first later requests) =
      (.ok (some ((storeAt first later requests.length).list cap (range.request limit))),
        ⟨(range.after key).request limit, range.last == some key⟩,
        .changing first later (requests ++ [range.request limit])) := by
  rw [Listing.next, if_neg Bool.false_ne_true, Serving.list_changing]
  dsimp only
  rw [hkey]
  rfl

/-- The items of the pages of some ranges, each page from the store that its request finds; the
first request has a number. -/
def itemsShown (first : Store) (later : List Store) (n : Nat) (pages : List Page) : List Item :=
  (pages.zipIdx n).flatMap fun page =>
    (storeAt first later page.2).items.filter page.1.shown.covers

/-- What the pages show is what the first of them shows at its moment, and then what the others
show. -/
theorem itemsShown_cons (first : Store) (later : List Store) (n : Nat) (page : Page)
    (pages : List Page) :
    itemsShown first later n (page :: pages) =
      (storeAt first later n).items.filter page.shown.covers ++
        itemsShown first later (n + 1) pages := by
  rw [itemsShown, List.zipIdx_cons, List.flatMap_cons]
  rfl

/-- Pages in two groups show what each group shows, the second at later moments. -/
theorem itemsShown_append (first : Store) (later : List Store) (n : Nat) (pages rest : List Page) :
    itemsShown first later n (pages ++ rest) =
      itemsShown first later n pages ++ itemsShown first later (n + pages.length) rest := by
  rw [itemsShown, List.zipIdx_append, List.flatMap_append]
  rfl

/-- An item is shown if a page covers it and the store of that moment has it. -/
theorem mem_itemsShown_iff {n : Nat} {pages : List Page} {item : Item} :
    item ∈ itemsShown first later n pages ↔ ∃ page i, (page, i) ∈ pages.zipIdx n ∧
      page.shown.covers item = true ∧ item ∈ (storeAt first later i).items := by
  rw [itemsShown, List.mem_flatMap]
  constructor
  · rintro ⟨⟨page, i⟩, hpage, hitem⟩
    obtain ⟨hstored, hcovers⟩ := List.mem_filter.1 hitem
    exact ⟨page, i, hpage, hcovers, hstored⟩
  · rintro ⟨page, i, hpage, hcovers, hstored⟩
    exact ⟨(page, i), hpage, List.mem_filter.2 ⟨hstored, hcovers⟩⟩

/-- What the pages of some ranges show lies in the ranges. -/
theorem Paged.covers_of_mem_itemsShown {ranges : List Range} {pages : List Page}
    (h : Paged ranges pages) {n : Nat} {item : Item}
    (hitem : item ∈ itemsShown first later n pages) :
    ∃ range ∈ ranges, range.covers item = true := by
  obtain ⟨page, i, hpage, hcovers, -⟩ := mem_itemsShown_iff.1 hitem
  exact h.exists_covers (List.fst_mem_of_mem_zipIdx hpage) hcovers

/-- What the pages of ranges show that come one after the other comes in key order. -/
theorem Paged.ascending_itemsShown {ranges : List Range} {pages : List Page}
    (h : Paged ranges pages)
    (hranges : ranges.Pairwise fun r s =>
      ∀ a b : Item, r.covers a = true → s.covers b = true → a.key < b.key)
    (hstores : ∀ n, (storeAt first later n).Ascending) (n : Nat) :
    AscendingByKey Item.key (itemsShown first later n pages) := by
  have hpages : ((pages.zipIdx n).map Prod.fst).Pairwise fun p q =>
      ∀ a b : Item, p.shown.covers a = true → q.shown.covers b = true → a.key < b.key := by
    rw [List.zipIdx_map_fst]
    exact h.pairwise hranges
  refine List.pairwise_flatMap.2 ⟨fun page _ => (hstores page.2).filter _, ?_⟩
  refine (List.pairwise_map.1 hpages).imp fun hpq a ha b hb => ?_
  exact hpq a b (List.mem_filter.1 ha).2 (List.mem_filter.1 hb).2

/-- **What a leader yields while others write to it**: the range cut into pages, and of each page
the items of the store that its request finds. -/
theorem Serving.exists_yields_changing (hstores : ∀ n, (storeAt first later n).Ascending)
    (hcap : ∀ n, cap = some n → 1 ≤ n) {limit : Nat} (hlimit : 1 ≤ limit) (range : Range)
    (requests : List ListRequest) :
    ∃ pages, Paged [range] pages ∧
      Listing.Yields (Serving.steady cap).leader ⟨range.request limit, false⟩
        (.changing first later requests) (itemsShown first later requests.length pages)
        (.changing first later (requests ++ pages.map fun page => page.asked.request limit)) := by
  -- each page with an end lowers the bound on the pages that are left
  induction hn : Listing.pagesLeft ⟨range.request limit, false⟩ (Serving.steady cap).leader
    (.changing first later requests) using Nat.strong_induction_on generalizing range requests with
  | _ n ih =>
      have hpageLimit : 1 ≤ pageLimit cap limit := one_le_pageLimit hcap hlimit
      rcases Store.list_cases (hstores requests.length) range hpageLimit with
        ⟨hnone, hpage⟩ | ⟨name, hkey, hcontains, hsplit⟩
      · refine ⟨[⟨range, range⟩], .last .nil, ?_⟩
        have hshown : itemsShown first later requests.length [⟨range, range⟩] = [] := by
          rw [itemsShown_cons, hnone]
          rfl
        rw [hshown]
        exact .done (Listing.next_changing_nil hpage)
      · have hnext := @Listing.next_changing first later cap requests range limit name.key hkey
        by_cases hlast : range.last = some name.key
        · refine ⟨[⟨range, range⟩], .last .nil, ?_⟩
          rw [hlast, beq_self_eq_true] at hnext
          rw [itemsShown_cons, hsplit, filter_covers_after_last hlast, List.append_nil]
          exact .page hnext (.done (Listing.next_done _ _ _))
        · rw [beq_eq_false_iff_ne.2 hlast] at hnext
          have hfewer := hn ▸ Listing.pagesLeft_lt hnext
          obtain ⟨pages, hpaged, hyields⟩ := ih _ hfewer (range.after name.key)
            (requests ++ [range.request limit]) rfl
          refine ⟨⟨range, range.upTo name.key⟩ :: pages, .next hcontains hpaged, ?_⟩
          have hshown : (storeAt first later requests.length).items.filter
              (range.upTo name.key).covers =
              (storeAt first later requests.length).list cap (range.request limit) :=
            Store.filter_upTo (hstores _) hcontains hsplit
          rw [itemsShown_cons, hshown, List.map_cons, List.append_cons]
          rw [List.length_append, List.length_singleton] at hyields
          exact .page hnext hyields

end Changing

/-! ### A leader to which nobody writes -/

/-- A request that stays within a range. -/
def ListRequest.Within (request : ListRequest) (range : Range) : Prop :=
  request.bucket = range.bucket ∧ ∀ item, request.covers item = true → range.covers item = true

/-- What the pages of a range show of one store is what the store has in the range. -/
theorem itemsShown_nil {store : Store} (hstore : store.Ascending) {range : Range}
    {pages : List Page} (h : Paged [range] pages) (n : Nat) :
    itemsShown store [] n pages = store.items.filter range.covers := by
  have hpairwise : pages.Pairwise fun p q =>
      ∀ a b : Item, p.shown.covers a = true → q.shown.covers b = true → a.key < b.key :=
    h.pairwise (List.pairwise_singleton _ _)
  calc itemsShown store [] n pages
      = ((pages.zipIdx n).map Prod.fst).flatMap fun page =>
          store.items.filter page.shown.covers := by
        rw [itemsShown, List.flatMap_map]
        exact List.flatMap_congr fun page _ => by rw [storeAt_nil]
    _ = pages.flatMap fun page => store.items.filter page.shown.covers := by
        rw [List.zipIdx_map_fst]
    _ = store.items.filter fun item => pages.any fun page => page.shown.covers item :=
        AscendingByKey.flatMap_filter hstore (hpairwise.imp fun h a _ b _ => h a b)
    _ = store.items.filter range.covers := by
        refine List.filter_congr fun item _ => ?_
        rw [h.any_covers, List.any_cons, List.any_nil, Bool.or_false]

/-- **What a steady leader yields**: all items of the range, with requests that stay within it. -/
theorem Serving.exists_yields_steady {store : Store} (hstore : store.Ascending)
    {cap : Option Nat} (hcap : ∀ n, cap = some n → 1 ≤ n) {limit : Nat} (hlimit : 1 ≤ limit)
    (range : Range) (requests : List ListRequest) :
    ∃ made : List ListRequest, (∀ request ∈ made, request.Within range) ∧
      Listing.Yields (Serving.steady cap).leader ⟨range.request limit, false⟩
        (.holding store requests) (store.items.filter range.covers)
        (.holding store (requests ++ made)) := by
  have hstores : ∀ n, (storeAt store [] n).Ascending := fun n => (storeAt_nil store n).symm ▸ hstore
  obtain ⟨pages, hpaged, hyields⟩ :=
    Serving.exists_yields_changing hstores hcap hlimit range requests
  rw [itemsShown_nil hstore hpaged, Served.changing_nil, Served.changing_nil] at hyields
  refine ⟨_, fun request hrequest => ?_, hyields⟩
  obtain ⟨page, hpage, rfl⟩ := List.mem_map.1 hrequest
  obtain ⟨other, hother, hbucket, hasked⟩ := hpaged.exists_asked hpage
  obtain rfl := List.mem_singleton.1 hother
  exact ⟨hbucket, hasked⟩

end Reconcile
