import Mathlib.Data.List.Pairwise
import Reconcile.Proofs.Range

/-!
# Pages cut a range into pieces

A listing asks for a range page by page. A page that ends with an item shows the range up to that
item, and the next page asks for the rest; the last page shows all that it asks for. `Paged` follows
some ranges, one after the other, and says what each page asks for and which part of it the page
shows.

## Main results

* `Paged.any_covers`: together the pages show what the ranges contain;
* `Paged.pairwise`: if the ranges come one after the other, so do the parts that the pages show;
* `pageOf_mono` and `getElem?_pageOf`: so each key that the ranges contain is shown by one page, and
  a greater key by no earlier one.
-/

namespace Reconcile

/-- A page of a listing, by the range that it asks for and the part of it that it shows. -/
structure Page where
  asked : Range
  shown : Range

namespace Range

/-- The part of a range up to an object key. -/
def upTo (range : Range) (key : String) : Range :=
  { range with last := some key }

/-- Whether a range has an item depends on the item's key only. -/
theorem covers_congr (range : Range) {a b : Item} (h : a.key = b.key) :
    range.covers a = range.covers b := by
  simp only [covers, ListRequest.covers, h]

/-- Up to an object key of its own, a range has what it has less what lies after the key. -/
theorem contains_upTo_iff {range : Range} {key : String}
    (hkey : ∀ last, range.last = some last → key ≤ last) {name : ObjectName} :
    (range.upTo key).Contains name ↔ range.Contains name ∧ name.key ≤ key := by
  rw [Contains, Contains, upTo]
  constructor
  · rintro ⟨hbucket, hahead, hle⟩
    have hname : name.key ≤ key := hle key rfl
    exact ⟨⟨hbucket, hahead, fun last hlast => hname.trans (hkey last hlast)⟩, hname⟩
  · rintro ⟨⟨hbucket, hahead, -⟩, hname⟩
    refine ⟨hbucket, hahead, fun last hlast => ?_⟩
    obtain rfl := Option.some.inj hlast
    exact hname

/-- An item that a range has lies up to an object key of the range or after it. -/
theorem covers_upTo_or_after {range : Range} {name : ObjectName} (hname : range.Contains name)
    (item : Item) :
    ((range.upTo name.key).covers item || (range.after name.key).covers item) =
      range.covers item := by
  rw [Bool.eq_iff_iff, Bool.or_eq_true, covers_iff, covers_iff, covers_iff, ← exists_or]
  refine exists_congr fun other => ?_
  rw [contains_upTo_iff hname.2.2, contains_after_iff hname.2.1, ← and_or_left, ← and_or_left]
  have hcut : other.key ≤ name.key ∨ name.key < other.key := le_or_gt _ _
  simp only [hcut, and_true]

/-- What lies up to an object key comes before what lies after it. -/
theorem key_lt_of_upTo_of_after {range : Range} {key : String} {a b : Item}
    (ha : (range.upTo key).covers a = true) (hb : (range.after key).covers b = true) :
    a.key < b.key := by
  obtain ⟨x, hx, hxbucket, -, hxle⟩ := covers_iff.1 ha
  obtain ⟨y, hy, hybucket, hyahead, -⟩ := covers_iff.1 hb
  have hle : x.key ≤ key := hxle key rfl
  have hlt : key < y.key := of_decide_eq_true hyahead
  rw [(Item.name?_eq_some_iff.1 hx).1, (Item.name?_eq_some_iff.1 hy).1,
    ObjectName.fullKey_lt_fullKey_iff (hxbucket.trans hybucket.symm)]
  exact hle.trans_lt hlt

/-- Up to the object key of an item, a range has the items that it had up to that item. -/
theorem covers_upTo {range : Range} {item other : Item} {name : ObjectName}
    (hname : item.name? = some name) (hcovers : range.covers item = true) :
    (range.upTo name.key).covers other =
      (range.covers other && decide (other.key ≤ item.key)) := by
  have hparts := covers_upTo_or_after ((covers_iff_contains hname).1 hcovers) other
  have hafter : (range.after name.key).covers other = _ := covers_after hname hcovers
  cases hcut : (range.upTo name.key).covers other with
  | true =>
      rw [hcut, Bool.true_or] at hparts
      have hle : other.key ≤ item.key := not_lt.1 fun hlt => by
        rw [← hparts, Bool.true_and, decide_eq_true hlt] at hafter
        exact lt_irrefl _ (key_lt_of_upTo_of_after hcut hafter)
      rw [← hparts, Bool.true_and, decide_eq_true hle]
  | false =>
      rw [hcut, Bool.false_or, hafter] at hparts
      rw [← hparts, Bool.and_assoc, ← Bool.decide_and, decide_eq_false, Bool.and_false]
      exact fun h => h.1.not_ge h.2

end Range

/-! ### The pages of some ranges -/

/-- **The pages that some ranges are asked for in**, one range after the other. -/
inductive Paged : List Range → List Page → Prop
  | nil : Paged [] []
  /-- The last page of a range shows all that it asks for. -/
  | last {range : Range} {ranges : List Range} {pages : List Page} :
      Paged ranges pages → Paged (range :: ranges) (⟨range, range⟩ :: pages)
  /-- A page that ends with an object key is followed by the pages of what lies after the key. -/
  | next {range : Range} {name : ObjectName} {ranges : List Range} {pages : List Page} :
      range.Contains name → Paged (range.after name.key :: ranges) pages →
      Paged (range :: ranges) (⟨range, range.upTo name.key⟩ :: pages)

namespace Paged

variable {range : Range} {ranges more : List Range} {pages rest : List Page} {page : Page}
  {item : Item}

/-- The pages of two groups of ranges are those of the one and those of the other. -/
theorem append (h : Paged ranges pages) (hrest : Paged more rest) :
    Paged (ranges ++ more) (pages ++ rest) := by
  induction h with
  | nil => exact hrest
  | last _ ih => exact .last ih
  | next hname _ ih => exact .next hname ih

/-- A page shows part of what it asks for. -/
theorem covers_asked (h : Paged ranges pages) (hpage : page ∈ pages)
    (hshown : page.shown.covers item = true) : page.asked.covers item = true := by
  induction h with
  | nil => cases hpage
  | last _ ih =>
      rcases List.mem_cons.1 hpage with rfl | hpage
      · exact hshown
      · exact ih hpage
  | next hname _ ih =>
      rcases List.mem_cons.1 hpage with rfl | hpage
      · rw [← Range.covers_upTo_or_after hname, hshown, Bool.true_or]
      · exact ih hpage

/-- A page asks for part of one of the ranges. -/
theorem exists_asked (h : Paged ranges pages) (hpage : page ∈ pages) :
    ∃ range ∈ ranges, page.asked.bucket = range.bucket ∧
      ∀ item, page.asked.covers item = true → range.covers item = true := by
  induction h with
  | nil => cases hpage
  | @last range _ _ _ ih =>
      rcases List.mem_cons.1 hpage with rfl | hpage
      · exact ⟨range, List.mem_cons_self, rfl, fun _ => id⟩
      · obtain ⟨other, hother, hasked⟩ := ih hpage
        exact ⟨other, List.mem_cons_of_mem _ hother, hasked⟩
  | @next range name _ _ hname _ ih =>
      rcases List.mem_cons.1 hpage with rfl | hpage
      · exact ⟨range, List.mem_cons_self, rfl, fun _ => id⟩
      · obtain ⟨other, hother, hbucket, hasked⟩ := ih hpage
        rcases List.mem_cons.1 hother with rfl | hother
        · refine ⟨range, List.mem_cons_self, hbucket, fun item hitem => ?_⟩
          rw [← Range.covers_upTo_or_after hname, hasked item hitem, Bool.or_true]
        · exact ⟨other, List.mem_cons_of_mem _ hother, hbucket, hasked⟩

/-- **Together the pages show what the ranges contain.** -/
theorem any_covers (h : Paged ranges pages) (item : Item) :
    (pages.any fun page => page.shown.covers item) =
      ranges.any fun range => range.covers item := by
  induction h with
  | nil => rfl
  | last _ ih => rw [List.any_cons, List.any_cons, ih]
  | next hname _ ih =>
      rw [List.any_cons, ih, List.any_cons, List.any_cons, ← Bool.or_assoc,
        Range.covers_upTo_or_after hname]

/-- A page shows part of one of the ranges. -/
theorem exists_covers (h : Paged ranges pages) (hpage : page ∈ pages)
    (hshown : page.shown.covers item = true) : ∃ range ∈ ranges, range.covers item = true := by
  have hany : (pages.any fun page => page.shown.covers item) = true :=
    List.any_eq_true.2 ⟨page, hpage, hshown⟩
  rw [h.any_covers] at hany
  exact List.any_eq_true.1 hany

/-- **The parts that the pages show come one after the other**, if the ranges do. -/
theorem pairwise (h : Paged ranges pages)
    (hranges : ranges.Pairwise fun r s =>
      ∀ a b : Item, r.covers a = true → s.covers b = true → a.key < b.key) :
    pages.Pairwise fun p q =>
      ∀ a b : Item, p.shown.covers a = true → q.shown.covers b = true → a.key < b.key := by
  induction h with
  | nil => exact .nil
  | last hpages ih =>
      obtain ⟨hfirst, htail⟩ := List.pairwise_cons.1 hranges
      refine List.pairwise_cons.2 ⟨fun q hq a b ha hb => ?_, ih htail⟩
      obtain ⟨range, hrange, hcovers⟩ := hpages.exists_covers hq hb
      exact hfirst range hrange a b ha hcovers
  | @next range name _ _ hname hpages ih =>
      obtain ⟨hfirst, htail⟩ := List.pairwise_cons.1 hranges
      -- What a page shows, and what is left of its range after it, is within the range.
      have hwhole : ∀ item : Item, (range.upTo name.key).covers item = true ∨
          (range.after name.key).covers item = true → range.covers item = true := by
        intro item hitem
        rw [← Range.covers_upTo_or_after hname, Bool.or_eq_true]
        exact hitem
      refine List.pairwise_cons.2 ⟨fun q hq a b ha hb => ?_, ih ?_⟩
      · obtain ⟨other, hother, hcovers⟩ := hpages.exists_covers hq hb
        rcases List.mem_cons.1 hother with rfl | hother
        · exact Range.key_lt_of_upTo_of_after ha hcovers
        · exact hfirst other hother a b (hwhole a (.inl ha)) hcovers
      · refine List.pairwise_cons.2 ⟨fun other hother a b ha hb => ?_, htail⟩
        exact hfirst other hother a b (hwhole a (.inr ha)) hb

end Paged

/-! ### The page of a key -/

/-- The number of the page that shows a key. -/
def pageOf (pages : List Page) (key : String) : Nat :=
  pages.findIdx fun page => page.shown.covers ⟨key, ""⟩

section PageOf

variable {pages : List Page} {item : Item}

/-- A key that is shown is shown by its page. -/
theorem getElem?_pageOf (h : (pages.any fun page => page.shown.covers item) = true) :
    ∃ page, pages[pageOf pages item.key]? = some page ∧ page.shown.covers item = true := by
  have hcongr : ∀ page : Page, page.shown.covers ⟨item.key, ""⟩ = page.shown.covers item :=
    fun page => page.shown.covers_congr rfl
  simp only [pageOf, hcongr]
  obtain ⟨page, hpage, hshown⟩ := List.any_eq_true.1 h
  have hlt : pages.findIdx (fun page => page.shown.covers item) < pages.length :=
    List.findIdx_lt_length_of_exists ⟨page, hpage, hshown⟩
  exact ⟨_, List.getElem?_eq_getElem hlt, List.findIdx_getElem (w := hlt)⟩

variable (hpages : pages.Pairwise fun p q =>
  ∀ a b : Item, p.shown.covers a = true → q.shown.covers b = true → a.key < b.key)

include hpages

/-- A later page shows later keys. -/
theorem key_lt_of_getElem? {i j : Nat} (hij : i < j) {p q : Page} (hp : pages[i]? = some p)
    (hq : pages[j]? = some q) {a b : Item} (ha : p.shown.covers a = true)
    (hb : q.shown.covers b = true) : a.key < b.key := by
  obtain ⟨hi, rfl⟩ := List.getElem?_eq_some_iff.1 hp
  obtain ⟨hj, rfl⟩ := List.getElem?_eq_some_iff.1 hq
  exact List.pairwise_iff_getElem.1 hpages i j hi hj hij a b ha hb

/-- No other page shows a key. -/
theorem eq_pageOf {i : Nat} {page : Page} (hpage : pages[i]? = some page)
    (hshown : page.shown.covers item = true) : i = pageOf pages item.key := by
  have hany : (pages.any fun page => page.shown.covers item) = true :=
    List.any_eq_true.2 ⟨page, List.mem_of_getElem? hpage, hshown⟩
  obtain ⟨other, hother, hcovers⟩ := getElem?_pageOf hany
  rcases lt_trichotomy i (pageOf pages item.key) with hlt | heq | hgt
  · exact absurd (key_lt_of_getElem? hpages hlt hpage hother hshown hcovers) (lt_irrefl _)
  · exact heq
  · exact absurd (key_lt_of_getElem? hpages hgt hother hpage hcovers hshown) (lt_irrefl _)

/-- **A greater key is shown by no earlier page.** -/
theorem pageOf_mono {a b : Item} (ha : (pages.any fun page => page.shown.covers a) = true)
    (hb : (pages.any fun page => page.shown.covers b) = true) (hle : a.key ≤ b.key) :
    pageOf pages a.key ≤ pageOf pages b.key := by
  obtain ⟨p, hp, hpa⟩ := getElem?_pageOf ha
  obtain ⟨q, hq, hqb⟩ := getElem?_pageOf hb
  by_contra hlt
  have hkey := key_lt_of_getElem? hpages (not_le.1 hlt) hq hp hqb hpa
  exact hle.not_gt hkey

end PageOf

end Reconcile
