import Mathlib.Data.String.Basic
import Reconcile.Item

/-!
# The order of keys

A key is its bucket, a slash and its object key, and since a bucket holds no slash the parts can be
told from the key. Keys are ordered as texts. Within one bucket that is the order of the object
keys (`ObjectName.fullKey_lt_fullKey_iff`), and of two buckets one comes before the other with all
its keys (`ObjectName.fullKey_lt_of_bucketBefore`), so that the keys of a bucket are contiguous.

The order of two buckets is not that of their names but that of their names with a slash:
`BucketBefore`. The bucket named `a!` comes before the bucket named `a`.
-/

namespace Reconcile

/-! ### Splitting a key -/

/-- Splitting a text succeeds exactly at a first occurrence of the separator. -/
theorem splitText?_eq_some_iff {separator : Char} {text first second : String} :
    splitText? separator text = some (first, second) ↔
      text.toList = first.toList ++ separator :: second.toList ∧ separator ∉ first.toList := by
  rw [splitText?, Option.map_eq_some_iff]
  constructor
  · rintro ⟨⟨l, m⟩, hsplit, heq⟩
    obtain ⟨rfl, rfl⟩ := Prod.mk.inj heq
    simpa only [String.toList_ofList] using splitAtFirst?_eq_some_iff.1 hsplit
  · intro h
    exact ⟨(first.toList, second.toList), splitAtFirst?_eq_some_iff.2 h, by
      simp only [String.ofList_toList]⟩

namespace ObjectName

/-- A name whose bucket can be told from its key: the bucket holds no slash. -/
def Proper (name : ObjectName) : Prop :=
  '/' ∉ name.bucket.toList

instance (name : ObjectName) : Decidable name.Proper :=
  inferInstanceAs (Decidable (_ ∉ _))

/-- The characters of a full key: the bucket, a slash and the object key. -/
theorem toList_fullKey (name : ObjectName) :
    name.fullKey.toList = name.bucket.toList ++ '/' :: name.key.toList := by
  simp [fullKey]

/-- A key has a bucket and an object key exactly if it is the full key of that name. -/
theorem splitKey?_eq_some_iff {key : String} {name : ObjectName} :
    splitKey? key = some (name.bucket, name.key) ↔ key = name.fullKey ∧ name.Proper := by
  rw [splitKey?, splitText?_eq_some_iff, ← toList_fullKey, String.toList_inj, Proper]

/-- The name of a key. -/
theorem ofKey_eq_ok_iff {key : String} {name : ObjectName} :
    ofKey key = .ok name ↔ key = name.fullKey ∧ name.Proper := by
  rw [← splitKey?_eq_some_iff, ofKey]
  split
  next bucket objectKey hsplit =>
    rw [hsplit, Except.ok.injEq, Option.some.injEq]
    constructor
    · rintro rfl
      rfl
    · rintro ⟨⟩
      rfl
  next hsplit => simp [hsplit]

/-- A key without a bucket names no object. -/
theorem ofKey_of_not_mem {key : String} (h : '/' ∉ key.toList) :
    ofKey key = .error (.missingBucket key) := by
  rw [ofKey, splitKey?, splitText?, splitAtFirst?_eq_none_iff.2 h, Option.map_none]

/-- A name is that of its own full key. -/
theorem ofKey_fullKey {name : ObjectName} (h : name.Proper) : ofKey name.fullKey = .ok name :=
  ofKey_eq_ok_iff.2 ⟨rfl, h⟩

/-- Different names have different keys. -/
theorem fullKey_inj {a b : ObjectName} (ha : a.Proper) (hb : b.Proper) :
    a.fullKey = b.fullKey ↔ a = b := by
  constructor
  · intro h
    have hab := ofKey_fullKey ha
    rw [h, ofKey_fullKey hb] at hab
    exact (Except.ok.inj hab).symm
  · rintro rfl
    rfl

/-- An object of the same bucket has a name as proper. -/
theorem Proper.sibling {name : ObjectName} (h : name.Proper) (key : String) :
    (name.sibling key).Proper :=
  h

end ObjectName

/-- A key names an object exactly if it holds a slash. -/
theorem exists_name_iff {key : String} :
    (∃ name : ObjectName, key = name.fullKey ∧ name.Proper) ↔ '/' ∈ key.toList := by
  constructor
  · rintro ⟨name, rfl, -⟩
    simp [ObjectName.toList_fullKey]
  · intro h
    cases hsplit : splitAtFirst? '/' key.toList with
    | none => exact absurd h (splitAtFirst?_eq_none_iff.1 hsplit)
    | some parts =>
        refine ⟨⟨.ofList parts.1, .ofList parts.2⟩, ObjectName.splitKey?_eq_some_iff.1 ?_⟩
        rw [splitKey?, splitText?, hsplit]
        rfl

/-! ### The order of two buckets -/

/-- Whether a bucket comes before another, with all its keys. -/
def BucketBefore (a b : String) : Prop :=
  a ++ "/" < b ++ "/"

/-- No bucket comes before itself. -/
theorem BucketBefore.irrefl (a : String) : ¬BucketBefore a a :=
  lt_irrefl _

/-- Buckets of which one comes before the other differ. -/
theorem BucketBefore.ne {a b : String} (h : BucketBefore a b) : a ≠ b := by
  rintro rfl
  exact irrefl a h

/-- The order of buckets is transitive. -/
theorem BucketBefore.trans {a b c : String} (hab : BucketBefore a b) (hbc : BucketBefore b c) :
    BucketBefore a c :=
  lt_trans hab hbc

/-- Of two buckets one comes before the other. -/
theorem BucketBefore.trichotomy (a b : String) :
    BucketBefore a b ∨ a = b ∨ BucketBefore b a := by
  rcases lt_trichotomy (a ++ "/") (b ++ "/") with h | h | h
  · exact .inl h
  · exact .inr (.inl ((String.append_left_inj "/").1 h))
  · exact .inr (.inr h)

/-- What follows the first separator of two texts does not matter to their order if they differ
before. -/
theorem append_cons_lt_append_cons {separator : Char} {l m : List Char} (hl : separator ∉ l)
    (hm : separator ∉ m) (h : l ++ [separator] < m ++ [separator]) (x y : List Char) :
    l ++ separator :: x < m ++ separator :: y := by
  induction l generalizing m with
  | nil =>
      cases m with
      | nil => exact absurd h (lt_irrefl _)
      | cons d m =>
          rw [List.nil_append, List.cons_append, List.cons_lt_cons_iff] at h ⊢
          rcases h with h | ⟨rfl, -⟩
          · exact .inl h
          · exact absurd List.mem_cons_self hm
  | cons c l ih =>
      cases m with
      | nil =>
          rw [List.cons_append, List.nil_append, List.cons_lt_cons_iff] at h ⊢
          rcases h with h | ⟨rfl, -⟩
          · exact .inl h
          · exact absurd List.mem_cons_self hl
      | cons d m =>
          rw [List.cons_append, List.cons_append, List.cons_lt_cons_iff] at h ⊢
          rcases h with h | ⟨rfl, h⟩
          · exact .inl h
          · exact .inr ⟨rfl, ih (fun hc => hl (List.mem_cons_of_mem _ hc))
              (fun hd => hm (List.mem_cons_of_mem _ hd)) h⟩

/-- Texts that begin alike compare as what follows does. -/
theorem append_lt_append_iff {l x y : List Char} : l ++ x < l ++ y ↔ x < y := by
  induction l with
  | nil => rfl
  | cons c l ih => simpa using ih

namespace ObjectName

/-- All keys of a bucket come before all keys of a bucket that comes after it. -/
theorem fullKey_lt_of_bucketBefore {a b : ObjectName} (ha : a.Proper) (hb : b.Proper)
    (h : BucketBefore a.bucket b.bucket) : a.fullKey < b.fullKey := by
  rw [String.lt_iff_toList_lt, toList_fullKey, toList_fullKey]
  rw [BucketBefore, String.lt_iff_toList_lt, String.toList_append, String.toList_append] at h
  exact append_cons_lt_append_cons ha hb h _ _

/-- Within a bucket keys are ordered as their object keys are. -/
theorem fullKey_lt_fullKey_iff {a b : ObjectName} (h : a.bucket = b.bucket) :
    a.fullKey < b.fullKey ↔ a.key < b.key := by
  rw [String.lt_iff_toList_lt, String.lt_iff_toList_lt, toList_fullKey, toList_fullKey, h,
    append_lt_append_iff]
  simp

/-- The object of a version comes before the version. -/
theorem sibling_masterKey_lt {name : ObjectName} {master : String}
    (h : name.masterKey? = some master) : (name.sibling master).fullKey < name.fullKey := by
  have hbucket : (name.sibling master).bucket = name.bucket := rfl
  obtain ⟨⟨first, version⟩, hsplit, hmaster⟩ := Option.map_eq_some_iff.1 h
  subst hmaster
  obtain ⟨hkey, -⟩ := splitText?_eq_some_iff.1 hsplit
  refine (fullKey_lt_fullKey_iff hbucket).2 (String.lt_iff_toList_lt.2 ?_)
  calc first.toList = first.toList ++ [] := (List.append_nil _).symm
    _ < first.toList ++ '\x00' :: version.toList := List.append_left_lt (List.nil_lt_cons _ _)
    _ = name.key.toList := hkey.symm

/-- A key that comes before another is of the same bucket or of one that comes before. -/
theorem bucket_eq_or_bucketBefore {a b : ObjectName} (ha : a.Proper) (hb : b.Proper)
    (h : a.fullKey < b.fullKey) : b.bucket = a.bucket ∨ BucketBefore a.bucket b.bucket := by
  rcases BucketBefore.trichotomy a.bucket b.bucket with hab | hab | hab
  · exact .inr hab
  · exact .inl hab.symm
  · exact absurd (fullKey_lt_of_bucketBefore hb ha hab) h.not_gt

end ObjectName

/-! ### The objects that items name -/

namespace Item

/-- The object that an item belongs to, if its key has a bucket. -/
def name? (item : Item) : Option ObjectName :=
  (splitKey? item.key).map fun parts => ⟨parts.1, parts.2⟩

/-- An item names the object whose full key it has, cut at the first slash. -/
theorem name?_eq_some_iff {item : Item} {name : ObjectName} :
    item.name? = some name ↔ item.key = name.fullKey ∧ name.Proper := by
  rw [← ObjectName.splitKey?_eq_some_iff, name?, Option.map_eq_some_iff]
  constructor
  · rintro ⟨⟨bucket, key⟩, hsplit, rfl⟩
    exact hsplit
  · intro hsplit
    exact ⟨_, hsplit, rfl⟩

/-- An item belongs to an object exactly if its key holds a slash. -/
theorem exists_name?_eq_some_iff {item : Item} :
    (∃ name, item.name? = some name) ↔ '/' ∈ item.key.toList := by
  rw [← exists_name_iff]
  exact exists_congr fun name => name?_eq_some_iff

/-- An item without a slash in its key names no object. -/
theorem name?_eq_none_iff {item : Item} : item.name? = none ↔ '/' ∉ item.key.toList := by
  rw [← exists_name?_eq_some_iff, Option.eq_none_iff_forall_not_mem]
  exact not_exists.symm

/-- An item that comes after another has a larger object key in the same bucket, or its bucket comes
after the other's. -/
theorem bucket_of_key_lt {a b : Item} {x y : ObjectName} (ha : a.name? = some x)
    (hb : b.name? = some y) (h : a.key < b.key) :
    (y.bucket = x.bucket ∧ x.key < y.key) ∨ BucketBefore x.bucket y.bucket := by
  obtain ⟨hakey, hx⟩ := name?_eq_some_iff.1 ha
  obtain ⟨hbkey, hy⟩ := name?_eq_some_iff.1 hb
  rw [hakey, hbkey] at h
  refine (ObjectName.bucket_eq_or_bucketBefore hx hy h).imp_left fun hbucket => ⟨hbucket, ?_⟩
  rwa [← ObjectName.fullKey_lt_fullKey_iff hbucket.symm]

/-- The bucket of an item, if its key has one. -/
def bucket? (item : Item) : Option String :=
  item.name?.map ObjectName.bucket

/-- The object key of an item is that of the object it names. -/
theorem objectKey?_eq (item : Item) : item.objectKey? = item.name?.map ObjectName.key := by
  rw [objectKey?, name?, Option.map_map]
  rfl

end Item

end Reconcile
