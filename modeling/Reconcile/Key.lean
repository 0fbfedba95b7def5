import Reconcile.Text.Quoted

/-!
# Keys

A key names an object by its bucket and its object key, with the first slash between them. Object
keys may hold slashes; a bucket holds none. The object key of one version of an object is the key
of the object, a NUL, and the version's id; the object itself is then the version's *master*.

Keys are ordered as texts, which is the order of their UTF-8 bytes.
-/

namespace Reconcile

/-- The texts before and after the first occurrence of a character. -/
def splitAtFirst? (separator : Char) : List Char → Option (List Char × List Char)
  | [] => none
  | c :: rest =>
    if c = separator then some ([], rest)
    else (splitAtFirst? separator rest).map fun parts => (c :: parts.1, parts.2)

/-- Splitting succeeds exactly at a first occurrence: nothing is lost, and the separator does not
occur in the first part. -/
theorem splitAtFirst?_eq_some_iff {separator : Char} {text first second : List Char} :
    splitAtFirst? separator text = some (first, second) ↔
      text = first ++ separator :: second ∧ separator ∉ first := by
  induction text generalizing first with
  | nil => simp [splitAtFirst?]
  | cons c rest ih =>
    rw [splitAtFirst?]
    split
    next h =>
      subst h
      constructor
      · rintro ⟨⟩; simp
      · rintro ⟨h, hc⟩
        cases first with
        | nil => simp_all
        | cons d first => simp_all
    next h =>
      rw [Option.map_eq_some_iff]
      constructor
      · rintro ⟨⟨a, b⟩, hab, heq⟩
        obtain ⟨rfl, rfl⟩ := Prod.mk.inj heq
        obtain ⟨rfl, hn⟩ := ih.1 hab
        simp_all [Ne.symm h]
      · rintro ⟨heq, hn⟩
        cases first with
        | nil => simp_all
        | cons d first =>
          rw [List.cons_append, List.cons.injEq] at heq
          obtain ⟨rfl, rfl⟩ := heq
          exact ⟨(first, second), ih.2 ⟨rfl, fun hm => hn (List.mem_cons_of_mem _ hm)⟩, rfl⟩

/-- A text without the separator cannot be split at it. -/
theorem splitAtFirst?_eq_none_iff {separator : Char} {text : List Char} :
    splitAtFirst? separator text = none ↔ separator ∉ text := by
  induction text with
  | nil => simp [splitAtFirst?]
  | cons c rest ih =>
    rw [splitAtFirst?]
    split
    next h => simp [h]
    next h => simp [ih, Ne.symm h]

/-- The texts before and after the first occurrence of a character. -/
def splitText? (separator : Char) (text : String) : Option (String × String) :=
  (splitAtFirst? separator text.toList).map fun parts =>
    (String.ofList parts.1, String.ofList parts.2)

/-- The bucket and the object key of a key, if it has a bucket. -/
def splitKey? (key : String) : Option (String × String) :=
  splitText? '/' key

/-- Why a text names no object. -/
inductive KeyError where
  /-- The key has no slash, so it has no bucket. -/
  | missingBucket (key : String)
  deriving DecidableEq, Repr

/-- The wording of a key error. -/
def KeyError.message : KeyError → String
  | .missingBucket key => "key " ++ Quoted.quote key ++ " has no bucket prefix"

/-- The name of an object: its bucket and its object key. -/
structure ObjectName where
  bucket : String
  key : String
  deriving DecidableEq, Repr, Inhabited

namespace ObjectName

/-- The object that a key names. -/
def ofKey (key : String) : Except KeyError ObjectName :=
  match splitKey? key with
  | some (bucket, objectKey) => .ok ⟨bucket, objectKey⟩
  | none => .error (.missingBucket key)

/-- The key that names an object. -/
def fullKey (name : ObjectName) : String :=
  name.bucket ++ "/" ++ name.key

/-- For one version of an object, the object key of the object. -/
def masterKey? (name : ObjectName) : Option String :=
  (splitText? '\x00' name.key).map (·.1)

/-- For one version of an object, the id of the version. -/
def versionId? (name : ObjectName) : Option String :=
  (splitText? '\x00' name.key).map (·.2)

/-- The object of the same bucket that has another object key. -/
def sibling (name : ObjectName) (key : String) : ObjectName :=
  { name with key }

/-- The name as it is shown to a person. The object key is escaped, since the separator of a
version does not show; the bucket is not. -/
def render (name : ObjectName) : String :=
  name.bucket ++ "/" ++ Quoted.ascii name.key

/-- The order of a store: by bucket, then by object key. -/
def precedes (a b : ObjectName) : Bool :=
  a.bucket < b.bucket || (a.bucket == b.bucket && a.key < b.key)

end ObjectName

end Reconcile
