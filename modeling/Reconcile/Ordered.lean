/-!
# Ordered lists

Lists that are kept in the order of a key of their elements. Inserting puts an element in its place
and replaces the one that has its key.
-/

namespace Reconcile

/-- Puts an element into a list that is ordered by `key`, in place of one with the same key. -/
def insertByKey {α κ : Type} [LT κ] [DecidableLT κ] [DecidableEq κ] (key : α → κ) (x : α) :
    List α → List α
  | [] => [x]
  | y :: rest =>
    if key x < key y then x :: y :: rest
    else if key x = key y then x :: rest
    else y :: insertByKey key x rest

/-- Whether a list has strictly ascending keys. -/
def AscendingByKey {α κ : Type} [LT κ] (key : α → κ) (list : List α) : Prop :=
  list.Pairwise fun a b => key a < key b

instance {α κ : Type} [LT κ] [DecidableLT κ] (key : α → κ) (list : List α) :
    Decidable (AscendingByKey key list) :=
  inferInstanceAs (Decidable (list.Pairwise _))

end Reconcile
