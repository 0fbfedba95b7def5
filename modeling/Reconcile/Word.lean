/-!
# Numbers of limited size
-/

namespace Reconcile

/-- The number of numbers that so many bits can tell apart; the numbers below it fit. -/
def wordSize (bits : Nat) : Nat :=
  Nat.pow 2 bits

end Reconcile
