/-!
This module holds the numbers of the binary64 floating-point format and their exact arithmetic.
A finite magnitude is named by its rank among all finite magnitudes in rising order, so that each
number has one form. Magnitudes are counted in the least one, which is two to the power -1074.
-/

namespace Tabular

/-- This is the number of finite magnitudes, zero included. -/
def finiteCount : Nat := 2047 * Nat.pow 2 52

/-- A number of the binary64 format. -/
inductive Binary64 where
  | nan
  | infinite (negative : Bool)
  | finite (negative : Bool) (rank : Fin finiteCount)
  deriving DecidableEq, Inhabited, Repr

namespace Binary64

/-- This is the least positive magnitude as a divisor of one. -/
def unit : Nat := Nat.pow 2 1074

/-- This function gives the magnitude of a rank in units. -/
def units (rank : Nat) : Nat :=
  if rank < Nat.pow 2 52 then rank
  else (Nat.pow 2 52 + rank % Nat.pow 2 52) * Nat.pow 2 (rank / Nat.pow 2 52 - 1)

/-- This function divides and rounds to the nearest integer, where a tie goes to the even one. -/
def roundQuotient (numerator denominator : Nat) : Nat :=
  let quotient := numerator / denominator
  let twice := 2 * (numerator % denominator)
  if twice < denominator then quotient
  else if denominator < twice then quotient + 1
  else quotient + quotient % 2

/-- This function gives the rank nearest to a quotient, which may be past the finite ranks. -/
def nearestRank (numerator denominator : Nat) : Nat :=
  let shift := Nat.log2 (numerator * unit / denominator) - 52
  shift * Nat.pow 2 52 + roundQuotient (numerator * unit) (denominator * Nat.pow 2 shift)

def zero (negative : Bool) : Binary64 := .finite negative ⟨0, by decide⟩

def ofRank (negative : Bool) (rank : Nat) : Binary64 :=
  if inRange : rank < finiteCount then .finite negative ⟨rank, inRange⟩ else .infinite negative

/-- This function rounds a quotient to the nearest number. -/
def ofRatio (negative : Bool) (numerator denominator : Nat) : Binary64 :=
  ofRank negative (nearestRank numerator denominator)

/-- This function rounds an integer. It refuses one beyond the finite numbers. -/
def ofInt? (n : Int) : Option Binary64 :=
  let rank := nearestRank n.natAbs 1
  if inRange : rank < finiteCount then some (.finite (n < 0) ⟨rank, inRange⟩) else none

/-- This function drops the fraction of a finite number. -/
def truncate? : Binary64 → Option Int
  | .finite negative rank =>
      let whole : Int := (units rank / unit : Nat)
      some (if negative then -whole else whole)
  | _ => none

/-- This function multiplies and rounds the exact product. -/
def scale (x : Binary64) (factor : Nat) : Binary64 :=
  match x with
  | .finite negative rank => ofRatio negative (units rank * factor) unit
  | other => if factor = 0 then .nan else other

def isZero : Binary64 → Bool
  | .finite _ rank => rank.val == 0
  | _ => false

def isNan : Binary64 → Bool
  | .nan => true
  | _ => false

/-- This function compares as numbers: a NaN differs from itself and both zeros are equal. -/
def equal (x y : Binary64) : Bool :=
  !x.isNan && (x == y || (x.isZero && y.isZero))

/-- This function compares a number with an integer exactly. -/
def equalInt (x : Binary64) (n : Int) : Bool :=
  match x with
  | .finite negative rank =>
      (if negative then -(units rank : Int) else (units rank : Int)) == n * (unit : Int)
  | _ => false

example : ofRatio false 1 1 = .finite false ⟨1023 * 2 ^ 52, by decide⟩ := by decide +kernel

example : ofInt? (2 ^ 1024) = none := by decide +kernel

end Binary64

end Tabular
