import Tabular.Number.Decimal

/-!
This module writes a binary64 number with the fewest decimal digits that read back as the same
number, and of those the nearest ones.
-/

namespace Tabular

namespace Binary64

/-- This function gives the least power of ten above a positive magnitude, as an exponent. -/
def decimalPoint (rank : Nat) : Int :=
  let amount := units rank
  if unit ≤ amount then Decimal.digitCount (amount / unit)
  else 1 - (Decimal.digitCount ((unit - 1) / amount) : Int)

/-- This function gives a magnitude in steps of a power of ten, as a quotient. -/
def inSteps (rank : Nat) (exponent : Int) : Nat × Nat :=
  if 0 ≤ exponent then (units rank, unit * Nat.pow 10 exponent.toNat)
  else (units rank * Nat.pow 10 (-exponent).toNat, unit)

def readsBack (rank : Nat) (digits : Nat) (exponent : Int) : Bool :=
  Decimal.toBinary64 ⟨false, digits, exponent⟩ == ofRank false rank

/-- This function chooses, of the two neighbours on a decimal grid, the nearer one that reads back.
A tie goes to the even one. -/
def neighbour? (rank : Nat) (exponent : Int) : Option Nat :=
  let (numerator, denominator) := inSteps rank exponent
  let below := numerator / denominator
  let near := roundQuotient numerator denominator
  let far := if near = below then below + 1 else below
  [near, far].find? fun digits => readsBack rank digits exponent

/-- This function tries grids with more and more digits. -/
def search (rank : Nat) (point : Int) : Nat → Nat → Option (Nat × Int)
  | _, 0 => none
  | count, room + 1 =>
      match neighbour? rank (point - count) with
      | some digits => some (digits, point - count)
      | none => search rank point (count + 1) room

/-- This function writes every digit of a magnitude. -/
def allDigits (rank : Nat) : Nat × Int := (units rank * Nat.pow 5 1074, -1074)

/-- This function drops the zeros at the end of a digit row. -/
def trimZeros (digits : Nat) (exponent : Int) : Nat → Nat × Int
  | 0 => (digits, exponent)
  | room + 1 =>
      if digits ≠ 0 ∧ digits % 10 = 0 then trimZeros (digits / 10) (exponent + 1) room
      else (digits, exponent)

/-- This function gives the digits and the power of ten of the shortest text of a magnitude. -/
def shortest (rank : Nat) : Nat × Int :=
  if rank = 0 then (0, 0)
  else
    let (digits, exponent) := (search rank (decimalPoint rank) 1 17).getD (allDigits rank)
    trimZeros digits exponent (Decimal.digitCount digits)

end Binary64

/-- A layout says which decimal exponents are written without a power of ten, and with how many
digits at least a power is written. -/
structure DecimalLayout where
  least : Int
  most : Int
  exponentWidth : Nat

namespace DecimalLayout

def zeros (count : Nat) : List Char := List.replicate count '0'

/-- This function writes the power of ten with its sign. -/
def power (layout : DecimalLayout) (exponent : Int) : List Char :=
  let digits := Nat.toDigits 10 exponent.natAbs
  'e' :: (if exponent < 0 then '-' else '+') :: zeros (layout.exponentWidth - digits.length)
    ++ digits

/-- This function writes digits whose first one has the given decimal exponent. -/
def place (layout : DecimalLayout) (digits : List Char) (leading : Int) : List Char :=
  if layout.least ≤ leading ∧ leading ≤ layout.most then
    if leading < 0 then '0' :: '.' :: zeros (-leading - 1).toNat ++ digits
    else
      let whole := leading.toNat + 1
      if digits.length ≤ whole then digits ++ zeros (whole - digits.length) ++ ['.', '0']
      else digits.take whole ++ '.' :: digits.drop whole
  else
    match digits with
    | [] => []
    | [first] => first :: layout.power leading
    | first :: rest => first :: '.' :: rest ++ layout.power leading

/-- This function writes a magnitude. -/
def magnitude (layout : DecimalLayout) (rank : Nat) : List Char :=
  let (number, exponent) := Binary64.shortest rank
  let digits := Nat.toDigits 10 number
  layout.place digits (exponent + digits.length - 1)

end DecimalLayout

namespace Binary64

/-- Numbers are written without a power of ten from 0.0001 up to sixteen whole digits, and a power
has two digits at least. -/
def layout : DecimalLayout := ⟨-4, 15, 2⟩

/-- This function writes a number. -/
def toText (x : Binary64) : String :=
  match x with
  | .nan => "nan"
  | .infinite negative => if negative then "-inf" else "inf"
  | .finite negative rank =>
      String.ofList ((if negative then ['-'] else []) ++ layout.magnitude rank)

example : (Binary64.read? "0.1").map Binary64.toText = some "0.1" := by decide +kernel

example : (Binary64.read? "5e-324").map Binary64.toText = some "5e-324" := by decide +kernel

example : (Binary64.read? "-1e16").map Binary64.toText = some "-1e+16" := by decide +kernel

end Binary64

end Tabular
