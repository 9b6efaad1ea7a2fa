import Tabular.Number.Binary64
import Tabular.Number.Integer

/-!
This module holds decimal numbers, their rounding to binary64 and their reading from text.
-/

namespace Tabular

/-- A decimal is a digit row times a power of ten. -/
structure Decimal where
  negative : Bool
  digits : Nat
  exponent : Int
  deriving DecidableEq, Repr

namespace Decimal

/-- This function counts the digits of a number. Zero has one. -/
def digitCount (n : Nat) : Nat := (Nat.toDigits 10 n).length

/-- This function rounds a decimal to the nearest number. Exponents far outside the range of the
format are decided first, so that no huge power is computed. -/
def toBinary64 (x : Decimal) : Binary64 :=
  if x.digits = 0 then .zero x.negative
  else
    let size := x.exponent + digitCount x.digits
    if 400 < size then .infinite x.negative
    else if size < -400 then .zero x.negative
    else if 0 ≤ x.exponent then .ofRatio x.negative (x.digits * Nat.pow 10 x.exponent.toNat) 1
    else .ofRatio x.negative x.digits (Nat.pow 10 (-x.exponent).toNat)

example : (Decimal.mk false 1 0).toBinary64 = .ofRatio false 1 1 := by decide +kernel

example : (Decimal.mk false 1 309).toBinary64 = .infinite false := by decide +kernel

end Decimal

namespace Text

/-- This function splits at the first character that the test accepts and drops that character. -/
def splitAt? (test : Char → Bool) (cs : List Char) : List Char × Option (List Char) :=
  match cs.dropWhile (fun c => !test c) with
  | [] => (cs, none)
  | _ :: rest => (cs.takeWhile (fun c => !test c), some rest)

/-- This function reads a digit row that may be empty. -/
def optionalDigits? : List Char → Option (List Nat)
  | [] => some []
  | cs => digitRow? cs

/-- This function reads a power of ten, which is zero where it is not written. -/
def exponent? : Option (List Char) → Option Int
  | none => some 0
  | some cs =>
      let signed := splitSign cs
      (digitRow? signed.2).map fun digits =>
        if signed.1 then -(numberOfDigits digits : Int) else numberOfDigits digits

/-- This function reads a magnitude with an optional fraction and an optional power of ten. -/
def decimal? (negative : Bool) (cs : List Char) : Option Decimal :=
  let (significand, power) := splitAt? (fun c => c = 'e' || c = 'E') cs
  let (whole, fraction) := splitAt? (· = '.') significand
  do
    let wholeDigits ← optionalDigits? whole
    let fractionDigits ← optionalDigits? (fraction.getD [])
    let exponent ← exponent? power
    if wholeDigits = [] ∧ fractionDigits = [] then none
    pure ⟨negative, numberOfDigits (wholeDigits ++ fractionDigits),
      exponent - fractionDigits.length⟩

def lowerAscii (cs : List Char) : List Char := cs.map Char.toLower

end Text

/-- This function reads a number from text. The names of the infinity and of NaN are read in any
case. -/
def Binary64.read? (s : String) : Option Binary64 :=
  let signed := Text.splitSign (Text.stripNumber s.toList)
  let name := String.ofList (Text.lowerAscii signed.2)
  if name = "inf" || name = "infinity" then some (.infinite signed.1)
  else if name = "nan" then some .nan
  else (Text.decimal? signed.1 signed.2).map Decimal.toBinary64

example : Binary64.read? " 1_0.5e-1 " = Binary64.read? "1.05" := by decide +kernel

example : Binary64.read? "1_.5" = none ∧ Binary64.read? "." = none := by decide +kernel

end Tabular
