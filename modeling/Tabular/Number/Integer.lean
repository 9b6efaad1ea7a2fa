import Tabular.Text.Blank
import Tabular.Text.Digit

/-!
This module reads integers from text. Blanks may surround the number, a sign may precede it,
single underscores may part its digits, and the digits may be of any script.
-/

namespace Tabular

/-- This is the greatest number of digits that is read. The length of an integer that is written is not
looked at: all integers that are shown are taken to be no longer than this. -/
def digitLimit : Nat := 4300

namespace Text

/-- The four separator controls are blank, but not around a number. -/
def isNumberBlank (c : Char) : Bool := isBlank c && !(0x1c ≤ c.toNat && c.toNat ≤ 0x1f)

def stripNumber (cs : List Char) : List Char :=
  ((cs.dropWhile isNumberBlank).reverse.dropWhile isNumberBlank).reverse

/-- This function reads digits of any script and drops single underscores between two digits. -/
def digitRow? : List Char → Option (List Nat)
  | [] => none
  | [c] => (digit? c).map ([·])
  | c :: '_' :: rest => do pure ((← digit? c) :: (← digitRow? rest))
  | c :: rest => do pure ((← digit? c) :: (← digitRow? rest))

def numberOfDigits (digits : List Nat) : Nat :=
  digits.foldl (fun number digit => number * 10 + digit) 0

/-- This function splits a leading sign from the rest, and tells whether it is a minus. -/
def splitSign : List Char → Bool × List Char
  | '-' :: rest => (true, rest)
  | '+' :: rest => (false, rest)
  | cs => (false, cs)

end Text

/-- An integer text is read, is too long to be read, or is no integer. -/
inductive IntegerText where
  | value (n : Int)
  | tooLong (digits : Nat)
  | malformed
  deriving DecidableEq, Repr

/-- This function reads an integer. -/
def IntegerText.read (s : String) : IntegerText :=
  let signed := Text.splitSign (Text.stripNumber s.toList)
  match Text.digitRow? signed.2 with
  | none => .malformed
  | some digits =>
      if digitLimit < digits.length then .tooLong digits.length
      else
        let magnitude : Int := Text.numberOfDigits digits
        .value (if signed.1 then -magnitude else magnitude)

example : IntegerText.read " -1_2\n" = .value (-12) := by decide

example : IntegerText.read "1__2" = .malformed ∧ IntegerText.read "" = .malformed := by decide

end Tabular
