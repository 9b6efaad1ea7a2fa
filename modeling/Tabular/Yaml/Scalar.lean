import Tabular.Failure
import Tabular.Number.Decimal
import Tabular.Text.Hex

/-!
This module tells what a plain scalar of a YAML document stands for: null, a truth value, a number,
a date, a moment, or the text itself.
-/

namespace Tabular.Yaml

/-! ## Words -/

def nullWords : List String := ["", "~", "null", "Null", "NULL"]

def trueWords : List String :=
  ["yes", "Yes", "YES", "true", "True", "TRUE", "on", "On", "ON"]

def falseWords : List String :=
  ["no", "No", "NO", "false", "False", "FALSE", "off", "Off", "OFF"]

/-- These words have a meaning of their own that no document gives a value. -/
def reservedWords : List String := ["<<", "="]

/-! ## Digits -/

/-- This function takes `count` digits. -/
def takeDigits : Nat → List Char → Option (List Char × List Char)
  | 0, cs => some ([], cs)
  | count + 1, c :: rest =>
      if c.isDigit then (takeDigits count rest).map fun (digits, rest) => (c :: digits, rest)
      else none
  | _ + 1, [] => none

/-- This function takes one digit or two. -/
def takeShort (cs : List Char) : Option (List Char × List Char) :=
  match takeDigits 2 cs with
  | some result => some result
  | none => takeDigits 1 cs

def digitsValue (digits : List Char) : Nat := Text.numberOfDigits (digits.map fun c => c.toNat - 48)

/-- This function reads digits of a base that is at most sixteen. -/
def basedValue (base : Nat) (digits : List Char) : Nat :=
  digits.foldl (fun number c => number * base + (Text.hexValue? c).getD 0) 0

def isJoined (test : Char → Bool) (c : Char) : Bool := test c || c = '_'

def withoutJoints (cs : List Char) : List Char := cs.filter (· ≠ '_')

def isBinaryDigit (c : Char) : Bool := c = '0' || c = '1'

def isOctalDigit (c : Char) : Bool := '0' ≤ c && c ≤ '7'

def isHexDigit (c : Char) : Bool := (Text.hexValue? c).isSome

/-- This function tells whether a text starts with a digit and goes on with digits and joints. -/
def isDigitRun (cs : List Char) : Bool :=
  match cs with
  | c :: rest => c.isDigit && rest.all (isJoined Char.isDigit)
  | [] => false

/-- This function splits at every colon. -/
def splitColons : List Char → List (List Char)
  | [] => [[]]
  | c :: rest =>
      match c, splitColons rest with
      | ':', parts => [] :: parts
      | _, first :: parts => (c :: first) :: parts
      | _, [] => [[c]]

/-- This function tells whether a part counts sixtieths: one digit, or two below sixty. -/
def isSixtieth (part : List Char) : Bool :=
  match part with
  | [c] => c.isDigit
  | [tens, ones] => ('0' ≤ tens && tens ≤ '5') && ones.isDigit
  | _ => false

/-! ## Integers -/

/-- This function reads the digits of an integer after its sign. -/
def magnitude? (cs : List Char) : Option Nat :=
  match cs with
  | ['0'] => some 0
  | '0' :: 'b' :: rest =>
      if rest.all (isJoined isBinaryDigit) && rest.any isBinaryDigit then
        some (basedValue 2 (withoutJoints rest))
      else none
  | '0' :: 'x' :: rest =>
      if rest.all (isJoined isHexDigit) && rest.any isHexDigit then
        some (basedValue 16 (withoutJoints rest))
      else none
  | '0' :: rest =>
      if rest.all (isJoined isOctalDigit) then some (basedValue 8 (withoutJoints rest)) else none
  | cs =>
      match splitColons cs with
      | [] => none
      | first :: parts =>
          if isDigitRun first && parts.all isSixtieth then
            some (parts.foldl (fun number part => number * 60 + digitsValue part)
              (digitsValue (withoutJoints first)))
          else none

/-- This function reads an integer: decimal, binary, octal, hexadecimal, or in sixtieths. -/
def integer? (cs : List Char) : Option Int :=
  let (negative, digits) := Text.splitSign cs
  (magnitude? digits).map fun (magnitude : Nat) =>
    if negative then -(magnitude : Int) else magnitude

/-! ## Numbers with a fraction -/

/-- This function tells whether a text is a power of ten with its sign, or is empty. -/
def isPower (cs : List Char) : Bool :=
  match cs with
  | [] => true
  | e :: sign :: digits =>
      (e = 'e' || e = 'E') && (sign = '+' || sign = '-') && !digits.isEmpty && digits.all Char.isDigit
  | _ => false

/-- This function tells whether a text without a sign is a number with a point. -/
def isPointed (cs : List Char) : Bool :=
  let whole := cs.takeWhile (isJoined Char.isDigit)
  match cs.drop whole.length with
  | '.' :: rest =>
      isDigitRun whole && isPower (rest.dropWhile (isJoined Char.isDigit))
  | _ => false

/-- This function tells whether a text starts with its point. Such a number has no sign. -/
def startsWithPoint (cs : List Char) : Bool :=
  match cs with
  | '.' :: c :: rest => c.isDigit && isPower (rest.dropWhile (isJoined Char.isDigit))
  | _ => false

def infinityWords : List String := [".inf", ".Inf", ".INF"]

def nanWords : List String := [".nan", ".NaN", ".NAN"]

/-- This function adds a whole number to a number and rounds. -/
def addWhole (number : Binary64) (whole : Nat) : Binary64 :=
  match number with
  | .finite false rank =>
      .ofRatio false (Binary64.units rank + whole * Binary64.unit) Binary64.unit
  | number => number

/-- This function adds parts that count sixties of the part after them, from the last one on. -/
def addSixties (last : Binary64) (parts : List Nat) : Binary64 :=
  (parts.reverse.foldl (fun (sum, base) part => (addWhole sum (part * base), base * 60))
    (last, 60)).1

/-- This function reads a number in sixtieths with a point: the part with the point comes last. -/
def sixtieths? (cs : List Char) : Option Binary64 := do
  let parts := splitColons cs
  let last ← parts.getLast?
  match parts.dropLast with
  | [] => none
  | first :: middle =>
      let whole := last.takeWhile (· ≠ '.')
      if isDigitRun first && middle.all isSixtieth && isSixtieth whole && last.contains '.' &&
          (last.drop (whole.length + 1)).all (isJoined Char.isDigit) then
        let last ← Binary64.read? (String.ofList (withoutJoints last))
        some (addSixties last (digitsValue (withoutJoints first) :: middle.map digitsValue))
      else none

def negate (negative : Bool) (number : Binary64) : Binary64 :=
  match number with
  | .finite sign rank => .finite (sign != negative) rank
  | .infinite sign => .infinite (sign != negative)
  | .nan => .nan

/-- This function reads a number with a point, an infinity, or the mark for no number. -/
def float? (cs : List Char) : Option Binary64 :=
  let (negative, magnitude) := Text.splitSign cs
  let text := String.ofList magnitude
  if nanWords.contains (String.ofList cs) then some .nan
  else if infinityWords.contains text then some (.infinite negative)
  else if isPointed magnitude || startsWithPoint cs then
    (Binary64.read? (String.ofList (withoutJoints magnitude))).map (negate negative)
  else (sixtieths? magnitude).map (negate negative)

/-! ## Dates and moments -/

/-- This function drops a character that has to be there. -/
def dropChar (expected : Char) (cs : List Char) : Option (List Char) :=
  match cs with
  | c :: rest => if c = expected then some rest else none
  | [] => none

def date? (cs : List Char) : Option Date := do
  let (year, cs) ← takeDigits 4 cs
  let (month, cs) ← takeDigits 2 (← dropChar '-' cs)
  let (day, cs) ← takeDigits 2 (← dropChar '-' cs)
  if cs.isEmpty then some ⟨digitsValue year, digitsValue month, digitsValue day⟩ else none

def isGap (c : Char) : Bool := c = ' ' || c = '\t'

/-- This function reads what stands between a date and a time: the letter T, or a gap. -/
def separator? (cs : List Char) : Option (List Char) :=
  match cs with
  | 'T' :: rest | 't' :: rest => some rest
  | c :: rest => if isGap c then some (rest.dropWhile isGap) else none
  | [] => none

/-- This function reads the offset at the end of a moment. -/
def offset? (cs : List Char) : Option (Option Int) :=
  match cs, cs.dropWhile isGap with
  | [], _ => some none
  | _, ['Z'] => some (some 0)
  | _, sign :: cs => do
      let (hours, cs) ← takeShort cs
      let minutes ← match cs with
        | [] => some []
        | cs => do
            let (minutes, cs) ← takeDigits 2 (← dropChar ':' cs)
            if cs.isEmpty then some minutes else none
      let total : Int := (digitsValue hours * 60 + digitsValue minutes : Nat)
      if sign = '+' then some (some total)
      else if sign = '-' then some (some (-total))
      else none
  | _, [] => none

/-- This function reads the digits after a point as microseconds and drops those beyond. -/
def microseconds (digits : List Char) : Nat :=
  digitsValue ((digits ++ List.replicate 6 '0').take 6)

def moment? (cs : List Char) : Option Moment := do
  let (year, cs) ← takeDigits 4 cs
  let (month, cs) ← takeShort (← dropChar '-' cs)
  let (day, cs) ← takeShort (← dropChar '-' cs)
  let (hour, cs) ← takeShort (← separator? cs)
  let (minute, cs) ← takeDigits 2 (← dropChar ':' cs)
  let (second, cs) ← takeDigits 2 (← dropChar ':' cs)
  let fraction := ((dropChar '.' cs).getD []).takeWhile Char.isDigit
  let cs := ((dropChar '.' cs).map fun cs => cs.dropWhile Char.isDigit).getD cs
  let offset ← offset? cs
  some ⟨⟨digitsValue year, digitsValue month, digitsValue day⟩, digitsValue hour,
    digitsValue minute, digitsValue second, microseconds fraction, offset⟩

/-! ## Plain scalars -/

/-- What a plain scalar stands for. -/
inductive Meaning where
  | value (value : Value)
  | text
  | reserved
  deriving DecidableEq

/-- This function tells what a plain scalar stands for. -/
def meaning (plain : String) : Meaning :=
  let cs := plain.toList
  if nullWords.contains plain then .value .null
  else if trueWords.contains plain then .value (.bool true)
  else if falseWords.contains plain then .value (.bool false)
  else if reservedWords.contains plain then .reserved
  else match float? cs with
    | some number => .value (.float number)
    | none =>
        match integer? cs with
        | some whole => .value (.int whole)
        | none =>
            match date? cs with
            | some date => .value (.date date)
            | none =>
                match moment? cs with
                | some moment => .value (.moment moment)
                | none => .text

/-- This function gives the part of a value that is out of range, if it is a date or a moment. -/
def calendarProblem? (value : Value) : Option CalendarProblem :=
  match value with
  | .date date => date.problem?
  | .moment moment => moment.problem?
  | _ => none

/-- This function gives the value of a plain scalar. -/
def plainValue (plain : String) : Except Failure Value :=
  match meaning plain with
  | .value value =>
      match calendarProblem? value with
      | some problem => throw (.calendar problem)
      | none => pure value
  | .text => pure (.text plain)
  | .reserved => throw .yaml

example : meaning "off" = .value (.bool false) ∧ meaning "0x1F" = .value (.int 31) ∧
    meaning "1:30" = .value (.int 90) ∧ meaning "08" = .text := by decide +kernel

end Tabular.Yaml
