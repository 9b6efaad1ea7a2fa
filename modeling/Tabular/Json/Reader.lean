import Tabular.Text.Hex
import Tabular.Value.Access

/-!
This module reads JSON texts. A refused text is refused at the first place that is wrong.
-/

namespace Tabular.Json

/-- A text is refused at the place where `rest` begins, or a whole number has too many digits. -/
inductive Refusal where
  | problem (problem : JsonProblem) (rest : List Char)
  | tooLong (digits : Nat)

/-- This function refuses the text at the place where `rest` begins. -/
def refuse {α : Type} (problem : JsonProblem) (rest : List Char) : Except Refusal α :=
  throw (.problem problem rest)

def isBlank (c : Char) : Bool := c = ' ' || c = '\t' || c = '\n' || c = '\r'

def skipBlanks (cs : List Char) : List Char := cs.dropWhile isBlank

/-- This function gives the character that a short escape stands for. -/
def shortEscape? (c : Char) : Option Char :=
  match c with
  | '"' => some '"'
  | '\\' => some '\\'
  | '/' => some '/'
  | 'b' => some '\x08'
  | 'f' => some '\x0c'
  | 'n' => some '\n'
  | 'r' => some '\r'
  | 't' => some '\t'
  | _ => none

def isHighUnit (unit : Nat) : Bool := 0xd800 ≤ unit && unit < 0xdc00

def isLowUnit (unit : Nat) : Bool := 0xdc00 ≤ unit && unit < 0xe000

/-- A code unit that has no partner is replaced. -/
def unitChar (unit : Nat) : Char :=
  if isHighUnit unit || isLowUnit unit then '\ufffd' else Char.ofNat unit

/-- This function joins the code units that are pairs. -/
def joinUnits : List Nat → List Char
  | high :: low :: rest =>
      if isHighUnit high && isLowUnit low then
        Char.ofNat (0x10000 + (high - 0xd800) * 0x400 + (low - 0xdc00)) :: joinUnits rest
      else unitChar high :: joinUnits (low :: rest)
  | [unit] => [unitChar unit]
  | [] => []

/-- This function reads the units of a string after its opening quote, where `opening` is the text
from the quote on. Four digits of an escape have to be followed by another character. -/
def readUnits (opening : List Char) : List Char → Except Refusal (List Nat × List Char)
  | '"' :: rest => pure ([], rest)
  | '\\' :: 'u' :: a :: b :: c :: d :: next :: rest =>
      match Text.hexNumber? [a, b, c, d] with
      | none => refuse .unicodeEscape ('u' :: a :: b :: c :: d :: next :: rest)
      | some unit => do
          let (units, rest) ← readUnits opening (next :: rest)
          pure (unit :: units, rest)
  | '\\' :: 'u' :: rest => refuse .unicodeEscape ('u' :: rest)
  | ['\\'] => refuse .openString opening
  | '\\' :: c :: rest =>
      match shortEscape? c with
      | none => refuse .escape ('\\' :: c :: rest)
      | some plain => do
          let (units, rest) ← readUnits opening rest
          pure (plain.toNat :: units, rest)
  | c :: rest =>
      if c.toNat < 0x20 then refuse .controlCharacter (c :: rest)
      else do
        let (units, rest) ← readUnits opening rest
        pure (c.toNat :: units, rest)
  | [] => refuse .openString opening

/-- This function reads a string after its opening quote. -/
def readString (opening rest : List Char) : Except Refusal (String × List Char) := do
  let (units, rest) ← readUnits opening rest
  pure (String.ofList (joinUnits units), rest)

def digitValue (c : Char) : Nat := c.toNat - 48

def digitsValue (cs : List Char) : Nat := Text.numberOfDigits (cs.map digitValue)

/-- This function splits the digits at the start from the rest. -/
def spanDigits (cs : List Char) : List Char × List Char :=
  (cs.takeWhile Char.isDigit, cs.dropWhile Char.isDigit)

/-- This function splits a whole number. A zero at the start stands alone. -/
def spanWhole (cs : List Char) : List Char × List Char :=
  match cs with
  | '0' :: rest => (['0'], rest)
  | _ => spanDigits cs

/-- This function splits a fraction, which needs a digit after its point. -/
def spanFraction (cs : List Char) : Option (List Char) × List Char :=
  match cs with
  | '.' :: rest =>
      match spanDigits rest with
      | ([], _) => (none, cs)
      | (digits, rest) => (some digits, rest)
  | _ => (none, cs)

/-- This function splits a power of ten, which needs a digit. -/
def spanPower (cs : List Char) : Option Int × List Char :=
  match cs with
  | e :: rest =>
      if e = 'e' || e = 'E' then
        let signed := Text.splitSign rest
        match spanDigits signed.2 with
        | ([], _) => (none, cs)
        | (digits, rest) =>
            let power : Int := digitsValue digits
            (some (if signed.1 then -power else power), rest)
      else (none, cs)
  | [] => (none, cs)

/-- This function reads a number whose text begins at `start`. A point or a power makes it a
floating-point number. -/
def readNumber (start : List Char) : Except Refusal (Value × List Char) :=
  let (negative, unsigned) :=
    match start with
    | '-' :: rest => (true, rest)
    | _ => (false, start)
  match spanWhole unsigned with
  | ([], _) => refuse .value start
  | (whole, rest) =>
      let (fraction, rest) := spanFraction rest
      let (power, rest) := spanPower rest
      match fraction, power with
      | none, none =>
          if digitLimit < whole.length then throw (.tooLong whole.length)
          else
            let magnitude : Int := digitsValue whole
            pure (.int (if negative then -magnitude else magnitude), rest)
      | _, _ =>
          let decimals := fraction.getD []
          let decimal : Decimal :=
            ⟨negative, digitsValue (whole ++ decimals), power.getD 0 - decimals.length⟩
          pure (.float decimal.toBinary64, rest)

/-- These words stand for values. -/
def words : List (String × Value) :=
  [("null", .null), ("true", .bool true), ("false", .bool false), ("NaN", .float .nan),
   ("Infinity", .float (.infinite false)), ("-Infinity", .float (.infinite true))]

/-- This function reads a value that holds no other. -/
def readScalar (start : List Char) : Except Refusal (Value × List Char) :=
  match start with
  | '"' :: rest => do
      let (text, rest) ← readString start rest
      pure (.text text, rest)
  | _ =>
      match words.find? fun word => word.1.toList.isPrefixOf start with
      | some word => pure (word.2, start.drop word.1.length)
      | none => readNumber start

/-- This function reads the name of an entry and the colon behind it. -/
def readName (start : List Char) : Except Refusal (String × List Char) :=
  match start with
  | '"' :: rest => do
      let (name, rest) ← readString start rest
      match skipBlanks rest with
      | ':' :: rest => pure (name, skipBlanks rest)
      | rest => refuse .colon rest
  | _ => refuse .propertyName start

mutual

/-- This function reads a value. The fuel bounds how deep values are nested and how many follow
each other. -/
def readValue : Nat → List Char → Except Refusal (Value × List Char)
  | 0, start => refuse .value start
  | fuel + 1, '[' :: rest =>
      match skipBlanks rest with
      | ']' :: rest => pure (.list [], rest)
      | rest => do
          let (items, rest) ← readItems fuel rest
          pure (.list items, rest)
  | fuel + 1, '\x7b' :: rest =>
      match skipBlanks rest with
      | '\x7d' :: rest => pure (.map [], rest)
      | rest => do
          let (entries, rest) ← readEntries fuel rest
          pure (.map (Keyed.ofEntries entries), rest)
  | _ + 1, start => readScalar start

def readItems : Nat → List Char → Except Refusal (List Value × List Char)
  | 0, start => refuse .value start
  | fuel + 1, start => do
      let (first, rest) ← readValue fuel start
      match skipBlanks rest with
      | ']' :: rest => pure ([first], rest)
      | ',' :: rest => do
          let (items, rest) ← readItems fuel (skipBlanks rest)
          pure (first :: items, rest)
      | rest => refuse .comma rest

def readEntries : Nat → List Char → Except Refusal (List (Value × Value) × List Char)
  | 0, start => refuse .value start
  | fuel + 1, start => do
      let (name, rest) ← readName start
      let (first, rest) ← readValue fuel rest
      match skipBlanks rest with
      | '\x7d' :: rest => pure ([(.text name, first)], rest)
      | ',' :: rest => do
          let (entries, rest) ← readEntries fuel (skipBlanks rest)
          pure ((.text name, first) :: entries, rest)
      | rest => refuse .comma rest

end

/-- This function reads a whole text. -/
def readDocument (cs : List Char) : Except Refusal Value := do
  if cs.head? = some '\ufeff' then throw (.problem .byteOrderMark cs)
  let (value, rest) ← readValue (2 * cs.length + 1) (skipBlanks cs)
  match skipBlanks rest with
  | [] => pure value
  | rest => throw (.problem .extraData rest)

/-- This function gives the place of an offset in a text. -/
def placeOf (cs : List Char) (offset : Nat) : Place :=
  let before := cs.take offset
  let line := before.count '\n' + 1
  ⟨line, (before.reverse.takeWhile (· ≠ '\n')).length + 1, offset⟩

/-- This function reads a JSON text. -/
def read (text : String) : Except Failure Value :=
  let cs := text.toList
  match readDocument cs with
  | .ok value => pure value
  | .error (.problem problem rest) => throw (.json problem (placeOf cs (cs.length - rest.length)))
  | .error (.tooLong digits) => throw (.integerTooLong digits)

example : (read "[1, -2.5]").toOption =
    some (.list [.int 1, .float (Decimal.toBinary64 ⟨true, 25, -1⟩)]) := by decide +kernel

end Tabular.Json
