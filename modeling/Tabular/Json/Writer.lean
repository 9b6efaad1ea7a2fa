import Tabular.Text.Hex
import Tabular.Value.Access

/-!
This module writes values as JSON texts in ASCII, on one line or indented.
-/

namespace Tabular.Json

/-- This function writes a code unit of sixteen bits as an escape. -/
def unitEscape (unit : Nat) : List Char := '\\' :: 'u' :: Text.hexDigits 4 unit

/-- This function writes a character by its code units. One beyond the basic plane has two. -/
def charEscape (c : Char) : List Char :=
  if c.toNat < 0x10000 then unitEscape c.toNat
  else
    let offset := c.toNat - 0x10000
    unitEscape (0xd800 + offset / 0x400) ++ unitEscape (0xdc00 + offset % 0x400)

def stringChar (c : Char) : List Char :=
  if c = '"' || c = '\\' then ['\\', c]
  else if c = '\n' then ['\\', 'n']
  else if c = '\r' then ['\\', 'r']
  else if c = '\t' then ['\\', 't']
  else if c = '\x0c' then ['\\', 'f']
  else if c = '\x08' then ['\\', 'b']
  else if 0x20 ≤ c.toNat && c.toNat < 0x7f then [c]
  else charEscape c

def string (text : String) : String :=
  String.ofList ('"' :: text.toList.flatMap stringChar ++ ['"'])

def floatText : Binary64 → String
  | .nan => "NaN"
  | .infinite negative => if negative then "-Infinity" else "Infinity"
  | value => value.toText

/-- This function writes a value that can stand for a key. -/
def keyText (key : Value) : Except Failure String :=
  match key with
  | .text text => pure text
  | .null => pure "null"
  | .bool value => pure (if value then "true" else "false")
  | .int value => pure (toString value)
  | .float value => pure (floatText value)
  | _ => throw .wrongType

/-- A layout is one line, or lines that are indented by two spaces for each level. -/
inductive Layout where
  | oneLine
  | indented
  deriving DecidableEq

def lineStart (level : Nat) : String := "\n" ++ String.ofList (List.replicate (2 * level) ' ')

/-- This function writes the items of a list or the entries of a mapping between brackets. -/
def bracket (layout : Layout) (level : Nat) (opening closing : String) (parts : List String) :
    String :=
  if parts.isEmpty then opening ++ closing
  else
    match layout with
    | .oneLine => opening ++ String.intercalate ", " parts ++ closing
    | .indented =>
        opening ++ lineStart (level + 1) ++
          String.intercalate ("," ++ lineStart (level + 1)) parts ++ lineStart level ++ closing

mutual

/-- This function writes a value. What JSON has no form for is written by `other` as a string. -/
def render (layout : Layout) (other : Value → String) (level : Nat) : Value → Except Failure String
  | .null => pure "null"
  | .bool value => pure (if value then "true" else "false")
  | .int value => pure (toString value)
  | .float value => pure (floatText value)
  | .text value => pure (string value)
  | .list items => do
      pure (bracket layout level "[" "]" (← renderItems layout other (level + 1) items))
  | .tuple items => do
      pure (bracket layout level "[" "]" (← renderItems layout other (level + 1) items))
  | .map entries => do
      pure (bracket layout level "\x7b" "\x7d" (← renderEntries layout other (level + 1) entries))
  | value => pure (string (other value))

def renderItems (layout : Layout) (other : Value → String) (level : Nat) :
    List Value → Except Failure (List String)
  | [] => pure []
  | item :: rest => do
      let first ← render layout other level item
      pure (first :: (← renderItems layout other level rest))

def renderEntries (layout : Layout) (other : Value → String) (level : Nat) :
    List (Value × Value) → Except Failure (List String)
  | [] => pure []
  | (key, value) :: rest => do
      let name ← keyText key
      let first ← render layout other level value
      pure ((string name ++ ": " ++ first) :: (← renderEntries layout other level rest))

end

/-- This function writes bytes as hexadecimal digits and all else as plain text. -/
def hexOrText : Value → String
  | .bytes bytes => String.ofList (bytes.flatMap fun byte => Text.hexDigits 2 byte.toNat)
  | value => value.toText

/-- This function writes a row on one line. -/
def rowLine (row : Value) : Except Failure String := render .oneLine hexOrText 0 row

/-- This function writes a report with indentation. -/
def report (value : Value) : Except Failure String := render .indented Value.toText 0 value

example : (rowLine (.map [("a", .bytes [0, 255])])).toOption = some "\x7b\"a\": \"00ff\"\x7d" := by
  decide +kernel

end Tabular.Json
