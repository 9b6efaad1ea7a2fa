import Tabular.Value.Display
import Tabular.Yaml.Quoted

/-!
This module writes values as YAML documents in block style. A sequence below a key is not indented, and
empty collections are written in brackets.
-/

namespace Tabular.Yaml

/-- This function writes a number with a fraction. A power of ten always follows a point. -/
def floatText : Binary64 → String
  | .nan => ".nan"
  | .infinite negative => if negative then "-.inf" else ".inf"
  | number =>
      let cs := number.toText.toList
      if cs.contains '.' then number.toText
      else String.ofList (cs.flatMap fun c => if c = 'e' then ['.', '0', 'e'] else [c])

/-- This function writes a value that is no collection, from a column on. -/
def scalarText (isKey : Bool) (indent column : Nat) (value : Value) : List Char :=
  match value with
  | .null => "null".toList
  | .bool flag => (if flag then "true" else "false").toList
  | .float number => (floatText number).toList
  | .text text => textScalar isKey indent column text
  | value => value.toText.toList

/-- This function counts the characters of the mark for the type of a key. -/
def markLength : Value → Nat
  | .null | .bool _ => 6
  | .float _ => 7
  | .date _ | .moment _ => 11
  | _ => 5

/-- A key that is short and has one line stands before its colon, and any other one after a question
mark. -/
def isSimpleKey (key : Value) : Bool :=
  match key with
  | .text text =>
      text ≠ "" && !text.toList.contains '\n' && markLength key + text.length < 128
  | key => markLength key + key.toText.length < 128

mutual

/-- This function writes a value that starts on the current line, at a column, without the end of its last
line. The lines of a collection start at that column. -/
def compact (column : Nat) : Value → List Char
  | .map [] => ['\x7b', '\x7d']
  | .map entries => writeEntries column entries
  | .list [] => ['[', ']']
  | .list items => writeItems column items
  | .tuple [] => ['[', ']']
  | .tuple items => writeItems column items
  | value => scalarText false column column value

/-- This function writes what follows the colon of a key whose colon ends before a column. -/
def belowKey (indent column : Nat) : Value → List Char
  | .map [] => " \x7b\x7d".toList
  | .map entries => newLine (indent + 2) ++ writeEntries (indent + 2) entries
  | .list [] => " []".toList
  | .list items => newLine indent ++ writeItems indent items
  | .tuple [] => " []".toList
  | .tuple items => newLine indent ++ writeItems indent items
  | value => ' ' :: scalarText false (indent + 2) (column + 1) value

/-- This function writes one entry of a mapping. -/
def writeEntry (indent : Nat) : Value × Value → List Char
  | (key, value) =>
      if isSimpleKey key then
        let name := scalarText true indent indent key
        name ++ ':' :: belowKey indent (indent + name.length + 1) value
      else
        ['?', ' '] ++ scalarText false (indent + 2) (indent + 2) key ++ newLine indent ++
          [':', ' '] ++ compact (indent + 2) value

/-- This function writes the entries of a mapping, the first one on the current line. -/
def writeEntries (indent : Nat) : List (Value × Value) → List Char
  | [] => []
  | [entry] => writeEntry indent entry
  | entry :: rest => writeEntry indent entry ++ newLine indent ++ writeEntries indent rest

/-- This function writes the items of a sequence, the first one on the current line. -/
def writeItems (indent : Nat) : List Value → List Char
  | [] => []
  | [item] => ['-', ' '] ++ compact (indent + 2) item
  | item :: rest =>
      ['-', ' '] ++ compact (indent + 2) item ++ newLine indent ++ writeItems indent rest

end

/-- This function tells whether a value is written as a plain scalar. -/
def isPlainScalar : Value → Bool
  | .text text => textStyle false text = .plain
  | .list _ | .tuple _ | .map _ => false
  | _ => true

/-- This function writes a document. A plain scalar alone is followed by the mark of the end. -/
def write (value : Value) : String :=
  String.ofList (compact 0 value ++ ['\n'] ++ if isPlainScalar value then "...\n".toList else [])

example : write (.map [(.text "a", .list [.map [(.text "b", .null), (.text "c", .int 1)], .list []])])
    = "a:\n- b: null\n  c: 1\n- []\n" := by decide +kernel

end Tabular.Yaml
