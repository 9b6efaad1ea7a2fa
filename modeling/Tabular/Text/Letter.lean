import Tabular.Text.LetterTable

/-!
This module changes the case of texts by the full Unicode mappings, in which one letter may become
several and a capital sigma at the end of a word becomes the final sigma.
-/

namespace Tabular.Text

def expansion? (expansions : List (Nat × List Nat)) (code : Nat) : Option (List Char) :=
  (expansions.find? fun entry => entry.1 == code).map fun entry => entry.2.map Char.ofNat

def mapLetter (shifts : List Shift) (expansions : List (Nat × List Nat)) (c : Char) : List Char :=
  match Shift.apply? shifts c.toNat with
  | some code => [Char.ofNat code]
  | none => (expansion? expansions c.toNat).getD [c]

def upperLetter (c : Char) : List Char :=
  if c.toNat < 128 then [c.toUpper] else mapLetter upperShifts upperExpansions c

def lowerLetter (c : Char) : List Char :=
  if c.toNat < 128 then [c.toLower] else mapLetter lowerShifts lowerExpansions c

/-- This function tells whether the next character that is not skipped has case. -/
def nearCased (cs : List Char) : Bool :=
  match cs.dropWhile fun c => Range.contains skippedRanges c.toNat with
  | [] => false
  | c :: _ => Range.contains casedRanges c.toNat

/-- This function maps the rest of a text, where `before` holds the passed characters, nearest first. -/
def lowerList (before : List Char) : List Char → List Char
  | [] => []
  | c :: rest =>
      (if c = 'Σ' then [if nearCased before && !nearCased rest then 'ς' else 'σ'] else lowerLetter c)
        ++ lowerList (c :: before) rest

def upper (s : String) : String := String.ofList (s.toList.flatMap upperLetter)

def lower (s : String) : String := String.ofList (lowerList [] s.toList)

example : upper "straße" = "STRASSE" := by decide +kernel

example : lower "ΟΔΟΣ" = "οδος" := by decide +kernel

end Tabular.Text
