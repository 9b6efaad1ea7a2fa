import Tabular.Yaml.Scalar
import Tabular.Yaml.Cursor

/-!
This module writes texts as YAML scalars: plainly where they read back as the same text, and else in
single or in double quotes. Long texts are folded at single blanks.
-/

namespace Tabular.Yaml

/-- Lines are folded once they are longer than this. -/
def foldWidth : Nat := 80

def newLine (indent : Nat) : List Char := '\n' :: List.replicate indent ' '

/-! ## Choice of a style -/

/-- A style of a scalar. -/
inductive Style where
  | plain
  | single
  | double
  deriving DecidableEq, Repr

/-- A character that is no printable ASCII can only be written by an escape. -/
def isSpecial (c : Char) : Bool := !(c = '\n' || (0x20 ≤ c.toNat && c.toNat ≤ 0x7e))

/-- These characters have a meaning at the start of a scalar. -/
def leadingIndicators : List Char := "#,[]\x7b\x7d&*!|>\x27\"%@\x60".toList

/-- This function tells whether a later character would end a plain scalar. -/
def breaksPlain (before : Char) : List Char → Bool
  | [] => false
  | c :: rest =>
      (c = ':' && startsBlank rest) || (c = '#' && isBlank before) || breaksPlain c rest

/-- This function tells whether the text has characters that no plain scalar may have there. -/
def hasIndicators (cs : List Char) : Bool :=
  match cs with
  | [] => false
  | c :: rest =>
      leadingIndicators.contains c || ((c = '?' || c = ':' || c = '-') && startsBlank rest) ||
        cs.take 3 = ['-', '-', '-'] || cs.take 3 = ['.', '.', '.'] || breaksPlain c rest

/-- This function tells whether one of two neighbours is a blank and the other one a line break. -/
def hasBlankAtBreak : List Char → Bool
  | c :: d :: rest =>
      (c = ' ' && d = '\n') || (c = '\n' && d = ' ') || hasBlankAtBreak (d :: rest)
  | _ => false

/-- This function tells whether a text that is not empty starts or ends with a blank or a break. -/
def hasBlankEnds (cs : List Char) : Bool :=
  isBlank (cs.headD 'x') || isBlank ((cs.getLast?).getD 'x')

/-- This function chooses the style of a text. A key has to stand on one line. -/
def textStyle (isKey : Bool) (text : String) : Style :=
  let cs := text.toList
  let lines := cs.contains '\n'
  if cs.any isSpecial || hasBlankAtBreak cs || (isKey && lines) then .double
  else if lines || hasBlankEnds cs || hasIndicators cs || meaning text ≠ .text then .single
  else .plain

/-! ## Folding -/

/-- A piece of a text: a word, blanks, or line breaks. -/
inductive Piece where
  | word (cs : List Char)
  | spaces (count : Nat)
  | breaks (count : Nat)
  deriving DecidableEq

/-- This function adds a character before the pieces of a text. -/
def Piece.add (c : Char) : List Piece → List Piece
  | .spaces count :: rest => if c = ' ' then .spaces (count + 1) :: rest else start (.spaces count :: rest)
  | .breaks count :: rest => if c = '\n' then .breaks (count + 1) :: rest else start (.breaks count :: rest)
  | .word cs :: rest =>
      if c = ' ' || c = '\n' then start (.word cs :: rest) else .word (c :: cs) :: rest
  | [] => start []
where
  /-- This function starts a new piece. -/
  start (rest : List Piece) : List Piece :=
    if c = ' ' then .spaces 1 :: rest
    else if c = '\n' then .breaks 1 :: rest
    else .word [c] :: rest

def Piece.ofText (cs : List Char) : List Piece := cs.foldr Piece.add []

/-- This function doubles single quotes. -/
def doubleQuotes (cs : List Char) : List Char :=
  cs.flatMap fun c => if c = '\x27' then [c, c] else [c]

/-- This function writes pieces from a column on. A single blank becomes a new line where the line is
too long, unless it is the first piece or the last one. A line break is written twice, and each one
after it once. -/
def foldPieces (folds : Bool) (indent column : Nat) (isFirst : Bool) : List Piece → List Char
  | [] => []
  | .word cs :: rest => cs ++ foldPieces folds indent (column + cs.length) false rest
  | .spaces count :: rest =>
      if folds && count = 1 && foldWidth < column && !isFirst && !rest.isEmpty then
        newLine indent ++ foldPieces folds indent indent false rest
      else List.replicate count ' ' ++ foldPieces folds indent (column + count) false rest
  | .breaks count :: rest =>
      List.replicate count '\n' ++ newLine indent ++ foldPieces folds indent indent false rest

/-- This function gives the escape of a character in double quotes. -/
def escape (c : Char) : List Char :=
  let short (mark : Char) : List Char := ['\\', mark]
  match c.toNat with
  | 0x00 => short '0'
  | 0x07 => short 'a'
  | 0x08 => short 'b'
  | 0x09 => short 't'
  | 0x0a => short 'n'
  | 0x0b => short 'v'
  | 0x0c => short 'f'
  | 0x0d => short 'r'
  | 0x1b => short 'e'
  | 0x22 => short '"'
  | 0x5c => short '\\'
  | 0x85 => short 'N'
  | 0xa0 => short '_'
  | 0x2028 => short 'L'
  | 0x2029 => short 'P'
  | code =>
      if code ≤ 0xff then short 'x' ++ upperHex 2 code
      else if code ≤ 0xffff then short 'u' ++ upperHex 4 code
      else short 'U' ++ upperHex 8 code
where
  /-- This function writes digits in capitals. -/
  upperHex (width code : Nat) : List Char := (Text.hexDigits width code).map Char.toUpper

def needsEscape (c : Char) : Bool := isSpecial c || c = '\n' || c = '"' || c = '\\'

/-- This function writes a text in double quotes from a column on. `waiting` counts the characters since
the last place where a line could end. A line that is too long ends with a backslash, and a blank at the
start of the next line is escaped. -/
def doubleQuoted (folds : Bool) (indent column waiting : Nat) (isFirst : Bool) :
    List Char → List Char
  | [] => []
  | c :: rest =>
      let inside := folds && !isFirst && !rest.isEmpty
      if needsEscape c then
        let escaped := escape c
        let column := column + waiting + escaped.length
        if inside && foldWidth < column - 1 then
          let lead := if rest.head? = some ' ' then ['\\'] else []
          escaped ++ '\\' :: newLine indent ++ lead ++
            doubleQuoted folds indent (indent + lead.length) 0 false rest
        else escaped ++ doubleQuoted folds indent column 0 false rest
      else if c = ' ' && inside && foldWidth < column + waiting then
        '\\' :: newLine indent ++ '\\' :: ' ' ::
          doubleQuoted folds indent (indent + 1) 1 false rest
      else c :: doubleQuoted folds indent column (waiting + 1) false rest

/-- This function writes a text as a scalar that starts at a column. -/
def textScalar (isKey : Bool) (indent column : Nat) (text : String) : List Char :=
  let cs := text.toList
  match textStyle isKey text with
  | .plain => foldPieces (!isKey) indent column true (Piece.ofText cs)
  | .single =>
      '\x27' :: foldPieces (!isKey) indent (column + 1) true (Piece.ofText (doubleQuotes cs)) ++
        ['\x27']
  | .double => '"' :: doubleQuoted (!isKey) indent (column + 1) 0 true cs ++ ['"']

example : textScalar false 2 0 "off" = "'off'".toList ∧ textScalar false 2 0 "it's" = "it's".toList ∧
    textScalar false 2 0 "" = "''".toList ∧ textScalar false 2 0 "a\tb" = "\"a\\tb\"".toList := by
  decide +kernel

end Tabular.Yaml
