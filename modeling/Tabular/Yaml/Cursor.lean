import Tabular.Failure
import Tabular.Text.Hex

/-!
This module walks through the text of a YAML document: it keeps the line and the column, skips blanks
and comments, and folds the line breaks inside scalars.
-/

namespace Tabular.Yaml

/-- A place in a document with the text from there on. -/
structure Cursor where
  rest : List Char
  offset : Nat := 0
  line : Nat := 0
  column : Nat := 0
  deriving DecidableEq

def isBreak (c : Char) : Bool :=
  c = '\n' || c = '\u0085' || c = '\u2028' || c = '\u2029'

def isSpace (c : Char) : Bool := c = ' ' || c = '\t'

def isBlank (c : Char) : Bool := isSpace c || isBreak c

/-- This function tells whether a text ends or goes on with a blank. -/
def startsBlank (cs : List Char) : Bool :=
  match cs with
  | [] => true
  | c :: _ => isBlank c

/-- This function writes every carriage return as a line feed, alone or together with one. -/
def joinLineEnds : List Char → List Char
  | [] => []
  | '\r' :: '\n' :: rest => '\n' :: joinLineEnds rest
  | '\r' :: rest => '\n' :: joinLineEnds rest
  | c :: rest => c :: joinLineEnds rest

/-- These characters may stand in a document. -/
def isAllowed (c : Char) : Bool :=
  let code := c.toNat
  c = '\t' || c = '\n' || (0x20 ≤ code && code ≤ 0x7e) || code = 0x85 ||
    (0xa0 ≤ code && code ≠ 0xfffe && code ≠ 0xffff)

namespace Cursor

/-- This function passes one character. -/
def step (cursor : Cursor) : Cursor :=
  match cursor.rest with
  | [] => cursor
  | c :: rest =>
      if isBreak c then ⟨rest, cursor.offset + 1, cursor.line + 1, 0⟩
      else ⟨rest, cursor.offset + 1, cursor.line, cursor.column + 1⟩

/-- This function passes a number of characters. -/
def steps (cursor : Cursor) : Nat → Cursor
  | 0 => cursor
  | count + 1 => cursor.step.steps count

/-- This function passes the characters of a class. -/
def passWhile (cursor : Cursor) (test : Char → Bool) : Cursor :=
  cursor.steps (cursor.rest.takeWhile test).length

/-- This function counts the characters up to the next token. -/
def blankLength (comment : Bool) : List Char → Nat
  | [] => 0
  | c :: rest =>
      if isBreak c then blankLength false rest + 1
      else if comment || c = ' ' then blankLength comment rest + 1
      else if c = '#' then blankLength true rest + 1
      else 0

/-- This function passes blanks, line breaks and comments. A tab is none of them. -/
def skip (cursor : Cursor) : Cursor := cursor.steps (blankLength false cursor.rest)

/-- This function tells whether a line with the mark of the start or the end of a document begins. -/
def atMark (cursor : Cursor) : Bool :=
  cursor.column = 0 &&
    match cursor.rest with
    | '-' :: '-' :: '-' :: rest => startsBlank rest
    | '.' :: '.' :: '.' :: rest => startsBlank rest
    | _ => false

/-- This function tells whether the content of the document is over. -/
def atEnd (cursor : Cursor) : Bool := cursor.rest.isEmpty || cursor.atMark

/-- This function tells whether an item of a block sequence begins. -/
def atDash (cursor : Cursor) : Bool :=
  match cursor.rest with
  | '-' :: rest => startsBlank rest
  | _ => false

end Cursor

/-- This function gives the line breaks of a gap, where a next-line character is a line feed. -/
def breaksOf (blanks : List Char) : List Char :=
  (blanks.filter isBreak).map fun c => if c = '\u0085' then '\n' else c

/-- This function gives the text of a run of line breaks. A single one becomes a blank. -/
def foldedBreaks : List Char → List Char
  | [] => []
  | ['\n'] => [' ']
  | '\n' :: rest => rest
  | breaks => breaks

/-- This function passes the gap inside a scalar and gives its text. -/
def gap (isSpace : Char → Bool) (cursor : Cursor) : List Char × Cursor :=
  let spaces := cursor.rest.takeWhile isSpace
  let after := cursor.steps spaces.length
  match after.rest with
  | c :: _ =>
      if isBreak c then
        let blanks := after.rest.takeWhile fun c => isSpace c || isBreak c
        (foldedBreaks (breaksOf blanks), after.steps blanks.length)
      else (spaces, after)
  | [] => (spaces, after)

/-! ## Plain scalars -/

/-- These characters begin something else than a plain scalar. -/
def indicators : List Char := "-?:,[]\x7b\x7d#&*!|>\x27\"%@\x60".toList

def flowIndicators : List Char := ",[]\x7b\x7d".toList

/-- This function tells whether a plain scalar begins. -/
def startsPlain (flow : Bool) (cs : List Char) : Bool :=
  match cs with
  | [] => false
  | c :: rest =>
      (!isBlank c && !indicators.contains c) ||
        (!startsBlank rest && (c = '-' || (!flow && (c = '?' || c = ':'))))

/-- This function tells whether a plain scalar ends before a character. -/
def endsPlain (flow : Bool) (c : Char) (rest : List Char) : Bool :=
  isBlank c || (flow && (c = '?' || flowIndicators.contains c)) ||
    (c = ':' && (startsBlank rest || (flow && flowIndicators.contains (rest.headD ' '))))

/-- This function takes the characters of a plain scalar up to the next gap. -/
def plainRun (flow : Bool) : List Char → List Char
  | [] => []
  | c :: rest => if endsPlain flow c rest then [] else c :: plainRun flow rest

/-- This function reads a plain scalar. Outside brackets, lines that are indented less than
`minimum` are not part of it. -/
def plain (flow : Bool) (minimum : Nat) : Nat → Cursor → List Char × Cursor
  | 0, cursor => ([], cursor)
  | fuel + 1, cursor =>
      let run := plainRun flow cursor.rest
      let last := cursor.steps run.length
      let (between, next) := gap (· = ' ') last
      if run.isEmpty || between.isEmpty || next.rest.head? = some '#' ||
          (!flow && next.column < minimum) || next.atMark then (run, last)
      else
        match plain flow minimum fuel next with
        | ([], _) => (run, last)
        | (more, last) => (run ++ between ++ more, last)

/-! ## Quoted scalars -/

/-- This function gives the character of a short escape. -/
def shortEscape? (c : Char) : Option Char :=
  match c with
  | '0' => some '\x00'
  | 'a' => some '\x07'
  | 'b' => some '\x08'
  | 't' | '\t' => some '\t'
  | 'n' => some '\n'
  | 'v' => some '\x0b'
  | 'f' => some '\x0c'
  | 'r' => some '\r'
  | 'e' => some '\x1b'
  | ' ' | '"' | '\\' | '/' => some c
  | 'N' => some '\u0085'
  | '_' => some '\u00a0'
  | 'L' => some '\u2028'
  | 'P' => some '\u2029'
  | _ => none

/-- This function gives the number of digits of an escape by code. -/
def codeLength? (c : Char) : Option Nat :=
  match c with
  | 'x' => some 2
  | 'u' => some 4
  | 'U' => some 8
  | _ => none

/-- This function reads the character whose code has the given number of digits. -/
def codeEscape? (count : Nat) (cs : List Char) : Option Char := do
  let digits := cs.take count
  let code ← Text.hexNumber? digits
  if digits.length = count && code.isValidChar then some (Char.ofNat code) else none

/-- This function reads a quoted scalar after its opening quote. -/
def quoted (double : Bool) : Nat → Cursor → Except Failure (List Char × Cursor)
  | 0, _ => throw .yaml
  | fuel + 1, cursor =>
      match cursor.rest with
      | [] => throw .yaml
      | c :: rest =>
          let go (text : List Char) (next : Cursor) : Except Failure (List Char × Cursor) := do
            if next.line ≠ cursor.line && next.atMark then throw .yaml
            let (more, last) ← quoted double fuel next
            pure (text ++ more, last)
          if isBlank c then
            let (text, next) := gap isSpace cursor
            go text next
          else if !double && c = '\x27' then
            if rest.head? = some '\x27' then go ['\x27'] (cursor.steps 2) else pure ([], cursor.step)
          else if double && c = '"' then pure ([], cursor.step)
          else if double && c = '\\' then
            match rest with
            | [] => throw .yaml
            | mark :: digits =>
                if isBreak mark then
                  let blanks := rest.takeWhile isBlank
                  go ((breaksOf blanks).drop 1) (cursor.step.steps blanks.length)
                else
                  match shortEscape? mark, codeLength? mark with
                  | some character, _ => go [character] (cursor.steps 2)
                  | none, some count =>
                      match codeEscape? count digits with
                      | some character => go [character] (cursor.steps (2 + count))
                      | none => throw .yaml
                  | none, none => throw .yaml
          else go [c] cursor.step

end Tabular.Yaml
