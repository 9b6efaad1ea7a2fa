import Tabular.Yaml.Cursor
import Tabular.Yaml.Scalar

/-!
This module reads YAML documents: mappings and sequences by indentation or in brackets, and plain and
quoted scalars. A document that is malformed, or that uses anchors, tags or block scalars, is refused.
-/

namespace Tabular.Yaml

/-- A key has at most this many characters. -/
def keyLimit : Nat := 1024

/-- This function passes the colon after a key, if a key it is. It stands on the line of the key. -/
def colonAfter? (flow : Bool) (start last : Cursor) : Option Cursor :=
  let next := last.passWhile (· = ' ')
  match next.rest with
  | ':' :: rest =>
      if last.line = start.line && next.offset - start.offset ≤ keyLimit && (flow || startsBlank rest)
      then some next.step
      else none
  | _ => none

/-- This function adds an entry. A repeated key keeps its place and gets the last value. -/
def addEntry (entries : List (Value × Value)) (key value : Value) :
    Except Failure (List (Value × Value)) :=
  if key.isKey then pure (Keyed.put entries key value) else throw .yaml

/-- This function reads a scalar. -/
def scalar (flow : Bool) (minimum fuel : Nat) (cursor : Cursor) :
    Except Failure (Value × Cursor) := do
  match cursor.rest with
  | '"' :: _ =>
      let (text, last) ← quoted true fuel cursor.step
      pure (.text (String.ofList text), last)
  | '\x27' :: _ =>
      let (text, last) ← quoted false fuel cursor.step
      pure (.text (String.ofList text), last)
  | rest =>
      if startsPlain flow rest then
        let (text, last) := plain flow minimum fuel cursor
        pure (← plainValue (String.ofList text), last)
      else throw .yaml

mutual

/-- This function reads a scalar or a node in brackets. -/
def atom (flow : Bool) (minimum : Nat) : Nat → Cursor → Except Failure (Value × Cursor)
  | 0, _ => throw .yaml
  | fuel + 1, cursor => do
      match cursor.rest.head? with
      | some '[' =>
          let (items, last) ← flowItems fuel cursor.step
          pure (.list items, last)
      | some '\x7b' =>
          let (entries, last) ← flowEntries fuel cursor.step []
          pure (.map entries, last)
      | _ => scalar flow minimum fuel cursor

/-- This function reads the value after a colon in brackets, which may be missing. -/
def flowValue : Nat → Cursor → Except Failure (Value × Cursor)
  | 0, _ => throw .yaml
  | fuel + 1, colon =>
      let next := colon.skip
      if [',', ']', '\x7d'].contains (next.rest.headD ' ') then pure (.null, next)
      else atom true 0 fuel next

/-- This function reads items up to the closing bracket. A pair alone is a mapping. -/
def flowItems : Nat → Cursor → Except Failure (List Value × Cursor)
  | 0, _ => throw .yaml
  | fuel + 1, cursor => do
      let start := cursor.skip
      if start.atEnd then throw .yaml
      if start.rest.head? = some ']' then return ([], start.step)
      let (first, last) ← atom true 0 fuel start
      let (item, last) ← match colonAfter? true start last with
        | some colon => do
            let (value, last) ← flowValue fuel colon
            pure (Value.map (← addEntry [] first value), last)
        | none => pure (first, last)
      let next := last.skip
      match next.rest.head? with
      | some ',' =>
          let (items, last) ← flowItems fuel next.step
          pure (item :: items, last)
      | some ']' => pure ([item], next.step)
      | _ => throw .yaml

/-- This function reads entries up to the closing brace. -/
def flowEntries : Nat → Cursor → List (Value × Value) →
    Except Failure (List (Value × Value) × Cursor)
  | 0, _, _ => throw .yaml
  | fuel + 1, cursor, entries => do
      let start := cursor.skip
      if start.atEnd then throw .yaml
      if start.rest.head? = some '\x7d' then return (entries, start.step)
      let (key, last) ← atom true 0 fuel start
      let (value, last) ← match colonAfter? true start last with
        | some colon => flowValue fuel colon
        | none => pure (.null, last)
      let entries ← addEntry entries key value
      let next := last.skip
      match next.rest.head? with
      | some ',' => flowEntries fuel next.step entries
      | some '\x7d' => pure (entries, next.step)
      | _ => throw .yaml

end

mutual

/-- This function reads a node by indentation. Keys and dashes are allowed at the start of a line and
after a dash. -/
def block (fuel minimum : Nat) (collections : Bool) (start : Cursor) :
    Except Failure (Value × Cursor) :=
  match fuel with
  | 0 => throw .yaml
  | fuel + 1 => do
      if start.atDash then
        if !collections then throw .yaml
        let (items, last) ← blockItems fuel start.column start
        pure (.list items, last)
      else
        let (first, last) ← atom false minimum fuel start
        match colonAfter? false start last with
        | none => pure (first, last)
        | some colon =>
            if !collections then throw .yaml
            let (value, last) ← blockValue fuel start.column colon
            let (entries, last) ← blockEntries fuel start.column last (← addEntry [] first value)
            pure (.map entries, last)
termination_by structural fuel

/-- This function reads the value after the colon of a key at a column. A sequence may stand below
its key without being indented. -/
def blockValue (fuel column : Nat) (colon : Cursor) : Except Failure (Value × Cursor) :=
  match fuel with
  | 0 => throw .yaml
  | fuel + 1 =>
      let next := colon.skip
      if next.atEnd then pure (.null, next)
      else if next.line = colon.line then block fuel (column + 1) false next
      else if column < next.column then block fuel (column + 1) true next
      else if next.column = column && next.atDash then do
        let (items, last) ← blockItems fuel column next
        pure (.list items, last)
      else pure (.null, next)
termination_by structural fuel

/-- This function reads the entries that follow at the same column. -/
def blockEntries (fuel column : Nat) (cursor : Cursor) (entries : List (Value × Value)) :
    Except Failure (List (Value × Value) × Cursor) :=
  match fuel with
  | 0 => throw .yaml
  | fuel + 1 => do
      let start := cursor.skip
      if start.atEnd || start.column < column then return (entries, start)
      if column < start.column then throw .yaml
      let (key, last) ← atom false (column + 1) fuel start
      match colonAfter? false start last with
      | none => throw .yaml
      | some colon =>
          let (value, last) ← blockValue fuel column colon
          blockEntries fuel column last (← addEntry entries key value)
termination_by structural fuel

/-- This function reads the items whose dashes stand at a column. -/
def blockItems (fuel column : Nat) (dash : Cursor) : Except Failure (List Value × Cursor) :=
  match fuel with
  | 0 => throw .yaml
  | fuel + 1 => do
      let next := dash.step.skip
      let (item, last) ←
        if next.atEnd then pure (.null, next)
        else if column < next.column then block fuel (column + 1) true next
        else pure (.null, next)
      let next := last.skip
      if next.atEnd || next.column < column then return ([item], next)
      if column < next.column then throw .yaml
      if next.atDash then
        let (items, last) ← blockItems fuel column next
        pure (item :: items, last)
      else pure ([item], next)
termination_by structural fuel

end

/-- This function passes the mark of the start of a document. -/
def passStart (cursor : Cursor) : Cursor :=
  if cursor.atMark && cursor.rest.head? = some '-' then (cursor.steps 3).skip else cursor

/-- This function passes the mark of the end of a document. -/
def passEnd (cursor : Cursor) : Cursor :=
  if cursor.atMark && cursor.rest.head? = some '.' then (cursor.steps 3).skip else cursor

/-- This function reads a document. An empty one is null. On the line of the mark of its start, neither
keys nor dashes are allowed. -/
def read (text : String) : Except Failure Value := do
  let cs := joinLineEnds text.toList
  if !cs.all isAllowed then throw .yaml
  let cs := if cs.head? = some '\ufeff' then cs.drop 1 else cs
  let first := Cursor.skip { rest := cs }
  let start := passStart first
  if start.atEnd then
    if (passEnd start).rest.isEmpty then pure .null else throw .yaml
  else
    let collections := start.offset = first.offset || start.line ≠ first.line
    let (value, last) ← block (4 * cs.length + 8) 0 collections start
    if (passEnd last.skip).rest.isEmpty then pure value else throw .yaml

example : (read "a: [1, 'x']\nb:\n- c: ~\n").toOption = some (.map
    [(.text "a", .list [.int 1, .text "x"]), (.text "b", .list [.map [(.text "c", .null)]])]) := by
  decide +kernel

end Tabular.Yaml
