import Tabular.Document
import Tabular.Yaml.Reader
import Tabular.Yaml.Writer

/-!
This module makes YAML a form of documents. Whatever its reader refuses, the failure is none of the
library's own.
-/

namespace Tabular

open Outcome (Avoids)

namespace Yaml

/-- Reading a quoted text ends with none of the library's failures. -/
theorem quoted_avoids (double : Bool) (fuel : Nat) (cursor : Cursor) :
    Avoids Failure.isLibrary (quoted double fuel cursor) := by
  induction fuel generalizing cursor with
  | zero => exact .throw rfl
  | succ fuel inductionHypothesis =>
      have go (text : List Char) (next : Cursor) : Avoids Failure.isLibrary
          (do
            if next.line ≠ cursor.line && next.atMark then throw .yaml
            let more ← quoted double fuel next
            pure (text ++ more.1, more.2) : Except Failure (List Char × Cursor)) := by
        split
        · exact .refused rfl _
        · exact (inductionHypothesis next).bind fun _ => .pure _
      unfold quoted
      split
      · exact .throw rfl
      · dsimp only
        split
        · exact go _ _
        split
        · split
          · exact go _ _
          · exact .pure _
        split
        · exact .pure _
        split
        · split
          · exact .throw rfl
          · split
            · exact go _ _
            · split
              · exact go _ _
              · split
                · exact go _ _
                · exact .throw rfl
              · exact .throw rfl
        · exact go _ _

/-- Nor does reading a plain value. -/
theorem plainValue_avoids (plain : String) : Avoids Failure.isLibrary (plainValue plain) := by
  unfold plainValue
  split
  · split
    · exact .throw rfl
    · exact .pure _
  · exact .pure _
  · exact .throw rfl

/-- Nor does reading a scalar. -/
theorem scalar_avoids (flow : Bool) (minimum fuel : Nat) (cursor : Cursor) :
    Avoids Failure.isLibrary (scalar flow minimum fuel cursor) := by
  unfold scalar
  split
  · exact (quoted_avoids _ _ _).bind fun _ => .pure _
  · exact (quoted_avoids _ _ _).bind fun _ => .pure _
  · split
    · exact (plainValue_avoids _).bind fun _ => .pure _
    · exact .throw rfl

/-- Nor does adding an entry. -/
theorem addEntry_avoids (entries : List (Value × Value)) (key value : Value) :
    Avoids Failure.isLibrary (addEntry entries key value) := by
  unfold addEntry
  split
  · exact .pure _
  · exact .throw rfl

mutual

/-- Reading an atom ends with none of the library's failures, with any fuel. -/
theorem atom_avoids (flow : Bool) (minimum : Nat) : (fuel : Nat) → (cursor : Cursor) →
    Avoids Failure.isLibrary (atom flow minimum fuel cursor)
  | 0, _ => .throw rfl
  | fuel + 1, cursor => by
      unfold atom
      split
      · exact (flowItems_avoids fuel _).bind fun _ => .pure _
      · exact (flowEntries_avoids fuel _ _).bind fun _ => .pure _
      · exact scalar_avoids _ _ _ _

/-- Nor does reading a value between brackets. -/
theorem flowValue_avoids : (fuel : Nat) → (colon : Cursor) →
    Avoids Failure.isLibrary (flowValue fuel colon)
  | 0, _ => .throw rfl
  | fuel + 1, colon => by
      unfold flowValue
      dsimp only
      split
      · exact .pure _
      · exact atom_avoids _ _ fuel _

/-- Nor does reading the items of a list between brackets. -/
theorem flowItems_avoids : (fuel : Nat) → (cursor : Cursor) →
    Avoids Failure.isLibrary (flowItems fuel cursor)
  | 0, _ => .throw rfl
  | fuel + 1, cursor => by
      have goesOn (item : Value) (last : Cursor) : Avoids Failure.isLibrary
          (match last.skip.rest.head? with
            | some ',' => do
                let (items, last) ← flowItems fuel last.skip.step
                pure (item :: items, last)
            | some ']' => pure ([item], last.skip.step)
            | _ => throw .yaml : Except Failure (List Value × Cursor)) := by
        split
        · exact (flowItems_avoids fuel _).bind fun _ => .pure _
        · exact .pure _
        · exact .throw rfl
      unfold flowItems
      dsimp only
      split
      · exact .refused rfl _
      split
      · exact .pure _
      apply (atom_avoids true 0 fuel _).bind
      intro first
      split
      · exact (flowValue_avoids fuel _).bind fun _ => (addEntry_avoids _ _ _).bind fun _ => goesOn _ _
      · exact goesOn _ _

/-- Nor does reading the entries of a mapping between braces. -/
theorem flowEntries_avoids : (fuel : Nat) → (cursor : Cursor) → (entries : List (Value × Value)) →
    Avoids Failure.isLibrary (flowEntries fuel cursor entries)
  | 0, _, _ => .throw rfl
  | fuel + 1, cursor, entries => by
      have goesOn (key value : Value) (last : Cursor) : Avoids Failure.isLibrary
          (do
            let entries ← addEntry entries key value
            match last.skip.rest.head? with
            | some ',' => flowEntries fuel last.skip.step entries
            | some '\x7d' => pure (entries, last.skip.step)
            | _ => throw .yaml : Except Failure (List (Value × Value) × Cursor)) := by
        apply (addEntry_avoids _ _ _).bind
        intro entries
        split
        · exact flowEntries_avoids fuel _ _
        · exact .pure _
        · exact .throw rfl
      unfold flowEntries
      dsimp only
      split
      · exact .refused rfl _
      split
      · exact .pure _
      apply (atom_avoids true 0 fuel _).bind
      intro first
      split
      · exact (flowValue_avoids fuel _).bind fun _ => goesOn _ _ _
      · exact goesOn _ _ _

end

mutual

/-- Reading a block ends with none of the library's failures. -/
theorem block_avoids : (fuel minimum : Nat) → (collections : Bool) → (start : Cursor) →
    Avoids Failure.isLibrary (block fuel minimum collections start)
  | 0, _, _, _ => .throw rfl
  | fuel + 1, minimum, collections, start => by
      unfold block
      dsimp only
      split
      · split
        · exact .refused rfl _
        · exact (blockItems_avoids fuel _ _).bind fun _ => .pure _
      · apply (atom_avoids false minimum fuel start).bind
        intro first
        split
        · exact .pure _
        · split
          · exact .refused rfl _
          · exact (blockValue_avoids fuel _ _).bind fun _ => (addEntry_avoids _ _ _).bind fun _ =>
              (blockEntries_avoids fuel _ _ _).bind fun _ => .pure _

/-- Nor does reading the value of a key. -/
theorem blockValue_avoids : (fuel column : Nat) → (colon : Cursor) →
    Avoids Failure.isLibrary (blockValue fuel column colon)
  | 0, _, _ => .throw rfl
  | fuel + 1, column, colon => by
      unfold blockValue
      dsimp only
      split
      · exact .pure _
      split
      · exact block_avoids fuel _ _ _
      split
      · exact block_avoids fuel _ _ _
      split
      · exact (blockItems_avoids fuel _ _).bind fun _ => .pure _
      · exact .pure _

/-- Nor does reading the entries of a mapping. -/
theorem blockEntries_avoids : (fuel column : Nat) → (cursor : Cursor) →
    (entries : List (Value × Value)) → Avoids Failure.isLibrary (blockEntries fuel column cursor entries)
  | 0, _, _, _ => .throw rfl
  | fuel + 1, column, cursor, entries => by
      unfold blockEntries
      dsimp only
      split
      · exact .pure _
      split
      · exact .refused rfl _
      apply (atom_avoids false (column + 1) fuel _).bind
      intro key
      split
      · exact .throw rfl
      · exact (blockValue_avoids fuel _ _).bind fun _ => (addEntry_avoids _ _ _).bind fun _ =>
          blockEntries_avoids fuel _ _ _

/-- Nor does reading the items of a list. -/
theorem blockItems_avoids : (fuel column : Nat) → (dash : Cursor) →
    Avoids Failure.isLibrary (blockItems fuel column dash)
  | 0, _, _ => .throw rfl
  | fuel + 1, column, dash => by
      have goesOn (item : Value) (last : Cursor) : Avoids Failure.isLibrary
          (do
            let next := last.skip
            if next.atEnd || next.column < column then return ([item], next)
            if column < next.column then throw .yaml
            if next.atDash then
              let (items, last) ← blockItems fuel column next
              pure (item :: items, last)
            else pure ([item], next) : Except Failure (List Value × Cursor)) := by
        dsimp only
        split
        · exact .pure _
        split
        · exact .refused rfl _
        split
        · exact (blockItems_avoids fuel _ _).bind fun _ => .pure _
        · exact .pure _
      unfold blockItems
      dsimp only
      split
      · exact goesOn _ _
      split
      · exact (block_avoids fuel _ _ _).bind fun _ => goesOn _ _
      · exact goesOn _ _

end

/-- Reading a document ends with none of the library's failures. -/
theorem read_avoids (text : String) : Avoids Failure.isLibrary (read text) := by
  unfold read
  dsimp only
  split
  · exact .refused rfl _
  generalize (if (joinLineEnds text.toList).head? = some '\ufeff' then
    (joinLineEnds text.toList).drop 1 else joinLineEnds text.toList) = cs
  split
  · split
    · exact .pure _
    · exact .throw rfl
  · apply (block_avoids _ _ _ _).bind
    intro first
    split
    · exact .pure _
    · exact .throw rfl

/-- The form of settings and schema files. Anchors, tags, block scalars and merge keys are refused. -/
def format : DocumentFormat where
  read
  write
  read_avoids

end Yaml

end Tabular
