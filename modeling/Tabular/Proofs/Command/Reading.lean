import Tabular.Command.Run
import Tabular.Proofs.Engine.Guarded
import Tabular.Proofs.Outcome
import Tabular.Proofs.Schema.Computed

/-!
This module tells with which failures the reading of files and of filters ends. Documents and settings
are never refused with a failure of the library's own, and schema files only with usage errors.
-/

namespace Tabular

variable {α β : Type}

open Outcome (Avoids)

namespace Json

/-- Reading a JSON text ends with none of the library's failures. -/
theorem read_avoids (text : String) : Avoids Failure.isLibrary (read text) := by
  unfold read
  dsimp only
  split
  · exact .pure _
  · exact .throw rfl
  · exact .throw rfl

/-- Nor does writing the key of an entry. -/
theorem keyText_avoids (key : Value) : Avoids Failure.isLibrary (keyText key) := by
  unfold keyText
  split
  case h_6 => exact .throw rfl
  all_goals exact .pure _

section

variable (layout : Layout) (other : Value → String)

mutual

/-- Writing a value as JSON ends with none of the library's failures, whatever its depth. -/
theorem render_avoids (level : Nat) : (value : Value) →
    Avoids Failure.isLibrary (render layout other level value)
  | .null => .pure _
  | .bool _ => .pure _
  | .int _ => .pure _
  | .float _ => .pure _
  | .text _ => .pure _
  | .bytes _ => .pure _
  | .date _ => .pure _
  | .moment _ => .pure _
  | .list items => (renderItems_avoids (level + 1) items).bind fun _ => .pure _
  | .tuple items => (renderItems_avoids (level + 1) items).bind fun _ => .pure _
  | .map entries => (renderEntries_avoids (level + 1) entries).bind fun _ => .pure _

/-- Nor does writing the items of a list. -/
theorem renderItems_avoids (level : Nat) : (items : List Value) →
    Avoids Failure.isLibrary (renderItems layout other level items)
  | [] => .pure _
  | item :: rest => (render_avoids level item).bind fun _ =>
      (renderItems_avoids level rest).bind fun _ => .pure _

/-- Nor does writing the entries of a mapping. -/
theorem renderEntries_avoids (level : Nat) : (entries : List (Value × Value)) →
    Avoids Failure.isLibrary (renderEntries layout other level entries)
  | [] => .pure _
  | (key, value) :: rest => (keyText_avoids key).bind fun _ => (render_avoids level value).bind fun _ =>
      (renderEntries_avoids level rest).bind fun _ => .pure _

end

end

/-- The report of a value ends with none of the library's failures. -/
theorem report_avoids (value : Value) : Avoids Failure.isLibrary (report value) :=
  render_avoids _ _ _ value

end Json

/-! ## Settings -/

namespace Settings

/-- Reading an integer ends with none of the library's failures. -/
theorem toInteger_avoids (value : Value) : Avoids Failure.isLibrary value.toInteger := by
  unfold Value.toInteger
  split
  · exact .pure _
  · exact .pure _
  · exact .throw rfl
  · exact .throw rfl
  · exact .pure _
  · split
    · exact .pure _
    · exact .throw rfl
    · exact .throw rfl
  · exact .throw rfl

/-- Placing the database file ends with none of the library's failures. -/
theorem placed_avoids (directory : Path) (database : Value) :
    Avoids Failure.isLibrary (placed directory database) := by
  unfold placed
  split
  · exact .pure _
  · exact .throw rfl

/-- Reading the entries of a settings file ends with none of the library's failures. -/
theorem ofFileEntries_avoids (directory : Path) (entries : List (Value × Value)) :
    Avoids Failure.isLibrary (ofFileEntries directory entries) :=
  (toInteger_avoids _).bind fun _ => (toInteger_avoids _).bind fun _ => (toInteger_avoids _).bind fun _ =>
    (placed_avoids _ _).bind fun _ => .pure _

/-- Nor does reading its whole document. -/
theorem ofDocument_avoids (directory : Path) (document : Value) :
    Avoids Failure.isLibrary (ofDocument directory document) := by
  unfold ofDocument
  split
  · exact ofFileEntries_avoids _ _
  · split
    · exact .throw rfl
    · exact ofFileEntries_avoids _ _

/-- Loading the settings ends with none of the library's failures, whatever the reader of documents
answers. -/
theorem load_avoids (surroundings : Surroundings) (file : Option String) :
    Avoids Failure.isLibrary (load surroundings file) := by
  unfold load
  split
  · exact .pure _
  · dsimp only
    split
    · exact .refused rfl _
    split
    · exact .pure _
    · exact (surroundings.documents.read_avoids _).bind fun _ => (ofDocument_avoids _ _).bind fun _ => .pure _

end Settings

/-! ## Schema files -/

namespace Value

/-- Reading one pair fails only with a failure of its own. -/
theorem pair_computed (index : Nat) (value : Value) : Computed (pair index value) := by
  apply value.items_computed.bind
  intro items
  split
  · split
    · exact .pure _
    · exact .throw rfl
  · exact .throw rfl

/-- Reading a list of pairs fails only with a failure of its own. -/
theorem pairs_computed (index : Nat) (values : List Value) : Computed (pairs index values) := by
  induction values generalizing index with
  | nil => exact .pure _
  | cons value rest inductionHypothesis =>
      exact (pair_computed index value).bind fun _ => (inductionHypothesis _).bind fun _ => .pure _

/-- Reading a value as a mapping fails only with a failure of its own. -/
theorem asMap_computed (value : Value) : Computed value.asMap := by
  unfold asMap
  split
  · exact .pure _
  · exact value.items_computed.bind fun _ => (pairs_computed _ _).bind fun _ => .pure _

end Value

/-- Resolving a type name fails only with a failure of its own. -/
theorem Storage.resolve_computed (name : Value) : Computed (Storage.resolve name) := by
  unfold resolve
  split
  · exact .pure _
  · exact .throw rfl

/-- Reading a column declaration fails only with a failure of its own. -/
theorem Column.ofValue_computed (value : Value) : Computed (Column.ofValue value) := by
  unfold ofValue
  split
  · exact (Storage.resolve_computed _).bind fun _ => .pure _
  · exact (Storage.resolve_computed _).bind fun _ => .pure _
  · exact .throw rfl

theorem Index.ofValue_computed (value : Value) : Computed (Index.ofValue value) :=
  (value.member_computed _).bind fun columns => value.entries_computed.bind fun _ =>
    columns.nameList_computed.bind fun _ => .pure _

theorem ForeignKey.ofValue_computed (value : Value) : Computed (ForeignKey.ofValue value) :=
  (value.member_computed _).bind fun references => value.entries_computed.bind fun _ =>
    references.asMap_computed.bind fun _ => .pure _

/-- Reading all entries fails only as reading one of them does. -/
theorem Keyed.readAll_computed {read : Value → Except Failure α}
    (each : ∀ value, Computed (read value)) (entries : List (Value × Value)) :
    Computed (readAll read entries) := by
  unfold readAll
  exact .mapM (fun entry => (each entry.2).bind fun _ => .pure _) entries

/-- These failures of the library come from a database. -/
def Failure.isFromDatabase (failure : Failure) : Bool := failure.isSchemaRefusal || failure.isEngine

/-- The failures of the library that do not come from the database are bad values. -/
theorem Failure.isBadValue_of_isLibrary {failure : Failure} (library : failure.isLibrary = true)
    (other : failure.isFromDatabase = false) : failure.isBadValue = true := by
  have usage : failure.isUsage = true := by
    rw [isFromDatabase] at other
    rwa [isLibrary, Bool.or_assoc, other, Bool.or_false] at library
  cases failure <;> first | rfl | exact nomatch usage

/-- A computation ends with no failure that comes from the database. -/
theorem Computed.avoids {outcome : Except Failure α} (computed : Computed outcome) :
    Avoids Failure.isFromDatabase outcome := by
  intro failure failed
  have own := computed failure failed
  rw [Failure.isComputed, Bool.and_eq_true, Bool.not_eq_true', Bool.not_eq_true'] at own
  rw [Failure.isFromDatabase, own.2, Failure.not_isEngine own.1]
  rfl

/-- What is no failure of the library does not come from a database. -/
theorem Outcome.Avoids.notFromDatabase {outcome : Except Failure α}
    (avoids : Avoids Failure.isLibrary outcome) : Avoids Failure.isFromDatabase outcome := by
  apply avoids.mono
  intro failure other
  rw [Failure.isLibrary, Bool.or_assoc, Bool.or_eq_false_iff] at other
  exact other.2

namespace Schema

/-- Reading optional entries fails only with a failure of its own. -/
theorem optionalEntries_computed (value : Option Value) : Computed (optionalEntries value) := by
  unfold optionalEntries
  split
  · split
    · exact Value.entries_computed _
    · exact .pure _
  · exact .pure _

/-- Reading an optional list fails only with a failure of its own. -/
theorem optionalItems_computed (value : Option Value) : Computed (optionalItems value) := by
  unfold optionalItems
  split
  · split
    · exact Value.items_computed _
    · exact .pure _
  · exact .pure _

/-- Reading the columns of the primary key fails only with a failure of its own. -/
theorem keyColumns_computed (value : Option Value) : Computed (keyColumns value) := by
  unfold keyColumns
  split
  · exact .pure _
  · exact .pure _
  · exact (Value.nameList_computed _).bind fun _ => .pure _

/-- Reading one declaration fails only with a failure of its own. -/
theorem declaration_computed (value : Value) : Computed (ofValue value) :=
  (value.member_computed _).bind fun _ => (value.member_computed _).bind fun declared =>
    declared.entries_computed.bind fun _ =>
    (Keyed.readAll_computed Column.ofValue_computed _).bind fun _ =>
    value.entries_computed.bind fun _ => (optionalEntries_computed _).bind fun _ =>
    (Keyed.readAll_computed Index.ofValue_computed _).bind fun _ =>
    (optionalItems_computed _).bind fun _ =>
    (Computed.mapM ForeignKey.ofValue_computed _).bind fun _ =>
    (keyColumns_computed _).bind fun _ => check_computed _

/-- Reading all declarations of a schema file fails only with a failure of its own. -/
theorem declarations_computed (file : String) (document : Value) :
    Computed (declarations file document) := by
  unfold declarations
  dsimp only
  split
  · split
    · split
      · exact Value.items_computed _
      · exact .pure _
    · split
      · exact .pure _
      · exact .throw rfl
  · exact .throw rfl

/-- A schema file is only refused with a failure of the library where that is a usage error. -/
theorem load_avoids (surroundings : Surroundings) (file : String) :
    Avoids Failure.isFromDatabase (load surroundings file) := by
  unfold load
  dsimp only
  split
  · exact .refused rfl _
  split
  · exact .throw rfl
  · apply (surroundings.documents.read_avoids _).notFromDatabase.bind
    intro document
    apply Computed.avoids
    exact (declarations_computed _ _).bind (Computed.mapM declaration_computed)

end Schema

/-! ## Filters -/

namespace Command

/-- Reading the filter of a command ends with none of the library's failures. -/
theorem readFilter_avoids (text : Option String) : Avoids Failure.isLibrary (readFilter text) := by
  unfold readFilter
  split
  · exact .pure _
  · exact .pure _
  · apply (Json.read_avoids _).bind
    intro document
    split
    · exact .pure _
    · exact .throw rfl

/-- A filter that was read starts a query. -/
theorem rowsOf_readFilter {text : Option String} {filter : Value}
    (reads : readFilter text = .ok filter) (table : String) : ∃ query, rowsOf table filter = .ok query := by
  have known : filter = .null ∨ ∃ entries, filter = .map entries := by
    unfold readFilter at reads
    split at reads
    · exact .inl (Except.ok.inj reads).symm
    · exact .inl (Except.ok.inj reads).symm
    · obtain ⟨document, -, mapped⟩ := Outcome.bind_eq_ok.mp reads
      split at mapped
      · exact .inr ⟨_, (Except.ok.inj mapped).symm⟩
      · cases mapped
  rcases known with rfl | ⟨entries, rfl⟩
  · exact ⟨_, rfl⟩
  · cases entries with
    | nil => exact ⟨_, rfl⟩
    | cons entry rest => exact ⟨_, rfl⟩

/-- The columns, the ordering and the limits of a command are added to any query. -/
theorem refine_ok (query : Query) (ordering : List String) (limit offset : Option Int)
    (columns : Option String) : ∃ refined, refine query ordering limit offset columns = .ok refined := by
  unfold refine
  cases readColumns columns with
  | none => cases ordering <;> exact ⟨_, rfl⟩
  | some chosen => cases chosen <;> cases ordering <;> exact ⟨_, rfl⟩

/-- Laying out a name ends with none of the library's failures. -/
theorem nameColumn_avoids (name : Value) : Avoids Failure.isLibrary (nameColumn name) := by
  unfold nameColumn
  split <;> first | exact .throw rfl | exact .pure _

/-- Finding the settings of a command ends with none of the library's failures. -/
theorem settingsOf_avoids (surroundings : Surroundings) (shared : Shared) :
    Avoids Failure.isLibrary (settingsOf surroundings shared) := by
  apply (Settings.load_avoids _ _).bind
  intro settings
  split <;> exact .pure _

end Command

end Tabular
