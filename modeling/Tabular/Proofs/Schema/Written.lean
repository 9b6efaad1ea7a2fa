import Tabular.Proofs.Sql.Reading
import Tabular.Proofs.Sql.Word
import Tabular.Schema.Migration

/-!
This module reads the steps of a migration as the statements that they are written for. The names
that occur in them are plain.
-/

namespace Tabular

open Sql

/-- A text is an item that begins with a word and has the given reading. -/
def Sql.ReadsItem {α : Type} (read : List Token → Option α) (text : String) (result : α) : Prop :=
  ∃ first tail, Scans text (.word first :: tail) ∧
    Statement.KeptWhole (.word first :: tail) ∧ read (.word first :: tail) = some result

theorem items_of_reads {α : Type} {read : List Token → Option α} {texts : List String}
    {results : List α} (each : List.Forall₂ (ReadsItem read) texts results) :
    ∃ items, List.Forall₂ Scans texts items ∧ items.mapM read = some results ∧
      ∀ rest, Statement.bracket (.mark '(' :: List.intercalate [.mark ','] items ++
        .mark ')' :: rest) = some (items, rest) := by
  have found : ∃ items, List.Forall₂ Scans texts items ∧ items.mapM read = some results ∧
      (∀ item ∈ items, Statement.KeptWhole item) ∧
      ∀ item ∈ items, ∃ first tail, item = .word first :: tail := by
    induction each with
    | nil => exact ⟨[], .nil, rfl, by simp, by simp⟩
    | cons reads _ inductionHypothesis =>
        obtain ⟨first, tail, scans, kept, result⟩ := reads
        obtain ⟨items, scanned, results, keptItems, named⟩ := inductionHypothesis
        refine ⟨(.word first :: tail) :: items, .cons scans scanned, ?_, ?_, ?_⟩
        · rw [List.mapM_cons, result, results]
          rfl
        · exact List.forall_mem_cons.mpr ⟨kept, keptItems⟩
        · exact List.forall_mem_cons.mpr ⟨⟨first, tail, rfl⟩, named⟩
  obtain ⟨items, scanned, results, kept, named⟩ := found
  exact ⟨items, scanned, results, fun rest => Statement.bracket_items rest kept named⟩

/-- The tokens of names with commas between them. -/
def Sql.nameTokens (names : List String) : List Token :=
  List.intercalate [.mark ','] (names.map fun name => [.word name])

theorem names_scan {names : List String} (words : ∀ name ∈ names, IsWord name.toList) :
    Scans (String.intercalate ", " names) (nameTokens names) := by
  apply scans_intercalate separates_comma
  rw [List.forall₂_map_right_iff]
  exact List.forall₂_same.mpr fun name member => scans_word (words name member)

theorem columnNames_read (names : List String) :
    (names.map fun name => [Token.word name]).mapM Statement.columnName = some names := by
  induction names with
  | nil => rfl
  | cons name names inductionHypothesis =>
      rw [List.map_cons, List.mapM_cons, inductionHypothesis]
      rfl

theorem bracket_names (names : List String) (rest : List Token) :
    Statement.bracket (.mark '(' :: nameTokens names ++ .mark ')' :: rest) =
      some (names.map fun name => [.word name], rest) := by
  apply Statement.bracket_items
  · intro item member
    obtain ⟨name, -, rfl⟩ := List.mem_map.mp member
    exact Statement.keptWhole_words [name]
  · intro item member
    obtain ⟨name, -, rfl⟩ := List.mem_map.mp member
    exact ⟨name, [], rfl⟩

theorem selection_names {names : List String} (filled : names ≠ []) (source : String) :
    Statement.selection (nameTokens names ++ [.word "FROM", .word source]) =
      some (names, source) := by
  induction names with
  | nil => exact absurd rfl filled
  | cons name names inductionHypothesis =>
      cases names with
      | nil => rfl
      | cons second names =>
          have tail := inductionHypothesis (List.cons_ne_nil second names)
          rw [nameTokens, List.map_cons, List.map_cons, List.intercalate_cons_cons] at *
          rw [List.append_assoc, List.append_assoc, List.singleton_append, List.singleton_append,
            Statement.selection, tail]
          rfl

namespace MigrationStep

theorem rename_read {table backup : String} (plainTable : PlainName table)
    (plainBackup : PlainName backup) :
    Statement.ofText? (rename table backup).sql = some (.rename table backup) := by
  have opened : Scans ("ALTER TABLE " ++ table) [.word "ALTER", .word "TABLE", .word table] :=
    plainTable.scans.after [.word "ALTER", .word "TABLE"] fun _ => rfl
  have between : Separates " RENAME TO " [.word "RENAME", .word "TO"] :=
    ⟨fun rest => Delimited.cons (by decide) ("RENAME TO ".toList ++ rest), fun _ => rfl⟩
  have tokensEq := (opened.separated between plainBackup.scans).tokens_eq
  simp only [List.cons_append, List.nil_append] at tokensEq
  change Statement.ofTokens? (tokens ("ALTER TABLE " ++ table ++ " RENAME TO " ++ backup).toList) = _
  rw [tokensEq, Statement.ofTokens?]

theorem dropIndex_read {index : String} (plain : PlainName index) :
    Statement.ofText? (dropIndex index).sql = some (.dropIndex index) := by
  have written : Scans ("DROP INDEX " ++ index) [.word "DROP", .word "INDEX", .word index] :=
    plain.scans.after [.word "DROP", .word "INDEX"] fun _ => rfl
  change Statement.ofTokens? (tokens ("DROP INDEX " ++ index).toList) = _
  rw [written.tokens_eq, Statement.ofTokens?]

theorem dropTable_read {table : String} (plain : PlainName table) :
    Statement.ofText? (dropTable table).sql = some (.dropTable table) := by
  have written : Scans ("DROP TABLE " ++ table) [.word "DROP", .word "TABLE", .word table] :=
    plain.scans.after [.word "DROP", .word "TABLE"] fun _ => rfl
  change Statement.ofTokens? (tokens ("DROP TABLE " ++ table).toList) = _
  rw [written.tokens_eq, Statement.ofTokens?]

theorem copy_read {table backup : String} {columns : List String} (plainTable : PlainName table)
    (plainBackup : PlainName backup) (plain : ∀ column ∈ columns, PlainName column)
    (filled : columns ≠ []) :
    Statement.ofText? (copy table backup columns).sql =
      some (.copy table columns backup columns) := by
  have opened : Scans ("INSERT INTO " ++ table) [.word "INSERT", .word "INTO", .word table] :=
    plainTable.scans.after [.word "INSERT", .word "INTO"] fun _ => rfl
  have opening : Separates " (" [.mark '('] :=
    ⟨fun rest => Delimited.cons (by decide) ('(' :: rest), fun _ => rfl⟩
  have closing : Separates ") SELECT " [.mark ')', .word "SELECT"] :=
    ⟨fun rest => Delimited.cons (by decide) (" SELECT ".toList ++ rest), fun _ => rfl⟩
  have fromTable : Separates " FROM " [.word "FROM"] :=
    ⟨fun rest => Delimited.cons (by decide) ("FROM ".toList ++ rest), fun _ => rfl⟩
  have list := names_scan fun name member => (plain name member).isWord
  have written := ((opened.separated opening list).separated closing list).separated fromTable
    plainBackup.scans
  have split := bracket_names columns (.word "SELECT" :: (nameTokens columns ++
    [.word "FROM", .word backup]))
  have tokensEq := written.tokens_eq
  simp only [List.append_assoc, List.cons_append, List.nil_append] at tokensEq split
  change Statement.ofTokens? (tokens ("INSERT INTO " ++ table ++ " (" ++
    String.intercalate ", " columns ++ ") SELECT " ++ String.intercalate ", " columns ++ " FROM " ++
    backup).toList) = _
  rw [tokensEq, Statement.ofTokens?, Statement.copy?, split]
  simp only [columnNames_read, selection_names filled]
  rfl

end MigrationStep

namespace Definition

/-- The bracketed part of a table has the tokens of its lines. -/
theorem tableBody_scans (name : String) {lines : List String} {items : List (List Token)}
    (scanned : List.Forall₂ Scans lines items) :
    Scans (table name lines).body
      (.mark '(' :: List.intercalate [.mark ','] items ++ [.mark ')']) := by
  have closing : Separates "\n)" [.mark ')'] :=
    ⟨fun rest => Delimited.cons (by decide) (')' :: rest), fun _ => rfl⟩
  have list : Scans ("(\n    " ++ String.intercalate ",\n    " lines)
      (.mark '(' :: List.intercalate [.mark ','] items) :=
    (scans_intercalate separates_line scanned).after [.mark '('] fun _ => rfl
  exact list.closed closing

theorem table_tokens {name : String} {lines : List String} {items : List (List Token)}
    (isWord : IsWord name.toList) (scanned : List.Forall₂ Scans lines items) :
    tokens (table name lines).sql.toList = .word "CREATE" :: .word "TABLE" :: .word name ::
      .mark '(' :: List.intercalate [.mark ','] items ++ [.mark ')'] := by
  have opened : Scans ("CREATE TABLE " ++ name) [.word "CREATE", .word "TABLE", .word name] :=
    (scans_word isWord).after [.word "CREATE", .word "TABLE"] fun _ => rfl
  exact (opened.separated separates_blank (tableBody_scans name scanned)).tokens_eq

theorem table_read {name : String} {lines : List String} {columns : List (Option ColumnClause)}
    (plain : PlainName name) (each : List.Forall₂ (ReadsItem Statement.column) lines columns) :
    Statement.ofText? (table name lines).sql = some (.createTable name columns.reduceOption) := by
  obtain ⟨items, scanned, results, bracketed⟩ := items_of_reads each
  have split := bracketed []
  rw [List.cons_append] at split
  rw [Statement.ofText?, table_tokens plain.isWord scanned, List.cons_append, List.cons_append,
    List.cons_append, List.cons_append, Statement.ofTokens?, Statement.createTable?, split]
  simp only [results, Option.map_some]

theorem index_read {unique : Bool} {name owner : String} {expressions columns : List String}
    (plainName : PlainName name) (plainOwner : PlainName owner)
    (each : List.Forall₂ (ReadsItem Statement.indexColumn) expressions columns) :
    Statement.ofText? (index unique name owner expressions).sql =
      some (.createIndex unique name owner columns) := by
  obtain ⟨items, scanned, results, bracketed⟩ := items_of_reads each
  have onTable : Separates " ON " [.word "ON"] :=
    ⟨fun rest => Delimited.cons (by decide) ("ON ".toList ++ rest), fun _ => rfl⟩
  have closing : Separates ")" [.mark ')'] :=
    ⟨fun rest => Delimited.cons (by decide) rest, fun _ => rfl⟩
  have list : Scans ("(" ++ String.intercalate ", " expressions)
      (.mark '(' :: List.intercalate [.mark ','] items) :=
    (scans_intercalate separates_comma scanned).after [.mark '('] fun _ => rfl
  have split := bracketed []
  simp only [List.cons_append] at split
  cases unique with
  | false =>
      have opened : Scans ("CREATE " ++ "" ++ "INDEX IF NOT EXISTS " ++ name)
          [.word "CREATE", .word "INDEX", .word "IF", .word "NOT", .word "EXISTS", .word name] :=
        plainName.scans.after
          [.word "CREATE", .word "INDEX", .word "IF", .word "NOT", .word "EXISTS"] fun _ => rfl
      have tokensEq := ((opened.separated onTable plainOwner.scans).separated separates_blank
        (list.closed closing)).tokens_eq
      simp only [List.cons_append, List.nil_append] at tokensEq
      rw [Statement.ofText?, sql, head, body, if_neg Bool.false_ne_true, tokensEq, Statement.ofTokens?,
        Statement.createIndex?, split]
      simp only [results, Option.map_some]
  | true =>
      have opened : Scans ("CREATE " ++ "UNIQUE " ++ "INDEX IF NOT EXISTS " ++ name)
          [.word "CREATE", .word "UNIQUE", .word "INDEX", .word "IF", .word "NOT", .word "EXISTS",
            .word name] :=
        plainName.scans.after
          [.word "CREATE", .word "UNIQUE", .word "INDEX", .word "IF", .word "NOT", .word "EXISTS"]
          fun _ => rfl
      have tokensEq := ((opened.separated onTable plainOwner.scans).separated separates_blank
        (list.closed closing)).tokens_eq
      simp only [List.cons_append, List.nil_append] at tokensEq
      rw [Statement.ofText?, sql, head, body, if_pos rfl, tokensEq, Statement.ofTokens?,
        Statement.createIndex?, split]
      simp only [results, Option.map_some]

end Definition

end Tabular
