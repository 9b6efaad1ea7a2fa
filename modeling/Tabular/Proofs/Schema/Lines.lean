import Tabular.Proofs.Schema.Written
import Tabular.Proofs.Value.Names

/-!
This module cuts the lines of a created table into tokens: those of its columns, of its foreign keys
and of its primary key. The names in a line are words.
-/

namespace Tabular

open Sql

/-- A value is written as a word. -/
def Value.IsWord (value : Value) : Prop := Sql.IsWord value.toText.toList

instance (value : Value) : Decidable value.IsWord := inferInstanceAs (Decidable (Sql.IsWord _))

theorem Value.isWord_of_isPlain {value : Value} (plain : value.isPlain = true) : value.IsWord := by
  obtain ⟨name, rfl, named⟩ := isPlain_iff.mp plain
  exact named.isWord

/-- A value that is a word is cut into itself. -/
theorem Value.IsWord.scans {value : Value} (isWord : value.IsWord) :
    Scans value.toText [.word value.toText] :=
  scans_word isWord

/-- The literal that is written for a default. -/
def Value.defaultToken : Value → Option Token
  | .bool value => some (.word (if value then "1" else "0"))
  | .int value => some (.word (toString value))
  | .float value => some (.word value.toText)
  | .text value => some (.literal value)
  | _ => none

/-! ## Columns -/

namespace Column

def constraintTokens (column : Column) : List Token :=
  if column.primaryKey then [.word "PRIMARY", .word "KEY"]
  else (if column.unique then [.word "UNIQUE"] else []) ++
    (if column.notNull then [.word "NOT", .word "NULL"] else [])

def defaultTokens (column : Column) : List Token :=
  match column.default.defaultToken with
  | some token => [.word "DEFAULT", token]
  | none => []

def collationTokens (column : Column) : List Token :=
  if column.collation.isTrue then [.word "COLLATE", .word column.collation.toText] else []

/-- The tokens of the line of a column. -/
def tokens (column : Column) (name : Value) : List Token :=
  .word name.toText :: .word column.storage.name ::
    (column.constraintTokens ++ column.defaultTokens ++ column.collationTokens)

/-- A written default is one token. -/
theorem defaultText_scans {name default : Value} {text : String}
    (written : defaultText name default = .ok text) :
    ∃ token, default.defaultToken = some token ∧ Scans text [token] := by
  cases default with
  | bool value =>
      obtain rfl := Outcome.pure_eq_ok.mp written
      refine ⟨.word (if value then "1" else "0"), rfl, ?_⟩
      cases value <;> exact scans_word (by decide)
  | int value =>
      obtain rfl := Outcome.pure_eq_ok.mp written
      exact ⟨_, rfl, scans_word (isWord_int value)⟩
  | float value =>
      obtain rfl := Outcome.pure_eq_ok.mp written
      exact ⟨_, rfl, scans_word (isWord_toText value)⟩
  | text value =>
      obtain rfl := Outcome.pure_eq_ok.mp written
      exact ⟨_, rfl, scans_literal value⟩
  | _ => exact nomatch written

/-- The announcement of a primary key is cut into two words. -/
theorem scans_primaryKey : Scans "PRIMARY KEY" [.word "PRIMARY", .word "KEY"] := by
  have key : Scans "KEY" [.word "KEY"] := scans_word (by decide)
  have whole : Scans ("PRIMARY " ++ "KEY") [.word "PRIMARY", .word "KEY"] :=
    key.after [.word "PRIMARY"] fun _ => rfl
  simpa using whole

theorem scans_notNull : Scans "NOT NULL" [.word "NOT", .word "NULL"] := by
  have null : Scans "NULL" [.word "NULL"] := scans_word (by decide)
  have whole : Scans ("NOT " ++ "NULL") [.word "NOT", .word "NULL"] :=
    null.after [.word "NOT"] fun _ => rfl
  simpa using whole

/-- The constraints of a column are cut into their own tokens. -/
theorem constraints_scan (column : Column) :
    ∃ founds, List.Forall₂ Scans column.constraints founds ∧
      founds.flatten = column.constraintTokens := by
  have unique : Scans "UNIQUE" [.word "UNIQUE"] := scans_word (by decide)
  obtain ⟨storage, primaryKey, isUnique, notNull, default, collation, indexed⟩ := column
  cases primaryKey with
  | true => exact ⟨[_], .cons scans_primaryKey .nil, rfl⟩
  | false =>
      cases isUnique <;> cases notNull
      · exact ⟨[], .nil, rfl⟩
      · exact ⟨[_], .cons scans_notNull .nil, rfl⟩
      · exact ⟨[_], .cons unique .nil, rfl⟩
      · exact ⟨[_, _], .cons unique (.cons scans_notNull .nil), rfl⟩

/-- The name of every type is a word. -/
theorem storage_isWord (storage : Storage) : IsWord storage.name.toList := by
  cases storage <;> decide

/-- The written default of a column, if it has one. -/
def WritesDefault (name : Value) (column : Column) (written : List String) : Prop :=
  (column.default = .null ∧ written = []) ∨
    ∃ text, defaultText name column.default = .ok text ∧ written = ["DEFAULT " ++ text]

/-- A written default is cut into the token of the default. -/
theorem WritesDefault.scan {name : Value} {column : Column} {written : List String}
    (writes : column.WritesDefault name written) :
    ∃ founds, List.Forall₂ Scans written founds ∧ founds.flatten = column.defaultTokens := by
  rw [defaultTokens]
  rcases writes with ⟨null, rfl⟩ | ⟨text, writes, rfl⟩
  · rw [null]
    exact ⟨[], .nil, rfl⟩
  · obtain ⟨token, value, scans⟩ := defaultText_scans writes
    rw [value]
    exact ⟨[_], .cons (scans.after [.word "DEFAULT"] fun _ => rfl) .nil, rfl⟩

def collationParts (column : Column) : List String :=
  if column.collation.isTrue then ["COLLATE " ++ column.collation.toText] else []

/-- The collation of a column is cut into its own tokens. -/
theorem collationParts_scan {column : Column}
    (isWord : column.collation.isTrue = true → column.collation.IsWord) :
    ∃ founds, List.Forall₂ Scans column.collationParts founds ∧
      founds.flatten = column.collationTokens := by
  rw [collationParts, collationTokens]
  split
  · next isTrue =>
      have scans : Scans ("COLLATE " ++ column.collation.toText)
          [.word "COLLATE", .word column.collation.toText] :=
        (isWord isTrue).scans.after [.word "COLLATE"] fun _ => rfl
      exact ⟨[_], .cons scans .nil, rfl⟩
  · exact ⟨[], .nil, rfl⟩

/-- A line that is written joins the parts of its column. -/
theorem line_eq_ok {name : Value} {column : Column} {text : String}
    (written : column.line name = .ok text) :
    ∃ word default, name = .text word ∧ column.WritesDefault name default ∧
      text = String.intercalate " "
        (word :: column.storage.name :: column.constraints ++ default ++ column.collationParts) := by
  rw [line] at written
  split at written
  · next null =>
      obtain ⟨default, none, rest⟩ := Outcome.bind_eq_ok.mp written
      obtain ⟨word, named, rest⟩ := Outcome.bind_eq_ok.mp rest
      obtain rfl := Outcome.pure_eq_ok.mp none
      refine ⟨word, [], Value.asText_eq_ok.mp named, .inl ⟨?_, rfl⟩,
        (Outcome.pure_eq_ok.mp rest).symm⟩
      cases default : column.default <;> simp_all [Value.isNull]
  · obtain ⟨literal, writes, rest⟩ := Outcome.bind_eq_ok.mp written
    obtain ⟨default, one, rest⟩ := Outcome.bind_eq_ok.mp rest
    obtain ⟨word, named, rest⟩ := Outcome.bind_eq_ok.mp rest
    obtain rfl := Outcome.pure_eq_ok.mp one
    exact ⟨word, _, Value.asText_eq_ok.mp named, .inr ⟨literal, writes, rfl⟩,
      (Outcome.pure_eq_ok.mp rest).symm⟩

/-- The line of a column is cut into the tokens of the column. -/
theorem line_scans {name : Value} {column : Column} {text : String}
    (written : column.line name = .ok text) (isWord : name.IsWord)
    (collation : column.collation.isTrue = true → column.collation.IsWord) :
    Scans text (column.tokens name) := by
  obtain ⟨word, default, rfl, writes, rfl⟩ := line_eq_ok written
  obtain ⟨collations, scannedCollation, collationEq⟩ := collationParts_scan collation
  obtain ⟨defaults, scannedDefault, defaultEq⟩ := writes.scan
  obtain ⟨constraints, scannedConstraints, constraintEq⟩ := constraints_scan column
  have named : Scans word [.word word] := isWord.scans
  have scanned := scans_blanks (.cons named (.cons (scans_word (storage_isWord column.storage))
    (List.rel_append scannedConstraints (List.rel_append scannedDefault scannedCollation))))
  simp only [List.flatten_cons, List.flatten_append, collationEq, defaultEq, constraintEq,
    List.singleton_append] at scanned
  simpa [tokens, Value.toText] using scanned

/-- No default is a mark. -/
theorem defaultToken_noMark {default : Value} {token : Token}
    (written : default.defaultToken = some token) (c : Char) : token ≠ .mark c := by
  rintro rfl
  cases default <;> simp [Value.defaultToken] at written

/-- A column is written without brackets and commas. -/
theorem tokens_noMark (column : Column) (name : Value) :
    ∀ token ∈ column.tokens name, ∀ c, token ≠ .mark c := by
  have constraints : ∀ token ∈ column.constraintTokens, ∀ c, token ≠ .mark c := by
    unfold constraintTokens
    split
    · simp
    · cases column.unique <;> cases column.notNull <;> simp
  have default : ∀ token ∈ column.defaultTokens, ∀ c, token ≠ .mark c := by
    unfold defaultTokens
    split
    · next token written => simpa using defaultToken_noMark written
    · simp
  have collation : ∀ token ∈ column.collationTokens, ∀ c, token ≠ .mark c := by
    unfold collationTokens
    split <;> simp
  intro token member
  simp only [tokens, List.mem_cons, List.mem_append] at member
  rcases member with rfl | rfl | (member | member) | member
  exacts [fun _ => nofun, fun _ => nofun, constraints token member, default token member,
    collation token member]

end Column

/-! ## Constraints of the table -/

namespace Sql

/-- The tokens of a list of names in brackets. -/
def listTokens (names : List String) : List Token := .mark '(' :: nameTokens names ++ [.mark ')']

theorem separates_close : Separates ")" [.mark ')'] :=
  ⟨fun rest => Delimited.cons (by decide) rest, fun _ => rfl⟩

/-- A list of names is not cut at its commas. -/
theorem keptWhole_names (names : List String) : Statement.KeptWhole (listTokens names) :=
  Statement.keptWhole_bracket (Statement.keptInside_names names)

end Sql

theorem Value.wordNames {names : List String}
    (words : ∀ value ∈ names.map Value.text, value.IsWord) :
    ∀ name ∈ names, Sql.IsWord name.toList :=
  fun _ member => words _ (List.mem_map_of_mem member)

namespace ForeignKey

/-- The names of a foreign key are words. -/
structure WordNames (key : ForeignKey) : Prop where
  source : ∀ names, key.sourceColumns = .ok names → ∀ name ∈ names, name.IsWord
  table : ∀ name, key.table = .ok name → name.IsWord
  target : ∀ names, key.targetColumns = .ok names → ∀ name ∈ names, name.IsWord

/-- The tokens of the line of a foreign key. -/
def tokens (sources : List String) (table : String) (targets : List String) : List Token :=
  [.word "FOREIGN", .word "KEY"] ++ listTokens sources ++ [.word "REFERENCES", .word table] ++
    listTokens targets

/-- The line of a foreign key is cut into its columns, its table and the columns there. -/
theorem line_scans {key : ForeignKey} {text : String} (written : key.line = .ok text)
    (words : key.WordNames) :
    ∃ sources table targets, key.sourceColumns = .ok (sources.map Value.text) ∧
      key.table = .ok table ∧ key.targetColumns = .ok (targets.map Value.text) ∧
      Scans text (tokens sources table.toText targets) := by
  rw [line] at written
  obtain ⟨sources, sourcesDone, written⟩ := Outcome.bind_eq_ok.mp written
  obtain ⟨source, sourceDone, written⟩ := Outcome.bind_eq_ok.mp written
  obtain ⟨table, tableDone, written⟩ := Outcome.bind_eq_ok.mp written
  obtain ⟨targets, targetsDone, written⟩ := Outcome.bind_eq_ok.mp written
  obtain ⟨target, targetDone, written⟩ := Outcome.bind_eq_ok.mp written
  obtain rfl := Outcome.pure_eq_ok.mp written
  obtain ⟨sourceNames, rfl, rfl⟩ := Value.commaList_eq_ok.mp sourceDone
  obtain ⟨targetNames, rfl, rfl⟩ := Value.commaList_eq_ok.mp targetDone
  refine ⟨sourceNames, table, targetNames, sourcesDone, tableDone, targetsDone, ?_⟩
  have sourceScans := names_scan (Value.wordNames (words.source _ sourcesDone))
  have targetScans := names_scan (Value.wordNames (words.target _ targetsDone))
  have references : Separates ") REFERENCES " [.mark ')', .word "REFERENCES"] :=
    ⟨fun rest => Delimited.cons (by decide) (" REFERENCES ".toList ++ rest), fun _ => rfl⟩
  have opening : Separates "(" [.mark '('] :=
    ⟨fun rest => Delimited.cons (by decide) rest, fun _ => rfl⟩
  have opened : Scans ("FOREIGN KEY(" ++ String.intercalate ", " sourceNames)
      ([.word "FOREIGN", .word "KEY", .mark '('] ++ nameTokens sourceNames) :=
    sourceScans.after [.word "FOREIGN", .word "KEY", .mark '('] fun _ => rfl
  have scanned := ((opened.separated references (words.table _ tableDone).scans).separated opening
    targetScans).closed separates_close
  simpa [tokens, listTokens] using scanned

/-- A foreign key is not cut at the commas inside it. -/
theorem keptWhole_tokens (sources : List String) (table : String) (targets : List String) :
    Statement.KeptWhole (tokens sources table targets) :=
  (((Statement.keptWhole_words ["FOREIGN", "KEY"]).append (keptWhole_names sources)).append
    (Statement.keptWhole_words ["REFERENCES", table])).append (keptWhole_names targets)

end ForeignKey

namespace Schema

/-- The tokens of the line of a composite primary key. -/
def primaryKeyTokens (names : List String) : List Token :=
  [.word "PRIMARY", .word "KEY"] ++ listTokens names

/-- The line of the primary key is cut into its columns. -/
theorem primaryKeyLine_scans {names : List String} (words : ∀ name ∈ names, IsWord name.toList) :
    Scans ("PRIMARY KEY (" ++ String.intercalate ", " names ++ ")") (primaryKeyTokens names) := by
  have opened : Scans ("PRIMARY KEY (" ++ String.intercalate ", " names)
      ([.word "PRIMARY", .word "KEY", .mark '('] ++ nameTokens names) :=
    (names_scan words).after [.word "PRIMARY", .word "KEY", .mark '('] fun _ => rfl
  simpa [primaryKeyTokens, listTokens] using opened.closed separates_close

/-- It is not cut at the commas inside it. -/
theorem keptWhole_primaryKeyTokens (names : List String) :
    Statement.KeptWhole (primaryKeyTokens names) :=
  (Statement.keptWhole_words ["PRIMARY", "KEY"]).append (keptWhole_names names)

end Schema

end Tabular
