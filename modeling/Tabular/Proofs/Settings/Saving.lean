import Tabular.Proofs.Path.Normal
import Tabular.Proofs.Schema.Returning
import Tabular.Settings.File

/-!
This module loads saved settings. Saving leaves out what loading fills in, so that the settings come
back with their level in upper case and their database placed, and come back unchanged after that.
-/

namespace Tabular

namespace Text

/-! ## Case -/

/-- What holds of the first 128 codes holds of every letter of the small alphabet. -/
theorem forall_ascii (holds : Char → Prop) (each : ∀ code : Fin 128, holds (Char.ofNat code)) {c : Char}
    (ascii : c.toNat < 128) : holds c := by
  have held := each ⟨c.toNat, ascii⟩
  rwa [Char.ofNat_toNat] at held

theorem toUpper_ascii {c : Char} (ascii : c.toNat < 128) : c.toUpper.toNat < 128 :=
  forall_ascii (fun c => c.toUpper.toNat < 128) (by decide +kernel) ascii

/-- A raised letter of the basic alphabet stays as it is. -/
theorem upperLetter_toUpper {c : Char} (ascii : c.toNat < 128) :
    upperLetter c.toUpper = [c.toUpper] :=
  forall_ascii (fun c => upperLetter c.toUpper = [c.toUpper]) (by decide +kernel) ascii

/-- A text of the basic alphabet is raised letter by letter. -/
theorem toList_upper {text : String} (ascii : ∀ c ∈ text.toList, c.toNat < 128) :
    (upper text).toList = text.toList.map Char.toUpper := by
  rw [upper, String.toList_ofList, List.map_eq_flatMap]
  exact List.flatMap_congr fun c member => by rw [upperLetter, if_pos (ascii c member)]

/-- Such a text stays in the basic alphabet. -/
theorem upper_ascii {text : String} (ascii : ∀ c ∈ text.toList, c.toNat < 128) :
    ∀ c ∈ (upper text).toList, c.toNat < 128 := by
  rw [toList_upper ascii]
  exact List.forall_mem_map.mpr fun c member => toUpper_ascii (ascii c member)

/-- Letters of the small alphabet stay as they are once they are in upper case. -/
theorem upper_upper {text : String} (ascii : ∀ c ∈ text.toList, c.toNat < 128) :
    upper (upper text) = upper text := by
  have again : (text.toList.map Char.toUpper).flatMap upperLetter = text.toList.map Char.toUpper := by
    rw [List.flatMap_map, List.map_eq_flatMap]
    exact List.flatMap_congr fun c member => upperLetter_toUpper (ascii c member)
  rw [← String.toList_inj, upper, String.toList_ofList, toList_upper ascii, again]

end Text

namespace Settings

/-! ## Settings that are saved -/

/-- The settings have the types that their declaration gives them, and the level has no letter beyond
the small alphabet. -/
structure IsTyped (settings : Settings) : Prop where
  journalMode : ∃ mode, settings.journalMode = .text mode
  busyTimeout : ∃ milliseconds, settings.busyTimeout = .int milliseconds
  foreignKeys : ∃ flag, settings.foreignKeys = .bool flag
  logLevel : ∀ c ∈ settings.logLevel.toList, c.toNat < 128

/-- The text of a settings file in this form is read as the entries that were written. -/
def Readable (settings : Settings) (documents : DocumentFormat) : Prop :=
  documents.read (settings.toText documents) = .ok (.map settings.savedEntries)

/-- The level is in upper case. The database is in memory, or it is absolute, where a relative one is
placed in the directory of the settings file. -/
def normalised (settings : Settings) (file : String) : Settings :=
  { settings with
    database :=
      if settings.database = memory || Path.isAbsolute settings.database then settings.database
      else Path.joinTexts (Path.directoryText file) settings.database
    logLevel := Text.upper settings.logLevel }

/-- The entries that are saved, in the order of their keys. Defaults are left out, except for the
database. -/
theorem savedEntries_eq (settings : Settings) : settings.savedEntries =
    entryWhen (!settings.busyTimeout.same (.int 5000)) "busy-timeout" settings.busyTimeout ++
    entryWhen true "database" (.text settings.database) ++
    entryWhen settings.foreignKeys.isTrue "foreign-keys" settings.foreignKeys ++
    entryWhen settings.journalMode.isTrue "journal-mode" settings.journalMode ++
    entryWhen (settings.logLevel ≠ "WARNING") "log-level" (.text settings.logLevel) ++
    entryWhen (settings.streamPrefetch ≠ 1024) "stream-prefetch" (.int settings.streamPrefetch) ++
    entryWhen (settings.writeBatchSize ≠ 256) "write-batch-size" (.int settings.writeBatchSize) := rfl

/-- What is left out where it is usual is filled in. -/
theorem getD_unless {α : Type} [DecidableEq α] (make : α → Value) (given usual : α) :
    (if given = usual then none else some (make given)).getD (make usual) = make given := by
  split
  · next same => rw [same, Option.getD_none]
  · rfl

/-- A mode that is saved only when it is filled is read back. -/
theorem getD_filled (mode : String) :
    (if (Value.text mode).isTrue = true then some (Value.text mode) else none).getD (.text "") =
      .text mode := by
  split
  · rfl
  · next empty =>
      have same : mode = "" := by simpa [Value.isTrue] using empty
      rw [same, Option.getD_none]

/-- A flag that is saved only when it is on is read back. -/
theorem isOn_filled (flag : Bool) :
    isOn ((if (Value.bool flag).isTrue = true then some (Value.bool flag) else none).getD (.bool false)) =
      flag := by
  cases flag <;> rfl

/-- The entries that are saved are read as the settings, with the level in upper case and the database
placed in a directory. -/
theorem ofFileEntries_savedEntries {settings : Settings} (typed : settings.IsTyped) (directory : Path) :
    ofFileEntries directory settings.savedEntries = .ok { settings with
      database :=
        if settings.database = memory then settings.database else directory.join settings.database
      logLevel := Text.upper settings.logLevel } := by
  obtain ⟨database, journalMode, busyTimeout, foreignKeys, prefetch, batch, level⟩ := settings
  obtain ⟨mode, rfl⟩ := typed.journalMode
  obtain ⟨milliseconds, rfl⟩ := typed.busyTimeout
  obtain ⟨flag, rfl⟩ := typed.foreignKeys
  simp only [ofFileEntries, savedEntries_eq, entryOr, Keyed.get?_append, Keyed.get?_entryWhen]
  simp [getD_unless, getD_filled, isOn_filled, Value.toInteger, placed, Value.toText]
  rfl

/-! ## Settings in normal form -/

/-- Normalised settings have values of the right types. -/
theorem IsTyped.normalised {settings : Settings} (typed : settings.IsTyped) (file : String) :
    (settings.normalised file).IsTyped where
  journalMode := typed.journalMode
  busyTimeout := typed.busyTimeout
  foreignKeys := typed.foreignKeys
  logLevel := Text.upper_ascii typed.logLevel

/-- A database is placed in the directory of the settings file as the texts of both tell. -/
theorem database_normalised (settings : Settings) (file : Path.Normal) :
    (if settings.database = memory then settings.database
      else file.path.parent.join settings.database) = (settings.normalised file.text).database := by
  rw [normalised, Path.Normal.directoryText_text, Path.Normal.joinTexts_text, Path.Normal.parent_path]
  by_cases inMemory : settings.database = memory
  · simp [inMemory]
  · by_cases absolute : Path.isAbsolute settings.database <;> simp [inMemory, absolute, Path.join]

/-- Settings with a placed database and a raised level are normalised already. -/
theorem normalised_eq_self {settings : Settings} {file : String}
    (placed : settings.database = memory ∨ Path.isAbsolute settings.database = true)
    (raised : Text.upper settings.logLevel = settings.logLevel) : settings.normalised file = settings := by
  rw [normalised, if_pos (by simpa using placed), raised]

/-- Settings in normal form stay as they are. -/
theorem normalised_normalised {settings : Settings} (typed : settings.IsTyped) (file : Path.Normal) :
    (settings.normalised file.text).normalised file.text = settings.normalised file.text := by
  refine normalised_eq_self ?_ (Text.upper_upper typed.logLevel)
  rw [← database_normalised]
  split
  · next inMemory => exact .inl inMemory
  · exact .inr (Path.isAbsolute_join _ _)

/-! ## Loading what was saved -/

section Loading

variable {settings : Settings} {surroundings : Surroundings}

/-- Settings that are loaded from a file that was just saved are those of the text that was written. -/
theorem load_of_save {file : String} {after : Surroundings}
    (saved : settings.save surroundings file = .ok after) :
    load after (some file) = settings.reload surroundings (surroundings.path file) := by
  rw [save] at saved
  split at saved
  · cases saved
  · next proper =>
      split at saved
      · cases saved
      · next free =>
          cases saved
          have filled : file ≠ "" := by
            rintro rfl
            simp at proper
          rw [reload]
          generalize settings.toText surroundings.documents = content
          have same : (surroundings.withFile (surroundings.path file) content).path file =
              surroundings.path file := rfl
          have kept : (surroundings.withFile (surroundings.path file) content).isDirectory
              (surroundings.path file) = false := Bool.eq_false_iff.mpr free
          have written : (surroundings.withFile (surroundings.path file) content).text?
              (surroundings.path file) = some content := if_pos rfl
          rw [load, Option.filter_some, if_pos (by simpa using filled)]
          simp only [same, kept, written, Bool.false_eq_true, if_false]
          rfl

variable (unset : ∀ rest, surroundings.environment ("LITETABLE_" ++ rest) = none)

include unset in
/-- Without variables the settings stay as they are. -/
theorem withVariables_unset (settings : Settings) : settings.withVariables surroundings = settings := by
  have absent (rest : String) : surroundings.setting? ("LITETABLE_" ++ rest) = none := by
    rw [Surroundings.setting?, unset, Option.filter_none]
  have database : surroundings.setting? "LITETABLE_DB" = none := absent "DB"
  have logLevel : surroundings.setting? "LITETABLE_LOG_LEVEL" = none := absent "LOG_LEVEL"
  have foreignKeys : surroundings.setting? "LITETABLE_FOREIGN_KEYS" = none := absent "FOREIGN_KEYS"
  rw [withVariables, database, logLevel, foreignKeys]
  rfl

include unset in
/-- The text of saved settings is read as the settings in normal form. -/
theorem reload_typed (file : Path.Normal) (typed : settings.IsTyped)
    (readable : settings.Readable surroundings.documents) :
    settings.reload surroundings file.path = .ok (settings.normalised file.text) := by
  rw [reload, readable]
  simp only [Outcome.ok_bind, ofDocument, ofFileEntries_savedEntries typed, withVariables_unset unset,
    database_normalised, Outcome.pure_eq_ok]
  rfl

include unset in
/-- Settings that were just saved are loaded in normal form. -/
theorem load_typed (file : Path.Normal) (typed : settings.IsTyped)
    (readable : settings.Readable surroundings.documents) {after : Surroundings}
    (saved : settings.save surroundings file.text = .ok after) :
    load after (some file.text) = .ok (settings.normalised file.text) := by
  rw [load_of_save saved, Surroundings.path, Path.Normal.ofText_text]
  exact reload_typed unset file typed readable

end Loading

/-! ## Saving and loading -/

/-- Saving to a free name in a directory writes the text of the settings there. -/
theorem save_eq {settings : Settings} {surroundings : Surroundings} (file : Path.Normal)
    (directory : surroundings.isDirectory (surroundings.path (Path.directoryText file.text)) = true)
    (free : surroundings.isDirectory (surroundings.path file.text) = false) :
    settings.save surroundings file.text =
      .ok (surroundings.withFile (surroundings.path file.text)
        (settings.toText surroundings.documents)) := by
  have parent : (surroundings.path file.text).parent =
      surroundings.path (Path.directoryText file.text) := by
    simp only [Surroundings.path, Path.Normal.directoryText_text, Path.Normal.ofText_text,
      Path.Normal.parent_path]
  have filled : file.text ≠ "" := by
    intro empty
    have absolute := file.path.isAbsolute_toText
    rw [Path.Normal.toText_path, empty] at absolute
    cases absolute
  simp only [save, parent, directory, free, filled, decide_false, Bool.not_true, Bool.or_self,
    Bool.false_eq_true, if_false]
  rfl

/-- Settings that are saved are loaded in normal form, and settings in normal form as they are. -/
theorem load_saved (settings : Settings) (surroundings : Surroundings) (file : Path.Normal)
    (typed : settings.IsTyped)
    (unset : ∀ rest, surroundings.environment ("LITETABLE_" ++ rest) = none)
    (directory : surroundings.isDirectory (surroundings.path (Path.directoryText file.text)) = true)
    (free : surroundings.isDirectory (surroundings.path file.text) = false)
    (readable : settings.Readable surroundings.documents)
    (readableAgain : (settings.normalised file.text).Readable surroundings.documents) :
    ∃ after again : Surroundings,
      settings.save surroundings file.text = .ok after ∧
      load after (some file.text) = .ok (settings.normalised file.text) ∧
      (settings.normalised file.text).save after file.text = .ok again ∧
      load again (some file.text) = .ok (settings.normalised file.text) := by
  let documents := surroundings.documents
  let after := surroundings.withFile (surroundings.path file.text) (settings.toText documents)
  let again := after.withFile (after.path file.text)
    ((settings.normalised file.text).toText documents)
  have saved : settings.save surroundings file.text = .ok after := save_eq file directory free
  have savedAgain : (settings.normalised file.text).save after file.text = .ok again :=
    save_eq file directory free
  refine ⟨after, again, saved, load_typed unset file typed readable saved, savedAgain, ?_⟩
  have unsetAfter : ∀ rest, after.environment ("LITETABLE_" ++ rest) = none := unset
  rw [load_typed unsetAfter file (typed.normalised file.text) readableAgain savedAgain,
    normalised_normalised typed file]

/-- The settings file of a directory below the root. -/
def belowRoot : Path.Normal where
  root := .single
  names := ["data", fileName]
  areNames name member := by
    simp only [List.mem_cons, List.not_mem_nil, or_false] at member
    rcases member with rfl | rfl
    · exact ⟨by decide, by decide, by decide, by decide⟩
    · exact ⟨by decide, by decide, by decide, by decide⟩

/-- Settings of which three are not the usual ones are saved below the root and loaded. -/
theorem load_saved_belowRoot :
    ∃ after again : Surroundings,
      save { database := "rows.db", busyTimeout := .int 250, logLevel := "debug" }
        { text? := fun _ => none, isDirectory := fun path => path = ⟨["data"]⟩ }
        "/data/litetable.yaml" = .ok after ∧
      load after (some "/data/litetable.yaml") = .ok
        { database := "/data/rows.db", busyTimeout := .int 250, logLevel := "DEBUG" } ∧
      save { database := "/data/rows.db", busyTimeout := .int 250, logLevel := "DEBUG" } after
        "/data/litetable.yaml" = .ok again ∧
      load again (some "/data/litetable.yaml") = .ok
        { database := "/data/rows.db", busyTimeout := .int 250, logLevel := "DEBUG" } := by
  have text : belowRoot.text = "/data/litetable.yaml" := by decide +kernel
  have normal : normalised { database := "rows.db", busyTimeout := .int 250, logLevel := "debug" }
      belowRoot.text = { database := "/data/rows.db", busyTimeout := .int 250, logLevel := "DEBUG" } := by
    decide +kernel
  have loaded := load_saved { database := "rows.db", busyTimeout := .int 250, logLevel := "debug" }
    { text? := fun _ => none, isDirectory := fun path => path = ⟨["data"]⟩ } belowRoot
    ⟨⟨_, rfl⟩, ⟨_, rfl⟩, ⟨_, rfl⟩, by simp⟩ (fun _ => rfl) (by decide +kernel) (by decide +kernel)
    (by unfold Readable; decide +kernel) (by rw [normal]; unfold Readable; decide +kernel)
  rwa [normal, text] at loaded

end Settings

end Tabular
