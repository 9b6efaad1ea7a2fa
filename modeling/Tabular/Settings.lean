import Tabular.Value.Access

/-!
This module holds the settings of a connection and of the command line.
-/

namespace Tabular

/-- The settings of a connection. Those that are only passed on keep any value. -/
structure Settings where
  database : String := "litetable.db"
  journalMode : Value := .text ""
  busyTimeout : Value := .int 5000
  foreignKeys : Value := .bool false
  streamPrefetch : Int := 1024
  writeBatchSize : Int := 256
  logLevel : String := "WARNING"
  deriving DecidableEq

namespace Value

/-- This function reads a value as an integer. A fraction is dropped and a text is read. -/
def toInteger (value : Value) : Except Failure Int :=
  match value with
  | .int whole => pure whole
  | .bool flag => pure (if flag then 1 else 0)
  | .float .nan => throw .notANumber
  | .float (.infinite _) => throw .notFinite
  | .float number => pure ((number.truncate?).getD 0)
  | .text content =>
      match IntegerText.read content with
      | .value whole => pure whole
      | .tooLong digits => throw (.integerTooLong digits)
      | .malformed => throw (.integerText content)
  | _ => throw .wrongType

end Value

end Tabular
