import Tabular.Outcome

/-!
This module describes the forms in which documents are kept as texts. The library reads its settings and
schema files through such a form and knows no more of it.
-/

namespace Tabular

/-- A form of documents, with its reader and its writer. What the reader refuses is never a failure of the
library's own. -/
structure DocumentFormat where
  read : String → Except Failure Value
  write : Value → String
  read_avoids : ∀ text, Outcome.Avoids Failure.isLibrary (read text)

end Tabular
