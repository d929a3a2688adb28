import Textbank.Failure
/-!
# Storage

`Storage σ` says that states of type `σ` keep the documents of banks, the resources that
inclusions name, and the outputs of exports.  Reading leaves a store as it is; writing gives the
store afterwards, also when it fails.
-/

namespace Textbank

/-- Stores of documents. -/
class Storage (σ : Type) where
  /-- The configuration that documents are kept by. -/
  config : σ → Config
  /-- Whether a document is stored for a bank. -/
  contains : σ → BankId → Bool
  /-- The document of a bank, if there is one. -/
  document? : σ → BankId → Except Failure (Option String)
  /-- The text of a resource, if there is one. -/
  resource? : σ → String → Except Failure (Option String)
  /-- Where the document of a bank lies, whether or not there is one. -/
  location : σ → BankId → String
  /-- The banks with a document, ascending. -/
  bankIds : σ → Except Failure (List BankId)
  /-- Write the document of a bank. -/
  putDocument : σ → BankId → String → Except Failure Unit × σ
  /-- Write an output and say where it went. -/
  putOutput : σ → String → String → Except Failure String × σ

/-- The folder of outputs. -/
def outputFolder : String := "out"

end Textbank
