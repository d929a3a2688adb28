import Textbank.Document.Parser
/-!
# Failures

Everything that an operation on banks can fail with, by cause, and its wording.
-/

namespace Textbank

/-- Why an operation failed. -/
inductive Failure where
  /-- A document breaks a rule of its format. -/
  | document (fault : Document.Fault)
  /-- A token that a user typed is no numeral. -/
  | numeral (fault : Numeral.Fault)
  /-- No document is stored for a bank. -/
  | noContent (bank : BankId)
  /-- A bank has to be loaded first. -/
  | notLoaded (bank : BankId)
  /-- A character that may not stand in a value. -/
  | badValue (c : Char) (value : String)
  /-- A resource name leads out of the store. -/
  | badResourceName (name : String)
  /-- The store does not take writes. -/
  | writeRefused
  /-- A cell holds no value. -/
  | noValue (cell : Cell)
  /-- Nothing says where the directory of the store is. -/
  | noDirectory
  /-- The file system failed. -/
  | io
deriving DecidableEq, Repr

/-- The wording of a failure. -/
def Failure.message : Failure → String
  | .document fault => "Parse error: " ++ fault.message
  | .numeral fault => "Bad numeral: " ++ fault.message
  | .noContent bank => "No bank content for id " ++ Numeral.encode 10 0 bank
  | .notLoaded bank => "Bank " ++ Numeral.encode 10 0 bank ++ " is not loaded"
  | .badValue c value =>
    "Invalid value: " ++ quotedChar c ++ " may not appear in a value: " ++ quoted value
  | .badResourceName name =>
    "Store error: Resource name must be a relative path inside the store: " ++ quoted name
  | .writeRefused => "Store error: Simulated write error"
  | .noValue cell => "Api Error: No value at " ++ cell.name
  | .noDirectory => "Store error: Could not determine data dir"
  | .io => "IO error"

end Textbank
