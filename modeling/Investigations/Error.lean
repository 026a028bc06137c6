/-
What can go wrong, and the one wording of each failure.
-/
import Investigations.Files.Tree

namespace Investigations

open Files

/-- The description of a failed file operation, for a failure that comes with one. -/
def Files.Fault.description? : Fault → Option String
  | .described text => some text
  | _ => none

/-- A failure. Data that is absent is none: a file that does not exist reads as empty, and so does
one that another server wrote. -/
inductive Error where
  /-- The build has no directory of the host below its artifacts directory. -/
  | hostDirectoryMissing (buildId : UInt64) (path : Path)
  /-- A suggestion can not be stored. -/
  | invalidSuggestion (testNameId reason : String)
  /-- The configuration is of no use. There is no text if it can not be read as a configuration
  at all. -/
  | config (text : Option String)
  /-- A value can not be written as text. -/
  | serialization (text : String)
  /-- A file operation failed. -/
  | io (fault : Fault)
deriving DecidableEq, Repr

namespace Error

/-- `kind`, and after a colon the detail, where there is one. -/
def withDetail (kind : String) : Option String → String
  | some detail => kind ++ ": " ++ detail
  | none => kind

/-- The wording of a failure. -/
def message : Error → String
  | .hostDirectoryMissing buildId path =>
    "artifact directory " ++ path.text ++ " does not exist for build " ++ toString buildId.toNat
  | .invalidSuggestion testNameId reason =>
    "invalid record for test '" ++ testNameId ++ "': " ++ reason
  | .config text => withDetail "config error" text
  | .serialization text => "serialization error: " ++ text
  | .io fault => withDetail "io error" fault.description?

end Error

end Investigations
