/-
What an operation on files gives: its answer, the files as it leaves them, and what it logs. The
files are there after a failure, too, so that what a failed operation leaves can be asked for.
-/
import Investigations.Error
import Investigations.Files.Disk
import Investigations.Log

namespace Investigations

open Files

/-- The answer of an operation, the files it leaves, and the events it logs, in order. -/
structure Outcome (α : Type) where
  answer : Except Error α
  disk : Disk
  events : List Event

end Investigations
