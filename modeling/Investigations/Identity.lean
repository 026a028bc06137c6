/-
The identity of a server installation. A suggestions file carries the identity that it was
written under, and is of no account under any other.
-/
import Investigations.Json.Print

namespace Investigations

open Json

/-- The identity of the persistent state of one server installation. -/
structure ServerIdentity where
  value : String
deriving DecidableEq, Repr

/-- A character that ends a line. -/
def isLineBreak (c : Char) : Bool :=
  c = '\n' || c = '\r'

namespace ServerIdentity

/-- The identity can not stand in one line. -/
def hasLineBreak (identity : ServerIdentity) : Bool :=
  identity.value.toList.any isLineBreak

/-- The identity as JSON. -/
def toJson (identity : ServerIdentity) : Value := .ofText identity.value

/-- The identity that a JSON value stands for. -/
def ofJson? (value : Value) : Option ServerIdentity := value.text?.map ServerIdentity.mk

end ServerIdentity

end Investigations
