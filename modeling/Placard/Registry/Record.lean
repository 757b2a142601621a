import Placard.Connection.Record
import Placard.Registry

/-! Registries as JSON text: an array of records in the order of the registry. -/

namespace Placard.Registry

/-- A registry as a JSON value. -/
def toJson (registry : Registry) : Json :=
  .array (registry.toList.map Connection.toJson)

/-- The text of a registry, as it is kept in a file. -/
def write (registry : Registry) : String :=
  registry.toJson.pretty

/-- Why a text writes no registry. -/
structure DataError where
  text : String
  fault : Json.Fault
deriving Repr, Inhabited

/-- What is wrong with the text, and where. -/
def DataError.reason (error : DataError) : String := error.fault.message error.text

/-- The wording of a text that writes no registry. -/
def DataError.message (error : DataError) : String := "Invalid connections data: " ++ error.reason

/-- The registry that a text writes. -/
def parse (text : String) : Except DataError Registry :=
  (Connection.parseAll text).mapError (⟨text, ·⟩) |>.map ofList

end Placard.Registry
