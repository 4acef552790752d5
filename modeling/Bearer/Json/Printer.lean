import Bearer.Json.Text
import Bearer.Text.Decimal

/-!
# Writing JSON

Objects are written compactly, with their members in the given order. The result is a list of
characters, as the reader takes the bytes of a text.
-/

namespace Bearer.Json

/-- A written member of an object. -/
def printMember (name : String) (value : List Char) : List Char :=
  printText name ++ ':' :: value

/-- A written object, without blanks. -/
def printObject (members : List (String × List Char)) : List Char :=
  let written := members.map fun (name, value) => printMember name value
  '{' :: [','].intercalate written ++ ['}']

end Bearer.Json
