/-
What can be wrong with an item in the crawler's data.
-/
import MediaSearch.Json.Display

namespace MediaSearch

/-- What is wrong with a part of an item. -/
inductive Fault
  /-- The item is no object. -/
  | itemNotObject
  /-- A field is missing. -/
  | missing (field : String)
  /-- A field has a value of the wrong type. -/
  | wrongType (field : String) (found : Json.Value)
  /-- The description is no object. -/
  | descriptionNotObject
  /-- The description's markup is not known. -/
  | unknownFormat (found : Json.Value)
  /-- A tag is neither a text nor an object. -/
  | notATag (found : Json.Value)
  /-- A file is no object. -/
  | fileNotObject
  /-- A file's type is not known. -/
  | unknownFileType (found : Json.Value)
  /-- The files nested in a container are no array. -/
  | nestedNotList

/-- What is wrong, in words. -/
def Fault.text : Fault → String
  | itemNotObject => "items must be objects"
  | missing field => "missing field '" ++ field ++ "'"
  | wrongType field found => "field '" ++ field ++ "' has unexpected type " ++ found.typeName
  | descriptionNotObject => "description must be an object"
  | unknownFormat found => "unknown description format " ++ found.display
  | notATag found => "tag must be a string or object, got " ++ found.typeName
  | fileNotObject => "file entries must be objects"
  | unknownFileType found => "unknown file type " ++ found.display
  | nestedNotList => "field 'nested' must be a list"

/-- A fault of an item, with the item's key if it has one. -/
structure FormatError where
  /-- The key. -/
  key? : Option String
  /-- What is wrong. -/
  fault : Fault

/-- The message that a fault is reported with. -/
def FormatError.message (e : FormatError) : String :=
  "Malformed item " ++ e.key?.getD "<unknown>" ++ ": " ++ e.fault.text

end MediaSearch
