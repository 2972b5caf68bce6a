/-
Items in the crawler's data.

`Item.ofJson` reads an item from a JSON object and checks the types of its fields;
`Item.toJson` writes it back.  Members that are not known are skipped, and a flag may
be any value: it counts as set unless it is null, false, zero or empty.
-/
import MediaSearch.Item.Basic
import MediaSearch.Item.FormatError

namespace MediaSearch

open Json (Value)

/-! ### Fields -/

/-- The members of an object. -/
abbrev Members := List (String × Value)

/-- A text that has to be there. -/
def textField (members : Members) (name : String) : Except Fault String :=
  match members.lookup name with
  | none => .error (.missing name)
  | some (.string value) => .ok value
  | some other => .error (.wrongType name other)

/-- A whole number that has to be there. -/
def intField (members : Members) (name : String) : Except Fault Int :=
  match members.lookup name with
  | none => .error (.missing name)
  | some (.int value) => .ok value
  | some other => .error (.wrongType name other)

/-- A whole number, 0 when it is not there. -/
def intFieldOr0 (members : Members) (name : String) : Except Fault Int :=
  match members.lookup name with
  | none => .ok 0
  | some _ => intField members name

/-- An array, empty when it is not there. -/
def arrayField (members : Members) (name : String) : Except Fault (List Value) :=
  match members.lookup name with
  | none => .ok []
  | some (.array items) => .ok items
  | some other => .error (.wrongType name other)

/-- Whether a flag is set. -/
def flagField (members : Members) (name : String) : Bool :=
  ((members.lookup name).map Value.isSet).getD false

/-! ### Tags -/

/-- A tag from its text, or from an object with its text and group. -/
def Tag.ofJson : Value → Except Fault Tag
  | .string value => .ok ⟨value, none⟩
  | .object members => do
    let value ← textField members "value"
    let group ← textField members "group"
    pure ⟨value, some group⟩
  | other => .error (.notATag other)

/-- A tag in the crawler's data. -/
def Tag.toJson (tag : Tag) : Value :=
  match tag.group with
  | none => .string tag.value
  | some group => .object [("value", .string tag.value), ("group", .string group)]

/-! ### Files -/

/-- Where a file comes from. -/
def Download.ofJson (members : Members) : Except Fault Download := do
  let key ← textField members "key"
  let filename ← textField members "filename"
  let url ← textField members "url"
  pure ⟨key, filename, url, flagField members "downloaded"⟩

/-- A file from its members and the files nested in it, which only a container looks at. -/
def File.ofMembers (members : Members) (nested : Except Fault (List File)) : Except Fault File :=
  match members.lookup "type" with
  | some (.string "ImageFile") => (Download.ofJson members).map .image
  | some (.string "VideoFile") => (Download.ofJson members).map .video
  | some (.string "IntermediateFile") => do
    let source ← Download.ofJson members
    pure (.container source (flagField members "postprocessingErrors") (← nested))
  | some (.string "InlineTextFile") => do
    let key ← textField members "key"
    pure (.inlineText key (← textField members "content"))
  | other => .error (.unknownFileType (other.getD .null))

mutual

/-- A file in the crawler's data. -/
def File.ofJson : Value → Except Fault File
  | .object members => File.ofMembers members (File.nestedOfJson members)
  | _ => .error .fileNotObject

/-- The files nested in a container with these members. -/
def File.nestedOfJson : Members → Except Fault (List File)
  | [] => .ok []
  | (name, value) :: members =>
    if name == "nested" then File.listOfJson value else File.nestedOfJson members

/-- The files of an array. -/
def File.listOfJson : Value → Except Fault (List File)
  | .array items => File.allOfJson items
  | _ => .error .nestedNotList

/-- Every file of a list. -/
def File.allOfJson : List Value → Except Fault (List File)
  | [] => .ok []
  | item :: items => do
    let file ← File.ofJson item
    pure (file :: (← File.allOfJson items))

end

/-- The members that every downloaded file has. -/
def Download.toJson (type : String) (source : Download) : Members :=
  [("type", .string type), ("key", .string source.key), ("filename", .string source.filename),
   ("downloaded", .bool source.downloaded), ("url", .string source.url)]

mutual

/-- A file in the crawler's data. -/
def File.toJson : File → Value
  | .image source => .object (source.toJson "ImageFile")
  | .video source => .object (source.toJson "VideoFile")
  | .container source errors nested =>
    .object (source.toJson "IntermediateFile"
      ++ [("postprocessingErrors", .bool errors), ("nested", .array (File.allToJson nested))])
  | .inlineText key content =>
    .object [("type", .string "InlineTextFile"), ("key", .string key), ("content", .string content)]

/-- Every file of a list. -/
def File.allToJson : List File → List Value
  | [] => []
  | file :: files => File.toJson file :: File.allToJson files

end

/-! ### Items -/

/-- The markups by their names. -/
def TextFormat.named : List (String × TextFormat) :=
  [("markdown", .markdown), ("plaintext", .plaintext), ("html", .html)]

/-- The name of a markup. -/
def TextFormat.name : TextFormat → String
  | markdown => "markdown"
  | plaintext => "plaintext"
  | html => "html"

/-- The markup that a value names. -/
def TextFormat.ofJson (value : Value) : Except Fault TextFormat :=
  let found :=
    match value with
    | .string name => TextFormat.named.lookup name
    | _ => none
  match found with
  | some format => .ok format
  | none => .error (.unknownFormat value)

/-- A description; a missing one is like null. -/
def FormattedText.ofJson : Value → Except Fault FormattedText
  | .object members => do
    let format ← TextFormat.ofJson ((members.lookup "format").getD .null)
    pure ⟨format, ← textField members "value"⟩
  | _ => .error .descriptionNotObject

/-- An item from its members, for a site. -/
def Item.ofMembers (site : String) (members : Members) : Except Fault Item := do
  let key ← textField members "key"
  let title ← textField members "title"
  let url ← textField members "url"
  let description ← FormattedText.ofJson ((members.lookup "description").getD .null)
  let published ← intField members "sourcePublished"
  let firstSeen ← intFieldOr0 members "firstSeen"
  let lastSeen ← intFieldOr0 members "lastSeen"
  let tags ← (← arrayField members "tags").mapM Tag.ofJson
  let files ← File.allOfJson (← arrayField members "files")
  pure {
    title, key, url, description, published, firstSeen, lastSeen, tags, files, site,
    metadata := (members.lookup "meta").getD .null
    seenInLastRefresh := flagField members "seenInLastRefresh" }

/-- The key that a faulty item is reported with. -/
def reportedKey? (members : Members) : Option String :=
  match members.lookup "key" with
  | some (.string key) => some key
  | _ => none

/-- An item in the crawler's data, for a site. -/
def Item.ofJson (site : String) : Value → Except FormatError Item
  | .object members =>
    (Item.ofMembers site members).mapError fun fault => ⟨reportedKey? members, fault⟩
  | _ => .error ⟨none, .itemNotObject⟩

/-- The members of an item in the crawler's data. -/
def Item.toMembers (item : Item) : Members :=
  [("title", .string item.title),
   ("key", .string item.key),
   ("url", .string item.url),
   ("description", .object [("format", .string item.description.format.name),
     ("value", .string item.description.value)]),
   ("meta", item.metadata),
   ("sourcePublished", .int item.published),
   ("firstSeen", .int item.firstSeen),
   ("lastSeen", .int item.lastSeen),
   ("seenInLastRefresh", .bool item.seenInLastRefresh),
   ("tags", .array (item.tags.map Tag.toJson)),
   ("files", .array (File.allToJson item.files))]

/-- An item in the crawler's data. -/
def Item.toJson (item : Item) : Value :=
  .object item.toMembers

end MediaSearch
