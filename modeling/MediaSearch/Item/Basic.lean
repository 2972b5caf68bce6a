/-
Crawled items.

An item is a post: its texts, its metadata, the times that belong to it, its tags
and its files.  A file can be a container that has been expanded into further files;
for a search, an item's files are the leaves of that forest, one for each key
(`Item.flatFiles`).
-/
import MediaSearch.Item.MediaKind
import MediaSearch.Json.Value
import MediaSearch.Keyed

namespace MediaSearch

/-- The markup of a description. -/
inductive TextFormat
  | markdown
  | plaintext
  | html
  deriving DecidableEq, Repr, Inhabited

/-- A text with its markup. -/
structure FormattedText where
  /-- The markup. -/
  format : TextFormat
  /-- The text as it is written. -/
  value : String
  deriving DecidableEq, Repr, Inhabited

/-- A tag, with the group it belongs to if it has one. -/
structure Tag where
  /-- The text of the tag. -/
  value : String
  /-- The group. -/
  group : Option String
  deriving DecidableEq, Repr

/-- Where a file comes from. -/
structure Download where
  /-- The file's key within the item. -/
  key : String
  /-- The name of the file. -/
  filename : String
  /-- The address of the file. -/
  url : String
  /-- Whether the file is there. -/
  downloaded : Bool
  deriving DecidableEq, Repr

/-- A file of an item. -/
inductive File
  /-- A picture. -/
  | image (source : Download)
  /-- A film. -/
  | video (source : Download)
  /-- An archive or a page that stands for the files found in it. -/
  | container (source : Download) (postprocessingErrors : Bool) (nested : List File)
  /-- A text, with its content. -/
  | inlineText (key content : String)
  deriving Repr, Inhabited

namespace File

/-- The key of a file within its item. -/
def key : File → String
  | image source => source.key
  | video source => source.key
  | container source _ _ => source.key
  | inlineText key _ => key

/-- The kind of media that a file is, if it is one. -/
def kind? : File → Option MediaKind
  | image _ => some .image
  | video _ => some .video
  | container _ _ _ => none
  | inlineText _ _ => some .text

/-- The name of a file's type in the crawler's data. -/
def typeName : File → String
  | image _ => "ImageFile"
  | video _ => "VideoFile"
  | container _ _ _ => "IntermediateFile"
  | inlineText _ _ => "InlineTextFile"

mutual

/-- The files that a file stands for: those nested in it, or the file itself. -/
@[simp]
def leaves : File → List File
  | container _ _ (first :: others) => leaves first ++ leavesOfAll others
  | container source errors [] => [container source errors []]
  | image source => [image source]
  | video source => [video source]
  | inlineText key content => [inlineText key content]

/-- The files that several files stand for, in order. -/
@[simp]
def leavesOfAll : List File → List File
  | [] => []
  | file :: files => leaves file ++ leavesOfAll files

end

end File

/-- A crawled post. -/
structure Item where
  /-- The title. -/
  title : String
  /-- The key, which is the item's own within its site. -/
  key : String
  /-- The address. -/
  url : String
  /-- The description. -/
  description : FormattedText
  /-- What else the crawler found. -/
  metadata : Json.Value
  /-- The time of publication, in milliseconds since the start of 1970. -/
  published : Int
  /-- The time at which the item was first seen. -/
  firstSeen : Int
  /-- The time at which the item was last seen. -/
  lastSeen : Int
  /-- Whether the last crawl still found the item. -/
  seenInLastRefresh : Bool
  /-- The tags. -/
  tags : List Tag
  /-- The files, in the order in which they were found. -/
  files : List File
  /-- The short name of the item's site. -/
  site : String
  deriving Inhabited

/-- The files of an item with containers expanded, under their keys. -/
def Item.flatFiles (item : Item) : Keyed String File :=
  Keyed.ofValues File.key (File.leavesOfAll item.files)

end MediaSearch
