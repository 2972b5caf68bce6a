/-
Conditions as they are shown when a search is looked into.
-/
import MediaSearch.Query.Expr
import MediaSearch.Text.Quoted

namespace MediaSearch.Query

/-- The name of a field's condition. -/
def Field.shown : Field → String
  | tag => "Tag"
  | site => "Site"
  | fulltext => "Fulltext"
  | title => "Title"
  | metadata => "Meta"
  | description => "Desc"
  | url => "Url"

/-- The name of a relation's condition. -/
def Relation.shown : Relation → String
  | after => "After"
  | before => "Before"
  | during => "During"

/-- A kind of media with its names. -/
def shownKind : MediaKind → String
  | .image => "<FileKind.IMAGE: 'image'>"
  | .video => "<FileKind.VIDEO: 'video'>"
  | .text => "<FileKind.TEXT: 'text'>"

mutual

/-- A condition. -/
def Expr.shown : Expr → String
  | .all conditions => "And(children=(" ++ Expr.shownList conditions ++ "))"
  | .any conditions => "Or(children=(" ++ Expr.shownList conditions ++ "))"
  | .not condition => "Not(child=" ++ Expr.shown condition ++ ")"
  | .text field value => field.shown ++ "(value=" ++ Text.quoted value ++ ")"
  | .kind k => "Type(kind=" ++ shownKind k ++ ")"
  | .published relation time => relation.shown ++ "(raw=" ++ Text.quoted time ++ ")"
  | .foreign shown => shown

/-- Conditions with commas between them; one alone has a comma behind it. -/
def Expr.shownList : List Expr → String
  | [] => ""
  | [only] => Expr.shown only ++ ","
  | first :: second :: others =>
    Expr.shown first ++ ", " ++ Expr.shown second ++ Expr.shownMore others

/-- Further conditions, each with a comma before it. -/
def Expr.shownMore : List Expr → String
  | [] => ""
  | next :: others => ", " ++ Expr.shown next ++ Expr.shownMore others

end

end MediaSearch.Query
