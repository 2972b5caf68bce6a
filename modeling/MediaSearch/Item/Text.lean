/-
The searchable text of a description.
-/
import MediaSearch.Item.Basic
import MediaSearch.Markup.PlainText

namespace MediaSearch

/-- The text of a description: of HTML the text of the document, else what is written.  HTML that
is refused has none. -/
def FormattedText.text? (t : FormattedText) : Option String :=
  match t.format with
  | .html => Markup.plainText? t.value
  | .markdown | .plaintext => some t.value

end MediaSearch
