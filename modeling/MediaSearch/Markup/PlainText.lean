/-
The text of an HTML document.

The pieces are put together with the stack of the elements that are open.  Text
inside `script`, `style`, `template`, `rt` and `rp` is left out.  A run of nothing but
ASCII blanks shrinks to a line feed if it has one, else to a space, unless `pre` or
`textarea` is open; a run ends wherever an element begins or ends.
-/
import MediaSearch.Markup.Lexer

namespace MediaSearch.Markup

/-- Whether an element never has content, so that it ends where it starts. -/
def isVoid (name : String) : Bool :=
  ["area", "base", "basefont", "bgsound", "br", "col", "command", "embed", "frame", "hr", "image",
   "img", "input", "isindex", "keygen", "link", "menuitem", "meta", "nextid", "param", "source",
   "spacer", "track", "wbr"].contains name

/-- Whether an element's text is not part of the document's text. -/
def hidesText (name : String) : Bool :=
  ["rp", "rt", "script", "style", "template"].contains name

/-- Whether an element keeps its blanks. -/
def keepsBlanks (name : String) : Bool :=
  ["pre", "textarea"].contains name

/-- A document that is being read. -/
structure Reading where
  /-- The open elements, the innermost first. -/
  openElements : List String
  /-- The elements without content whose end tags are still to be skipped. -/
  endedEarly : List String
  /-- The run of text that is being collected, if there is one. -/
  run : Option (List Char)
  /-- The text so far. -/
  text : List Char

namespace Reading

/-- A run of text as it goes into the document. -/
def shrunk (r : Reading) (run : List Char) : List Char :=
  let isSpace := fun c => c == ' ' || c == '\n' || c == '\t' || c == '\x0c' || c == '\r'
  if r.openElements.any keepsBlanks || !run.all isSpace then run
  else if run.contains '\n' then ['\n']
  else [' ']

/-- The reading with its run of text completed. -/
def flush (r : Reading) : Reading :=
  match r.run with
  | none => r
  | some run =>
    { r with
      run := none
      text := if r.openElements.any hidesText then r.text else r.text ++ r.shrunk run }

/-- The reading after an element has started. -/
def begin (r : Reading) (name : String) : Reading :=
  let r := r.flush
  { r with openElements := name :: r.openElements }

/-- The reading after the innermost element of a name has ended, with all elements in it. -/
def leave (r : Reading) (name : String) : Reading :=
  let r := r.flush
  if r.openElements.contains name then
    { r with openElements := (r.openElements.dropWhile (· != name)).drop 1 }
  else r

/-- The reading after an end tag. -/
def finish (r : Reading) (name : String) : Reading :=
  if r.endedEarly.contains name then { r with endedEarly := r.endedEarly.erase name }
  else r.leave name

/-- The reading after one more piece. -/
def add (r : Reading) : Token → Reading
  | .text content => { r with run := some (r.run.getD [] ++ content) }
  | .verbatim content =>
    let r := r.flush
    { r with text := r.text ++ r.shrunk content }
  | .start name =>
    let r := r.begin name
    if isVoid name then
      let r := r.leave name
      { r with endedEarly := name :: r.endedEarly }
    else r
  | .closed name => (r.begin name).finish name
  | .finish name => r.finish name
  | .gap => r.flush

end Reading

/-- The text of an HTML document, unless it is refused. -/
def plainText? (html : String) : Option String :=
  (tokens? html.toList).map fun tokens =>
    String.ofList (tokens.foldl Reading.add ⟨[], [], none, []⟩).flush.text

end MediaSearch.Markup
