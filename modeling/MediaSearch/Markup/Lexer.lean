/-
From an HTML text to its pieces.

Nothing is ever malformed enough to stop the reader but a marked section with an
unknown name: what cannot be read as markup is text.  A piece that the text ends in
the middle of is put off; when the end is reached the text is taken up from there
once more, and this time what is incomplete is text too.

The content of `script` and `style` goes up to their end tag, whatever it is, and is
skipped.
-/
import MediaSearch.Text.Blank
import MediaSearch.Text.Find
import MediaSearch.Text.Lower
import MediaSearch.Markup.CharRef
import MediaSearch.Markup.Token

namespace MediaSearch.Markup

open Text

/-- What was read at one place of a text. -/
inductive Piece
  /-- These pieces, and what is left. -/
  | read (tokens : List Token) (rest : List Char)
  /-- These pieces, but what is left needs more text. -/
  | waits (tokens : List Token) (rest : List Char)
  /-- The text ends in the middle of a tag, a comment or a declaration. -/
  | unfinished
  /-- The text is refused. -/
  | refused

/-- The text of a name, in small letters. -/
def nameText (name : List Char) : String :=
  String.ofList (lower name)

/-! ### Start tags -/

/-- Whether a character can be part of an element's name. -/
def isTagNameChar (c : Char) : Bool :=
  c != '\t' && c != '\n' && c != '\r' && c != '\x0c' && c != ' ' && c != '/' && c != '>'
    && c != '\x00'

/-- What follows blanks and slashes; a slash before the closing angle stays. -/
def afterSpacing : List Char → List Char
  | '/' :: '>' :: rest => '/' :: '>' :: rest
  | c :: rest => if isBlank c || c == '/' then afterSpacing rest else c :: rest
  | [] => []

/-- What follows the value of an attribute, if there is one: an equals sign and a text in quotes or
without. A quote that is not closed is no value, but it can be part of one. -/
def afterValue? (text : List Char) : Option (List Char) :=
  match text.dropWhile isBlank with
  | '=' :: rest =>
    let more := rest.dropWhile (· == '=')
    let value := more.dropWhile isBlank
    let bare := fun (text : List Char) => text.dropWhile fun c => !isBlank c && c != '>'
    match value with
    | [] => some []
    | c :: inside =>
      if c == '"' || c == '\'' then
        match after? c inside with
        | some behind => some behind
        | none =>
          if more.length != value.length then some value
          else if rest.length != more.length then some (bare more)
          else none
      else some (bare value)
  | _ => none

/-- The last character of what was read up to `rest`. -/
def lastBefore (text rest : List Char) (before : Char) : Char :=
  ((text.take (text.length - rest.length)).getLast?).getD before

/-- What follows one attribute; its name has to stand behind a blank, a slash or a quote. -/
def afterAttribute? (before : Char) : List Char → Option (List Char)
  | [] => none
  | c :: rest =>
    let free := isBlank before || before == '/' || before == '"' || before == '\''
    if !free || isBlank c || c == '/' || c == '>' then none
    else
      let name := rest.dropWhile fun c => !isBlank c && c != '/' && c != '=' && c != '>'
      let value := (afterValue? name).getD name
      some (afterSpacing value)

/-- What follows the attributes of a tag, by a bound on their number. -/
def afterAttributes (before : Char) (text : List Char) : Nat → List Char
  | 0 => text
  | bound + 1 =>
    match afterAttribute? before text with
    | none => text
    | some rest => afterAttributes (lastBefore text rest before) rest bound

/-- The end tag of an element whose content is not markup, if one starts here. -/
def afterRawEnd? (name : String) : List Char → Option (List Char)
  | '<' :: '/' :: rest =>
    match afterWord? name.toList (rest.dropWhile isBlank) with
    | none => none
    | some behind =>
      match behind.dropWhile isBlank with
      | '>' :: rest => some rest
      | _ => none
  | _ => none

/-- The pieces of a start tag that has been read; the content of `script` and `style` is skipped. -/
def startPiece (name : String) (closesItself : Bool) (rest : List Char) : Piece :=
  if closesItself then .read [.closed name] rest
  else if name == "script" || name == "style" then
    match findFrom? (afterRawEnd? name) rest with
    | some (_, behind) => .read [.start name, .finish name] behind
    | none => .read [.start name] []
  else .read [.start name] rest

/-- A start tag, behind its opening angle. -/
def startTag (text : List Char) : Piece :=
  let name := text.takeWhile isTagNameChar
  let behind := text.dropWhile isTagNameChar
  let spaced := behind.dropWhile fun c => isBlank c || c == '/'
  let gap := lastBefore text spaced '<'
  let rest := (afterAttributes gap spaced spaced.length).dropWhile isBlank
  let bare := rest.length == spaced.length
  match rest with
  | '>' :: rest => startPiece (nameText name) (bare && gap == '/') rest
  | '/' :: '>' :: rest => startPiece (nameText name) true rest
  | [] => .unfinished
  | c :: _ =>
    if c.isAlpha || c == '=' || c == '/' then .unfinished
    else .read [.text ('<' :: text.take (text.length - rest.length))] rest

/-! ### End tags -/

/-- Whether a character can be part of the name of an end tag that is read strictly. -/
def isEndNameChar (c : Char) : Bool :=
  c.isAlphanum || c == '-' || c == '.' || c == ':' || c == '_'

/-- An end tag with nothing but its name and blanks, behind its slash. -/
def strictEndTag? (text : List Char) : Option (List Char × List Char) :=
  match text.dropWhile isBlank with
  | [] => none
  | first :: rest =>
    if first.isAlpha then
      match (rest.dropWhile isEndNameChar).dropWhile isBlank with
      | '>' :: behind => some (first :: rest.takeWhile isEndNameChar, behind)
      | _ => none
    else none

/-- An end tag, behind its slash. -/
def endTag (text : List Char) : Piece :=
  match after? '>' text, strictEndTag? text with
  | none, _ => .unfinished
  | some _, some (name, behind) => .read [.finish (nameText name)] behind
  | some behind, none =>
    match text with
    | '>' :: rest => .read [] rest
    | first :: _ =>
      if first.isAlpha then
        .read [.finish (nameText (text.takeWhile isTagNameChar))] behind
      else .read [.gap] behind
    | [] => .unfinished

/-! ### Comments, declarations, instructions -/

/-- What follows a gap up to a character. -/
def gapUpTo (c : Char) (text : List Char) : Piece :=
  match after? c text with
  | some rest => .read [.gap] rest
  | none => .unfinished

/-- What follows the end of a comment, if it is here. -/
def afterCommentEnd? : List Char → Option (List Char)
  | '-' :: '-' :: rest =>
    match rest.dropWhile isBlank with
    | '>' :: behind => some behind
    | _ => none
  | _ => none

/-- What follows so many square brackets and an angle, with blanks between them, if they are
here. -/
def afterBrackets? : Nat → List Char → Option (List Char)
  | 0, '>' :: rest => some rest
  | count + 1, ']' :: rest => afterBrackets? count (rest.dropWhile isBlank)
  | _, _ => none

/-- Whether a character can be part of the name of a marked section. -/
def isSectionNameChar (c : Char) : Bool :=
  c.isAlphanum || c == '-' || c == '_' || c == '.'

/-- A marked section, behind its first square bracket. -/
def markedSection (text : List Char) : Piece :=
  match text with
  | [] => .unfinished
  | first :: tail =>
    if !first.isAlpha then .refused
    else
      let name := (first :: tail.takeWhile isSectionNameChar).map Char.toLower
      if ((tail.dropWhile isSectionNameChar).dropWhile isBlank).isEmpty then .unfinished
      else
        let brackets? :=
          if ["temp", "cdata", "ignore", "include", "rcdata"].contains (String.ofList name) then
            some 2
          else if ["if", "else", "endif"].contains (String.ofList name) then some 1
          else none
        match brackets? with
        | none => .refused
        | some brackets =>
          match findFrom? (afterBrackets? brackets) text with
          | none => .unfinished
          | some (content, rest) =>
            match afterWord? "cdata[".toList content with
            | some kept => .read [.verbatim kept] rest
            | none => .read [.gap] rest

/-- Anything that starts with an angle, behind it. -/
def angle (text : List Char) : Piece :=
  match text with
  | '/' :: rest => endTag rest
  | '!' :: '-' :: '-' :: rest =>
    match findFrom? afterCommentEnd? rest with
    | some (_, behind) => .read [.gap] behind
    | none => .unfinished
  | '?' :: rest => gapUpTo '>' rest
  | '!' :: '[' :: rest => markedSection rest
  | '!' :: rest =>
    match afterWord? "doctype".toList rest with
    | some behind => gapUpTo '>' behind
    | none => gapUpTo '>' rest
  | c :: rest => if c.isAlpha then startTag (c :: rest) else .read [.text ['<']] (c :: rest)
  | [] => .waits [] ['<']

/-! ### References -/

/-- Anything that starts with an ampersand, behind it. -/
def ampersand (final : Bool) (text : List Char) : Piece :=
  match text with
  | [] => .waits [] ['&']
  | '#' :: rest =>
    match numeric? rest with
    | some (c, behind) => .read [.text [c]] behind
    | none =>
      if rest.contains ';' then .waits [.text ['&', '#']] rest else .waits [] ('&' :: text)
  | c :: rest =>
    match named? text with
    | some (content, behind) => .read [.text content] behind
    | none =>
      if !c.isAlpha then .read [.text ['&']] text
      else if final && rest.isEmpty then .waits [] text
      else .waits [] ('&' :: text)

/-! ### The whole text -/

/-- One piece of a text that is not empty. -/
def piece (final : Bool) (text : List Char) : Piece :=
  match text with
  | [] => .read [] []
  | '<' :: rest => angle rest
  | '&' :: rest => ampersand final rest
  | _ =>
    .read [.text (text.takeWhile fun c => c != '<' && c != '&')]
      (text.dropWhile fun c => c != '<' && c != '&')

/-- What an unfinished tag, comment or declaration is taken for at the end: text up to its closing
angle, else up to the next opening one, else one character. -/
def giveUp (text : List Char) : List Char × List Char :=
  let tail := text.drop 1
  if tail.contains '>' then
    let inside := tail.takeWhile (· != '>')
    (text.take (inside.length + 2), tail.drop (inside.length + 1))
  else if tail.contains '<' then
    let inside := tail.takeWhile (· != '<')
    (text.take (inside.length + 1), tail.drop inside.length)
  else (text.take 1, tail)

/-- The pieces of a text, by a bound on their number: no text at all once it is exhausted. -/
def piecesOf (final : Bool) (text : List Char) : Nat → Option (List Token)
  | 0 => some []
  | bound + 1 =>
    if text.isEmpty then some []
    else
      match piece final text with
      | .refused => none
      | .read tokens rest => (piecesOf final rest bound).map (tokens ++ ·)
      | .waits tokens rest =>
        if final then some (tokens ++ [.text rest])
        else (piecesOf true rest bound).map (tokens ++ ·)
      | .unfinished =>
        if final then
          let (content, rest) := giveUp text
          (piecesOf final rest bound).map (.text content :: ·)
        else piecesOf true text bound

/-- The pieces of an HTML text, unless it is refused.  Every piece takes at least one character,
and the text is taken up again once. -/
def tokens? (text : List Char) : Option (List Token) :=
  piecesOf false text (text.length + 2)

end MediaSearch.Markup
