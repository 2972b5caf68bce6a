/-
Reading JSON text.

A text is cut into tokens by one pass over its characters, and the tokens are put
together by one pass with a stack of the arrays and objects that are open.  Numbers
may be `NaN`, `Infinity` and `-Infinity`; of two members with one name the later
value is kept, in the earlier place.
-/
import MediaSearch.Text.Digits
import MediaSearch.Json.Value
import MediaSearch.Keyed

namespace MediaSearch.Json

/-! ### Tokens -/

/-- A token of a JSON text. -/
inductive Token
  | openArray
  | closeArray
  | openObject
  | closeObject
  | comma
  | colon
  /-- A value that is not an array or object. -/
  | scalar (value : Value)

/-- A number, by its sign, digits, fraction and exponent; a whole number of more digits than are read
is none. -/
def number? (word : List Char) : Option Value := do
  let (negative, rest) :=
    match word with
    | '-' :: rest => (true, rest)
    | _ => (false, word)
  let whole := rest.takeWhile Char.isDigit
  let rest := rest.dropWhile Char.isDigit
  if whole.isEmpty || (1 < whole.length && whole.head? == some '0') then none
  let (fraction, rest) ←
    match rest with
    | '.' :: rest =>
      let digits := rest.takeWhile Char.isDigit
      if digits.isEmpty then none else some (digits, rest.dropWhile Char.isDigit)
    | _ => some ([], rest)
  let exponent? ←
    match rest with
    | [] => some none
    | mark :: rest =>
      if mark != 'e' && mark != 'E' then none
      else
        let (back, digits) :=
          match rest with
          | '-' :: digits => (true, digits)
          | '+' :: digits => (false, digits)
          | _ => (false, rest)
        if digits.isEmpty || !digits.all Char.isDigit then none
        else
          let size : Int := Text.digitsValue digits
          some (some (if back then -size else size))
  if fraction.isEmpty && exponent?.isNone then
    if Text.maxDigits < whole.length then none
    let size : Int := Text.digitsValue whole
    pure (.int (if negative then -size else size))
  else
    pure (.float (.ofDecimal negative (Text.digitsValue (whole ++ fraction))
      (exponent?.getD 0 - fraction.length)))

/-- A word that stands for a value. -/
def word? (word : List Char) : Option Value :=
  match String.ofList word with
  | "null" => some .null
  | "true" => some (.bool true)
  | "false" => some (.bool false)
  | "NaN" => some (.float .notANumber)
  | "Infinity" => some (.float (.infinite false))
  | "-Infinity" => some (.float (.infinite true))
  | _ => number? word

/-- Whether a character can be part of a word. -/
def isWordChar (c : Char) : Bool :=
  c.isAlphanum || c == '-' || c == '+' || c == '.'

/-- The character that a one-letter escape stands for. -/
def escape? : Char → Option Char
  | '"' => some '"'
  | '\\' => some '\\'
  | '/' => some '/'
  | 'b' => some '\x08'
  | 'f' => some '\x0c'
  | 'n' => some '\n'
  | 'r' => some '\r'
  | 't' => some '\t'
  | _ => none

/-- Where the reader is between two characters.  What is being read is kept backwards. -/
inductive Mode
  /-- Outside words and texts. -/
  | between
  /-- In a word. -/
  | word (taken : List Char)
  /-- In a text; `high` is the first unit of a pair whose second one has to follow. -/
  | text (taken : List Char) (high : Option Nat)
  /-- In a text, after a backslash. -/
  | escape (taken : List Char) (high : Option Nat)
  /-- In a text, with so many digits of a unit still to come. -/
  | unit (taken : List Char) (high : Option Nat) (missing value : Nat)

/-- What a text has taken when a first unit stays without its second. -/
def settled (taken : List Char) (high : Option Nat) : List Char :=
  if high.isSome then '\uFFFD' :: taken else taken

/-- A text with a complete unit behind it. -/
def withUnit (taken : List Char) (high : Option Nat) (unit : Nat) : Mode :=
  if 0xD800 ≤ unit && unit < 0xDC00 then .text (settled taken high) (some unit)
  else if 0xDC00 ≤ unit && unit < 0xE000 then
    match high with
    | some first =>
      .text (Char.ofNat (0x10000 + (first - 0xD800) * 0x400 + (unit - 0xDC00)) :: taken) none
    | none => .text ('\uFFFD' :: taken) none
  else .text (Char.ofNat unit :: settled taken high) none

/-- The token that a single character is. -/
def mark? : Char → Option Token
  | '[' => some .openArray
  | ']' => some .closeArray
  | '\x7b' => some .openObject
  | '\x7d' => some .closeObject
  | ',' => some .comma
  | ':' => some .colon
  | _ => none

/-- One character outside words and texts: the token that it is, and where the reader is then. -/
def stepBetween (c : Char) : Option (List Token × Mode) :=
  if c == ' ' || c == '\n' || c == '\r' || c == '\t' then some ([], .between)
  else if c == '"' then some ([], .text [] none)
  else if isWordChar c then some ([], .word [c])
  else (mark? c).map fun token => ([token], .between)

/-- One character: the tokens that it completes, and where the reader is then. -/
def step (mode : Mode) (c : Char) : Option (List Token × Mode) :=
  match mode with
  | .between => stepBetween c
  | .word taken =>
    if isWordChar c then some ([], .word (c :: taken))
    else do
      let value ← word? taken.reverse
      let (tokens, next) ← stepBetween c
      pure (.scalar value :: tokens, next)
  | .text taken high =>
    if c == '"' then
      some ([.scalar (.string (String.ofList (settled taken high).reverse))], .between)
    else if c == '\\' then some ([], .escape taken high)
    else if c.toNat < 32 then none
    else some ([], .text (c :: settled taken high) none)
  | .escape taken high =>
    if c == 'u' then some ([], .unit taken high 4 0)
    else (escape? c).map fun c => ([], .text (c :: settled taken high) none)
  | .unit taken high missing value =>
    if Text.isHexDigit c then
      let value := 16 * value + Text.hexDigit c
      some ([], if missing ≤ 1 then withUnit taken high value
        else .unit taken high (missing - 1) value)
    else none

/-- The tokens of a text that is read from a given place on. -/
def tokensFrom : Mode → List Char → Option (List Token)
  | .between, [] => some []
  | .word taken, [] => (word? taken.reverse).map fun value => [.scalar value]
  | _, [] => none
  | mode, c :: rest => do
    let (tokens, next) ← step mode c
    pure (tokens ++ (← tokensFrom next rest))

/-! ### Values -/

/-- An array or object that is open; the items of an array are kept backwards. -/
inductive Frame
  /-- The items so far. -/
  | array (items : List Value)
  /-- The members so far, and the name of the one that is being read. -/
  | object (members : List (String × Value)) (name : String)

/-- What may come next. -/
inductive Expected
  /-- A value. -/
  | value
  /-- A value, or the end of an array that has none. -/
  | valueOrEnd
  /-- A comma, or the end of the innermost array or object. -/
  | commaOrEnd
  /-- The name of a member of an object with these members. -/
  | name (members : List (String × Value))
  /-- The name of a first member, or the end of an object that has none. -/
  | nameOrEnd
  /-- The colon behind a name. -/
  | colon
  /-- Nothing: this is the value. -/
  | nothing (value : Value)

/-- What follows a complete value: it goes into the innermost frame. -/
def placed (value : Value) : List Frame → List Frame × Expected
  | [] => ([], .nothing value)
  | .array items :: outer => (.array (value :: items) :: outer, .commaOrEnd)
  | .object members name :: outer =>
    (.object (Keyed.put name value members) name :: outer, .commaOrEnd)

/-- What follows one token. -/
def advance (frames : List Frame) (expected : Expected) (token : Token) :
    Option (List Frame × Expected) :=
  match expected, token, frames with
  | .value, .scalar value, _ => some (placed value frames)
  | .value, .openArray, _ => some (.array [] :: frames, .valueOrEnd)
  | .value, .openObject, _ => some (frames, .nameOrEnd)
  | .valueOrEnd, .closeArray, .array _ :: outer => some (placed (.array []) outer)
  | .valueOrEnd, .scalar value, _ => some (placed value frames)
  | .valueOrEnd, .openArray, _ => some (.array [] :: frames, .valueOrEnd)
  | .valueOrEnd, .openObject, _ => some (frames, .nameOrEnd)
  | .commaOrEnd, .comma, .array _ :: _ => some (frames, .value)
  | .commaOrEnd, .closeArray, .array items :: outer => some (placed (.array items.reverse) outer)
  | .commaOrEnd, .comma, .object members _ :: outer => some (outer, .name members)
  | .commaOrEnd, .closeObject, .object members _ :: outer => some (placed (.object members) outer)
  | .name members, .scalar (.string name), _ => some (.object members name :: frames, .colon)
  | .nameOrEnd, .scalar (.string name), _ => some (.object [] name :: frames, .colon)
  | .nameOrEnd, .closeObject, _ => some (placed (.object []) frames)
  | .colon, .colon, _ => some (frames, .value)
  | _, _, _ => none

/-- The value that the tokens make up. -/
def assemble (frames : List Frame) (expected : Expected) : List Token → Option Value
  | [] =>
    match expected with
    | .nothing value => some value
    | _ => none
  | token :: tokens => do
    let (frames, expected) ← advance frames expected token
    assemble frames expected tokens

/-- The value of a JSON text. -/
def Value.read? (text : String) : Option Value := do
  assemble [] .value (← tokensFrom .between text.toList)

end MediaSearch.Json
