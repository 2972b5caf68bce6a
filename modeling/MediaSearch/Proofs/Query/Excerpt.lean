/-
Excerpts are found.

A comparison asks whether a text occurs in a part of the item once both are in small letters.  What
stands there verbatim does occur, unless taking it out severs a capital sigma in it from its
neighbours: the two have become different small letters then.  For all other excerpts the
comparison holds, in a text at any depth of the metadata just as in a title
(`mentions_of_textIn`, `HasText.meets`).
-/
import MediaSearch.Proofs.Item.Metadata
import MediaSearch.Proofs.Query.Meaning
import MediaSearch.Proofs.Text.Excerpt

namespace MediaSearch.Query

variable {clock : Clock} {item : Item} {field : Field} {text value : String}

/-! ### Texts of an item -/

/-- A text is in a value: it is one of the texts or a name of a member, at any depth. -/
inductive TextIn : Json.Value → String → Prop
  /-- The value is the text, -/
  | here (text : String) : TextIn (.string text) text
  /-- the text is in an item of an array, -/
  | item {items : List Json.Value} {value : Json.Value} {text : String} (mem : value ∈ items)
      (inner : TextIn value text) : TextIn (.array items) text
  /-- it is the name of a member, -/
  | name {members : List (String × Json.Value)} {text : String} {value : Json.Value}
      (mem : (text, value) ∈ members) : TextIn (.object members) text
  /-- or in the value of one. -/
  | member {members : List (String × Json.Value)} {name text : String} {value : Json.Value}
      (mem : (name, value) ∈ members) (inner : TextIn value text) : TextIn (.object members) text

/-- A comparison looks into this text of the item. -/
inductive HasText (item : Item) : Field → String → Prop
  /-- The title, -/
  | title : HasText item .title item.title
  /-- the address, -/
  | url : HasText item .url item.url
  /-- the text of the description, -/
  | description {text : String} (shown : item.description.text? = some text) :
      HasText item .description text
  /-- and what is in the metadata; -/
  | metadata {text : String} (inside : TextIn item.metadata text) : HasText item .metadata text
  /-- full text is all of these -/
  | part {field : Field} {text : String} (part : HasText item field text) :
      HasText item .fulltext text
  /-- and the content of the text files. -/
  | file {key content : String} (flat : .inlineText key content ∈ item.flatFiles.values) :
      HasText item .fulltext content

/-! ### Looking into them -/

/-- A text that is in a value is one of its atoms. -/
theorem TextIn.hasAtom {value : Json.Value} (hin : TextIn value text) : value.HasAtom text := by
  induction hin with
  | here text => exact .text text
  | item mem inner ih => exact .item mem ih
  | name mem => exact .name mem
  | member mem inner ih => exact .member mem ih

/-- What occurs in a text that is in a value is found in the value. -/
theorem mentions_of_textIn {needle : List Char} {value : Json.Value} (hin : TextIn value text)
    (h : Text.mentions text needle = true) : value.mentions needle = true :=
  Json.Value.mentions_of_hasAtom hin.hasAtom h

/-- What occurs in a text that a comparison looks into is what the comparison asks for. -/
theorem HasText.meets (hpart : HasText item field text) (h : Occurs value text) :
    field.Meets item value := by
  induction hpart with
  | title => exact h
  | url => exact h
  | description shown => exact ⟨_, shown, h⟩
  | metadata inside => exact mentions_of_textIn inside (mentions_iff_occurs.mpr h)
  | file flat => exact Or.inr (Or.inr (Or.inr (Or.inr ⟨_, _, flat, h⟩)))
  | @part field text part ih =>
      cases field with
      | tag => cases part
      | site => cases part
      | title => exact Or.inl (ih h)
      | url => exact Or.inr (Or.inl (ih h))
      | description => exact Or.inr (Or.inr (Or.inl (ih h)))
      | metadata => exact Or.inr (Or.inr (Or.inr (Or.inl (ih h))))
      | fulltext => exact ih h

/-- A comparison holds when what it asks is met, unless it needs a description without a text. -/
theorem holds_of_meets (h : field.Meets item value)
    (hreadable : DescriptionReadable item field value) :
    (Expr.text field value).holds clock item = .ok true := by
  rw [text_holds]
  cases hmatches : field.matches item value with
  | ok b => rw [(meets_iff_of_matches hmatches).mpr h]
  | error f =>
      obtain ⟨hreads, hrefused, -⟩ := matches_eq_error_iff.mp hmatches
      exact absurd hrefused (hreadable hreads)

/-! ### Excerpts -/

/-- An excerpt that severs no sigma occurs in its text. -/
theorem occurs_of_not_seversSigma {before behind : String} (hcut : text = before ++ value ++ behind)
    (h : ¬ Text.SeversSigma before.toList value.toList behind.toList) : Occurs value text := by
  have hinfix := Text.lower_infix_of_not_seversSigma h
  rwa [← String.toList_append, ← String.toList_append, ← hcut] at hinfix

/-- A post about Odysseus, in capitals. -/
def odysseus : Item :=
  { (default : Item) with title := "ΟΔΥΣΣΕΑΣ" }

end MediaSearch.Query
