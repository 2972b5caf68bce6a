/-
Finding a text in metadata.

Metadata is searched by its atoms: the texts in it, the names of members and the numbers as they are
written out, at any depth (`HasAtom`).  A text is found exactly if it occurs in one of them, both in
small letters (`mentions_iff_exists_atom`); one direction follows the value, the other the way to
the atom.  All else is about atoms alone.  Putting items or members into another order
leaves them as they are (`Reordered.hasAtom_iff`), and what is around a value only adds to them
(`Within.hasAtom`).
-/
import Mathlib.Data.List.Infix
import MediaSearch.Item.Metadata
import MediaSearch.Proofs.Text.Search

namespace MediaSearch.Json.Value

variable {needle : List Char} {value value' whole : Value} {items : List Value}
  {members : List (String × Value)} {atom : String}

/-! ### Atoms -/

/-- A value has something that can be searched, at any depth. -/
inductive HasAtom : Value → String → Prop
  /-- The value is a text -/
  | text (text : String) : HasAtom (.string text) text
  /-- or a number, whole -/
  | int (number : Int) : HasAtom (.int number) (Value.int number).display
  /-- or not, as it is written out; -/
  | float (number : Decimal.Binary64) : HasAtom (.float number) (Value.float number).display
  /-- it is an array with an item that has it; -/
  | item {items : List Value} {value : Value} {atom : String} (mem : value ∈ items)
      (inner : HasAtom value atom) : HasAtom (.array items) atom
  /-- it is an object with a member of that name, whatever the member is, -/
  | name {members : List (String × Value)} {name : String} {value : Value}
      (mem : (name, value) ∈ members) : HasAtom (.object members) name
  /-- or with a member that has it. -/
  | member {members : List (String × Value)} {name : String} {value : Value} {atom : String}
      (mem : (name, value) ∈ members) (inner : HasAtom value atom) :
      HasAtom (.object members) atom

/-! ### Searching -/

theorem itemsMention_eq_true_iff :
    itemsMention needle items = true ↔ ∃ value ∈ items, value.mentions needle = true := by
  induction items with
  | nil => simp
  | cons first rest ih => simp [ih]

theorem membersMention_eq_true_iff :
    membersMention needle members = true ↔ ∃ member ∈ members,
      Text.mentions member.1 needle = true ∨ member.2.mentions needle = true := by
  induction members with
  | nil => simp
  | cons first rest ih =>
      rw [membersMention, Bool.or_eq_true, Bool.or_eq_true, ih, List.exists_mem_cons_iff]

/-- What occurs in an atom of a value is found in the value. -/
theorem mentions_of_hasAtom (hatom : HasAtom value atom) (h : Text.mentions atom needle = true) :
    value.mentions needle = true := by
  induction hatom with
  | text text => rwa [mentions]
  | int number => rwa [mentions]
  | float number => rwa [mentions]
  | item mem inner ih =>
      rw [mentions, itemsMention_eq_true_iff]
      exact ⟨_, mem, ih h⟩
  | name mem =>
      rw [mentions, membersMention_eq_true_iff]
      exact ⟨_, mem, .inl h⟩
  | member mem inner ih =>
      rw [mentions, membersMention_eq_true_iff]
      exact ⟨_, mem, .inr (ih h)⟩

theorem sizeOf_lt_of_mem_members {name : String} (h : (name, value) ∈ members) :
    sizeOf value < sizeOf members := by
  have hmember : sizeOf (name, value) < sizeOf members := List.sizeOf_lt_of_mem h
  rw [Prod.mk.sizeOf_spec] at hmember
  omega

/-- What is found in a value occurs in one of its atoms. -/
theorem exists_atom_of_mentions :
    ∀ {value : Value}, value.mentions needle = true →
      ∃ atom, HasAtom value atom ∧ Text.mentions atom needle = true
  | .string text, h => ⟨text, .text text, by rwa [mentions] at h⟩
  | .int number, h => ⟨_, .int number, by rwa [mentions] at h⟩
  | .float number, h => ⟨_, .float number, by rwa [mentions] at h⟩
  | .array items, h => by
      rw [mentions, itemsMention_eq_true_iff] at h
      obtain ⟨value, hmem, hfound⟩ := h
      have : sizeOf value < sizeOf items := List.sizeOf_lt_of_mem hmem
      obtain ⟨atom, hatom, hoccurs⟩ := exists_atom_of_mentions hfound
      exact ⟨atom, .item hmem hatom, hoccurs⟩
  | .object members, h => by
      rw [mentions, membersMention_eq_true_iff] at h
      obtain ⟨⟨name, value⟩, hmem, hname | hfound⟩ := h
      · exact ⟨name, .name hmem, hname⟩
      · have : sizeOf value < sizeOf members := sizeOf_lt_of_mem_members hmem
        obtain ⟨atom, hatom, hoccurs⟩ := exists_atom_of_mentions hfound
        exact ⟨atom, .member hmem hatom, hoccurs⟩
  | .bool _, h => nomatch h
  | .null, h => nomatch h

theorem mentions_iff_exists_atom :
    value.mentions needle = true ↔ ∃ atom, HasAtom value atom ∧ Text.mentions atom needle = true :=
  ⟨exists_atom_of_mentions, fun ⟨_, hatom, h⟩ => mentions_of_hasAtom hatom h⟩

/-! ### Other orders and larger values -/

/-- A value with the items of arrays and the members of objects in another order, at any depth. -/
inductive Reordered : Value → Value → Prop
  /-- An array has its items in another order, -/
  | items {items items' : List Value} (perm : items.Perm items') :
      Reordered (.array items) (.array items')
  /-- or an object its members, -/
  | members {members members' : List (String × Value)} (perm : members.Perm members') :
      Reordered (.object members) (.object members')
  /-- or this is so within an item -/
  | inItem {value value' : Value} (before behind : List Value) (inner : Reordered value value') :
      Reordered (.array (before ++ value :: behind)) (.array (before ++ value' :: behind))
  /-- or within a member, -/
  | inMember {value value' : Value} (before behind : List (String × Value)) (name : String)
      (inner : Reordered value value') :
      Reordered (.object (before ++ (name, value) :: behind))
        (.object (before ++ (name, value') :: behind))
  /-- and all that in any number of places. -/
  | trans {value value' value'' : Value} (first : Reordered value value')
      (second : Reordered value' value'') : Reordered value value''

/-- A value stands within another, at any depth. -/
inductive Within (value : Value) : Value → Prop
  /-- It is the other, -/
  | here : Within value value
  /-- or stands within an item of it -/
  | item {items : List Value} {around : Value} (mem : around ∈ items)
      (inner : Within value around) : Within value (.array items)
  /-- or within a member of it. -/
  | member {members : List (String × Value)} {name : String} {around : Value}
      (mem : (name, around) ∈ members) (inner : Within value around) :
      Within value (.object members)

theorem hasAtom_array_iff :
    HasAtom (.array items) atom ↔ ∃ value ∈ items, HasAtom value atom := by
  constructor
  · intro h
    cases h with
    | item mem inner => exact ⟨_, mem, inner⟩
  · rintro ⟨value, mem, inner⟩
    exact .item mem inner

theorem hasAtom_object_iff :
    HasAtom (.object members) atom ↔
      ∃ member ∈ members, member.1 = atom ∨ HasAtom member.2 atom := by
  constructor
  · intro h
    cases h with
    | name mem => exact ⟨_, mem, .inl rfl⟩
    | member mem inner => exact ⟨_, mem, .inr inner⟩
  · rintro ⟨member, mem, rfl | inner⟩
    · exact .name mem
    · exact .member mem inner

/-- In another order a value has the same atoms. -/
theorem Reordered.hasAtom_iff (h : Reordered value value') :
    HasAtom value atom ↔ HasAtom value' atom := by
  induction h with
  | items perm =>
      rw [hasAtom_array_iff, hasAtom_array_iff]
      simp only [perm.mem_iff]
  | members perm =>
      rw [hasAtom_object_iff, hasAtom_object_iff]
      simp only [perm.mem_iff]
  | inItem before behind inner ih =>
      rw [hasAtom_array_iff, hasAtom_array_iff]
      simp only [List.mem_append, List.mem_cons, or_and_right, exists_or, exists_eq_left, ih]
  | inMember before behind name inner ih =>
      rw [hasAtom_object_iff, hasAtom_object_iff]
      simp only [List.mem_append, List.mem_cons, or_and_right, exists_or, exists_eq_left, ih]
  | trans first second ih ih' => exact ih.trans ih'

/-- What is around a value takes no atom away. -/
theorem Within.hasAtom (h : Within value whole) (hatom : HasAtom value atom) :
    HasAtom whole atom := by
  induction h with
  | here => exact hatom
  | item mem inner ih => exact .item mem ih
  | member mem inner ih => exact .member mem ih

/--
**A text is found in metadata exactly if it occurs in an atom.**  The atoms are the texts, the names
of members and the numbers as they are written out, at any depth; truth values and nulls have none,
so that the empty text is found wherever there is an atom at all.  The order of items and members
makes no difference, and what is found in a value is found in all that it is put into.
-/
theorem contains_iff_exists_atom :
    (∀ (value : Value) (text : String), value.contains text = true ↔
      ∃ atom, HasAtom value atom ∧ Text.lower text.toList <:+: Text.lower atom.toList) ∧
    (∀ value : Value, value.contains "" = true ↔ ∃ atom, HasAtom value atom) ∧
    (∀ value value' : Value, Reordered value value' →
      ∀ text, value'.contains text = value.contains text) ∧
    ∀ value whole : Value, Within value whole →
      ∀ text, value.contains text = true → whole.contains text = true := by
  have hfound : ∀ (value : Value) (text : String), value.contains text = true ↔
      ∃ atom, HasAtom value atom ∧ Text.lower text.toList <:+: Text.lower atom.toList := by
    intro value text
    rw [contains, mentions_iff_exists_atom]
    simp only [Text.mentions, Text.occursIn_eq_true_iff]
  refine ⟨hfound, fun value => ?_, fun value value' hsame text => ?_,
    fun value whole hwithin text h => ?_⟩
  · rw [hfound]
    refine exists_congr fun atom => and_iff_left ?_
    exact List.nil_infix
  · rw [Bool.eq_iff_iff, hfound, hfound]
    simp only [hsame.hasAtom_iff]
  · obtain ⟨atom, hatom, hoccurs⟩ := (hfound value text).mp h
    exact (hfound whole text).mpr ⟨atom, hwithin.hasAtom hatom, hoccurs⟩

/-- What a camera left behind, with places. -/
def cameraData : Value :=
  .object [("Lens", .null), ("iso", .int 400), ("places", .array [.bool true, .string "LAKE"])]

/-- The same, with its members and the places the other way round. -/
def cameraDataReversed : Value :=
  .object [("places", .array [.string "LAKE", .bool true]), ("iso", .int 400), ("Lens", .null)]

/-- The name of the lens is found without a lens and the number by its digits, in either order, and
the lake as it is among the places; the truth value is not found. -/
theorem contains_in_cameraData :
    (cameraData.contains "lens" = true ∧ ¬ cameraData.contains "true" = true) ∧
    (Reordered cameraData cameraDataReversed ∧
      cameraDataReversed.contains "40" = cameraData.contains "40") ∧
    (Within (.string "LAKE") cameraData ∧ cameraData.contains "lake" = true) := by
  obtain ⟨hfound, -, hsame, hwithin⟩ := contains_iff_exists_atom
  have hreordered : Reordered cameraData cameraDataReversed := by
    refine .trans (.members (List.reverse_perm _).symm) ?_
    exact .inMember [] _ "places" (.items (List.Perm.swap _ _ _))
  have hinside : Within (.string "LAKE") cameraData :=
    .member (List.mem_cons_of_mem _ (List.mem_cons_of_mem _ List.mem_cons_self))
      (.item (List.mem_cons_of_mem _ List.mem_cons_self) .here)
  refine ⟨⟨(hfound _ _).mpr ⟨"Lens", .name List.mem_cons_self, ?_⟩, ?_⟩,
    ⟨hreordered, hsame _ _ hreordered "40"⟩, hinside, hwithin _ _ hinside "lake" ?_⟩
  · exact Text.occursIn_eq_true_iff.mp (by decide +kernel)
  · decide +kernel
  · decide +kernel

end MediaSearch.Json.Value
