/-
Values with more members.

A value extends another when it says the same and may say more: its objects have the members
of the other's objects, which extend them in turn, and others under names that the other does
not use.  Arrays have equally many items, and a text, number or flag stays what it is.  That is
how files of different versions differ when a version adds fields and takes none away.
-/
import Mathlib.Data.List.Forall2
import MediaSearch.Item.Json

namespace MediaSearch

open Json (Value)

namespace Json

/-- A value says what another says; its objects may have more members, at any depth. -/
inductive Extends : Value → Value → Prop
  | same (value : Value) : Extends value value
  | array {items items' : List Value} (each : List.Forall₂ Extends items items') :
      Extends (.array items) (.array items')
  | object {members members' : List (String × Value)}
      (there : ∀ name, (members.lookup name).isSome → (members'.lookup name).isSome)
      (each : ∀ name value value', members.lookup name = some value →
        members'.lookup name = some value' → Extends value value') :
      Extends (.object members) (.object members')

namespace Extends

variable {value value' : Value} {items : List Value} {members members' : Members} {name : String}

theorem exists_array (h : Extends (.array items) value') :
    ∃ items', value' = .array items' ∧ List.Forall₂ Extends items items' := by
  cases h with
  | same => exact ⟨items, rfl, List.forall₂_same.mpr fun item _ => .same item⟩
  | array each => exact ⟨_, rfl, each⟩

theorem exists_object (h : Extends (.object members) value') :
    ∃ members', value' = .object members' := by
  cases h with
  | same => exact ⟨members, rfl⟩
  | object => exact ⟨_, rfl⟩

/-- A member is there, with a value that extends the one it had. -/
theorem exists_member (h : Extends (.object members) (.object members')) (name : String)
    (hname : members.lookup name = some value) :
    ∃ value', members'.lookup name = some value' ∧ Extends value value' := by
  cases h with
  | same => exact ⟨value, hname, .same value⟩
  | object there each =>
      obtain ⟨value', hvalue'⟩ := Option.isSome_iff_exists.mp (there name (by rw [hname]; rfl))
      exact ⟨value', hvalue', each _ _ _ hname hvalue'⟩

/-- A member under a name that is not used says more and nothing else. -/
theorem cons (hnew : members.lookup name = none) :
    Extends (.object members) (.object ((name, value) :: members)) := by
  have hkept : ∀ other found, members.lookup other = some found →
      ((name, value) :: members).lookup other = some found := by
    intro other found hfound
    have hne : (other == name) = false := beq_false_of_ne fun h => by
      rw [h, hnew] at hfound
      exact nomatch hfound
    rw [List.lookup_cons, hne]
    exact hfound
  refine .object ?_ ?_
  · intro other hthere
    obtain ⟨found, hfound⟩ := Option.isSome_iff_exists.mp hthere
    rw [hkept other found hfound]
    rfl
  · intro other found found' hfound hfound'
    rw [hkept other found hfound] at hfound'
    obtain rfl := Option.some.inj hfound'
    exact .same found

end Extends

/-- A value that has no parts. -/
def Value.IsPlain : Value → Prop
  | .array _ => False
  | .object _ => False
  | _ => True

theorem Extends.eq_of_isPlain {value value' : Value} (h : Extends value value')
    (hplain : value.IsPlain) : value' = value := by
  cases h with
  | same => rfl
  | array => exact hplain.elim
  | object => exact hplain.elim

end Json

/-! ### Fields -/

section Fields

open Json (Extends)

variable {members members' : Members} {name : String}

theorem lookup_of_extends (h : Extends (.object members) (.object members')) {value : Value}
    (hname : members.lookup name = some value) (hplain : value.IsPlain) :
    members'.lookup name = some value := by
  obtain ⟨value', hvalue', hextends⟩ := h.exists_member name hname
  rw [hvalue', hextends.eq_of_isPlain hplain]

theorem textField_of_extends (h : Extends (.object members) (.object members')) {text : String}
    (hname : members.lookup name = some (.string text)) : textField members' name = .ok text := by
  rw [textField, lookup_of_extends h hname trivial]

theorem intField_of_extends (h : Extends (.object members) (.object members')) {number : Int}
    (hname : members.lookup name = some (.int number)) : intField members' name = .ok number := by
  rw [intField, lookup_of_extends h hname trivial]

theorem intFieldOr0_of_extends (h : Extends (.object members) (.object members')) {number : Int}
    (hname : members.lookup name = some (.int number)) :
    intFieldOr0 members' name = .ok number := by
  rw [intFieldOr0, lookup_of_extends h hname trivial]
  exact intField_of_extends h hname

theorem flagField_of_extends (h : Extends (.object members) (.object members')) {flag : Bool}
    (hname : members.lookup name = some (.bool flag)) : flagField members' name = flag := by
  rw [flagField, lookup_of_extends h hname trivial]
  rfl

theorem arrayField_of_extends (h : Extends (.object members) (.object members')) (name : String)
    {items : List Value} (hname : members.lookup name = some (.array items)) :
    ∃ items', arrayField members' name = .ok items' ∧ List.Forall₂ Extends items items' := by
  obtain ⟨value', hvalue', hextends⟩ := h.exists_member name hname
  obtain ⟨items', rfl, heach⟩ := hextends.exists_array
  exact ⟨items', by rw [arrayField, hvalue'], heach⟩

end Fields

end MediaSearch
