/-
The formats of time strings exclude each other.

A text is of one format at most (`read_unique`), and neither the time nor the zone has a say
in it.  So when a format has a value for a text at one time in one zone, no other format has
one at any time in any zone (`format_unique_of_value`), and the order in which the formats
are tried can only decide which of their failures is met first (`firstValue_eq_of_perm`).

A text has one meaning, and a meaning resolves to spans only or to moments only
(`resolve_gives`).  So a time string always stands for a span or always for a moment
(`isSpan_eq_of_resolve`).
-/
import MediaSearch.Proofs.TimeString.Outcome

namespace MediaSearch.TimeString

open Calendar

variable {text : List Char} {now later : LocalTime} {z z' : Zone} {spec spec' : TimeSpec}
  {formats formats' : List Format}

/-! ### One format for a text -/

/-- What comes out of a format: there is no week of now, or the text is not of the format, or the
meaning of the text is resolved. -/
theorem value_cases (format : Format) (text : List Char) (now : LocalTime) (z : Zone) :
    (∃ f, sundayOf now = .error f ∧ format.value text now z = .error f) ∨
      (format.read text = none ∧ format.value text now z = .ok none) ∨
      ∃ m, format.read text = some m ∧ format.value text now z = m.resolve now z := by
  have hread : ∀ {r : Except Failure (Option TimeSpec)},
      r = (format.read text).elim (.ok none) (fun m => m.resolve now z) →
        (format.read text = none ∧ r = .ok none) ∨
          ∃ m, format.read text = some m ∧ r = m.resolve now z := by
    intro r hr
    cases hm : format.read text with
    | none =>
        rw [hm] at hr
        exact Or.inl ⟨rfl, hr⟩
    | some m =>
        rw [hm] at hr
        exact Or.inr ⟨m, rfl, hr⟩
  by_cases hperiod : format = .period
  · cases hsunday : sundayOf now with
    | error f =>
        refine Or.inl ⟨f, rfl, ?_⟩
        rw [Format.value, if_pos hperiod]
        exact bind_eq_error_iff.mpr (Or.inl hsunday)
    | ok sunday =>
        refine Or.inr (hread ?_)
        rw [Format.value, if_pos hperiod, hsunday]
        cases format.read text <;> rfl
  · refine Or.inr (hread ?_)
    rw [Format.value, if_neg hperiod]
    cases format.read text <;> rfl

/-- What has a value in a format is of that format. -/
theorem read_of_value {format : Format} (h : format.value text now z = .ok (some spec)) :
    ∃ m, format.read text = some m ∧ m.resolve now z = .ok (some spec) := by
  rcases value_cases format text now z with ⟨f, -, hf⟩ | ⟨-, hnone⟩ | ⟨m, hm, hvalue⟩
  · rw [h] at hf
    exact nomatch hf
  · rw [h] at hnone
    exact nomatch Except.ok.inj hnone
  · exact ⟨m, hm, hvalue.symm.trans h⟩

/-- **At most one format ever has a value for a text**, whatever the time and the zone are. -/
theorem format_unique_of_value {format format' : Format}
    (h : format.value text now z = .ok (some spec))
    (h' : format'.value text later z' = .ok (some spec')) : format = format' := by
  obtain ⟨m, hm, -⟩ := read_of_value h
  obtain ⟨m', hm', -⟩ := read_of_value h'
  exact (read_unique hm hm').1

/-- A format never fails because of the text's form. -/
theorem isUnreadable_of_value {format : Format} {f : Failure}
    (h : format.value text now z = .error f) : f.isUnreadable = false := by
  rcases value_cases format text now z with ⟨f', hsunday, hf⟩ | ⟨-, hnone⟩ | ⟨m, -, hvalue⟩
  · obtain rfl := Except.error.inj (h.symm.trans hf)
    exact isUnreadable_of_sunday hsunday
  · rw [h] at hnone
    exact nomatch hnone
  · exact isUnreadable_of_resolve (hvalue.symm.trans h)

/-! ### The order in which the formats are tried -/

theorem exists_value_of_firstValue (h : firstValue text now z formats = .ok spec) :
    ∃ format ∈ formats, format.value text now z = .ok (some spec) := by
  induction formats with
  | nil => exact nomatch h
  | cons format rest ih =>
      obtain ⟨value, hvalue, h⟩ := bind_eq_ok_iff.mp h
      cases value with
      | some found =>
          obtain rfl := Except.ok.inj h
          exact ⟨format, by simp, hvalue⟩
      | none =>
          obtain ⟨other, hmem, hother⟩ := ih h
          exact ⟨other, by simp [hmem], hother⟩

/-- A text is unreadable when none of the formats has a value for it. -/
theorem values_of_firstValue_eq_error {f : Failure} (h : firstValue text now z formats = .error f)
    (hform : f.isUnreadable = true) :
    f = .unreadable (String.ofList text) ∧
      ∀ format ∈ formats, format.value text now z = .ok none := by
  induction formats with
  | nil =>
      obtain rfl := Except.error.inj h
      exact ⟨rfl, by simp⟩
  | cons format rest ih =>
      rcases bind_eq_error_iff.mp h with h | ⟨value, hvalue, h⟩
      · rw [isUnreadable_of_value h] at hform
        exact nomatch hform
      · cases value with
        | some found => exact nomatch h
        | none =>
            obtain ⟨hf, hrest⟩ := ih h
            exact ⟨hf, List.forall_mem_cons.mpr ⟨hvalue, hrest⟩⟩

/-- Trying the formats in this order comes to an end of its own: to a value, or to the finding that
the text is unreadable. -/
def Concludes (text : List Char) (now : LocalTime) (z : Zone) (formats : List Format) : Prop :=
  ∀ f, firstValue text now z formats = .error f → f.isUnreadable = true

theorem firstValue_eq_ok_of_perm (hperm : formats.Perm formats')
    (hends : Concludes text now z formats') (h : firstValue text now z formats = .ok spec) :
    firstValue text now z formats' = .ok spec := by
  obtain ⟨format, hmem, hvalue⟩ := exists_value_of_firstValue h
  cases h' : firstValue text now z formats' with
  | ok spec' =>
      obtain ⟨format', -, hvalue'⟩ := exists_value_of_firstValue h'
      obtain rfl := format_unique_of_value hvalue hvalue'
      rw [hvalue] at hvalue'
      rw [Option.some.inj (Except.ok.inj hvalue')]
  | error f =>
      have hnone := (values_of_firstValue_eq_error h' (hends f h')).2 format (hperm.mem_iff.mp hmem)
      rw [hvalue] at hnone
      exact nomatch Except.ok.inj hnone

/-- **The order of the formats never chooses**: two orders that fail at none of them give the same
answer. -/
theorem firstValue_eq_of_perm (hperm : formats.Perm formats')
    (hends : Concludes text now z formats) (hends' : Concludes text now z formats') :
    firstValue text now z formats = firstValue text now z formats' := by
  cases h : firstValue text now z formats with
  | ok spec => rw [firstValue_eq_ok_of_perm hperm hends' h]
  | error f =>
      cases h' : firstValue text now z formats' with
      | ok spec =>
          rw [firstValue_eq_ok_of_perm hperm.symm hends h'] at h
          exact nomatch h
      | error f' =>
          rw [(values_of_firstValue_eq_error h (hends f h)).1,
            (values_of_firstValue_eq_error h' (hends' f' h')).1]

/-! ### Spans and moments -/

/-- What a time string resolves to is a value in one of the formats. -/
theorem value_of_resolve {time : String} {reference : Reference}
    (h : resolve time reference z = .ok spec) :
    ∃ (now : LocalTime) (format : Format), reference.inZone z = .ok now ∧
      format.value (Text.strip time.toList) now z = .ok (some spec) := by
  obtain ⟨now, hnow, h⟩ := bind_eq_ok_iff.mp h
  obtain ⟨format, -, hvalue⟩ := exists_value_of_firstValue h
  exact ⟨now, format, hnow, hvalue⟩

/-- **A time string always stands for a span, or always for a moment.** -/
theorem isSpan_eq_of_resolve {time : String} {reference reference' : Reference}
    (h : resolve time reference z = .ok spec) (h' : resolve time reference' z' = .ok spec') :
    spec.isSpan = spec'.isSpan := by
  obtain ⟨now, format, -, hvalue⟩ := value_of_resolve h
  obtain ⟨later, format', -, hvalue'⟩ := value_of_resolve h'
  obtain ⟨m, hm, hspec⟩ := read_of_value hvalue
  obtain ⟨m', hm', hspec'⟩ := read_of_value hvalue'
  obtain ⟨-, rfl⟩ := read_unique hm hm'
  rw [isSpan_of_resolve_eq hspec, isSpan_of_resolve_eq hspec']

end MediaSearch.TimeString
