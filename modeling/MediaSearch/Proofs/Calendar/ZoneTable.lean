/-
What the zone of a table makes of a local time.

The instants that are found for a reading are all that show it (`mem_instantsShowing`), because
every offset is tried.  So a local time stands for an instant exactly when the clock shows it
then and at no other instant (`shownOnce_zone_iff`): the zone's answers about a local time, which
are independent of one another in general, fit together here.  So do the ways to local time and
back, if no reading is shown three times (`returns_of_not_between`), as which of two instants is
meant is all that a local time can tell.
-/
import Mathlib.Data.List.Nodup
import MediaSearch.Calendar.ZoneTable
import MediaSearch.Proofs.Calendar.Regular

namespace MediaSearch.Calendar.ZoneTable

variable {z : ZoneTable} {l : LocalTime} {p t reading : Int}

@[simp]
theorem zone_offsetAt (t : Instant) : z.zone.offsetAt t = z.offsetAt t := rfl

@[simp]
theorem zone_clock (t : Instant) : z.zone.clock t = z.clock t := rfl

theorem clock_eq (t : Int) : z.clock t = t + z.offsetAt t * microsPerSecond := rfl

theorem offsetAt_mem_offsets (t : Int) : z.offsetAt t ∈ z.offsets :=
  List.mem_eraseDups.mpr (offsetIn_mem z.changes z.initial)

/-! ### The instants that show a reading -/

/-- The instants found for a reading are all that show it. -/
theorem mem_instantsShowing : t ∈ z.instantsShowing reading ↔ z.clock t = reading := by
  unfold instantsShowing
  rw [List.mem_filter, beq_iff_eq]
  constructor
  · intro h
    exact h.2
  · intro h
    refine ⟨List.mem_map.mpr ⟨z.offsetAt t, offsetAt_mem_offsets t, ?_⟩, h⟩
    rw [← h, clock]
    exact Int.add_sub_cancel _ _

/-- No value comes twice when the later ones of equal values are dropped.  The recursion is that
of `List.eraseDups`, on a tail without the head's equals. -/
private theorem nodup_eraseDups : ∀ l : List Int, l.eraseDups.Nodup
  | [] => List.nodup_nil
  | a :: l => by
      rw [List.eraseDups_cons, List.nodup_cons, List.mem_eraseDups]
      have : (l.filter fun b => !b == a).length ≤ l.length := List.length_filter_le _ _
      exact ⟨by simp, nodup_eraseDups _⟩
termination_by l => l.length

theorem nodup_instantsShowing (reading : Int) : (z.instantsShowing reading).Nodup := by
  refine List.Nodup.filter _ (List.Nodup.map ?_ (nodup_eraseDups _))
  intro offset offset' (h : reading - offset * 1000000 = reading - offset' * 1000000)
  omega

/-- Just one instant shows a reading if that is the one found for it. -/
theorem instantsShowing_eq_singleton_iff :
    z.instantsShowing reading = [p] ↔ ∀ t : Int, z.clock t = reading ↔ t = p := by
  constructor
  · intro h t
    rw [← mem_instantsShowing, h, List.mem_singleton]
  · intro h
    refine List.perm_singleton.mp ((List.perm_ext_iff_of_nodup (nodup_instantsShowing _)
      (List.nodup_singleton p)).mpr fun t => ?_)
    rw [mem_instantsShowing, h, List.mem_singleton]

/-! ### Local times -/

theorem entered_of_singleton (h : z.instantsShowing l.wall.micros = [p]) : z.entered l = p := by
  unfold entered
  simp only [h]
  cases l.fold <;> rfl

/-- A local time stands for an instant if the clock shows it then and at no other instant. -/
theorem shownOnce_zone_iff :
    z.zone.ShownOnce l p ↔
      (∀ t : Int, z.clock t = l.wall.micros ↔ t = p) ∧ Instant.representable p = true := by
  rw [← instantsShowing_eq_singleton_iff]
  constructor
  · intro h
    refine ⟨?_, h.representable⟩
    have hmem : p ∈ z.instantsShowing l.wall.micros := mem_instantsShowing.mpr h.shown
    have hfew : ¬ 1 < (z.instantsShowing l.wall.micros).length :=
      of_decide_eq_false h.unambiguous
    obtain ⟨q, hq⟩ := List.length_eq_one_iff.mp
      (Nat.le_antisymm (Nat.not_lt.mp hfew) (List.length_pos_of_mem hmem))
    rw [hq, List.mem_singleton] at hmem
    rw [hq, hmem]
  · rintro ⟨h, hrep⟩
    have hshown : z.clock p = l.wall.micros :=
      (instantsShowing_eq_singleton_iff.mp h p).mpr rfl
    refine ⟨?_, hshown, ?_, hrep⟩
    · show l.wall.micros - z.offsetAt (z.entered l) * microsPerSecond = p
      rw [entered_of_singleton h, ← hshown, clock_eq, Int.add_sub_cancel]
    · show decide (1 < (z.instantsShowing l.wall.micros).length) = false
      rw [h]
      rfl

/-- The local time at an instant leads back to it, if the clock does not show the same both before
and after. -/
theorem returns_of_not_between
    (h : ∀ s u : Int, s < t → t < u → z.clock s = z.clock t → z.clock u ≠ z.clock t) :
    z.zone.Returns t := by
  intro l hl
  obtain ⟨-, hshown, hfold⟩ := Zone.shown?_eq_some_iff.mp hl
  rw [zone_clock] at hshown
  have hmem : t ∈ z.instantsShowing l.wall.micros := mem_instantsShowing.mpr hshown
  have hfirst : z.zone.fold t = true ↔ ∃ s ∈ z.instantsShowing l.wall.micros, s < t := by
    rw [← hshown]
    exact List.any_eq_true.trans (exists_congr fun s => and_congr_right fun _ => decide_eq_true_iff)
  have hfound : (if l.fold then (z.instantsShowing l.wall.micros).max?
      else (z.instantsShowing l.wall.micros).min?) = some t := by
    rw [← hfold]
    by_cases hsecond : z.zone.fold t = true
    · rw [if_pos hsecond, List.max?_eq_some_iff]
      obtain ⟨s, hs, hbefore⟩ := hfirst.mp hsecond
      refine ⟨hmem, fun u hu => ?_⟩
      by_contra hafter
      rw [mem_instantsShowing, ← hshown] at hs hu
      exact h s u hbefore (Int.not_le.mp hafter) hs hu
    · rw [if_neg hsecond, List.min?_eq_some_iff]
      refine ⟨hmem, fun s hs => ?_⟩
      by_contra hbefore
      exact hsecond (hfirst.mpr ⟨s, hs, Int.not_le.mp hbefore⟩)
  have hentered : z.entered l = t := by
    unfold entered
    simp only [hfound, Option.getD_some]
  show l.wall.micros - z.offsetAt (z.entered l) * microsPerSecond = t
  rw [hentered, ← hshown, clock_eq, Int.add_sub_cancel]

end MediaSearch.Calendar.ZoneTable
