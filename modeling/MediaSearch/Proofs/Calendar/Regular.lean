/-
Zones whose clock passes every wall time once.

A clock is put forward and back, so what it shows need not grow with time.  But the clock
of a regular zone has shown only earlier times before the instant that a local time stands
for, and shows none of them from then on.  Later local times therefore stand for later
instants (`Regular.localize?_lt`), and that is what puts the midnights of the calendar in
order.

A zone by table is irregular only if its clock is changed twice within the time that it is
changed by: put forward over a wall time, and then back before it has got past it.
-/
import Mathlib.Tactic.ByContra
import MediaSearch.Calendar.Zone
import MediaSearch.Proofs.Calendar.DayNumber

namespace MediaSearch.Calendar

/-! ### Wall times on the scale of instants -/

namespace WallTime

theorem ofMicros?_eq_some_iff {micros : Int} {w : WallTime} :
    ofMicros? micros = some w ↔ w.micros = micros := by
  unfold ofMicros?
  constructor
  · intro h
    obtain ⟨date, hdate, rfl⟩ := Option.map_eq_some_iff.mp h
    have hnumber := Date.ofDayNumber?_eq_some_iff.mp hdate
    show (date.dayNumber - epochDay) * microsPerDay + micros % microsPerDay = micros
    rw [hnumber, Int.add_sub_cancel, Int.mul_comm]
    exact Int.mul_ediv_add_emod micros microsPerDay
  · intro h
    obtain ⟨date, micro, hpos, hlt⟩ := w
    have hmicros : micros = (date.dayNumber - epochDay) * microsPerDay + micro := h.symm
    unfold microsPerDay microsPerSecond at hmicros hlt ⊢
    have hday : micros / (86400 * 1000000) + epochDay = date.dayNumber := by omega
    have hmicro : micros % (86400 * 1000000) = micro := by omega
    rw [hday, Date.ofDayNumber?_eq_some_iff.mpr rfl]
    simp only [hmicro, Option.map_some]

/-- No two wall times have the same place on the scale. -/
theorem eq_of_micros_eq {w w' : WallTime} (h : w.micros = w'.micros) : w = w' :=
  Option.some.inj ((ofMicros?_eq_some_iff.mpr h).symm.trans (ofMicros?_eq_some_iff.mpr rfl))

theorem micros_midnight (d : Date) :
    (midnight d).micros = (d.dayNumber - epochDay) * microsPerDay :=
  Int.add_zero _

/-- A date has begun at a wall time if it is not after the wall time's date. -/
theorem micros_midnight_le_iff {d : Date} {w : WallTime} :
    (midnight d).micros ≤ w.micros ↔ d.dayNumber ≤ w.date.dayNumber := by
  have hwall : w.micros = (w.date.dayNumber - epochDay) * microsPerDay + w.micro := rfl
  have hinDay := w.inDay
  rw [micros_midnight, hwall]
  unfold microsPerDay microsPerSecond at *
  omega

/-- Between the midnights of two dates every place on the scale is that of a wall time. -/
theorem exists_micros_eq {d d' : Date} {micros : Int} (h : (midnight d).micros ≤ micros)
    (h' : micros < (midnight d').micros) : ∃ w : WallTime, micros = w.micros := by
  have hpos := d.dayNumber_pos
  have hle := d'.dayNumber_le
  rw [micros_midnight] at h h'
  unfold microsPerDay microsPerSecond at h h'
  cases hdate : Date.ofDayNumber? (micros / microsPerDay + epochDay) with
  | none =>
      have hout := Date.ofDayNumber?_eq_none_iff.mp hdate
      unfold microsPerDay microsPerSecond at hout
      omega
  | some date =>
      cases hw : ofMicros? micros with
      | some w => exact ⟨w, (ofMicros?_eq_some_iff.mp hw).symm⟩
      | none =>
          unfold ofMicros? at hw
          rw [hdate] at hw
          exact nomatch hw

end WallTime

/-! ### What a clock shows -/

@[simp]
theorem LocalTime.wall_midnight (d : Date) : (midnight d).wall = .midnight d := rfl

namespace Zone

variable {z : Zone} {w : WallTime} {l : LocalTime} {p t : Int}

theorem clock_eq (t : Int) : z.clock t = t + z.offsetAt t * microsPerSecond := rfl

theorem shown?_eq_some_iff :
    z.shown? t = some l ↔
      Instant.representable t = true ∧ z.clock t = l.wall.micros ∧ z.fold t = l.fold := by
  unfold shown?
  by_cases ht : Instant.representable t = true
  · rw [if_pos ht, Option.map_eq_some_iff]
    constructor
    · rintro ⟨w, hw, rfl⟩
      exact ⟨ht, (WallTime.ofMicros?_eq_some_iff.mp hw).symm, rfl⟩
    · rintro ⟨-, hclock, hfold⟩
      exact ⟨l.wall, WallTime.ofMicros?_eq_some_iff.mpr hclock.symm, by rw [hfold]⟩
  · rw [if_neg ht]
    exact ⟨fun h => absurd h (by simp), fun h => absurd h.1 ht⟩

/-- A local time stands for an instant: by its offset it is that instant, the zone's clock shows it
then and does not show it twice, and the instant's date in universal time is in range. -/
structure ShownOnce (z : Zone) (l : LocalTime) (t : Instant) : Prop where
  /-- Its offset leads to the instant. -/
  instant : z.instantOf l = t
  /-- The clock shows it then. -/
  shown : z.clock t = l.wall.micros
  /-- The clock does not show it twice. -/
  unambiguous : z.ambiguous l.wall = false
  /-- The date is in range. -/
  representable : t.representable = true

theorem localize?_eq_some_iff : z.localize? l = some p ↔ z.ShownOnce l p := by
  unfold localize?
  dsimp only
  split
  · rename_i h
    simp only [Bool.and_eq_true, beq_iff_eq, Bool.not_eq_true'] at h
    obtain ⟨⟨hrep, hshown⟩, honce⟩ := h
    constructor
    · intro hp
      obtain rfl := Option.some.inj hp
      exact ⟨rfl, hshown, honce, hrep⟩
    · intro hp
      rw [hp.instant]
  · rename_i h
    refine ⟨fun hp => absurd hp (by simp), fun hp => absurd ?_ h⟩
    rw [hp.instant, hp.representable, hp.shown, hp.unambiguous]
    simp

/-- The zone's clock shows a local time at the instant that it stands for. -/
theorem clock_of_localize? (h : z.localize? l = some p) : z.clock p = l.wall.micros :=
  (localize?_eq_some_iff.mp h).shown

/-- Midnight comes at a whole second, as offsets are of whole seconds. -/
theorem localize?_midnight_mod {d : Date} (h : z.localize? (.midnight d) = some p) :
    p % microsPerSecond = 0 := by
  have hp : (WallTime.midnight d).micros - z.offsetOf (.midnight d) * microsPerSecond = p :=
    (localize?_eq_some_iff.mp h).instant
  rw [WallTime.micros_midnight] at hp
  unfold microsPerDay microsPerSecond at *
  omega

/-- The local time at an instant leads back to the instant.  It should for every instant and zone,
as both are the same time; but the way back is a conversion of its own. -/
def Returns (z : Zone) (t : Instant) : Prop :=
  ∀ l, z.shown? t = some l → z.instantOf l = t

/-- An instant is found again from its local time if that has the offset that the zone had then. -/
theorem Returns.offsetOf_eq (h : z.Returns t) (hl : z.shown? t = some l) :
    z.offsetOf l = z.offsetAt t := by
  have hclock : t + z.offsetAt t * microsPerSecond = l.wall.micros :=
    (shown?_eq_some_iff.mp hl).2.1
  have hback : l.wall.micros - z.offsetOf l * microsPerSecond = t := h l hl
  unfold microsPerSecond at hclock hback
  omega

/-! ### Regular zones -/

/-- The zone's clock passes a local time that stands for an instant at that instant, once and for
all. -/
structure Regular (z : Zone) : Prop where
  /-- Before the instant it shows earlier times. -/
  before : ∀ {l : LocalTime} {p t : Int},
    z.localize? l = some p → t < p → z.clock t < l.wall.micros
  /-- From the instant on it shows none of them. -/
  since : ∀ {l : LocalTime} {p t : Int},
    z.localize? l = some p → p ≤ t → l.wall.micros ≤ z.clock t

/-- A local time's instant has come when the zone's clock has got to the local time. -/
theorem Regular.localize?_le_iff (hz : z.Regular) (h : z.localize? l = some p) :
    p ≤ t ↔ l.wall.micros ≤ z.clock t := by
  constructor
  · exact hz.since h
  · intro hclock
    by_contra hlt
    have := hz.before h (show t < p by omega)
    omega

/-- A date has begun when the zone's clock has got to its midnight. -/
theorem Regular.midnight_le_iff (hz : z.Regular) {d : Date}
    (h : z.localize? (.midnight d) = some p) :
    p ≤ t ↔ (WallTime.midnight d).micros ≤ z.clock t := by
  rw [hz.localize?_le_iff h, LocalTime.wall_midnight]

/-- A later local time stands for a later instant. -/
theorem Regular.localize?_lt (hz : z.Regular) {l' : LocalTime} {p' : Int}
    (h : z.localize? l = some p) (h' : z.localize? l' = some p')
    (hlt : l.wall.micros < l'.wall.micros) : p < p' := by
  by_contra hle
  have hclock := clock_of_localize? h
  have := hz.since h' (show p' ≤ p by omega)
  omega

/-- A later date begins a second later at least. -/
theorem Regular.midnight_lt (hz : z.Regular) {d d' : Date} {p' : Int}
    (h : z.localize? (.midnight d) = some p) (h' : z.localize? (.midnight d') = some p')
    (hlt : d.dayNumber < d'.dayNumber) : p + microsPerSecond ≤ p' := by
  have hwall : (WallTime.midnight d).micros < (WallTime.midnight d').micros := by
    rw [WallTime.micros_midnight, WallTime.micros_midnight]
    unfold microsPerDay microsPerSecond
    omega
  have := hz.localize?_lt h h' hwall
  have := localize?_midnight_mod h
  have := localize?_midnight_mod h'
  unfold microsPerSecond at *
  omega

end Zone

end MediaSearch.Calendar
