/-
What kind of time a meaning resolves to.

The words of a meaning decide whether it is a span of the calendar or a moment
(`Meaning.isSpan`); the time and the zone decide which one, and whether there is one at all
(`resolve_gives`).  A meaning can fail too, but never because of the form of a text: it has
been read by then.
-/
import MediaSearch.Proofs.TimeString.Moment
import MediaSearch.Proofs.TimeString.Span

namespace MediaSearch.TimeString

open Calendar

variable {now : LocalTime} {z : Zone} {m : Meaning} {spec : TimeSpec} {f : Failure}

/-- Whether a failure says that no format makes sense of the text. -/
def Failure.isUnreadable : Failure → Bool
  | unreadable _ => true
  | _ => false

/-- A result that is a span or not as `span` says, or nothing, or a failure for another reason than
the form of a text. -/
inductive Gives (span : Bool) : Except Failure (Option TimeSpec) → Prop
  /-- A moment or a span. -/
  | value {spec : TimeSpec} (kind : spec.isSpan = span) : Gives span (.ok (some spec))
  /-- There is no such time. -/
  | nothing : Gives span (.ok none)
  /-- A failure. -/
  | failure {f : Failure} (other : f.isUnreadable = false) : Gives span (.error f)

theorem Gives.bind {α : Type} {span : Bool} {x : Except Failure α}
    {k : α → Except Failure (Option TimeSpec)}
    (hfails : ∀ f, x = .error f → f.isUnreadable = false) (hk : ∀ a, Gives span (k a)) :
    Gives span (x >>= k) := by
  cases x with
  | error f => exact .failure (hfails f rfl)
  | ok a => exact hk a

theorem spanUntil_gives (z : Zone) (first next : Date) : Gives true (spanUntil z first next) := by
  cases hstart : z.localize? (.midnight first) with
  | none =>
      rw [spanUntil_eq_none (Or.inl hstart)]
      exact .nothing
  | some start =>
      cases hstop : z.localize? (.midnight next) with
      | none =>
          rw [spanUntil_eq_none (Or.inr hstop)]
          exact .nothing
      | some stop =>
          rw [spanUntil_eq hstart hstop]
          split
          · exact .value rfl
          · exact .failure rfl

theorem spanOfDays_gives (z : Zone) (first : Date) (days : Int) :
    Gives true (spanOfDays z first days) := by
  unfold spanOfDays
  split
  · exact spanUntil_gives z first _
  · exact .nothing

theorem monthRange_gives (z : Zone) (year month : Int) : Gives true (monthRange z year month) := by
  unfold monthRange
  dsimp only
  split
  · exact spanUntil_gives z _ _
  · exact .nothing

theorem yearRange_gives (z : Zone) (year : Int) : Gives true (yearRange z year) := by
  unfold yearRange
  split
  · exact spanUntil_gives z _ _
  · exact .nothing

theorem isUnreadable_of_daysBack {d : Date} {days : Int} (h : daysBack d days = .error f) :
    f.isUnreadable = false := by
  unfold daysBack at h
  split at h
  · exact nomatch h
  · obtain rfl := Except.error.inj h
    rfl

theorem isUnreadable_of_sunday (h : sundayOf now = .error f) : f.isUnreadable = false := by
  rw [(sundayOf_eq_error_iff.mp h).2]
  rfl

theorem Period.resolve_gives (now : LocalTime) (z : Zone) (period : Period) :
    Gives true (period.resolve now z) := by
  cases period with
  | today => exact spanOfDays_gives z _ 1
  | yesterday =>
      exact Gives.bind (fun f h => isUnreadable_of_daysBack h) fun d => spanOfDays_gives z d 1
  | thisWeek =>
      exact Gives.bind (fun f h => isUnreadable_of_sunday h) fun d => spanOfDays_gives z d 7
  | lastWeek =>
      refine Gives.bind (fun f h => isUnreadable_of_sunday h) fun sunday => ?_
      exact Gives.bind (fun f h => isUnreadable_of_daysBack h) fun d => spanOfDays_gives z d 7
  | thisMonth => exact monthRange_gives z _ _
  | lastMonth =>
      show Gives true (if now.wall.date.month == 1 then monthRange z (now.wall.date.year - 1) 12
        else monthRange z now.wall.date.year (now.wall.date.month - 1))
      split
      · exact monthRange_gives z _ _
      · exact monthRange_gives z _ _
  | thisYear => exact yearRange_gives z _
  | lastYear => exact yearRange_gives z _

/-- What may be a moment is a moment if it is anything. -/
theorem gives_moment (t : Option Instant) : Gives false (.ok (t.map momentAt)) := by
  cases t with
  | none => exact .nothing
  | some t => exact .value rfl

theorem before_gives (now : LocalTime) (z : Zone) (duration : Duration) :
    Gives false (before now z duration) := by
  cases duration with
  | seconds count =>
      unfold before
      dsimp only
      split
      · exact .value rfl
      · exact .nothing
  | months count =>
      refine Gives.bind (fun f h => ?_) fun shifted => gives_moment _
      rw [(shiftMonths_eq_error_iff.mp h).2]
      rfl

/-- **A meaning resolves to a span or to a moment by its kind alone**, if it resolves to anything. -/
theorem resolve_gives (m : Meaning) (now : LocalTime) (z : Zone) :
    Gives m.isSpan (m.resolve now z) := by
  cases m with
  | stamp s =>
      refine Gives.bind (fun f h => ?_) fun t => gives_moment t
      rw [(Stamp.instant_eq_error_iff.mp h).2]
      rfl
  | ago duration => exact before_gives now z duration
  | longAgo digits => exact .failure rfl
  | period name => exact name.resolve_gives now z
  | month number => exact monthRange_gives z _ number
  | year number => exact yearRange_gives z number
  | millis value => exact .value rfl
  | longMillis digits => exact .failure rfl
  | day y m d =>
      show Gives true (dayRange z y m d)
      unfold dayRange
      split
      · exact spanOfDays_gives z _ 1
      · exact .nothing

theorem isSpan_of_resolve_eq (h : m.resolve now z = .ok (some spec)) :
    spec.isSpan = m.isSpan := by
  have hgives := resolve_gives m now z
  rw [h] at hgives
  cases hgives with
  | value kind => exact kind

theorem isUnreadable_of_resolve (h : m.resolve now z = .error f) : f.isUnreadable = false := by
  have hgives := resolve_gives m now z
  rw [h] at hgives
  cases hgives with
  | failure other => exact other

end MediaSearch.TimeString
