/-
Zones whose offset changes rarely.

A zone by table is regular if its offset changes once at most within the time by which its
offsets differ (`regular_of_settled`), and every local time leads back to its instant
(`returns_of_settled`).  Whether it does is checked on its table and its rule (`isSettled`):
the changes of a table have to be far apart, a yearly rule has to be one season a year that
is neither short nor near the turn of the year, and the rule must not change right after the
last change of the table.  Every table that there is passes (`settled_of_mem_named`), so
nothing that is shown for zones with these properties leaves one of them out.
-/
import MediaSearch.Calendar.ZoneNames
import MediaSearch.Proofs.Calendar.ZoneTable

namespace MediaSearch.Calendar

namespace ZoneTable

/-- An offset changes once at most within any so many seconds. -/
def Settled (gap : Int) (offset : Int → Int) : Prop :=
  ∀ a b c, a ≤ b → b ≤ c → c ≤ a + gap → offset a = offset b ∨ offset b = offset c

/-- The offset at an instant changes as rarely as that at a second. -/
theorem Settled.offsetAt {z : ZoneTable} {gap : Int}
    (h : Settled gap fun second => offsetIn z.tail second z.initial z.changes) {a b c : Int}
    (hab : a ≤ b) (hbc : b ≤ c) (hac : c ≤ a + gap * microsPerSecond) :
    z.offsetAt a = z.offsetAt b ∨ z.offsetAt b = z.offsetAt c := by
  unfold microsPerSecond at hac
  refine h _ _ _ ?_ ?_ ?_ <;> unfold microsPerSecond <;> omega

/-- A zone by table is regular if its offset changes once at most within the time by which its
offsets differ: to show a wall time too early or too late, and yet only once, the clock would have
to be changed a second time within it. -/
theorem regular_of_settled {z : ZoneTable} {gap : Int}
    (hgap : ∀ s t, z.offsetAt s - z.offsetAt t ≤ gap)
    (h : Settled gap fun second => offsetIn z.tail second z.initial z.changes) :
    z.zone.Regular := by
  have hsettled : ∀ a b c : Int, a ≤ b → b ≤ c → c ≤ a + gap * microsPerSecond →
      z.offsetAt a = z.offsetAt b ∨ z.offsetAt b = z.offsetAt c :=
    fun a b c => h.offsetAt
  have honly : ∀ {l : LocalTime} {p : Int}, z.zone.localize? l = some p →
      ∀ t : Int, z.clock t = l.wall.micros ↔ t = p :=
    fun hp => (shownOnce_zone_iff.mp (Zone.localize?_eq_some_iff.mp hp)).1
  refine ⟨?_, ?_⟩
  · intro l p t hp hlt
    rw [zone_clock]
    by_contra hle
    -- The clock would have shown the wall time as long before `t` as it is ahead of it at `t`.
    have hpw := (honly hp p).mpr rfl
    have hwide := hgap t p
    have honce := honly hp (l.wall.micros - z.offsetAt t * microsPerSecond)
    have hsame := hsettled (l.wall.micros - z.offsetAt t * microsPerSecond) t p
    simp only [clock_eq, microsPerSecond] at *
    rcases hsame (by omega) (by omega) (by omega) with hearly | hlate
    · have := honce.mp (by rw [hearly]; omega)
      omega
    · omega
  · intro l p t hp hle
    rw [zone_clock]
    by_contra hlt
    -- The clock would show the wall time as long after `t` as it is behind it at `t`.
    have hpw := (honly hp p).mpr rfl
    have hwide := hgap p t
    have honce := honly hp (l.wall.micros - z.offsetAt t * microsPerSecond)
    have hsame := hsettled p t (l.wall.micros - z.offsetAt t * microsPerSecond)
    simp only [clock_eq, microsPerSecond] at *
    rcases hsame (by omega) (by omega) (by omega) with hearly | hlate
    · omega
    · have := honce.mp (by rw [← hlate]; omega)
      omega

/-- The local time at an instant leads back to it if the offset changes once at most within the time
by which the offsets differ: to show the same a third time, the clock would have to be changed a
second time within it. -/
theorem returns_of_settled {z : ZoneTable} {gap : Int}
    (hgap : ∀ s t, z.offsetAt s - z.offsetAt t ≤ gap)
    (h : Settled gap fun second => offsetIn z.tail second z.initial z.changes) (t : Instant) :
    z.zone.Returns t := by
  refine returns_of_not_between fun s u hst htu hs hu => ?_
  have hwide := hgap s u
  have hsame : z.offsetAt s = z.offsetAt t ∨ z.offsetAt t = z.offsetAt u := by
    refine h.offsetAt (Int.le_of_lt hst) (Int.le_of_lt htu) ?_
    simp only [clock_eq, microsPerSecond] at *
    omega
  simp only [clock_eq, microsPerSecond] at *
  omega

variable {gap : Int} {tail : ZoneTail}

/-! ### The years of the clock -/

/-- The year at a time in seconds. -/
def yearAt (t : Int) : Int :=
  Date.yearOfDay (t / 86400 + epochDay)

/-- The second at which a year begins. -/
def newYear (year : Int) : Int :=
  (Date.daysBeforeYear year + 1 - epochDay) * 86400

theorem yearAt_spec (t : Int) : newYear (yearAt t) ≤ t ∧ t < newYear (yearAt t + 1) := by
  obtain ⟨hlow, hhigh⟩ := Date.yearOfDay_spec (t / 86400 + epochDay)
  unfold newYear yearAt
  omega

theorem newYear_succ (year : Int) : newYear year + 365 * 86400 ≤ newYear (year + 1) := by
  unfold newYear
  rw [Date.daysBeforeYear_succ]
  unfold Date.daysInYear
  split <;> omega

theorem newYear_mono {a b : Int} (h : a ≤ b) : newYear a ≤ newYear b := by
  have := Date.daysBeforeYear_mono h
  unfold newYear
  omega

theorem yearAt_mono {s t : Int} (h : s ≤ t) : yearAt s ≤ yearAt t := by
  by_contra hlt
  have := newYear_mono (show yearAt t + 1 ≤ yearAt s by omega)
  have := (yearAt_spec s).1
  have := (yearAt_spec t).2
  omega

/-- So long after the turn of a year, in seconds, a year day comes at the earliest. -/
def earliest (d : YearDay) : Int := ((367 * d.month - 362) / 12 - 2) * 86400 + d.second

/-- So long after the turn of a year, in seconds, a year day comes at the latest. -/
def latest (d : YearDay) : Int := ((367 * d.month - 362) / 12 + 30) * 86400 + d.second

theorem seconds_bounds {d : YearDay} (h : 1 ≤ d.week ∧ d.week ≤ 5) (year : Int) :
    newYear year + earliest d ≤ d.seconds year ∧ d.seconds year ≤ newYear year + latest d := by
  have hmonth : 28 ≤ daysInMonth year d.month ∧ daysInMonth year d.month ≤ 31 := by
    unfold daysInMonth
    split
    · split <;> omega
    · split <;> omega
  have hbefore : (367 * d.month - 362) / 12 - 2 ≤ Date.daysBeforeMonth year d.month ∧
      Date.daysBeforeMonth year d.month ≤ (367 * d.month - 362) / 12 := by
    unfold Date.daysBeforeMonth
    split
    · omega
    · split <;> omega
  unfold YearDay.seconds newYear earliest latest
  dsimp only
  split <;> omega

/-! ### Yearly rules -/

/-- One offset within a season of every year, and another outside it. -/
def seasonal (opening closing : Int → Int) (inside outside t : Int) : Int :=
  if opening (yearAt t) ≤ t ∧ t < closing (yearAt t) then inside else outside

/-- A season neither begins nor ends near the turn of a year, and it is not short. -/
structure IsSeason (gap : Int) (opening closing : Int → Int) : Prop where
  /-- It begins well after the turn of the year. -/
  afterNewYear : ∀ year, newYear year + gap < opening year
  /-- It lasts. -/
  lasts : ∀ year, opening year + gap < closing year
  /-- It ends well before the next turn. -/
  beforeNewYear : ∀ year, closing year + gap < newYear (year + 1)

theorem settled_seasonal {opening closing : Int → Int} {inside outside : Int}
    (h : IsSeason gap opening closing) : Settled gap (seasonal opening closing inside outside) := by
  intro a b c hab hbc hac
  have hyear := yearAt_mono hab
  have hyear' := yearAt_mono hbc
  have := yearAt_spec a
  have := yearAt_spec c
  have hopen := h.afterNewYear (yearAt c)
  have hlast := h.lasts (yearAt c)
  by_cases hsame : yearAt a = yearAt c
  · -- Within a year the season either begins or ends between `a` and `c`, or does neither.
    have hmid : yearAt b = yearAt c := by omega
    simp only [seasonal, hsame, hmid]
    by_cases hb : opening (yearAt c) ≤ b ∧ b < closing (yearAt c)
    · rw [if_pos hb]
      by_cases ha : opening (yearAt c) ≤ a ∧ a < closing (yearAt c)
      · exact Or.inl (if_pos ha)
      · exact Or.inr (if_pos ⟨by omega, by omega⟩).symm
    · rw [if_neg hb]
      by_cases ha : opening (yearAt c) ≤ a ∧ a < closing (yearAt c)
      · exact Or.inr (if_neg (by omega)).symm
      · exact Or.inl (if_neg ha)
  · -- Around the turn of a year there is no season.
    have hnext := newYear_mono (show yearAt a + 1 ≤ yearAt c by omega)
    have hclosed := h.beforeNewYear (yearAt a)
    have hbefore : seasonal opening closing inside outside a = outside := if_neg (by omega)
    have hafter : seasonal opening closing inside outside c = outside := if_neg (by omega)
    by_cases hmid : yearAt b = yearAt c
    · refine Or.inr ?_
      rw [hafter]
      refine if_neg ?_
      rw [hmid]
      omega
    · refine Or.inl ?_
      rw [hbefore]
      refine (if_neg ?_).symm
      have := newYear_mono (show yearAt b + 1 ≤ yearAt c by omega)
      have := h.beforeNewYear (yearAt b)
      omega

/-- The time of a year at which summer time begins. -/
def summerBegins (standard : Int) (start : YearDay) (year : Int) : Int :=
  start.seconds year - standard

/-- The time of a year at which summer time ends. -/
def summerEnds (summer : Int) (stop : YearDay) (year : Int) : Int :=
  stop.seconds year - summer

section

variable {standard summer : Int} {start stop : YearDay}

/-- A yearly rule has one season a year: summer, where summer time begins before it ends, and
winter where it does not. -/
theorem offsetAt_yearly (t : Int) :
    (ZoneTail.yearly standard summer start stop).offsetAt t =
      if summerBegins standard start (yearAt t) < summerEnds summer stop (yearAt t) then
        seasonal (summerBegins standard start) (summerEnds summer stop) summer standard t
      else seasonal (summerEnds summer stop) (summerBegins standard start) standard summer t := by
  have hdef : (ZoneTail.yearly standard summer start stop).offsetAt t =
      if (if summerBegins standard start (yearAt t) < summerEnds summer stop (yearAt t) then
          decide (summerBegins standard start (yearAt t) ≤ t) &&
            decide (t < summerEnds summer stop (yearAt t))
        else !(decide (summerEnds summer stop (yearAt t) ≤ t) &&
            decide (t < summerBegins standard start (yearAt t)))) then summer
      else standard := rfl
  rw [hdef]
  unfold seasonal
  by_cases hnorth : summerBegins standard start (yearAt t) < summerEnds summer stop (yearAt t)
  · simp only [if_pos hnorth, Bool.and_eq_true, decide_eq_true_eq]
  · simp only [if_neg hnorth, Bool.not_eq_true', ← Bool.not_eq_true, Bool.and_eq_true,
      decide_eq_true_eq, ite_not]

/-- Whether summer time neither begins nor ends near the turn of a year, and neither soon after the
other, in every year. -/
def isSeasonal (gap standard summer : Int) (start stop : YearDay) : Bool :=
  (1 ≤ start.week && start.week ≤ 5 && 1 ≤ stop.week && stop.week ≤ 5) &&
    ((gap < earliest start - standard && latest start - standard + gap < earliest stop - summer &&
        latest stop - summer + gap < 365 * 86400) ||
      (gap < earliest stop - summer && latest stop - summer + gap < earliest start - standard &&
        latest start - standard + gap < 365 * 86400))

theorem settled_yearly (hgap : 0 ≤ gap) (h : isSeasonal gap standard summer start stop = true) :
    Settled gap (ZoneTail.yearly standard summer start stop).offsetAt := by
  simp only [isSeasonal, Bool.and_eq_true, Bool.or_eq_true, decide_eq_true_eq] at h
  obtain ⟨⟨⟨⟨hstart, hstart'⟩, hstop⟩, hstop'⟩, hnorth | hsouth⟩ := h
  · have hseason : IsSeason gap (summerBegins standard start) (summerEnds summer stop) := by
      unfold summerBegins summerEnds
      refine ⟨?_, ?_, ?_⟩ <;> intro year <;> have := seconds_bounds ⟨hstart, hstart'⟩ year <;>
        have := seconds_bounds ⟨hstop, hstop'⟩ year <;> have := newYear_succ year <;> omega
    have heq : (ZoneTail.yearly standard summer start stop).offsetAt
        = seasonal (summerBegins standard start) (summerEnds summer stop) summer standard := by
      funext t
      have := hseason.lasts (yearAt t)
      rw [offsetAt_yearly, if_pos (by omega)]
    rw [heq]
    exact settled_seasonal hseason
  · have hseason : IsSeason gap (summerEnds summer stop) (summerBegins standard start) := by
      unfold summerBegins summerEnds
      refine ⟨?_, ?_, ?_⟩ <;> intro year <;> have := seconds_bounds ⟨hstart, hstart'⟩ year <;>
        have := seconds_bounds ⟨hstop, hstop'⟩ year <;> have := newYear_succ year <;> omega
    have heq : (ZoneTail.yearly standard summer start stop).offsetAt
        = seasonal (summerEnds summer stop) (summerBegins standard start) standard summer := by
      funext t
      have := hseason.lasts (yearAt t)
      rw [offsetAt_yearly, if_neg (by omega)]
    rw [heq]
    exact settled_seasonal hseason

end

/-- Whether a rule is settled. -/
def hasSettledRule (gap : Int) : ZoneTail → Bool
  | .fixed _ => true
  | .yearly standard summer start stop => isSeasonal gap standard summer start stop

theorem settled_of_hasSettledRule (hgap : 0 ≤ gap) (h : hasSettledRule gap tail = true) :
    Settled gap tail.offsetAt := by
  cases tail with
  | fixed offset => exact fun _ _ _ _ _ _ => Or.inl rfl
  | yearly standard summer start stop => exact settled_yearly hgap h

/-! ### Tables -/

/-- An offset stays for so many seconds what it is at a time. -/
def StaysFrom (gap start : Int) (offset : Int → Int) : Prop :=
  ∀ t, start ≤ t → t ≤ start + gap → offset t = offset start

/-- Whether a rule keeps its offset for so many seconds. -/
def keepsFrom (gap start : Int) : ZoneTail → Bool
  | .fixed _ => true
  | .yearly standard summer begins ends =>
    let year := yearAt start
    let isFar := fun t : Int => decide (t ≤ start) || decide (start + gap < t)
    yearAt (start + gap) == year && isFar (summerBegins standard begins year) &&
      isFar (summerEnds summer ends year)

theorem staysFrom_of_keepsFrom {start : Int} (h : keepsFrom gap start tail = true) :
    StaysFrom gap start tail.offsetAt := by
  intro t hfrom huntil
  cases tail with
  | fixed offset => rfl
  | yearly standard summer begins ends =>
      simp only [keepsFrom, Bool.and_eq_true, Bool.or_eq_true, beq_iff_eq, decide_eq_true_eq] at h
      obtain ⟨⟨hyear, hbegins⟩, hends⟩ := h
      have hsame : yearAt t = yearAt start := by
        have := yearAt_mono hfrom
        have := yearAt_mono huntil
        omega
      have hbegins' : summerBegins standard begins (yearAt start) ≤ t ↔
          summerBegins standard begins (yearAt start) ≤ start := by omega
      have hends' : summerEnds summer ends (yearAt start) ≤ t ↔
          summerEnds summer ends (yearAt start) ≤ start := by omega
      simp only [offsetAt_yearly, seasonal, hsame, ← Int.not_le, hbegins', hends']

/-- Whether the changes of a table are far apart, and the rule after it brings none soon after the
last. -/
def isSpaced (gap : Int) (tail : ZoneTail) : List OffsetChange → Bool
  | [] => true
  | [last] => keepsFrom gap last.second tail
  | change :: next :: later =>
    decide (change.second + gap < next.second) && isSpaced gap tail (next :: later)

theorem isSpaced_of_cons {change : OffsetChange} {later : List OffsetChange}
    (h : isSpaced gap tail (change :: later) = true) : isSpaced gap tail later = true := by
  cases later with
  | nil => rfl
  | cons next later => exact (Bool.and_eq_true_iff.mp h).2

theorem staysFrom_of_isSpaced (hgap : 0 ≤ gap) {change : OffsetChange} {later : List OffsetChange}
    (h : isSpaced gap tail (change :: later) = true) :
    StaysFrom gap change.second fun t => offsetIn tail t change.offset later := by
  cases later with
  | nil => exact staysFrom_of_keepsFrom h
  | cons next later =>
      have hnext := of_decide_eq_true (Bool.and_eq_true_iff.mp h).1
      intro t hfrom huntil
      have ht : t < next.second := by omega
      have hstart : change.second < next.second := by omega
      simp only [offsetIn, if_pos ht, if_pos hstart]

/-- An offset by a table whose changes are far apart is settled if that by its rule is. -/
theorem settled_offsetIn (hgap : 0 ≤ gap) (htail : Settled gap tail.offsetAt) :
    ∀ (changes : List OffsetChange) (current : Int), isSpaced gap tail changes = true →
      Settled gap fun t => offsetIn tail t current changes := by
  intro changes
  induction changes with
  | nil =>
      intro current _
      exact htail
  | cons change later ih =>
      intro current hspaced a b c hab hbc hac
      have hstays := staysFrom_of_isSpaced hgap hspaced
      simp only [offsetIn]
      by_cases hb : b < change.second
      · rw [if_pos hb, if_pos (by omega)]
        exact Or.inl rfl
      · rw [if_neg hb, if_neg (show ¬ c < change.second by omega)]
        by_cases ha : a < change.second
        · -- The change comes before `b`, so the next one is still to come at `c`.
          have hb' := hstays b (by omega) (by omega)
          have hc' := hstays c (by omega) (by omega)
          exact Or.inr (hb'.trans hc'.symm)
        · rw [if_neg ha]
          exact ih change.offset (isSpaced_of_cons hspaced) a b c hab hbc hac

/-! ### The zones that there is a table for -/

/-- Whether the offsets of a zone differ by `gap` seconds at most and change once at most within
them. -/
def isSettled (gap : Int) (z : ZoneTable) : Bool :=
  decide (0 ≤ gap) && (z.offsets.all fun a => z.offsets.all fun b => decide (a - b ≤ gap)) &&
    hasSettledRule gap z.tail && isSpaced gap z.tail z.changes

theorem settled_of_isSettled {z : ZoneTable} (h : isSettled gap z = true) :
    (∀ s t, z.offsetAt s - z.offsetAt t ≤ gap) ∧
      Settled gap fun second => offsetIn z.tail second z.initial z.changes := by
  simp only [isSettled, Bool.and_eq_true, List.all_eq_true, decide_eq_true_eq] at h
  obtain ⟨⟨⟨hgap, hwide⟩, hrule⟩, hspaced⟩ := h
  refine ⟨?_, settled_offsetIn hgap (settled_of_hasSettledRule hgap hrule) _ _ hspaced⟩
  intro s t
  exact hwide _ (offsetAt_mem_offsets s) _ (offsetAt_mem_offsets t)

/-- The offsets of any zone differ by less than 28 hours, and none changes twice within them. -/
theorem named_isSettled : (named.all fun entry => isSettled 100800 entry.2) = true := by
  decide +kernel

theorem settled_of_mem_named {entry : String × ZoneTable} (h : entry ∈ named) :
    (∀ s t, entry.2.offsetAt s - entry.2.offsetAt t ≤ 100800) ∧
      Settled 100800 fun second => offsetIn entry.2.tail second entry.2.initial entry.2.changes :=
  settled_of_isSettled (List.all_eq_true.mp named_isSettled _ h)

end ZoneTable

namespace ZoneSource

variable {name : String} {z : Zone}

theorem exists_table_of_find (h : tables.find name = .found z) :
    ∃ entry ∈ ZoneTable.named, z = entry.2.zone := by
  simp only [tables] at h
  split at h
  · rename_i table hlookup
    obtain rfl := ZoneAnswer.found.inj h
    obtain ⟨before, after, hnamed, -⟩ := List.lookup_eq_some_iff.mp hlookup
    exact ⟨(_, table), hnamed ▸ List.mem_append_right _ List.mem_cons_self, rfl⟩
  · cases h

/-- **Every zone that there is a table for is regular.** -/
theorem regular_of_find (h : tables.find name = .found z) : z.Regular := by
  obtain ⟨entry, hentry, rfl⟩ := exists_table_of_find h
  obtain ⟨hgap, hsettled⟩ := ZoneTable.settled_of_mem_named hentry
  exact ZoneTable.regular_of_settled hgap hsettled

/-- **In a zone that there is a table for, every local time leads back to its instant.** -/
theorem returns_of_find (h : tables.find name = .found z) (t : Instant) : z.Returns t := by
  obtain ⟨entry, hentry, rfl⟩ := exists_table_of_find h
  obtain ⟨hgap, hsettled⟩ := ZoneTable.settled_of_mem_named hentry
  exact ZoneTable.returns_of_settled hgap hsettled t

end ZoneSource

theorem Zone.utc_returns (t : Instant) : Zone.utc.Returns t :=
  ZoneSource.returns_of_find (show ZoneSource.tables.find "UTC" = .found .utc from rfl) t

theorem Zone.newYork_returns (t : Instant) : Zone.newYork.Returns t :=
  ZoneSource.returns_of_find (show ZoneSource.tables.find "America/New_York" = .found .newYork
    from rfl) t

theorem Zone.newYork_regular : Zone.newYork.Regular :=
  ZoneSource.regular_of_find (show ZoneSource.tables.find "America/New_York" = .found .newYork
    from rfl)

theorem Zone.kiritimati_regular : Zone.kiritimati.Regular :=
  ZoneSource.regular_of_find (show ZoneSource.tables.find "Pacific/Kiritimati" = .found .kiritimati
    from rfl)

end MediaSearch.Calendar
