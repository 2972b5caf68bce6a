/-
Of the entries of a work directory the last one with each key counts.

Sorting out goes through the entries once: those that are items come to one side in their
order (`sortOut_fst`), the others to the other side with their indices (`mem_skipped_iff`).
What is kept of the items is then the business of lists with keys, and an entry that is no item
has no part in it.
-/
import MediaSearch.Proofs.Item.RoundTrip
import MediaSearch.Proofs.Keyed
import MediaSearch.WorkDir

namespace MediaSearch.WorkDir

open Json (Value)

variable {slug : String}

/-! ### Well-formed entries -/

/-- The entries that are items. -/
def wellFormed (slug : String) (entries : List Value) : List Value :=
  entries.filter fun entry => (Item.ofJson slug entry).isOk

/-- The items that the entries are, one for each that is well formed. -/
def itemsOf (slug : String) (entries : List Value) : List Item :=
  entries.filterMap fun entry => (Item.ofJson slug entry).toOption

theorem exists_read_of_mem_itemsOf {item : Item} {entries : List Value} (h : item ∈ itemsOf slug entries) :
    ∃ entry ∈ entries, Item.ofJson slug entry = .ok item := by
  obtain ⟨entry, hentry, hitem⟩ := List.mem_filterMap.mp h
  cases hread : Item.ofJson slug entry with
  | ok found =>
      rw [hread] at hitem
      exact ⟨entry, hentry, hread.trans (congrArg _ (Option.some.inj hitem))⟩
  | error e => rw [hread] at hitem; cases hitem

theorem itemsOf_wellFormed {entries : List Value} :
    itemsOf slug (wellFormed slug entries) = itemsOf slug entries := by
  rw [itemsOf, wellFormed, List.filterMap_filter]
  refine List.filterMap_congr fun entry _ => ?_
  cases Item.ofJson slug entry <;> rfl

/-- Every item that the entries are is of the one site. -/
theorem site_of_mem_itemsOf {item : Item} {entries : List Value}
    (h : item ∈ itemsOf slug entries) : item.site = slug := by
  obtain ⟨entry, -, hread⟩ := exists_read_of_mem_itemsOf h
  exact Item.site_of_ofJson hread

/-! ### Entries that are passed over -/

/-- What is reported of an entry with its index, if it is no item. -/
def skip? (slug : String) (entry : Value × Nat) : Option Skipped :=
  match Item.ofJson slug entry.1 with
  | .ok _ => none
  | .error error => some ⟨entry.2, error⟩

theorem skip?_eq_some_iff {entry : Value × Nat} {s : Skipped} :
    skip? slug entry = some s ↔
      s.index = entry.2 ∧ Item.ofJson slug entry.1 = .error s.error := by
  rw [skip?]
  cases Item.ofJson slug entry.1 with
  | ok item => simp
  | error error =>
      obtain ⟨index, fault⟩ := s
      simp [eq_comm]

/-- Each entry that is no item is reported once, with its index and with what is wrong. -/
structure Reports (slug : String) (entries : List Value) (skipped : List Skipped) : Prop where
  /-- The indices go up, so that none comes twice. -/
  ascending : skipped.Pairwise fun s s' => s.index < s'.index
  /-- The reports are about the entries that are no items. -/
  mem_iff : ∀ s : Skipped, s ∈ skipped ↔
    ∃ entry, entries[s.index]? = some entry ∧ Item.ofJson slug entry = .error s.error

theorem reports_skips {entries : List Value} :
    Reports slug entries (entries.zipIdx.filterMap (skip? slug)) where
  ascending := by
    have hindices : (entries.zipIdx.map Prod.snd).Pairwise (· < ·) := by
      rw [List.zipIdx_map_snd]
      exact List.pairwise_lt_range'
    refine List.pairwise_filterMap.mpr ((List.pairwise_map.mp hindices).imp ?_)
    intro entry entry' hlt s hs s' hs'
    rw [(skip?_eq_some_iff.mp hs).1, (skip?_eq_some_iff.mp hs').1]
    exact hlt
  mem_iff := by
    intro s
    rw [List.mem_filterMap]
    constructor
    · rintro ⟨⟨entry, index⟩, hentry, hs⟩
      obtain ⟨rfl, hfault⟩ := skip?_eq_some_iff.mp hs
      exact ⟨entry, List.mk_mem_zipIdx_iff_getElem?.mp hentry, hfault⟩
    · rintro ⟨entry, hentry, hfault⟩
      exact ⟨(entry, s.index), List.mk_mem_zipIdx_iff_getElem?.mpr hentry,
        skip?_eq_some_iff.mpr ⟨rfl, hfault⟩⟩

/-! ### Loading -/

theorem sortOut_eq {entries : List Value} :
    ∀ start, sortOut slug start entries
      = (itemsOf slug entries, (entries.zipIdx start).filterMap (skip? slug)) := by
  induction entries with
  | nil => exact fun _ => rfl
  | cons entry entries ih =>
      intro start
      rw [sortOut, ih (start + 1), itemsOf, itemsOf, List.zipIdx_cons, List.filterMap_cons,
        List.filterMap_cons, skip?]
      cases Item.ofJson slug entry <;> rfl

theorem loadItems_array {entries : List Value} :
    loadItems slug (.array entries)
      = .ok ((Keyed.ofValues Item.key (itemsOf slug entries)).values,
          entries.zipIdx.filterMap (skip? slug)) := by
  rw [loadItems, sortOut_eq]

/--
**The last well-formed entry with a key counts, in the place of the first.**  Data that are no
array are a fault.  An array is always loaded, whatever its entries are: there is one item for
each key that a well-formed entry has, in the order in which these keys first come, and it is
made from the last well-formed entry with its key and is of the site.  Each entry that is
no item is reported once, with its index, and changes nothing else: arrays with the same
well-formed entries in the same order give the same items, whatever stands between them.
-/
theorem loadItems_keeps_last (slug : String) :
    (∀ data : Value, (∀ entries, data ≠ .array entries) →
      loadItems slug data = .error .itemsNotArray) ∧
    (∀ entries : List Value, ∃ items skipped,
      loadItems slug (.array entries) = .ok (items, skipped) ∧
        Keyed.LastInPlace Item.key (itemsOf slug entries) items ∧
        (∀ item ∈ items, item.site = slug) ∧ Reports slug entries skipped) ∧
    ∀ entries entries' : List Value, wellFormed slug entries = wellFormed slug entries' →
      (loadItems slug (.array entries)).map Prod.fst
        = (loadItems slug (.array entries')).map Prod.fst := by
  refine ⟨?_, fun entries => ⟨_, _, loadItems_array, Keyed.lastInPlace_ofValues, ?_, reports_skips⟩,
    ?_⟩
  · intro data hdata
    cases data with
    | array entries => exact absurd rfl (hdata entries)
    | _ => rfl
  · intro item hitem
    exact site_of_mem_itemsOf (Keyed.mem_of_mem_values_ofValues hitem)
  · intro entries entries' hsame
    have hitems : itemsOf slug entries = itemsOf slug entries' := by
      rw [← itemsOf_wellFormed, hsame, itemsOf_wellFormed]
    rw [loadItems_array, loadItems_array, hitems]
    rfl

/-- A post with no more than a post must have. -/
def barePost (key title : String) : Value :=
  .object [("key", .string key), ("title", .string title), ("url", .string ""),
    ("description", .object [("format", .string "plaintext"), ("value", .string "")]),
    ("sourcePublished", .int 0)]

/-- Two posts, one of them twice, with entries in between that are none; the last entry has the
key of a post and no more. -/
def mixedEntries : List Value :=
  [barePost "lake" "draft", .null, barePost "hill" "hill", barePost "lake" "final",
   .object [("key", .string "lake")]]

theorem loadItems_keeps_last_of_mixedEntries :
    ((loadItems "gallery" (.array mixedEntries)).toOption.map fun loaded =>
        (loaded.1.map fun item => (item.key, item.title, item.site), loaded.2.map (·.index)))
      = some ([("lake", "final", "gallery"), ("hill", "hill", "gallery")], [1, 4]) ∧
    loadItems "gallery" (.string "lake") = .error .itemsNotArray ∧
    (loadItems "gallery" (.array mixedEntries)).map Prod.fst
      = (loadItems "gallery" (.array [barePost "lake" "draft", barePost "hill" "hill",
          barePost "lake" "final"])).map Prod.fst := by
  obtain ⟨hfault, -, hsame⟩ := loadItems_keeps_last "gallery"
  refine ⟨by rfl, hfault _ fun entries h => ?_, hsame _ _ (by rfl)⟩
  cases h

end MediaSearch.WorkDir
