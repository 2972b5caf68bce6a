/-
The order in which items are listed.

A list in another order has the same matches, in another order.  Sorting them takes away all of
that but the order among items of one time: the times go down in one way
(`published_newestFirst_of_perm`), and where no two matches are of one time there is one way to
put the items themselves (`newestFirst_of_perm`).  A page is cut at places that only its number
and its size decide, so what holds of the sorted matches holds of every page of them.
-/
import Mathlib.Data.List.Nodup
import MediaSearch.Proofs.Query.Paging
import MediaSearch.WorkDir

namespace MediaSearch.Query

variable {clock : Clock} {condition : Expr} {items items' : List Item} {page perPage : Nat}

/-- Every item can be tested. -/
def Tested (clock : Clock) (condition : Expr) (items : List Item) : Prop :=
  ∀ item ∈ items, ∃ b, condition.holds clock item = .ok b

/-- The times of publication. -/
def times (items : List Item) : List Int :=
  items.map (·.published)

/-! ### Sorting -/

theorem newestFirst_perm (h : items.Perm items') :
    (newestFirst items).Perm (newestFirst items') :=
  ((newestFirst_spec items).perm.trans h).trans (newestFirst_spec items').perm.symm

/-- The times of the sorted items are the same for every order: they go down. -/
theorem published_newestFirst_of_perm (h : items.Perm items') :
    times (newestFirst items) = times (newestFirst items') := by
  have hdown : ∀ items : List Item, (times (newestFirst items)).Pairwise fun s t => t ≤ s :=
    fun items => List.pairwise_map.mpr (newestFirst_spec items).descending
  exact List.Perm.eq_of_pairwise (fun s t _ _ hts hst => Int.le_antisymm hst hts) (hdown items)
    (hdown items') ((newestFirst_perm h).map _)

/-- If no two items are of one time, so are the sorted items themselves. -/
theorem newestFirst_of_perm (h : items.Perm items') (hdistinct : (times items).Nodup) :
    newestFirst items = newestFirst items' := by
  have hmem : ∀ {a}, a ∈ newestFirst items → a ∈ items :=
    fun ha => (newestFirst_spec items).perm.subset ha
  have hmem' : ∀ {a}, a ∈ newestFirst items' → a ∈ items :=
    fun ha => h.symm.subset ((newestFirst_spec items').perm.subset ha)
  refine List.Perm.eq_of_pairwise (fun a b ha hb hba hab => ?_) (newestFirst_spec items).descending
    (newestFirst_spec items').descending (newestFirst_perm h)
  exact List.inj_on_of_nodup_map hdistinct (hmem ha) (hmem' hb) (Int.le_antisymm hab hba)

/-! ### Pages -/

theorem matching_perm (h : items.Perm items') :
    (matching clock condition items).Perm (matching clock condition items') :=
  h.filter _

theorem times_pageOf (size page : Nat) (items : List Item) :
    times (pageOf size page items) = pageOf size page (times items) := by
  unfold times pageOf
  rw [List.map_take, List.map_drop]

/-- A page shows two lists of items alike up to ties: as many matches in all, at the same times on
the page, and if no two matches are of one time, the same page. -/
def AlikeUpToTies (clock : Clock) (condition : Expr) (items items' : List Item)
    (page perPage : Nat) : Prop :=
  ∃ found found' : Page Item,
    search clock condition items page perPage = .ok found ∧
    search clock condition items' page perPage = .ok found' ∧
    found.total = found'.total ∧
    times found.items = times found'.items ∧
    ((times (matching clock condition items)).Nodup → found = found')

/-- **Lists of the same items are shown alike up to ties.** -/
theorem alikeUpToTies_of_perm (hpage : 1 ≤ page) (hper : 1 ≤ perPage) (h : items.Perm items')
    (htested : Tested clock condition items) :
    AlikeUpToTies clock condition items items' page perPage := by
  have hmatches : (matching clock condition items).Perm (matching clock condition items') :=
    matching_perm h
  have htested' : Tested clock condition items' :=
    fun item hitem => htested item (h.symm.subset hitem)
  refine ⟨_, _, search_eq_pageOf htested hpage hper, search_eq_pageOf htested' hpage hper,
    hmatches.length_eq, ?_, fun hdistinct => ?_⟩
  · rw [times_pageOf, times_pageOf, published_newestFirst_of_perm hmatches]
  · rw [newestFirst_of_perm hmatches hdistinct, hmatches.length_eq]

/--
**The order in which work directories and items are loaded matters only among ties.**  Where every
item can be tested, every page of a search finds as many matches in two lists of the same items, and
shows the same times in the same order.  If no two matches are of one time, it is the same page.  So
it is with the items of work directories, in whatever order the directories come.
-/
theorem order_matters_among_ties (hpage : 1 ≤ page) (hper : 1 ≤ perPage) :
    (∀ items items' : List Item, items.Perm items' → Tested clock condition items →
      AlikeUpToTies clock condition items items' page perPage) ∧
    ∀ dirs dirs' : List WorkDir, dirs.Perm dirs' →
      Tested clock condition (dirs.flatMap WorkDir.items) →
      AlikeUpToTies clock condition (dirs.flatMap WorkDir.items) (dirs'.flatMap WorkDir.items)
        page perPage :=
  ⟨fun _ _ h htested => alikeUpToTies_of_perm hpage hper h htested,
    fun _ _ h htested => alikeUpToTies_of_perm hpage hper (h.flatMap_right _) htested⟩

/-- A work directory with three posts, two of one time. -/
def gallery : WorkDir :=
  ⟨Files.Path.ofString "gallery", "photo-gallery", "gallery", threePosts⟩

/-- Another one with a post of that time, too, and a newer one. -/
def blog : WorkDir :=
  ⟨Files.Path.ofString "blog", "blog", "blog", [bare "oldest" 1000, bare "newest" 3000]⟩

theorem untitled_tested (items : List Item) : Tested epochClock untitled items := by
  intro item _
  exact ⟨_, by simp only [untitled, not_holds, text_holds, Field.matches]; rfl⟩

/-- The posts the other way round, and the directories. -/
theorem order_matters_among_ties_of_gallery :
    (1 ≤ 1 ∧ 1 ≤ 2 ∧ threePosts.Perm threePosts.reverse ∧
      Tested epochClock untitled threePosts ∧ [gallery, blog].Perm [blog, gallery] ∧
      Tested epochClock untitled ([gallery, blog].flatMap WorkDir.items)) ∧
    AlikeUpToTies epochClock untitled threePosts threePosts.reverse 1 2 ∧
    AlikeUpToTies epochClock untitled ([gallery, blog].flatMap WorkDir.items)
      ([blog, gallery].flatMap WorkDir.items) 1 2 := by
  have hposts : threePosts.Perm threePosts.reverse := (List.reverse_perm threePosts).symm
  have hdirs : [gallery, blog].Perm [blog, gallery] := List.Perm.swap blog gallery []
  obtain ⟨hoflists, hofdirs⟩ :=
    @order_matters_among_ties epochClock untitled 1 2 (Nat.le_refl 1) (Nat.le_succ 1)
  exact ⟨⟨Nat.le_refl 1, Nat.le_succ 1, hposts, untitled_tested _, hdirs, untitled_tested _⟩,
    hoflists _ _ hposts (untitled_tested _), hofdirs _ _ hdirs (untitled_tested _)⟩

end MediaSearch.Query
