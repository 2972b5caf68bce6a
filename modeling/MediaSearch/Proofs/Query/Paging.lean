/-
Paging through a search shows every match once, the newest first.

Three things come together.  Selecting keeps the items that meet the condition, in
the order in which they are listed (`select_eq_matching`).  Sorting puts the newest
first and leaves items of one time as they were; that describes one order and no other
(`newestFirst_spec`, `NewestFirst.unique`), so the theorems below speak of the order
and not of the sorting.  Cutting takes pieces of one length off the front, and enough
of them give the list back (`flatMap_page_eq`).
-/
import Mathlib.Algebra.Order.Floor.Div
import Mathlib.GroupTheory.GroupAction.Ring
import MediaSearch.Calendar.ZoneNames
import MediaSearch.Query.Search

namespace MediaSearch.Query

/-! ### The newest first -/

/-- The items of one time. -/
def ofTime (time : Int) (items : List Item) : List Item :=
  items.filter (·.published == time)

/-- For every time the same items of that time, in the same order. -/
def SameAtEachTime (l l' : List Item) : Prop :=
  ∀ time : Int, ofTime time l = ofTime time l'

theorem SameAtEachTime.symm {l l' : List Item} (h : SameAtEachTime l l') : SameAtEachTime l' l :=
  fun time => (h time).symm

theorem SameAtEachTime.trans {l l' l'' : List Item} (h : SameAtEachTime l l')
    (h' : SameAtEachTime l' l'') : SameAtEachTime l l'' :=
  fun time => (h time).trans (h' time)

theorem SameAtEachTime.mem {l l' : List Item} (h : SameAtEachTime l l') {a : Item}
    (ha : a ∈ l) : a ∈ l' := by
  have hin : a ∈ ofTime a.published l := List.mem_filter.mpr ⟨ha, by simp⟩
  rw [h] at hin
  exact (List.mem_filter.mp hin).1

/-- What holds at each time still does once a common first item is taken away. -/
theorem SameAtEachTime.tail {a : Item} {l l' : List Item}
    (h : SameAtEachTime (a :: l) (a :: l')) : SameAtEachTime l l' := by
  intro time
  have ht := h time
  unfold ofTime at ht ⊢
  rw [List.filter_cons, List.filter_cons] at ht
  split at ht
  · exact (List.cons.inj ht).2
  · exact ht

/-- The items in an order with the newest first, those of one time in the order they had. -/
structure NewestFirst (found order : List Item) : Prop where
  /-- Nothing is lost and nothing is added. -/
  perm : order.Perm found
  /-- No item is followed by a newer one. -/
  descending : order.Pairwise fun a b => b.published ≤ a.published
  /-- Items of one time stay as they were. -/
  stable : SameAtEachTime order found

/-- Two orders with the newest first begin with the same item when they agree at each time: each
of the two heads is at least as new as the other. -/
theorem head_eq_of_descending {a b : Item} {l l' : List Item}
    (h : (a :: l).Pairwise fun a b => b.published ≤ a.published)
    (h' : (b :: l').Pairwise fun a b => b.published ≤ a.published)
    (heq : SameAtEachTime (a :: l) (b :: l')) : a = b := by
  have hab : a.published = b.published := by
    rcases List.mem_cons.mp (heq.mem (List.mem_cons_self (a := a))) with rfl | ha
    · rfl
    rcases List.mem_cons.mp (heq.symm.mem (List.mem_cons_self (a := b))) with rfl | hb
    · rfl
    exact Int.le_antisymm ((List.pairwise_cons.mp h').1 a ha) ((List.pairwise_cons.mp h).1 b hb)
  have hheads := heq a.published
  unfold ofTime at hheads
  rw [List.filter_cons_of_pos (by simp), List.filter_cons_of_pos (by simp [hab]),
    List.cons.injEq] at hheads
  exact hheads.1

theorem eq_of_descending :
    ∀ {order other : List Item}, order.Pairwise (fun a b => b.published ≤ a.published) →
      other.Pairwise (fun a b => b.published ≤ a.published) → SameAtEachTime order other →
      order = other := by
  intro order
  induction order with
  | nil =>
      intro other _ _ heq
      cases other with
      | nil => rfl
      | cons b rest => exact absurd (heq.symm.mem (List.mem_cons_self (a := b))) (by simp)
  | cons a rest ih =>
      intro other h h' heq
      cases other with
      | nil => exact absurd (heq.mem (List.mem_cons_self (a := a))) (by simp)
      | cons b behind =>
          obtain rfl := head_eq_of_descending h h' heq
          rw [ih (List.pairwise_cons.mp h).2 (List.pairwise_cons.mp h').2 heq.tail]

/-- There is one such order only. -/
theorem NewestFirst.unique {found order other : List Item} (h : NewestFirst found order)
    (h' : NewestFirst found other) : order = other :=
  eq_of_descending h.descending h'.descending (h.stable.trans h'.stable.symm)

/-- Sorting gives that order: the items of one time are a sorted sublist, and sorting keeps those
as they are. -/
theorem newestFirst_spec (found : List Item) : NewestFirst found (newestFirst found) := by
  have htrans : ∀ a b c : Item, decide (b.published ≤ a.published) = true →
      decide (c.published ≤ b.published) = true → decide (c.published ≤ a.published) = true := by
    intro a b c hab hbc
    rw [decide_eq_true_eq] at hab hbc ⊢
    omega
  have htotal : ∀ a b : Item,
      (decide (b.published ≤ a.published) || decide (a.published ≤ b.published)) = true := by
    intro a b
    rw [Bool.or_eq_true, decide_eq_true_eq, decide_eq_true_eq]
    omega
  have hperm : (newestFirst found).Perm found := List.mergeSort_perm found _
  refine ⟨hperm, ?_, ?_⟩
  · exact (List.pairwise_mergeSort htrans htotal found).imp fun h => by simpa using h
  · intro time
    have htied : (ofTime time found).Pairwise
        fun a b => decide (b.published ≤ a.published) = true := by
      refine List.pairwise_of_forall_mem_list ?_
      intro a ha b hb
      have hat := beq_iff_eq.mp (List.mem_filter.mp ha).2
      have hbt := beq_iff_eq.mp (List.mem_filter.mp hb).2
      simp [hat, hbt]
    have hsub : (ofTime time found).Sublist (newestFirst found) :=
      List.sublist_mergeSort htrans htotal htied List.filter_sublist
    have htimes := hsub.filter (·.published == time)
    rw [ofTime, List.filter_filter] at htimes
    simp only [Bool.and_self] at htimes
    exact (htimes.eq_of_length (hperm.filter _).length_eq.symm).symm

/-! ### Selecting -/

/-- The items that meet a condition, in the order in which they are listed. -/
def matching (clock : Clock) (condition : Expr) (items : List Item) : List Item :=
  items.filter fun item => condition.holds clock item matches .ok true

theorem select_eq_matching {clock : Clock} {condition : Expr} :
    ∀ {items : List Item}, (∀ item ∈ items, ∃ b, condition.holds clock item = .ok b) →
      select clock condition items = .ok (matching clock condition items) := by
  intro items
  induction items with
  | nil => intro _; rfl
  | cons item rest ih =>
      intro htested
      obtain ⟨b, hb⟩ := htested item (by simp)
      have hrest := ih fun other hother => htested other (by simp [hother])
      have hstep : select clock condition (item :: rest)
          = .ok (if b then item :: matching clock condition rest
              else matching clock condition rest) := by
        simp only [select, hb, hrest]
        rfl
      rw [hstep]
      cases b <;> simp [matching, hb]

/-! ### Cutting into pages -/

/-- A list is the pieces of one length that it is cut into, in order. -/
theorem flatMap_page_eq {α : Type} {size : Nat} :
    ∀ (count : Nat) (l : List α), l.length ≤ count * size →
      (List.range count).flatMap (fun k => (l.drop (k * size)).take size) = l := by
  intro count
  induction count with
  | zero =>
      intro l hle
      rw [Nat.zero_mul, Nat.le_zero, List.length_eq_zero_iff] at hle
      simp [hle]
  | succ count ih =>
      intro l hle
      have hrest := ih (l.drop size) (by rw [List.length_drop]; rw [Nat.succ_mul] at hle; omega)
      rw [List.range_succ_eq_map, List.flatMap_cons, List.flatMap_map, Nat.zero_mul, List.drop_zero]
      have hshift : (fun k => (l.drop (Nat.succ k * size)).take size)
          = fun k => ((l.drop size).drop (k * size)).take size := by
        funext k
        rw [List.drop_drop, Nat.succ_mul, Nat.add_comm]
      rw [hshift, hrest, List.take_append_drop]

/-- A page of a list, counting from 1. -/
def pageOf {α : Type} (size page : Nat) (l : List α) : List α :=
  (l.drop ((page - 1) * size)).take size

theorem getElem?_pageOf {α : Type} (size page i : Nat) (l : List α) :
    (pageOf size page l)[i]? = if i < size then l[(page - 1) * size + i]? else none := by
  unfold pageOf
  rw [List.getElem?_take, List.getElem?_drop]

/-- A page behind which there is still something is full. -/
theorem length_pageOf_of_later {α : Type} {size page later : Nat} {l : List α}
    (hpage : 1 ≤ page) (hlater : page < later) (hsome : pageOf size later l ≠ []) :
    (pageOf size page l).length = size := by
  have hstart : (later - 1) * size < l.length := by
    by_contra hc
    exact hsome (by rw [pageOf, List.drop_eq_nil_of_le (Nat.le_of_not_lt hc), List.take_nil])
  have hend : (page - 1) * size + size ≤ (later - 1) * size := by
    rw [← Nat.succ_mul]
    exact Nat.mul_le_mul_right size (by omega)
  unfold pageOf
  rw [List.length_take, List.length_drop]
  omega

/-- The pages that have something are those up to the quotient, rounded up. -/
theorem pageOf_eq_nil_iff {α : Type} {size page : Nat} {l : List α} (hsize : 0 < size)
    (hpage : 1 ≤ page) : pageOf size page l = [] ↔ l.length ⌈/⌉ size < page := by
  have hlast : l.length ⌈/⌉ size < page ↔ l.length ≤ (page - 1) * size := by
    rw [Nat.mul_comm, ← ceilDiv_le_iff_le_mul hsize]
    omega
  rw [hlast, pageOf, List.take_eq_nil_iff, List.drop_eq_nil_iff]
  omega

theorem pageOf_eq_nil_of_lt {α : Type} {size page : Nat} {l : List α} (hsize : 0 < size)
    (hpage : l.length ⌈/⌉ size < page) : pageOf size page l = [] :=
  (pageOf_eq_nil_iff hsize (Nat.one_le_of_lt hpage)).mpr hpage

theorem flatMap_pageOf_eq {α : Type} {size : Nat} (hsize : 0 < size) (l : List α) :
    (List.range (l.length ⌈/⌉ size)).flatMap (fun k => pageOf size (k + 1) l) = l := by
  refine flatMap_page_eq _ l ?_
  rw [Nat.mul_comm]
  exact (ceilDiv_le_iff_le_mul hsize).mp (Nat.le_refl _)

theorem paginate_eq_pageOf {α : Type} (l : List α) {page size : Nat} (hpage : 1 ≤ page)
    (hsize : 1 ≤ size) :
    paginate l page size = .ok ⟨pageOf size page l, page, size, l.length⟩ := by
  have hstart : (((page : Int) - 1) * size).toNat = (page - 1) * size := by
    have hcast : ((page : Int) - 1) * size = (((page - 1) * size : Nat) : Int) := by
      rw [Nat.cast_mul, Nat.cast_sub hpage, Nat.cast_one]
    rw [hcast, Int.toNat_natCast]
  unfold paginate
  rw [if_neg (by omega), if_neg (by omega)]
  simp only [hstart, Int.toNat_natCast, pageOf]

/-! ### Searching -/

/-- A search shows a page of the matches in the order that has the newest first. -/
theorem search_eq_pageOf {clock : Clock} {condition : Expr} {items : List Item}
    (htested : ∀ item ∈ items, ∃ b, condition.holds clock item = .ok b) {page perPage : Nat}
    (hpage : 1 ≤ page) (hper : 1 ≤ perPage) :
    search clock condition items page perPage
      = .ok ⟨pageOf perPage page (newestFirst (matching clock condition items)), page, perPage,
          (matching clock condition items).length⟩ := by
  have hlen := (newestFirst_spec (matching clock condition items)).perm.length_eq
  simp only [search, select_eq_matching htested]
  show (paginate _ _ _).mapError SearchError.page = _
  rw [paginate_eq_pageOf _ hpage hper, hlen]
  rfl

/--
**Paging through a search shows every match exactly once, the newest first.**  There is one order
of the matches with the newest first and those of one time as they are listed.  Page after page
shows it piece by piece: a page holds the places that are its own, every page before the last that
holds anything is full, the pages up to the quotient of the matches and the size of a page, rounded
up, are the whole order, and behind them there is nothing.
-/
theorem search_pages {clock : Clock} {condition : Expr} {items : List Item} {perPage : Nat}
    (hper : 1 ≤ perPage) (htested : ∀ item ∈ items, ∃ b, condition.holds clock item = .ok b) :
    ∃ order : List Item,
      NewestFirst (matching clock condition items) order ∧
      (∀ other, NewestFirst (matching clock condition items) other → other = order) ∧
      ∃ shown : Nat → List Item,
        (∀ page : Nat, 1 ≤ page → search clock condition items page perPage
          = .ok ⟨shown page, page, perPage, (matching clock condition items).length⟩) ∧
        (∀ page i : Nat, 1 ≤ page →
          (shown page)[i]? = if i < perPage then order[(page - 1) * perPage + i]? else none) ∧
        (∀ page later : Nat, 1 ≤ page → page < later → shown later ≠ [] →
          (shown page).length = perPage) ∧
        (List.range ((matching clock condition items).length ⌈/⌉ perPage)).flatMap
          (fun k => shown (k + 1)) = order ∧
        (∀ page : Nat, (matching clock condition items).length ⌈/⌉ perPage < page →
          shown page = []) := by
  have hspec := newestFirst_spec (matching clock condition items)
  refine ⟨newestFirst (matching clock condition items), hspec, fun other h => h.unique hspec,
    fun page => pageOf perPage page (newestFirst (matching clock condition items)),
    fun page hpage => search_eq_pageOf htested hpage hper,
    fun page i _ => getElem?_pageOf perPage page i _,
    fun page later hpage hlater hsome => length_pageOf_of_later hpage hlater hsome, ?_, ?_⟩
  · rw [← hspec.perm.length_eq]
    exact flatMap_pageOf_eq hper _
  · intro page hpage
    rw [← hspec.perm.length_eq] at hpage
    exact pageOf_eq_nil_of_lt hper hpage

/-- A post that has nothing but a key and a time of publication. -/
def bare (key : String) (published : Int) : Item :=
  { (default : Item) with key, published }

/-- Three posts, two of one time. -/
def threePosts : List Item :=
  [bare "old" 1000, bare "new" 2000, bare "also old" 1000]

/-- A condition that they meet. -/
def untitled : Expr :=
  .not (.text .title "x")

/-- The clock of universal time at the start of 1970. -/
def epochClock : Clock :=
  ⟨.instant 0, .utc⟩

theorem threePosts_tested : ∀ item ∈ threePosts, ∃ b, untitled.holds epochClock item = .ok b := by
  intro item _
  exact ⟨_, by simp only [untitled, not_holds, text_holds, Field.matches]; rfl⟩

theorem search_pages_of_threePosts :
    (1 ≤ 2 ∧ ∀ item ∈ threePosts, ∃ b, untitled.holds epochClock item = .ok b) ∧
    ∃ order : List Item,
      NewestFirst (matching epochClock untitled threePosts) order ∧
      (∀ other, NewestFirst (matching epochClock untitled threePosts) other → other = order) ∧
      ∃ shown : Nat → List Item,
        (∀ page : Nat, 1 ≤ page → search epochClock untitled threePosts page 2
          = .ok ⟨shown page, page, 2, (matching epochClock untitled threePosts).length⟩) ∧
        (∀ page i : Nat, 1 ≤ page →
          (shown page)[i]? = if i < 2 then order[(page - 1) * 2 + i]? else none) ∧
        (∀ page later : Nat, 1 ≤ page → page < later → shown later ≠ [] →
          (shown page).length = 2) ∧
        (List.range ((matching epochClock untitled threePosts).length ⌈/⌉ 2)).flatMap
          (fun k => shown (k + 1)) = order ∧
        (∀ page : Nat, (matching epochClock untitled threePosts).length ⌈/⌉ 2 < page →
          shown page = []) :=
  ⟨⟨Nat.le_succ 1, threePosts_tested⟩, search_pages (Nat.le_succ 1) threePosts_tested⟩

end MediaSearch.Query
