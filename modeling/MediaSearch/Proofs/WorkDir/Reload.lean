/-
Loading what has been loaded and written.

Items that have been loaded are all of the one site and have one key each, so when they are
written and loaded again none is skipped and none takes the place of another: the same items
come back (`loadItems_again`).  Together with the round trip of a single item, also through
the form in which results are given out, that is the theorem at the end.
-/
import MediaSearch.Cli.Search
import MediaSearch.Proofs.WorkDir.LastEntry

namespace MediaSearch

namespace WorkDir

open Json (Value Extends)

variable {slug : String}

/-! ### The items of a directory -/

/-- Entries that are written items of the site are all read, and none is skipped. -/
theorem sortOut_toJson {items : List Item} (hsite : ∀ item ∈ items, item.site = slug) :
    ∀ index, sortOut slug index (items.map Item.toJson) = (items, []) := by
  induction items with
  | nil => exact fun _ => rfl
  | cons item items ih =>
      intro index
      have hitem : Item.ofJson slug item.toJson = .ok item :=
        hsite item List.mem_cons_self ▸ item.ofJson_toJson
      have hrest := ih (fun later hlater => hsite later (List.mem_cons_of_mem _ hlater)) (index + 1)
      rw [List.map_cons, sortOut, hitem, hrest]

/-- Loading what has been loaded and written gives the same items and skips none. -/
theorem loadItems_again {data : Value} {items : List Item} {skipped : List Skipped}
    (h : loadItems slug data = .ok (items, skipped)) :
    loadItems slug (.array (items.map Item.toJson)) = .ok (items, []) := by
  cases data with
  | array entries =>
      rw [loadItems_array] at h
      obtain ⟨rfl, -⟩ := Prod.mk.inj (Except.ok.inj h)
      have hsite : ∀ item ∈ (Keyed.ofValues Item.key (itemsOf slug entries)).values,
          item.site = slug :=
        fun item hitem => site_of_mem_itemsOf (Keyed.mem_of_mem_values_ofValues hitem)
      rw [loadItems, sortOut_toJson hsite 0]
      show Except.ok ((Keyed.ofValues Item.key
        (Keyed.ofValues Item.key (itemsOf slug entries)).values).values, []) = _
      rw [Keyed.values_ofValues_again]
  | _ => cases h

/--
**Loading undoes writing.**  What is written of an item is read as that item again, and so is
anything that has more members, in the item or at any depth in its parts but for the metadata,
which is the item's own; an item as results are given out, with its site, is one such.  Items
that have been loaded, written and loaded again are the same items with none skipped, and what
is written of them then is what was written of them before.
-/
theorem loading_undoes_writing :
    (∀ item : Item, Item.ofJson item.site item.toJson = .ok item) ∧
    (∀ (item : Item) (value : Value), Extends item.toJson value →
      value.member? "meta" = some item.metadata → Item.ofJson item.site value = .ok item) ∧
    (∀ (page : Query.Page Item) (count : Int), ∃ entries,
      (Cli.pageJson page count).member? "items" = some (.array entries) ∧
        List.Forall₂ (fun item entry => Item.ofJson item.site entry = .ok item)
          page.items entries) ∧
    (∀ (slug : String) (data : Value) (items : List Item) (skipped : List Skipped),
      loadItems slug data = .ok (items, skipped) →
        loadItems slug (.array (items.map Item.toJson)) = .ok (items, [])) ∧
    ∀ (site : String) (value : Value) (item : Item), Item.ofJson site value = .ok item →
      (Item.ofJson site item.toJson).map Item.toJson = .ok item.toJson := by
  refine ⟨Item.ofJson_toJson, fun item value => item.ofJson_of_extends, ?_,
    fun _ _ _ _ => loadItems_again, ?_⟩
  · intro page count
    refine ⟨_, rfl, List.forall₂_map_right_iff.mpr (List.forall₂_same.mpr fun item _ => ?_)⟩
    exact item.ofJson_of_extends (.cons rfl) rfl
  · intro site value item hread
    obtain rfl := Item.site_of_ofJson hread
    rw [item.ofJson_toJson]
    rfl

/-- A post with an archive in which a note was found. -/
def archivedPost : Item :=
  { title := "Lake", key := "post-1", url := "https://example.com/posts/1"
    description := ⟨.plaintext, "By the lake"⟩, metadata := .object [("likes", .int 3)]
    published := 1577836800000, firstSeen := 1577836800000, lastSeen := 1577923200000
    seenInLastRefresh := true, tags := [⟨"lake", none⟩, ⟨"summer", some ""⟩]
    files := [.container ⟨"archive", "lake.zip", "https://example.com/lake.zip", true⟩ false
      [.inlineText "note" "A note"]]
    site := "gallery" }

theorem loading_undoes_writing_of_archivedPost :
    Item.ofJson "gallery" (.object (("site", .string "gallery") :: archivedPost.toMembers))
        = .ok archivedPost ∧
      loadItems "gallery" (.array [archivedPost.toJson, .null, archivedPost.toJson])
        = .ok ([archivedPost], [⟨1, ⟨none, .itemNotObject⟩⟩]) ∧
      loadItems "gallery" (.array ([archivedPost].map Item.toJson)) = .ok ([archivedPost], []) := by
  have hloaded : loadItems "gallery" (.array [archivedPost.toJson, .null, archivedPost.toJson])
      = .ok ([archivedPost], [⟨1, ⟨none, .itemNotObject⟩⟩]) := by rfl
  obtain ⟨-, hextends, -, hagain, -⟩ := loading_undoes_writing
  exact ⟨hextends archivedPost _ (.cons rfl) rfl, hloaded, hagain _ _ _ _ hloaded⟩

end WorkDir

end MediaSearch
