/-
Places: paths that say where something is without saying where one looks from.

A place starts at the root and goes down by names only.  Settling a path makes it a place
(`isPlace_of_place`), a place is settled already (`place_of_isPlace`), and its text is read as
the place itself (`ofString_text`).  So a place can be written down and found again.
-/
import MediaSearch.Config.Load
import MediaSearch.Proofs.Except
import MediaSearch.Proofs.Text.Pieces

namespace MediaSearch.Files.Path

/-! ### Parts -/

/-- A part that can be read between slashes. -/
structure IsPart (part : String) : Prop where
  /-- There is something between the slashes. -/
  ne_empty : part ≠ ""
  /-- It is more than the directory itself. -/
  ne_dot : part ≠ "."
  /-- No slash is in it. -/
  noSlash : '/' ∉ part.toList

instance (part : String) : Decidable (IsPart part) :=
  decidable_of_iff (part ≠ "" ∧ part ≠ "." ∧ '/' ∉ part.toList)
    ⟨fun ⟨hempty, hdot, hslash⟩ => ⟨hempty, hdot, hslash⟩, fun h => ⟨h.1, h.2, h.3⟩⟩

/-- A path of parts that can be read. -/
def IsRead (p : Path) : Prop :=
  ∀ part ∈ p.parts, IsPart part

instance (p : Path) : Decidable p.IsRead := by
  unfold IsRead; infer_instance

/-- A path from the root, going down by names that files can have. -/
structure IsPlace (p : Path) : Prop where
  /-- It starts at the root. -/
  root_eq : p.root = "/"
  /-- Its parts can be read. -/
  isRead : p.IsRead
  /-- It does not go back. -/
  noDots : ".." ∉ p.parts
  /-- Files can have its names. -/
  possible : p.isImpossible = false

variable {p q home cwd : Path}

theorem isPart_of_mem_partsOf {text part : String} (h : part ∈ partsOf text) : IsPart part := by
  obtain ⟨hmem, hkept⟩ := List.mem_filter.mp h
  obtain ⟨piece, hpiece, rfl⟩ := List.mem_map.mp hmem
  rw [Bool.and_eq_true, bne_iff_ne, bne_iff_ne] at hkept
  refine ⟨hkept.1, hkept.2, ?_⟩
  intro hslash
  rw [String.toList_ofList] at hslash
  exact (Text.of_mem_pieces hpiece hslash).1 rfl

theorem isRead_ofString (text : String) : (ofString text).IsRead :=
  fun _ h => isPart_of_mem_partsOf h

/-! ### The text of a place -/

theorem IsPart.exists_cons {part : String} (h : IsPart part) :
    ∃ c rest, part.toList = c :: rest ∧ c ≠ '/' := by
  have hne : part.toList ≠ [] := fun hnil => h.ne_empty (String.toList_eq_nil_iff.mp hnil)
  obtain ⟨c, rest, hpart⟩ := List.exists_cons_of_ne_nil hne
  refine ⟨c, rest, hpart, ?_⟩
  intro hslash
  refine h.noSlash ?_
  rw [hpart, hslash]
  exact List.mem_cons_self

theorem IsPlace.toList_text (h : p.IsPlace) :
    p.text.toList = '/' :: Text.joined '/' (p.parts.map String.toList) := by
  unfold text
  rw [h.root_eq]
  exact String.toList_append.trans (congrArg _ String.toList_ofList)

/-- One slash stands in front. -/
theorem IsPlace.takeWhile_text (h : p.IsPlace) :
    p.text.toList.takeWhile (· == '/') = ['/'] := by
  rw [h.toList_text, List.takeWhile_cons_of_pos rfl]
  cases hparts : p.parts with
  | nil => rfl
  | cons part others =>
      have hpart : IsPart part := h.isRead part (hparts ▸ List.mem_cons_self)
      obtain ⟨c, rest, hchars, hc⟩ := hpart.exists_cons
      have hstart : ∃ behind, Text.joined '/' (part.toList :: others.map String.toList)
          = c :: behind := by
        rw [hchars]
        cases others <;> exact ⟨_, rfl⟩
      obtain ⟨behind, hbehind⟩ := hstart
      rw [List.map_cons, hbehind, List.takeWhile_cons_of_neg (by simpa using hc)]

theorem IsPlace.partsOf_text (h : p.IsPlace) : partsOf p.text = p.parts := by
  have hkept : p.parts.filter (fun part => part != "" && part != ".") = p.parts := by
    refine List.filter_eq_self.mpr fun part hpart => ?_
    rw [Bool.and_eq_true, bne_iff_ne, bne_iff_ne]
    exact ⟨(h.isRead part hpart).ne_empty, (h.isRead part hpart).ne_dot⟩
  rw [partsOf, h.toList_text, Text.pieces_mark]
  by_cases hparts : p.parts = []
  · rw [hparts]
    rfl
  · have hclean : ∀ part ∈ p.parts.map String.toList, '/' ∉ part := by
      intro part hpart
      obtain ⟨name, hname, rfl⟩ := List.mem_map.mp hpart
      exact (h.isRead name hname).noSlash
    have hback : (p.parts.map String.toList).map String.ofList = p.parts := by
      rw [List.map_map]
      exact (List.map_congr_left fun _ _ => String.ofList_toList).trans (List.map_id _)
    rw [Text.pieces_joined (by simpa using hparts) hclean, List.map_cons, hback]
    exact hkept

/-- **The text of a place is read as the place.** -/
theorem ofString_text (h : p.IsPlace) : ofString p.text = p := by
  rw [ofString, h.takeWhile_text, h.partsOf_text]
  show (⟨"/", p.parts⟩ : Path) = p
  rw [← h.root_eq]

/-! ### Settling a path -/

/-- The names that are kept, the last one first, and what becomes of them with one more part. -/
def keep (kept : List String) (part : String) : List String :=
  if part == ".." then kept.drop 1 else part :: kept

theorem withoutDots_eq (parts : List String) : withoutDots parts = (parts.foldl keep []).reverse :=
  rfl

theorem mem_keep {part first : String} {kept : List String} (h : part ∈ keep kept first) :
    part ∈ kept ∨ part = first ∧ part ≠ ".." := by
  unfold keep at h
  by_cases hdots : first = ".."
  · rw [if_pos (by simpa using hdots)] at h
    exact Or.inl (List.mem_of_mem_drop h)
  · rw [if_neg (by simpa using hdots)] at h
    rcases List.mem_cons.mp h with rfl | hkept
    · exact Or.inr ⟨rfl, hdots⟩
    · exact Or.inl hkept

theorem mem_foldl_keep {part : String} {parts kept : List String}
    (h : part ∈ parts.foldl keep kept) : part ∈ kept ∨ part ∈ parts ∧ part ≠ ".." := by
  induction parts generalizing kept with
  | nil => exact Or.inl h
  | cons first others ih =>
      rcases ih h with hkept | ⟨hmem, hne⟩
      · refine (mem_keep hkept).imp_right ?_
        rintro ⟨rfl, hne⟩
        exact ⟨List.mem_cons_self, hne⟩
      · exact Or.inr ⟨List.mem_cons_of_mem _ hmem, hne⟩

theorem mem_withoutDots {part : String} {parts : List String} (h : part ∈ withoutDots parts) :
    part ∈ parts ∧ part ≠ ".." := by
  rw [withoutDots_eq, List.mem_reverse] at h
  exact (mem_foldl_keep h).resolve_left List.not_mem_nil

theorem foldl_keep_of_noDots {parts kept : List String} (h : ".." ∉ parts) :
    parts.foldl keep kept = parts.reverse ++ kept := by
  induction parts generalizing kept with
  | nil => rfl
  | cons first others ih =>
      have hfirst : first ≠ ".." := fun hsame => h (hsame ▸ List.mem_cons_self)
      have hkeep : keep kept first = first :: kept := if_neg (by simpa using hfirst)
      rw [List.foldl_cons, hkeep, ih fun hmem => h (List.mem_cons_of_mem _ hmem),
        List.reverse_cons, List.append_assoc]
      rfl

theorem withoutDots_of_noDots {parts : List String} (h : ".." ∉ parts) :
    withoutDots parts = parts := by
  rw [withoutDots_eq, foldl_keep_of_noDots h, List.append_nil, List.reverse_reverse]

theorem IsPlace.isAbsolute (h : p.IsPlace) : p.isAbsolute = true := by
  rw [Path.isAbsolute, h.root_eq]
  rfl

theorem IsPlace.startingAt (h : p.IsPlace) : p.startingAt cwd = p :=
  if_pos h.isAbsolute

theorem IsPlace.resolve (h : p.IsPlace) : p.resolve cwd = p := by
  rw [Path.resolve, h.startingAt, withoutDots_of_noDots h.noDots, ← h.root_eq]

theorem isImpossible_eq_false_iff :
    p.isImpossible = false ↔ ∀ part ∈ p.parts, '\x00' ∉ part.toList := by
  simp [isImpossible]

theorem isPlace_resolve (hcwd : cwd.IsPlace) (hread : p.IsRead) (hp : p.isImpossible = false) :
    (p.resolve cwd).IsPlace := by
  have hparts : ∀ part ∈ (p.startingAt cwd).parts, part ∈ p.parts ∨ part ∈ cwd.parts := by
    intro part hpart
    unfold Path.startingAt at hpart
    split at hpart
    · exact Or.inl hpart
    · exact (List.mem_append.mp hpart).symm
  refine ⟨rfl, ?_, ?_, isImpossible_eq_false_iff.mpr ?_⟩
  · intro part hpart
    rcases hparts part (mem_withoutDots hpart).1 with hmem | hmem
    · exact hread part hmem
    · exact hcwd.isRead part hmem
  · exact fun hdots => (mem_withoutDots hdots).2 rfl
  · intro part hpart
    rcases hparts part (mem_withoutDots hpart).1 with hmem | hmem
    · exact isImpossible_eq_false_iff.mp hp part hmem
    · exact isImpossible_eq_false_iff.mp hcwd.possible part hmem

theorem isRead_expandHome? (hhome : home.IsPlace) (hread : p.IsRead)
    (h : p.expandHome? home = some q) : q.IsRead := by
  unfold expandHome? at h
  split at h
  · rename_i first others _ hparts
    split at h
    · obtain rfl := Option.some.inj h
      intro part hpart
      rcases List.mem_append.mp hpart with hmem | hmem
      · exact hhome.isRead part hmem
      · exact hread part (hparts ▸ List.mem_cons_of_mem _ hmem)
    · split at h
      · exact nomatch h
      · exact Option.some.inj h ▸ hread
  · exact Option.some.inj h ▸ hread

theorem IsPlace.expandHome? (h : p.IsPlace) : p.expandHome? home = some p := by
  have hroot : p.root.isEmpty = false := by
    rw [h.root_eq]
    rfl
  rw [Path.expandHome?, hroot]

end MediaSearch.Files.Path

namespace MediaSearch.Config

open Files (Path)

variable {home cwd p q : Path}

/-- **A path is settled at a place.** -/
theorem isPlace_of_place (hhome : home.IsPlace) (hcwd : cwd.IsPlace) (hread : p.IsRead)
    (h : place home cwd p = .ok q) : q.IsPlace := by
  unfold place at h
  split at h
  · exact nomatch h
  · rename_i expanded hexpanded
    split at h
    · exact nomatch h
    · rename_i hpossible
      obtain rfl := Except.ok.inj h
      exact Path.isPlace_resolve hcwd (Path.isRead_expandHome? hhome hread hexpanded)
        (Bool.eq_false_iff.mpr hpossible)

/-- **A place is settled already.** -/
theorem place_of_isPlace (h : p.IsPlace) : place home cwd p = .ok p := by
  rw [place, h.expandHome?]
  show (if p.isImpossible then _ else Except.ok (p.resolve cwd)) = _
  rw [h.possible, h.resolve]
  rfl

theorem mapM_place_of_isPlace {places : List Path} (h : ∀ p ∈ places, p.IsPlace) :
    places.mapM (place home cwd) = .ok places := by
  induction places with
  | nil => rfl
  | cons p places ih =>
      rw [List.mapM_cons, place_of_isPlace (h p List.mem_cons_self),
        ih fun q hq => h q (List.mem_cons_of_mem _ hq)]
      rfl

theorem isPlace_of_mem_mapM_place {paths places : List Path} (hhome : home.IsPlace)
    (hcwd : cwd.IsPlace) (hread : ∀ p ∈ paths, p.IsRead)
    (h : paths.mapM (place home cwd) = .ok places) : ∀ p ∈ places, p.IsPlace := by
  induction paths generalizing places with
  | nil =>
      obtain rfl := Except.ok.inj h
      exact fun _ hp => nomatch hp
  | cons path paths ih =>
      rw [List.mapM_cons] at h
      obtain ⟨first, hfirst, h⟩ := bind_eq_ok_iff.mp h
      obtain ⟨others, hothers, h⟩ := bind_eq_ok_iff.mp h
      obtain rfl := Except.ok.inj h
      intro p hp
      rcases List.mem_cons.mp hp with rfl | hp
      · exact isPlace_of_place hhome hcwd (hread path List.mem_cons_self) hfirst
      · exact ih (fun q hq => hread q (List.mem_cons_of_mem _ hq)) hothers p hp

/-- The default place can be read. -/
theorem isRead_defaultPath (hhome : home.IsPlace) : (defaultPath home).IsRead := by
  have hnames : ∀ part ∈ [".config", "crawlview", "config.toml"], Path.IsPart part := by decide
  intro part hpart
  have hparts : (defaultPath home).parts
      = home.parts ++ [".config", "crawlview", "config.toml"] := by
    simp [defaultPath, Path.child]
  rw [hparts] at hpart
  rcases List.mem_append.mp hpart with hmem | hmem
  · exact hhome.isRead part hmem
  · exact hnames part hmem

end MediaSearch.Config
