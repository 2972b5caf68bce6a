/-
The files that an item stands for.

A container stands for the files nested in it, if there are any, and every other file for itself.
Said without a recursion on the nesting: as long as a container with nested files is in the list,
they take its place (`Unfolds`).  Every item unfolds in one way only, to the leaves of its files
from left to right (`unfolds_iff`), and to no leaf only if it has no file.  A walk that goes down
into every container and puts what it comes to into one list puts these leaves there, whatever is
in the list already (`putLeavesOfAll_eq`), so the item's flat files are the business of lists with
keys: each key once, where it first comes, with the last leaf that has it.
-/
import MediaSearch.Calendar.ZoneNames
import MediaSearch.Proofs.Keyed
import MediaSearch.Query.Eval

namespace MediaSearch

open Query (Clock Expr)

variable {file : File} {files leaves : List File}

/-! ### Unfolding containers -/

/-- The files nested in a file; only a container has any. -/
def File.nested : File → List File
  | container _ _ nested => nested
  | _ => []

/-- Files with every container that has nested files replaced by these, from left to right. -/
inductive Unfolds : List File → List File → Prop
  /-- There is nothing to replace. -/
  | done : Unfolds [] []
  /-- A file without nested files is a leaf, whether it is a container or not. -/
  | leaf {file : File} {files leaves : List File} (bare : file.nested = [])
      (rest : Unfolds files leaves) : Unfolds (file :: files) (file :: leaves)
  /-- The nested files take the place of a container and are unfolded in turn. -/
  | expand {file : File} {files leaves : List File} (some : file.nested ≠ [])
      (inside : Unfolds (file.nested ++ files) leaves) : Unfolds (file :: files) leaves

theorem leaves_of_bare (h : file.nested = []) : file.leaves = [file] := by
  cases file with
  | container source errors nested =>
      obtain rfl : nested = [] := h
      simp
  | _ => simp

theorem leaves_of_nested (h : file.nested ≠ []) : file.leaves = File.leavesOfAll file.nested := by
  cases file with
  | container source errors nested =>
      cases nested with
      | nil => exact absurd rfl h
      | cons first others => simp [File.nested]
  | _ => exact absurd rfl h

theorem leavesOfAll_append (more : List File) :
    File.leavesOfAll (files ++ more) = File.leavesOfAll files ++ File.leavesOfAll more := by
  induction files with
  | nil => simp
  | cons first rest ih => simp [ih]

theorem eq_leavesOfAll_of_unfolds (h : Unfolds files leaves) :
    leaves = File.leavesOfAll files := by
  induction h with
  | done => simp
  | leaf bare rest ih => simp [leaves_of_bare bare, ih]
  | expand some inside ih => simp [leaves_of_nested some, ih, leavesOfAll_append]

mutual

/-- A file in front of files that unfold is unfolded to its own leaves. -/
theorem unfolds_cons :
    ∀ (file : File) {files leaves : List File}, Unfolds files leaves →
      Unfolds (file :: files) (file.leaves ++ leaves)
  | .image source, _, _, h => by simpa using Unfolds.leaf rfl h
  | .video source, _, _, h => by simpa using Unfolds.leaf rfl h
  | .inlineText key content, _, _, h => by simpa using Unfolds.leaf rfl h
  | .container source errors [], _, _, h => by simpa using Unfolds.leaf rfl h
  | .container source errors (first :: others), _, _, h => by
      rw [File.leaves, List.append_assoc]
      exact .expand (List.cons_ne_nil _ _) (unfolds_cons first (unfolds_append others h))

/-- Several files in front of others are unfolded one after the other. -/
theorem unfolds_append :
    ∀ (more : List File) {files leaves : List File}, Unfolds files leaves →
      Unfolds (more ++ files) (File.leavesOfAll more ++ leaves)
  | [], _, _, h => by simpa using h
  | first :: others, _, _, h => by simpa using unfolds_cons first (unfolds_append others h)

end

/-- Files unfold in one way. -/
theorem unfolds_iff : Unfolds files leaves ↔ leaves = File.leavesOfAll files := by
  constructor
  · exact eq_leavesOfAll_of_unfolds
  · rintro rfl
    have h := unfolds_append files .done
    rwa [List.append_nil, List.append_nil] at h

theorem nested_of_mem_unfolds (h : Unfolds files leaves) (hfile : file ∈ leaves) :
    file.nested = [] := by
  induction h with
  | done => exact absurd hfile List.not_mem_nil
  | leaf bare rest ih =>
      rcases List.mem_cons.mp hfile with rfl | hrest
      · exact bare
      · exact ih hrest
  | expand some inside ih => exact ih hfile

/-- Only where there is no file there is no leaf. -/
theorem eq_nil_iff_of_unfolds (h : Unfolds files leaves) : leaves = [] ↔ files = [] := by
  induction h with
  | done => exact Iff.rfl
  | leaf bare rest ih => simp
  | expand some inside ih => simp [ih, some]

/-! ### Filling one list -/

mutual

/-- The list into which a walk through a file puts each leaf when it comes to it. -/
@[simp]
def File.putLeaves : File → Keyed String File → Keyed String File
  | container _ _ (first :: others), list => putLeavesOfAll others (putLeaves first list)
  | container source errors [], list => list.put source.key (container source errors [])
  | image source, list => list.put source.key (image source)
  | video source, list => list.put source.key (video source)
  | inlineText key content, list => list.put key (inlineText key content)

/-- The same for a walk through several files, one after the other. -/
@[simp]
def File.putLeavesOfAll : List File → Keyed String File → Keyed String File
  | [], list => list
  | file :: files, list => putLeavesOfAll files (putLeaves file list)

end

mutual

/-- A walk through a file puts its leaves into the list and nothing else, whatever is there. -/
theorem putLeaves_eq :
    ∀ (file : File) (list : Keyed String File),
      file.putLeaves list = Keyed.putAll File.key file.leaves list
  | .image source, list => by simp [Keyed.putAll, File.key]
  | .video source, list => by simp [Keyed.putAll, File.key]
  | .inlineText key content, list => by simp [Keyed.putAll, File.key]
  | .container source errors [], list => by simp [Keyed.putAll, File.key]
  | .container source errors (first :: others), list => by
      simp [Keyed.putAll, putLeavesOfAll_eq others, putLeaves_eq first]

theorem putLeavesOfAll_eq :
    ∀ (files : List File) (list : Keyed String File),
      File.putLeavesOfAll files list = Keyed.putAll File.key (File.leavesOfAll files) list
  | [], list => by simp [Keyed.putAll]
  | first :: others, list => by
      simp [Keyed.putAll, putLeavesOfAll_eq others, putLeaves_eq first]

end

/-! ### Flat files -/

/-- A leaf has its key for the last time. -/
def LastOfKey (leaves : List File) (file : File) : Prop :=
  ∃ before behind, leaves = before ++ file :: behind ∧ file.key ∉ behind.map File.key

theorem mem_flatFiles_iff {item : Item} (h : Unfolds item.files leaves) {key : String} :
    (key, file) ∈ item.flatFiles ↔ file.key = key ∧ LastOfKey leaves file := by
  rw [unfolds_iff.mp h]
  exact Keyed.mem_ofValues_iff

theorem mem_values_flatFiles_iff {item : Item} (h : Unfolds item.files leaves) :
    file ∈ item.flatFiles.values ↔ LastOfKey leaves file := by
  rw [Keyed.values, List.mem_map]
  constructor
  · rintro ⟨⟨key, file⟩, hentry, rfl⟩
    exact ((mem_flatFiles_iff h).mp hentry).2
  · intro hlast
    exact ⟨(file.key, file), (mem_flatFiles_iff h).mpr ⟨rfl, hlast⟩, rfl⟩

theorem LastOfKey.mem (h : LastOfKey leaves file) : file ∈ leaves := by
  obtain ⟨before, behind, rfl, -⟩ := h
  exact List.mem_append_right _ List.mem_cons_self

theorem flatFiles_eq_nil_iff {item : Item} : item.flatFiles = [] ↔ item.files = [] := by
  have hkeys : item.flatFiles.map Prod.fst
      = ((File.leavesOfAll item.files).map File.key).eraseDups := Keyed.keys_ofValues
  have hnone : item.flatFiles.map Prod.fst = [] ↔
      (File.leavesOfAll item.files).map File.key = [] := by
    rw [hkeys, List.eq_nil_iff_forall_not_mem, List.eq_nil_iff_forall_not_mem]
    simp only [List.mem_eraseDups]
  rw [List.map_eq_nil_iff, List.map_eq_nil_iff] at hnone
  rw [hnone, eq_nil_iff_of_unfolds (unfolds_iff.mpr rfl)]

/-- A test for a kind looks at the last leaf of each key. -/
theorem exists_holds_kind {item : Item} (h : Unfolds item.files leaves) (clock : Clock)
    (kind : MediaKind) :
    ∃ b, (Expr.kind kind).holds clock item = .ok b ∧
      (b = true ↔ ∃ file, LastOfKey leaves file ∧ file.kind? = some kind) := by
  refine ⟨_, Query.kind_holds, ?_⟩
  rw [List.any_eq_true]
  simp only [mem_values_flatFiles_iff h, beq_iff_eq]

/--
**An item's flat files are the last leaf of each key, in the place of the first.**  They are what a
walk through the files, down into every container, puts into one list.  The files unfold to their
leaves in one way, and the flat files have each key of a leaf once, in the order in which the keys
first come, with the last leaf that has it.  So there is no container with nested
files among them, no leaf is lost if each has a key of its own, and there is none only if the item
has no files.  An item has a file of a kind if that is the kind of a leaf with its key for the last
time; containers that are empty have no kind.
-/
theorem flatFiles_keep_last_leaves (item : Item) :
    item.flatFiles = File.putLeavesOfAll item.files [] ∧
      ∃ leaves, (∀ other, Unfolds item.files other ↔ other = leaves) ∧
      item.flatFiles.map Prod.fst = (leaves.map File.key).eraseDups ∧
      (∀ key file, (key, file) ∈ item.flatFiles ↔ file.key = key ∧ LastOfKey leaves file) ∧
      (∀ file ∈ item.flatFiles.values, file.nested = []) ∧
      ((leaves.map File.key).Nodup → item.flatFiles.values = leaves) ∧
      (item.flatFiles ≠ [] ↔ item.files ≠ []) ∧
      (∀ (clock : Clock) (kind : MediaKind), ∃ b, (Expr.kind kind).holds clock item = .ok b ∧
        (b = true ↔ ∃ file, LastOfKey leaves file ∧ file.kind? = some kind)) ∧
      ((∀ file ∈ leaves, ∃ source errors, file = .container source errors []) →
        ∀ (clock : Clock) (kind : MediaKind), (Expr.kind kind).holds clock item = .ok false) := by
  have hunfolds : Unfolds item.files (File.leavesOfAll item.files) := unfolds_iff.mpr rfl
  refine ⟨(putLeavesOfAll_eq item.files []).symm, _, fun other => unfolds_iff, Keyed.keys_ofValues,
    fun key file => mem_flatFiles_iff hunfolds, ?_, Keyed.values_ofValues_of_nodup,
    not_congr flatFiles_eq_nil_iff, exists_holds_kind hunfolds, ?_⟩
  · intro file hfile
    exact nested_of_mem_unfolds hunfolds ((mem_values_flatFiles_iff hunfolds).mp hfile).mem
  · intro hempty clock kind
    obtain ⟨b, hholds, hkind⟩ := exists_holds_kind hunfolds clock kind
    cases b with
    | false => exact hholds
    | true =>
        obtain ⟨file, hlast, hsome⟩ := hkind.mp rfl
        obtain ⟨source, errors, rfl⟩ := hempty file hlast.mem
        exact nomatch hsome

/-- A file that has been downloaded, with a name made of its key. -/
def downloaded (key : String) : Download :=
  ⟨key, key ++ ".bin", "https://example.com/" ++ key, true⟩

/-- A picture of the lake in an archive, a film of the hill in an archive in it, and then a text
with the key of the picture. -/
def album : Item :=
  { (default : Item) with
    files := [
      .container (downloaded "archive") false [
        .image (downloaded "lake"),
        .container (downloaded "inner") false [.video (downloaded "hill")]],
      .inlineText "lake" "The lake is dry."] }

/-- An archive in which nothing was found. -/
def emptyArchive : File :=
  .container (downloaded "archive") true []

/-- In the album the text has replaced the picture, in its place.  The empty archive is kept as it
is, and matches no kind. -/
theorem flatFiles_keep_last_leaves_of_album :
    (album.flatFiles.map Prod.fst = ["lake", "hill"] ∧
      ("lake", .inlineText "lake" "The lake is dry.") ∈ album.flatFiles) ∧
    (([emptyArchive].map File.key).Nodup ∧
      { album with files := [emptyArchive] }.flatFiles.values = [emptyArchive]) ∧
    (Expr.kind .image).holds ⟨.instant 0, .utc⟩ { album with files := [emptyArchive] }
      = .ok false := by
  obtain ⟨-, leaves, hunfolds, hkeys, hentries, -⟩ := flatFiles_keep_last_leaves album
  obtain ⟨-, archives, hunfoldsTo, -, -, -, hdistinct, -, -, hempty⟩ :=
    flatFiles_keep_last_leaves { album with files := [emptyArchive] }
  have hleaves : Unfolds album.files [.image (downloaded "lake"), .video (downloaded "hill"),
      .inlineText "lake" "The lake is dry."] :=
    .expand (List.cons_ne_nil _ _) <| .leaf rfl <| .expand (List.cons_ne_nil _ _) <|
      .leaf rfl <| .leaf rfl .done
  obtain rfl := (hunfolds _).mp hleaves
  obtain rfl := (hunfoldsTo [emptyArchive]).mp (.leaf rfl .done)
  refine ⟨⟨hkeys.trans (by decide +kernel), (hentries _ _).mpr ⟨rfl, [_, _], [], rfl, ?_⟩⟩,
    ⟨List.nodup_singleton _, hdistinct (List.nodup_singleton _)⟩, hempty ?_ _ _⟩
  · exact List.not_mem_nil
  · exact List.forall_mem_singleton.mpr ⟨_, _, rfl⟩

end MediaSearch
