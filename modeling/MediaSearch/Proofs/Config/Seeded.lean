/-
A configuration file that has been filled says what has been put into it.

Filling goes through the file line by line, first for the time zone and then for the work
directories.  The second pass meets what the first has put in, but that is one line, whatever
the time zone is, and never the line of the work directories (`fill_starter`).  So the filled
file is the starting file with two of its lines replaced, and both say what they were made for
(`says_filledLines`).
-/
import MediaSearch.Config.Template
import MediaSearch.Proofs.Config.Loading
import MediaSearch.Proofs.Files.Place
import MediaSearch.Proofs.Toml.Lines

namespace MediaSearch.Config

open Calendar (ZoneSource)
open Files (Path)
open Toml (Legal Says Statement Value)

/-! ### Line by line -/

theorem join_lines (lines : List String) :
    String.join (lines.map (· ++ "\n"))
      = String.ofList (Text.joined '\n' (lines.map String.toList ++ [[]])) := by
  refine String.toList_injective ?_
  rw [String.toList_ofList]
  induction lines with
  | nil => rfl
  | cons line lines ih =>
      have hmore : lines.map String.toList ++ [[]] ≠ [] :=
        List.append_ne_nil_of_right_ne_nil _ (List.cons_ne_nil _ _)
      rw [List.map_cons, List.map_cons, List.cons_append, Text.joined_cons hmore, ← ih]
      simp [String.toList_join]

/-- Each of some lines, or other text in its place. -/
def replaced (isOne : List Char → Bool) (text : List Char) (lines : List (List Char)) :
    List (List Char) :=
  lines.map fun line => if isOne line then text else line

theorem replaceLines_joined {lines : List (List Char)} (isOne : List Char → Bool) (text : String)
    (hclean : ∀ line ∈ lines, '\n' ∉ line) :
    replaceLines isOne text (String.ofList (Text.joined '\n' (lines ++ [[]])))
      = String.ofList (Text.joined '\n' (replaced isOne text.toList (lines ++ [[]]))) := by
  have hmore : lines ++ [[]] ≠ [] :=
    List.append_ne_nil_of_right_ne_nil _ (List.cons_ne_nil _ _)
  have hall : ∀ line ∈ lines ++ [[]], '\n' ∉ line := by
    intro line hline
    rcases List.mem_append.mp hline with hline | hlast
    · exact hclean line hline
    · rw [List.mem_singleton.mp hlast]
      exact List.not_mem_nil
  rw [replaceLines, String.toList_ofList, Text.pieces_joined hmore hall]
  rfl

/-! ### The two lines -/

theorem toList_textLine (key value : String) :
    (Toml.textLine key value).toList
      = key.toList ++ " = ".toList ++ (Toml.quoted value).toList := by
  simp [Toml.textLine]

theorem toList_textsLines (key : String) (values : List String) :
    (Toml.textsLines key values).toList
      = key.toList ++ " = ".toList ++ ('[' :: '\n' :: Toml.itemLines values ++ [']']) := by
  simp [Toml.textsLines, Toml.itemLines, String.toList_join, List.flatMap_map]

/-- The line of a time zone. -/
def zoneLine (timezone : String) : List Char :=
  (Toml.textLine "timezone" timezone).toList

/-- The lines of work directories; one line where there are none. -/
def dirsLines (workDirs : List String) : List Char :=
  if workDirs.isEmpty then noWorkDirs else (Toml.textsLines "work_dirs" workDirs).toList

theorem dirsLines_cons (dir : String) (dirs : List String) :
    dirsLines (dir :: dirs) = "work_dirs".toList ++ " = ".toList
      ++ ('[' :: '\n' :: Toml.itemLines (dir :: dirs) ++ [']']) :=
  toList_textsLines "work_dirs" (dir :: dirs)

/-! ### No line has an illegal character -/

theorem legal_starterLines : ∀ line ∈ starterLines.map String.toList, Legal line := by
  decide +kernel

/-- No time zone brings in a second line. -/
theorem legal_zoneLine (timezone : String) : Legal (zoneLine timezone) := by
  intro c hc
  rw [zoneLine, toList_textLine] at hc
  rcases List.mem_append.mp hc with hc | hc
  · have hstart : Legal ("timezone".toList ++ " = ".toList) := by decide
    exact hstart c hc
  · exact Toml.legal_quoted timezone c hc

theorem return_not_mem_dirsLines (workDirs : List String) : '\r' ∉ dirsLines workDirs := by
  intro h
  cases workDirs with
  | nil => exact absurd h (by decide)
  | cons dir dirs =>
      rw [dirsLines_cons] at h
      rcases List.mem_append.mp h with h | h
      · exact absurd h (by decide)
      · have hitems : '\r' ∈ Toml.itemLines (dir :: dirs) := by simpa using h
        exact Toml.return_not_mem_itemLines (dir :: dirs) hitems

/-! ### What the two lines say -/

theorem says_zoneLine (timezone : String) :
    Says (zoneLine timezone) [.assign ["timezone"] (.string timezone)] := by
  rw [zoneLine, toList_textLine]
  refine Toml.says_assign (by decide) ?_ ?_
  · intro rest
    rw [Toml.toList_quoted]
    exact Toml.skipBlanks_cons (by decide)
  · intro rest
    exact Toml.readValue_quoted timezone nofun

theorem says_dirsLines (workDirs : List String) :
    Says (dirsLines workDirs) [.assign ["work_dirs"] (.array (workDirs.map .string))] := by
  cases workDirs with
  | nil =>
      have hline : dirsLines [] = "work_dirs".toList ++ " = ".toList ++ "[]".toList := by decide
      rw [hline]
      refine Toml.says_assign (by decide) (fun _ => rfl) ?_
      intro rest
      refine Toml.readValue_items (Toml.readItems_nil rfl ?_)
      exact Nat.lt_succ_self _
  | cons dir dirs =>
      rw [dirsLines_cons]
      refine Toml.says_assign (by decide) (fun _ => rfl) ?_
      intro rest
      rw [List.append_assoc]
      exact Toml.readValue_itemLines (dir :: dirs)

/-! ### The lines of the filled file -/

/-- What stands in the place of a line of the starting file. -/
def fillLine (zone dirs line : List Char) : List Char :=
  if timezoneStart.isPrefixOf line then zone else if line == noWorkDirs then dirs else line

/-- The lines of the starting file, two of them replaced. -/
def filledLines (zone dirs : List Char) : List (List Char) :=
  starterLines.map fun line => fillLine zone dirs line.toList

theorem replaced_last {isOne : List Char → Bool} {text : List Char} {lines : List (List Char)}
    (h : isOne [] = false) :
    replaced isOne text (lines ++ [[]]) = replaced isOne text lines ++ [[]] := by
  simp [replaced, h]

theorem replaced_same {isOne : List Char → Bool} {text : List Char} {lines : List (List Char)}
    (h : ∀ line ∈ lines, isOne line = true → line = text) : replaced isOne text lines = lines := by
  unfold replaced
  refine (List.map_congr_left fun line hline => ?_).trans (List.map_id lines)
  by_cases hone : isOne line = true
  · rw [if_pos hone]
    exact (h line hline hone).symm
  · exact if_neg hone

theorem zoneLine_ne_noWorkDirs (timezone : String) : zoneLine timezone ≠ noWorkDirs := by
  intro h
  have hzone : (zoneLine timezone).head? = some 't' := by
    rw [zoneLine, toList_textLine]
    rfl
  rw [h] at hzone
  exact absurd hzone (by decide)

theorem filledTimezone_starter (timezone? : Option String) :
    fillTimezone timezone? starter = String.ofList (Text.joined '\n'
      (replaced (timezoneStart.isPrefixOf ·) (zoneLine (timezone?.getD Calendar.Zone.defaultName))
        (starterLines.map String.toList) ++ [[]])) := by
  unfold fillTimezone starter
  rw [join_lines]
  cases timezone? with
  | none =>
      -- The line that is there is the one of the default zone.
      rw [replaced_same]
      decide +kernel
  | some timezone =>
      show replaceLines _ _ _ = _
      rw [replaceLines_joined, replaced_last]
      · rfl
      · rfl
      · exact fun line hline => (legal_starterLines line hline).not_mem rfl

theorem filledWorkDirs_joined {lines : List (List Char)} (workDirs : List String)
    (hclean : ∀ line ∈ lines, '\n' ∉ line) :
    fillWorkDirs workDirs (String.ofList (Text.joined '\n' (lines ++ [[]])))
      = String.ofList (Text.joined '\n'
          (replaced (· == noWorkDirs) (dirsLines workDirs) lines ++ [[]])) := by
  unfold fillWorkDirs
  cases workDirs with
  | nil =>
      rw [replaced_same]
      · rfl
      · exact fun line _ hsame => eq_of_beq hsame
  | cons dir dirs =>
      show replaceLines _ _ _ = _
      rw [replaceLines_joined _ _ hclean, replaced_last]
      · rfl
      · rfl

/-- The second pass leaves what the first has put in as it is. -/
theorem replaced_replaced {zone : List Char} (hzone : zone ≠ noWorkDirs) (dirs : List Char)
    (lines : List (List Char)) :
    replaced (· == noWorkDirs) dirs (replaced (timezoneStart.isPrefixOf ·) zone lines)
      = lines.map (fillLine zone dirs) := by
  unfold replaced
  rw [List.map_map]
  refine List.map_congr_left fun line _ => ?_
  show (if (if _ then zone else line) == noWorkDirs then dirs else if _ then zone else line) = _
  unfold fillLine
  by_cases hstart : timezoneStart.isPrefixOf line = true
  · simp only [if_pos hstart]
    exact if_neg (by simpa using hzone)
  · simp only [if_neg hstart]

theorem fill_starter (timezone? : Option String) (workDirs : List String) :
    fill starter timezone? workDirs = String.ofList (Text.joined '\n'
      (filledLines (zoneLine (timezone?.getD Calendar.Zone.defaultName)) (dirsLines workDirs)
        ++ [[]])) := by
  rw [fill, filledTimezone_starter, filledWorkDirs_joined,
    replaced_replaced (zoneLine_ne_noWorkDirs _), List.map_map]
  · rfl
  · intro line hline
    obtain ⟨old, hold, rfl⟩ := List.mem_map.mp hline
    dsimp only
    split
    · exact (legal_zoneLine _).not_mem rfl
    · exact (legal_starterLines old hold).not_mem rfl

/-! ### What the filled file says -/

/-- A line that sets an option to a value without quotes or brackets. -/
theorem says_scalar {name text : List Char} {c : Char} {value : Value} (hname : Toml.IsBare name)
    (hc : c ≠ '[' ∧ c ≠ '\x7b' ∧ c ≠ '"' ∧ c ≠ '\'' ∧ c ≠ ' ' ∧ c ≠ '\t')
    (hscalar : ∀ rest,
      Toml.readScalar (c :: (text ++ '\n' :: rest)) = .ok (value, '\n' :: rest)) :
    Says (name ++ " = ".toList ++ c :: text) [.assign [String.ofList name] value] := by
  obtain ⟨harray, htable, hbasic, hliteral, hblank⟩ := hc
  refine Toml.says_assign hname (fun _ => Toml.skipBlanks_cons hblank) ?_
  intro rest
  refine Toml.readValue_scalar ⟨harray, htable, hbasic, hliteral⟩ (hscalar rest) ?_
  exact (List.suffix_append _ _).length_le

theorem says_perPage : Says "per_page = 15".toList [.assign ["per_page"] (.int 15)] := by
  have hline : "per_page = 15".toList = "per_page".toList ++ " = ".toList ++ '1' :: ['5'] := by
    decide
  rw [hline]
  refine says_scalar (by decide) (by decide) ?_
  intro rest
  cases rest <;> rfl

theorem says_coloredOutput :
    Says "colored_output = true".toList [.assign ["colored_output"] (.bool true)] := by
  have hline : "colored_output = true".toList
      = "colored_output".toList ++ " = ".toList ++ 't' :: ['r', 'u', 'e'] := by
    decide
  rw [hline]
  exact says_scalar (by decide) (by decide) fun _ => rfl

theorem says_filledLines {zone dirs : List Char} {timezone workDirs : Statement}
    (hzone : Says zone [timezone]) (hdirs : Says dirs [workDirs]) :
    List.Forall₂ Says (filledLines zone dirs)
      [[], [], [], [], [.table ["search"]], [], [], [timezone], [], [],
        [.assign ["per_page"] (.int 15)], [], [.table ["paths"]], [], [], [workDirs],
        [], [.table ["display"]], [], [.assign ["colored_output"] (.bool true)]] := by
  have hsilent : ∀ {line : List Char}, Toml.isSilent line = true → Says line [] :=
    Toml.says_silent
  have hsearch : Says "[search]".toList [.table ["search"]] :=
    Toml.says_table (show Toml.IsBare "search".toList by decide)
  have hpaths : Says "[paths]".toList [.table ["paths"]] :=
    Toml.says_table (show Toml.IsBare "paths".toList by decide)
  have hdisplay : Says "[display]".toList [.table ["display"]] :=
    Toml.says_table (show Toml.IsBare "display".toList by decide)
  -- One entry for each line, in order.
  refine .cons (hsilent rfl) <| .cons (hsilent rfl) <| .cons (hsilent rfl) <| .cons (hsilent rfl) <|
    .cons hsearch <| .cons (hsilent rfl) <| .cons (hsilent rfl) <| .cons hzone <|
    .cons (hsilent rfl) <| .cons (hsilent rfl) <| .cons says_perPage <| .cons (hsilent rfl) <|
    .cons hpaths <| .cons (hsilent rfl) <| .cons (hsilent rfl) <| .cons hdirs <|
    .cons (hsilent rfl) <| .cons hdisplay <| .cons (hsilent rfl) <| .cons says_coloredOutput .nil

/-- The table that the starting file is. -/
def starterTable : Toml.Table := [
  ("search", .table [("timezone", .string "America/New_York"), ("per_page", .int 15)]),
  ("paths", .table [("work_dirs", .array [])]),
  ("display", .table [("colored_output", .bool true)])]

/-- A table with another value for an option that it has. -/
def withOption (heading option : String) (value : Value) (data : Toml.Table) : Toml.Table :=
  match data.lookup heading with
  | some (.table members) => Keyed.put heading (.table (Keyed.put option value members)) data
  | _ => data

/-- A table with a time zone and work directories in it; what is not given stays as it is. -/
def seeded (timezone? : Option String) (workDirs : List String) (data : Toml.Table) : Toml.Table :=
  let data :=
    match timezone? with
    | some timezone => withOption "search" "timezone" (.string timezone) data
    | none => data
  if workDirs.isEmpty then data
  else withOption "paths" "work_dirs" (.array (workDirs.map .string)) data

theorem seeded_starterTable (timezone? : Option String) (workDirs : List String) :
    seeded timezone? workDirs starterTable = [
      ("search", .table [("timezone", .string (timezone?.getD Calendar.Zone.defaultName)),
        ("per_page", .int 15)]),
      ("paths", .table [("work_dirs", .array (workDirs.map .string))]),
      ("display", .table [("colored_output", .bool true)])] := by
  cases timezone? with
  | none => cases workDirs <;> rfl
  | some timezone => cases workDirs <;> rfl

theorem return_not_mem_filledLines {timezone : String} {workDirs : List String} :
    ∀ line ∈ filledLines (zoneLine timezone) (dirsLines workDirs), '\r' ∉ line := by
  intro line hline
  obtain ⟨old, hold, rfl⟩ := List.mem_map.mp hline
  unfold fillLine
  split
  · exact (legal_zoneLine timezone).not_mem rfl
  · split
    · exact return_not_mem_dirsLines workDirs
    · exact (legal_starterLines _ (List.mem_map_of_mem hold)).not_mem rfl

/-- **A file that has been filled is read as the table it was filled with.** -/
theorem read_fill (timezone? : Option String) (workDirs : List String) :
    Toml.read (fill starter timezone? workDirs)
      = .ok (seeded timezone? workDirs starterTable) := by
  rw [fill_starter, Toml.read_of_lines (says_filledLines (says_zoneLine _) (says_dirsLines _)),
    seeded_starterTable]
  · rfl
  · exact return_not_mem_filledLines

/-! ### The configuration that it gives -/

/-- The configuration with a time zone and work directories in it, read from a file. -/
def seededConfig (timezone? : Option String) (workDirs : List Path) (path : Path) : Config :=
  { default with
    timezone := timezone?.getD default.timezone
    workDirs := workDirs
    source? := some path }

theorem asPaths?_strings (texts : List String) :
    asPaths? (.array (texts.map .string)) = some (texts.map Path.ofString) := by
  show (texts.map Value.string).mapM (fun item => (asText? item).map Path.ofString) = _
  induction texts with
  | nil => rfl
  | cons text texts ih =>
      rw [List.map_cons, List.mapM_cons, ih]
      rfl

theorem ofTable_seeded (timezone? : Option String) (workDirs : List String) (path : Path) :
    ofTable (seeded timezone? workDirs starterTable) (some path)
      = .ok (seededConfig timezone? (workDirs.map Path.ofString) path) := by
  have hoption : option? (seeded timezone? workDirs starterTable) "paths" "work_dirs"
      = .ok (some (.array (workDirs.map .string))) := by
    rw [seeded_starterTable]
    rfl
  rw [ofTable, setting_of_read hoption (asPaths?_strings workDirs), seeded_starterTable]
  rfl

theorem ofContent_fill (timezone? : Option String) (workDirs : List String) (path : Path) :
    ofContent path (fill starter timezone? workDirs).toUTF8
      = .ok (seededConfig timezone? (workDirs.map Path.ofString) path) := by
  have htext : String.fromUTF8? (fill starter timezone? workDirs).toUTF8
      = some (fill starter timezone? workDirs) :=
    dif_pos (fill starter timezone? workDirs).isValidUTF8
  rw [ofContent_eq htext (read_fill timezone? workDirs), ofTable_seeded]

/-- A name is that of a time zone. -/
def ZoneKnown (zones : ZoneSource) (name : String) : Prop :=
  ∃ zone, zones.named name = .found zone

/-- **A file that has been filled loads as what it was filled with**, when its time zone is known
and its work directories are places. -/
theorem validated_fill {zones : ZoneSource} {home cwd path : Path} {timezone? : Option String}
    {workDirs : List Path} (hzone : ZoneKnown zones (timezone?.getD Calendar.Zone.defaultName))
    (hdirs : ∀ dir ∈ workDirs, dir.IsPlace) :
    (ofContent path (fill starter timezone? (workDirs.map Path.text)).toUTF8
        >>= validated zones home cwd)
      = .ok (seededConfig timezone? workDirs path) := by
  have hread : (workDirs.map Path.text).map Path.ofString = workDirs := by
    rw [List.map_map]
    refine (List.map_congr_left fun dir hdir => ?_).trans (List.map_id workDirs)
    exact Path.ofString_text (hdirs dir hdir)
  have husable : (seededConfig timezone? workDirs path).Usable zones :=
    ⟨hzone, (by decide : 1 ≤ default.perPage)⟩
  rw [ofContent_fill, hread, ok_bind, validated_of_usable husable]
  show (workDirs.mapM (place home cwd)).map _ = _
  rw [mapM_place_of_isPlace hdirs]
  rfl

end MediaSearch.Config
