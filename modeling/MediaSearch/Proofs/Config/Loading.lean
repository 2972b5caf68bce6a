/-
What loading a configuration file comes to.

A file gives a configuration, is refused with a complaint that can be told, or is met with an
error that nobody has foreseen (`ConfigError.message?`).  The last is what this module is
about.  It happens where the reader takes for granted what it has not checked: that the file
is text, that its whole numbers are no longer than numbers that are read, that a section is a
table, that looking a time zone up has an answer, and that a work directory is a place (`Escapes`).

Options are read one after another, and the first that is refused ends the reading, so an
option is only looked up in vain when all before it are fine (`Astray`).  Validation comes
last: its own complaints go before any work directory is looked at.  Where the time zones come
from is left open throughout.
-/
import MediaSearch.Calendar.ZoneNames
import MediaSearch.Config.Load
import MediaSearch.Files.Tree
import MediaSearch.Proofs.Except
import MediaSearch.Proofs.Text.Search
import MediaSearch.Proofs.Toml.Lines

namespace MediaSearch.Config

open Calendar (ZoneSource)
open Files (Access Path Tree)

variable {α β : Type}

/-! ### Errors that are not foreseen -/

/-- A step ends with an error that is not foreseen. -/
def Fails : Except ConfigError α → Prop
  | .error e => e.message? = none
  | .ok _ => False

theorem fails_bind_iff {x : Except ConfigError α} {f : α → Except ConfigError β} :
    Fails (x >>= f) ↔ Fails x ∨ ∃ a, x = .ok a ∧ Fails (f a) := by
  cases x with
  | error e =>
      constructor
      · exact Or.inl
      · rintro (h | ⟨a, ha, -⟩)
        · exact h
        · exact nomatch ha
  | ok a =>
      constructor
      · exact fun h => Or.inr ⟨a, rfl, h⟩
      · rintro (h | ⟨a', ha, h⟩)
        · exact h.elim
        · obtain rfl := Except.ok.inj ha
          exact h

/-- It need not depend on the first of two steps whether the second fails. -/
theorem fails_bind_iff_of_const {x : Except ConfigError α} {f : α → Except ConfigError β}
    {P : Prop} (hf : ∀ a, Fails (f a) ↔ P) :
    Fails (x >>= f) ↔ Fails x ∨ (∃ a, x = .ok a) ∧ P := by
  rw [fails_bind_iff]
  simp only [hf, exists_and_right]

/-- What does not fail so is a result or a complaint about the syntax or about an option's value. -/
theorem answered_iff {x : Except ConfigError α} :
    ((∃ a, x = .ok a) ∨ (∃ place, x = .error (.malformed place)) ∨
      ∃ option reason, x = .error (.invalid option reason)) ↔ ¬ Fails x := by
  cases x with
  | ok a => simp [Fails]
  | error e => cases e <;> simp [Fails, ConfigError.message?]

theorem fails_map_iff {x : Except ConfigError α} {g : α → β} : Fails (x.map g) ↔ Fails x := by
  cases x with
  | error e => exact Iff.rfl
  | ok a => exact Iff.rfl

/-- Steps none of which has a complaint to tell fail together if one of them does. -/
theorem fails_mapM_iff {f : α → Except ConfigError β}
    (hf : ∀ {a e}, f a = .error e → e.message? = none) (items : List α) :
    Fails (items.mapM f) ↔ ∃ a ∈ items, Fails (f a) := by
  induction items with
  | nil =>
      refine ⟨fun h => h.elim, ?_⟩
      rintro ⟨a, ha, -⟩
      exact nomatch ha
  | cons a items ih =>
      cases ha : f a with
      | error e =>
          have hfails : Fails (f a) := ha ▸ hf ha
          rw [List.mapM_cons, ha]
          exact ⟨fun _ => ⟨a, List.mem_cons_self, hfails⟩, fun _ => hf ha⟩
      | ok b =>
          have hmapM : (a :: items).mapM f = (items.mapM f).map (b :: ·) := by
            rw [List.mapM_cons, ha]
            rfl
          have hfine : ¬ Fails (f a) := by
            rw [ha]
            exact not_false
          rw [hmapM, fails_map_iff, ih]
          constructor
          · rintro ⟨a', hmem, hfails⟩
            exact ⟨a', List.mem_cons_of_mem _ hmem, hfails⟩
          · rintro ⟨a', hmem, hfails⟩
            rcases List.mem_cons.mp hmem with rfl | hmem
            · exact absurd hfails hfine
            · exact ⟨a', hmem, hfails⟩

/-! ### Options in sections that are no tables -/

/-- Looking an option up in a value goes wrong because the value is no table; in a text or an array
it does so only if the option's name is in it. -/
inductive Misleads (option : String) : Toml.Value → Prop
  | text {text : String} (occurs : option.toList <:+: text.toList) : Misleads option (.string text)
  | array {items : List Toml.Value} (listed : Toml.Value.string option ∈ items) :
      Misleads option (.array items)
  | int (n : Int) : Misleads option (.int n)
  | float (x : Decimal.Binary64) : Misleads option (.float x)
  | bool (b : Bool) : Misleads option (.bool b)
  | time (written : String) : Misleads option (.time written)

theorem asText?_eq_some_iff {value : Toml.Value} {text : String} :
    asText? value = some text ↔ value = .string text := by
  cases value <;> simp [asText?]

theorem any_asText?_iff {items : List Toml.Value} {option : String} :
    (items.any fun item => asText? item == some option) = true ↔
      Toml.Value.string option ∈ items := by
  simp only [List.any_eq_true, beq_iff_eq, asText?_eq_some_iff, exists_eq_right]

/-- An option, and the values that it can have. -/
structure Setting where
  /-- The section that the option stands in. -/
  heading : String
  /-- Its name. -/
  option : String
  /-- Whether a value can be its. -/
  takes : Toml.Value → Bool

namespace Setting

/-- What the option is set to. -/
def value? (s : Setting) (data : Toml.Table) : Option Toml.Value :=
  match data.lookup s.heading with
  | some (.table members) => members.lookup s.option
  | _ => none

/-- The option is looked up in something that is no table. -/
def Stray (s : Setting) (data : Toml.Table) : Prop :=
  ∃ value, data.lookup s.heading = some value ∧ Misleads s.option value

/-- The option is not set, or to a value that it can have. -/
def Fine (s : Setting) (data : Toml.Table) : Prop :=
  ¬ s.Stray data ∧ ∀ value, s.value? data = some value → s.takes value = true

end Setting

variable {data : Toml.Table} {s : Setting}

theorem option?_of_stray (h : s.Stray data) :
    option? data s.heading s.option = .error .notATable := by
  obtain ⟨value, hvalue, hmisleads⟩ := h
  unfold option?
  rw [hvalue]
  cases hmisleads with
  | text occurs => exact if_pos (Text.occursIn_eq_true_iff.mpr occurs)
  | array listed => exact if_pos (any_asText?_iff.mpr listed)
  | int n => rfl
  | float x => rfl
  | bool b => rfl
  | time written => rfl

theorem option?_of_not_stray (h : ¬ s.Stray data) :
    option? data s.heading s.option = .ok (s.value? data) := by
  unfold option? Setting.value?
  cases hvalue : data.lookup s.heading with
  | none => rfl
  | some value =>
      have hstraight : ¬ Misleads s.option value := fun hmisleads => h ⟨value, hvalue, hmisleads⟩
      cases value with
      | table members => rfl
      | string text =>
          exact if_neg fun hoccurs => hstraight (.text (Text.occursIn_eq_true_iff.mp hoccurs))
      | array items => exact if_neg fun hany => hstraight (.array (any_asText?_iff.mp hany))
      | int n => exact absurd (.int n) hstraight
      | float x => exact absurd (.float x) hstraight
      | bool b => exact absurd (.bool b) hstraight
      | time written => exact absurd (.time written) hstraight

/-! ### The options in their order -/

section

variable {heading option reason : String} {missing : α} {read : Toml.Value → Option α}

/-- The option that a setting is read from. -/
def settingOf (heading option : String) (read : Toml.Value → Option α) : Setting :=
  ⟨heading, option, fun value => (read value).isSome⟩

theorem setting_of_read {value : Toml.Value} {a : α}
    (hoption : option? data heading option = .ok (some value)) (hread : read value = some a) :
    setting data heading option reason missing read = .ok a := by
  rw [setting, hoption, ok_bind]
  dsimp only
  rw [hread]
  rfl

/-- What a setting comes to when its section is in order. -/
theorem setting_of_not_stray (h : ¬ (settingOf heading option read).Stray data) :
    setting data heading option reason missing read =
      match (settingOf heading option read).value? data with
      | none => .ok missing
      | some value =>
        match read value with
        | some setting => .ok setting
        | none => .error (.invalid (heading ++ "." ++ option) reason) := by
  have hoption : option? data heading option = .ok _ := option?_of_not_stray h
  rw [setting, hoption]
  rfl

/-- A setting fails when its option is looked up in something that is no table. -/
theorem setting_fails_iff :
    Fails (setting data heading option reason missing read) ↔
      (settingOf heading option read).Stray data := by
  by_cases h : (settingOf heading option read).Stray data
  · have hoption : option? data heading option = .error .notATable := option?_of_stray h
    rw [setting, hoption]
    exact ⟨fun _ => h, fun _ => rfl⟩
  · rw [setting_of_not_stray h]
    refine ⟨fun hfails => ?_, fun hstray => absurd hstray h⟩
    split at hfails
    · exact hfails.elim
    · split at hfails
      · exact hfails.elim
      · exact nomatch hfails

/-- It has a value when its option is fine. -/
theorem exists_setting_iff :
    (∃ a, setting data heading option reason missing read = .ok a) ↔
      (settingOf heading option read).Fine data := by
  by_cases h : (settingOf heading option read).Stray data
  · have hoption : option? data heading option = .error .notATable := option?_of_stray h
    rw [setting, hoption]
    refine ⟨?_, fun hfine => absurd h hfine.1⟩
    rintro ⟨a, ha⟩
    exact nomatch ha
  · rw [setting_of_not_stray h]
    unfold Setting.Fine
    cases hvalue : (settingOf heading option read).value? data with
    | none => exact ⟨fun _ => ⟨h, fun _ hnone => nomatch hnone⟩, fun _ => ⟨missing, rfl⟩⟩
    | some value =>
        cases hread : read value with
        | some found =>
            refine ⟨fun _ => ⟨h, ?_⟩, fun _ => ⟨found, by simp only [hread]⟩⟩
            intro value' hsome
            obtain rfl := Option.some.inj hsome
            exact Option.isSome_iff_exists.mpr ⟨found, hread⟩
        | none =>
            refine ⟨?_, fun hfine => ?_⟩
            · rintro ⟨a, ha⟩
              simp only [hread] at ha
              exact nomatch ha
            · have htakes : (read value).isSome = true := hfine.2 value rfl
              rw [hread] at htakes
              exact nomatch htakes

end

/-- The options in the order in which they are read. -/
def settings : List Setting :=
  [settingOf "search" "timezone" asText?, settingOf "search" "per_page" asInt?,
   settingOf "paths" "work_dirs" asPaths?, settingOf "display" "colored_output" asBool?]

/-- The first of some options that is not fine is looked up in something that is no table. -/
inductive Astray (data : Toml.Table) : List Setting → Prop
  /-- It is the first of them. -/
  | here {s : Setting} {later : List Setting} (stray : s.Stray data) : Astray data (s :: later)
  /-- It is a later one. -/
  | later {s : Setting} {later : List Setting} (fine : s.Fine data) (next : Astray data later) :
      Astray data (s :: later)

theorem astray_cons_iff {later : List Setting} :
    Astray data (s :: later) ↔ s.Stray data ∨ s.Fine data ∧ Astray data later := by
  constructor
  · intro h
    cases h with
    | here stray => exact Or.inl stray
    | later fine next => exact Or.inr ⟨fine, next⟩
  · rintro (stray | ⟨fine, next⟩)
    · exact .here stray
    · exact .later fine next

/-- A table fails to give a configuration when its options lead astray. -/
theorem ofTable_fails_iff {source? : Option Path} :
    Fails (ofTable data source?) ↔ Astray data settings := by
  have hnil : ¬ Astray data [] := fun h => nomatch h
  unfold ofTable settings
  rw [astray_cons_iff, ← setting_fails_iff, ← exists_setting_iff]
  refine fails_bind_iff_of_const fun timezone => ?_
  rw [astray_cons_iff, ← setting_fails_iff, ← exists_setting_iff]
  refine fails_bind_iff_of_const fun perPage => ?_
  rw [astray_cons_iff, ← setting_fails_iff, ← exists_setting_iff]
  refine fails_bind_iff_of_const fun workDirs => ?_
  rw [astray_cons_iff, ← setting_fails_iff, ← exists_setting_iff]
  exact fails_bind_iff_of_const fun coloredOutput => ⟨False.elim, hnil⟩

/-! ### Validation -/

/-- A configuration with its work directories in their places, if it makes sense. -/
def validated (zones : ZoneSource) (home cwd : Path) (config : Config) :
    Except ConfigError Config := do
  let _ ← config.zoneIn zones
  if config.perPage < 1 then .error (.invalid "search.per_page" "must be at least 1")
  else
    (config.workDirs.mapM (place home cwd)).map fun workDirs => { config with workDirs := workDirs }

/-- The zone is known, and the size of a page can be used. -/
def Usable (zones : ZoneSource) (config : Config) : Prop :=
  (∃ zone, zones.named config.timezone = .found zone) ∧ 1 ≤ config.perPage

/-- A path stands for no place: somebody else's home directory is asked for, or there is a character
in it that no path can have. -/
def NoPlace (home p : Path) : Prop :=
  p.expandHome? home = none ∨ ∃ q, p.expandHome? home = some q ∧ q.isImpossible = true

theorem message?_of_place {home cwd p : Path} {e : ConfigError}
    (h : place home cwd p = .error e) : e.message? = none := by
  unfold place at h
  split at h
  · obtain rfl := Except.error.inj h
    rfl
  · split at h
    · obtain rfl := Except.error.inj h
      rfl
    · exact nomatch h

theorem place_fails_iff {home cwd p : Path} : Fails (place home cwd p) ↔ NoPlace home p := by
  unfold place NoPlace
  cases hexpand : p.expandHome? home with
  | none => exact ⟨fun _ => Or.inl rfl, fun _ => rfl⟩
  | some q =>
      by_cases hq : q.isImpossible = true
      · simp only [if_pos hq]
        exact ⟨fun _ => Or.inr ⟨q, rfl, hq⟩, fun _ => rfl⟩
      · simp only [if_neg hq]
        refine ⟨fun h => h.elim, ?_⟩
        rintro (hnone | ⟨q', hq', himpossible⟩)
        · exact nomatch hnone
        · obtain rfl := Option.some.inj hq'
          exact absurd himpossible hq

section

variable {zones : ZoneSource} {home cwd : Path} {config : Config}

/-- How a configuration is validated: its time zone may not be looked up, or be unknown, its pages
may be too small, and what is left is to find the places of its work directories. -/
inductive Validates (zones : ZoneSource) (home cwd : Path) (config : Config) : Prop
  /-- Looking the time zone up fails. -/
  | zoneFails (fails : zones.named config.timezone = .fails)
      (ends : validated zones home cwd config = .error .zoneFails)
  /-- There is a complaint. -/
  | refused (unusable : ¬ config.Usable zones)
      (answered : zones.named config.timezone ≠ .fails)
      (ends : ∃ option reason,
        validated zones home cwd config = .error (.invalid option reason))
  /-- The configuration can be used. -/
  | placed (usable : config.Usable zones)
      (ends : validated zones home cwd config = (config.workDirs.mapM (place home cwd)).map
        fun workDirs => { config with workDirs := workDirs })

theorem validates (zones : ZoneSource) (home cwd : Path) (config : Config) :
    Validates zones home cwd config := by
  cases hzone : zones.named config.timezone with
  | fails =>
      refine .zoneFails hzone ?_
      rw [validated, zoneIn, hzone]
      rfl
  | unknown =>
      have hunusable : ¬ config.Usable zones := by
        rintro ⟨⟨zone, hfound⟩, -⟩
        exact nomatch hzone.symm.trans hfound
      refine .refused hunusable (by simp [hzone]) ⟨"search.timezone", "unknown timezone", ?_⟩
      rw [validated, zoneIn, hzone]
      rfl
  | found zone =>
      have hknown : config.zoneIn zones = .ok zone := by
        rw [zoneIn, hzone]
      by_cases hpage : config.perPage < 1
      · have hunusable : ¬ config.Usable zones := fun husable => by
          have hle := husable.2
          omega
        refine .refused hunusable (by simp [hzone]) ⟨"search.per_page", "must be at least 1", ?_⟩
        rw [validated, hknown, ok_bind, if_pos hpage]
      · refine .placed ⟨⟨zone, hzone⟩, by omega⟩ ?_
        rw [validated, hknown, ok_bind, if_neg hpage]

theorem validated_of_usable (h : config.Usable zones) :
    validated zones home cwd config = (config.workDirs.mapM (place home cwd)).map
      fun workDirs => { config with workDirs := workDirs } := by
  cases validates zones home cwd config with
  | zoneFails fails =>
      obtain ⟨⟨zone, hfound⟩, -⟩ := h
      exact nomatch hfound.symm.trans fails
  | refused unusable => exact absurd h unusable
  | placed _ ends => exact ends

theorem validated_fails_iff :
    Fails (validated zones home cwd config) ↔
      zones.named config.timezone = .fails ∨
        config.Usable zones ∧ ∃ dir ∈ config.workDirs, NoPlace home dir := by
  cases validates zones home cwd config with
  | zoneFails fails ends =>
      rw [ends]
      exact ⟨fun _ => Or.inl fails, fun _ => rfl⟩
  | refused unusable answered ends =>
      obtain ⟨option, reason, hrefused⟩ := ends
      rw [hrefused]
      constructor
      · intro hfails
        exact nomatch hfails
      · rintro (hfails | ⟨husable, -⟩)
        · exact absurd hfails answered
        · exact absurd husable unusable
  | placed usable ends =>
      have hanswered : zones.named config.timezone ≠ .fails := by
        obtain ⟨⟨zone, hfound⟩, -⟩ := usable
        simp [hfound]
      rw [ends, fails_map_iff, fails_mapM_iff message?_of_place]
      simp only [place_fails_iff, usable, hanswered, true_and, false_or]

theorem usable_of_validated {config' : Config}
    (h : validated zones home cwd config = .ok config') : config'.Usable zones := by
  cases validates zones home cwd config with
  | zoneFails _ ends => exact nomatch ends.symm.trans h
  | refused _ _ ends =>
      obtain ⟨option, reason, hrefused⟩ := ends
      exact nomatch hrefused.symm.trans h
  | placed usable ends =>
      obtain ⟨workDirs, -, rfl⟩ := map_eq_ok_iff.mp (ends.symm.trans h)
      exact usable

end

/-! ### The run -/

section

variable {σ : Type} {files : Access (StateM σ)} {zones : ZoneSource} {s : σ}
  {warnings : List Path → List String}

theorem validate_run (hwarn : ∀ paths, (missingWarnings files paths).run s = (warnings paths, s))
    (config : Config) :
    (validate files zones config).run.run s
      = ((validated zones files.home files.cwd config).map
          fun config => (config, warnings config.workDirs), s) := by
  unfold validate validated
  cases config.zoneIn zones with
  | error e => exact run_bind_error (run_ofExcept s _)
  | ok zone =>
      refine (run_bind_ok (run_ofExcept s _)).trans ?_
      rw [ok_bind]
      by_cases hpage : config.perPage < 1
      · simp only [if_pos hpage]
        rfl
      · simp only [if_neg hpage]
        cases config.workDirs.mapM (place files.home files.cwd) with
        | error e => exact run_bind_error (run_ofExcept s _)
        | ok dirs =>
            refine (run_bind_ok (run_ofExcept s _)).trans ?_
            exact run_bind_ok (run_lift (hwarn dirs))

/-- Loading a file that is there, from wherever it is read. -/
theorem load_run_of_read {p : Path} {path? : Option Path} {content : ByteArray}
    (hplace : place files.home files.cwd (path?.getD (defaultPath files.home)) = .ok p)
    (hwarn : ∀ paths, (missingWarnings files paths).run s = (warnings paths, s))
    (hkind : (files.kind? p).run s = (some .file, s))
    (hread : (files.read p).run s = (.ok content, s)) :
    (load files zones path?).run.run s
      = ((ofContent p content >>= validated zones files.home files.cwd).map
          fun config => (config, warnings config.workDirs), s) := by
  have hthere : (files.isThere p).run s = (true, s) := run_bind hkind
  unfold load
  rw [hplace]
  refine (run_bind_ok (run_ofExcept s _)).trans ?_
  refine (run_bind_ok (run_lift hthere)).trans ?_
  refine (run_bind_ok (run_lift hread)).trans ?_
  dsimp only
  cases ofContent p content with
  | error e => exact run_bind_error (run_ofExcept s _)
  | ok config =>
      refine (run_bind_ok (run_ofExcept s _)).trans ?_
      rw [ok_bind]
      exact validate_run hwarn config

end

/-! ### The run on a tree of files -/

/-- A path is that of a directory in a tree. -/
def isDirectoryIn (t : Tree) (path : Path) : Bool :=
  (t.find path).toOption.map Files.Node.kind == some .directory

/-- The warnings about work directories that are not in a tree. -/
def missingIn (t : Tree) : List Path → List String
  | [] => []
  | path :: paths =>
    if isDirectoryIn t path then missingIn t paths
    else ("Work directory not found: " ++ path.text) :: missingIn t paths

theorem missingWarnings_run (cwd : Path) (t : Tree) (paths : List Path) :
    (missingWarnings (Tree.access cwd) paths).run t = (missingIn t paths, t) := by
  induction paths with
  | nil => rfl
  | cons path paths ih =>
      have hfound : ((Tree.access cwd).isDirectory path).run t = (isDirectoryIn t path, t) := rfl
      exact (run_bind hfound).trans (run_bind ih)

/-- Loading a file that is there. -/
theorem load_run {zones : ZoneSource} {cwd p : Path} {path? : Option Path} {t : Tree}
    {content : ByteArray}
    (hplace : place cwd cwd (path?.getD (defaultPath cwd)) = .ok p)
    (hfile : t.find p = .ok (.file content)) :
    (load (Tree.access cwd) zones path?).run.run t
      = ((ofContent p content >>= validated zones cwd cwd).map
          fun config => (config, missingIn t config.workDirs), t) := by
  refine load_run_of_read hplace (missingWarnings_run cwd t) ?_ ?_
  · show ((t.find p).toOption.map Files.Node.kind, t) = _
    rw [hfile]
    rfl
  · show (t.read p, t) = _
    rw [Tree.read, hfile]
    rfl

/-! ### Which files are met with such an error -/

/-- The content of a file at a path is met with an error that is not foreseen. -/
inductive Escapes (zones : ZoneSource) (home path : Path) (content : ByteArray) : Prop
  /-- The content is no text. -/
  | notText (unread : String.fromUTF8? content = none)
  /-- A whole number in it has more digits than are read, and nothing before it is malformed. -/
  | tooManyDigits {text : String} (isText : String.fromUTF8? content = some text)
      (tooLong : Toml.read text = .error .tooManyDigits)
  /-- It is a table, and an option is looked up in something in it that is no table. -/
  | astray {text : String} {data : Toml.Table} (isText : String.fromUTF8? content = some text)
      (isTable : Toml.read text = .ok data) (stray : Astray data settings)
  /-- It gives a configuration, and looking its time zone up fails. -/
  | zoneFails {text : String} {data : Toml.Table} {config : Config}
      (isText : String.fromUTF8? content = some text) (isTable : Toml.read text = .ok data)
      (given : ofTable data (some path) = .ok config)
      (fails : zones.named config.timezone = .fails)
  /-- It gives a configuration that could be used, but a work directory is no place. -/
  | noPlace {text : String} {data : Toml.Table} {config : Config} {dir : Path}
      (isText : String.fromUTF8? content = some text) (isTable : Toml.read text = .ok data)
      (given : ofTable data (some path) = .ok config) (usable : config.Usable zones)
      (listed : dir ∈ config.workDirs) (noPlace : NoPlace home dir)

section

variable {path : Path} {content : ByteArray} {text : String} {data : Toml.Table}

theorem ofContent_eq (htext : String.fromUTF8? content = some text)
    (hdata : Toml.read text = .ok data) :
    ofContent path content = ofTable data (some path) := by
  simp only [ofContent, htext, hdata]

/-- What gives a configuration is a table in a text. -/
theorem ofContent_eq_ok_iff {config : Config} :
    ofContent path content = .ok config ↔
      ∃ text data, String.fromUTF8? content = some text ∧ Toml.read text = .ok data ∧
        ofTable data (some path) = .ok config := by
  constructor
  · intro h
    unfold ofContent at h
    split at h
    · exact nomatch h
    · rename_i text htext
      split at h
      · exact nomatch h
      · exact nomatch h
      · rename_i data hdata
        exact ⟨text, data, htext, hdata, h⟩
  · rintro ⟨text, data, htext, hdata, hgiven⟩
    rw [ofContent_eq htext hdata, hgiven]

theorem ofContent_fails_iff :
    Fails (ofContent path content) ↔
      String.fromUTF8? content = none ∨
        ∃ text, String.fromUTF8? content = some text ∧
          (Toml.read text = .error .tooManyDigits ∨
            ∃ data, Toml.read text = .ok data ∧ Astray data settings) := by
  cases htext : String.fromUTF8? content with
  | none =>
      have hnotText : ofContent path content = .error .notText := by
        rw [ofContent, htext]
      rw [hnotText]
      exact ⟨fun _ => Or.inl rfl, fun _ => rfl⟩
  | some text =>
      cases hdata : Toml.read text with
      | ok data =>
          rw [ofContent_eq htext hdata, ofTable_fails_iff]
          simp [hdata]
      | error flaw =>
          cases flaw <;> simp [ofContent, htext, hdata, Fails, ConfigError.message?]

theorem fails_iff_escapes {zones : ZoneSource} (cwd : Path) {home : Path} :
    Fails (ofContent path content >>= validated zones home cwd) ↔
      Escapes zones home path content := by
  rw [fails_bind_iff, ofContent_fails_iff]
  simp only [validated_fails_iff, ofContent_eq_ok_iff]
  constructor
  · rintro ((hnone | ⟨text, htext, hlong | ⟨data, hdata, hstray⟩⟩) |
      ⟨config, ⟨text, data, htext, hdata, hgiven⟩, hzone | ⟨husable, dir, hlisted, hnoPlace⟩⟩)
    · exact .notText hnone
    · exact .tooManyDigits htext hlong
    · exact .astray htext hdata hstray
    · exact .zoneFails htext hdata hgiven hzone
    · exact .noPlace htext hdata hgiven husable hlisted hnoPlace
  · intro h
    cases h with
    | notText unread => exact Or.inl (Or.inl unread)
    | tooManyDigits isText tooLong => exact Or.inl (Or.inr ⟨_, isText, Or.inl tooLong⟩)
    | astray isText isTable stray =>
        exact Or.inl (Or.inr ⟨_, isText, Or.inr ⟨_, isTable, stray⟩⟩)
    | zoneFails isText isTable given fails =>
        exact Or.inr ⟨_, ⟨_, _, isText, isTable, given⟩, Or.inl fails⟩
    | noPlace isText isTable given usable listed noPlace =>
        exact Or.inr ⟨_, ⟨_, _, isText, isTable, given⟩, Or.inr ⟨usable, _, listed, noPlace⟩⟩

end

/-- A tree with a configuration file at its root. -/
def treeWith (content : ByteArray) : Tree :=
  ⟨.directory [("config.toml", .file content)], ⟨"/", []⟩⟩

/-- The place of that file. -/
def rootFile : Path := ⟨"/", ["config.toml"]⟩

/-- A file in which a section is a text with an option's name in it. -/
def sentence : String := "search = \"20 per_page\"\n"

theorem read_sentence : Toml.read sentence = .ok [("search", .string "20 per_page")] := by
  have hline : Toml.Says ("search".toList ++ " = ".toList ++ (Toml.quoted "20 per_page").toList)
      [.assign ["search"] (.string "20 per_page")] := by
    refine Toml.says_assign (by decide) (fun _ => rfl) ?_
    intro rest
    exact Toml.readValue_quoted "20 per_page" nofun
  have hread := Toml.read_of_lines (.cons hline .nil) (by decide)
  have hwhole : String.ofList (Text.joined '\n'
      (["search".toList ++ " = ".toList ++ (Toml.quoted "20 per_page").toList] ++ [[]]))
        = sentence := by
    decide
  rw [← hwhole, hread]
  rfl

end MediaSearch.Config
