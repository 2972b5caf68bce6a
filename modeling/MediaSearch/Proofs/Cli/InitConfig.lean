/-
A configuration file that has been written loads.

The command settles the place of the file and those of the work directories, writes the
starting file filled with them, and reads it back.  By then the time zone is known and every
path is a place, so what is read is what was asked for (`validated_fill`), and the complaint
about a written file that does not load is never made.  Of the time zones, wherever they come
from, only this is asked: that the one which the starting file names is there.
-/
import MediaSearch.Calendar.ZoneNames
import MediaSearch.Cli.InitConfig
import MediaSearch.Proofs.Config.Seeded
import MediaSearch.Proofs.Files.Kept

namespace MediaSearch.Cli

open Calendar (ZoneSource)
open Config (ZoneKnown place seededConfig)
open Files (Access FileError Path Tree)

/-! ### Requests -/

/-- The paths of a request are as they are read from words. -/
structure InitRequest.IsRead (request : InitRequest) : Prop where
  /-- The file to write. -/
  output : ∀ p, request.output? = some p → p.IsRead
  /-- The work directories. -/
  workDirs : ∀ p ∈ request.workDirs, p.IsRead

theorem isRead_ofWords {words : Words InitOption} {file? : Option String} {request : InitRequest}
    (h : InitRequest.ofWords words file? = .ok request) : request.IsRead := by
  have hrequest : request = ⟨words.has .force, (words.value? .output).map Path.ofString,
      (words.values .workDir).map Path.ofString, words.value? .timezone⟩ := by
    cases file? with
    | some path => exact nomatch h
    | none =>
        obtain ⟨_, -, h⟩ := bind_eq_ok_iff.mp h
        exact (Except.ok.inj h).symm
  subst hrequest
  refine ⟨?_, ?_⟩
  · intro p hp
    obtain ⟨text, -, rfl⟩ := Option.map_eq_some_iff.mp hp
    exact Path.isRead_ofString text
  · intro p hp
    obtain ⟨text, -, rfl⟩ := List.mem_map.mp hp
    exact Path.isRead_ofString text

variable {home : Path} {request : InitRequest}

theorem InitRequest.IsRead.target (h : request.IsRead) (hhome : home.IsPlace) :
    (request.target home).IsRead := by
  unfold InitRequest.target
  cases houtput : request.output? with
  | none => exact Config.isRead_defaultPath hhome
  | some p => exact h.output p houtput

/-- The file that is asked for, with work directories in their places. -/
def InitRequest.textWith (request : InitRequest) (workDirs : List Path) : String :=
  Config.fill Config.starter request.timezone? (workDirs.map Path.text)

/-- The name of the time zone that the file will have. -/
def InitRequest.zoneName (request : InitRequest) : String :=
  request.timezone?.getD Calendar.Zone.defaultName

variable {σ : Type} {files : Access (StateM σ)} {zones : ZoneSource} {s : σ}

/-! ### How a request ends -/

/-- What a request leaves behind: what is told, and the files. -/
inductive Ends (files : Access (StateM σ)) (zones : ZoneSource) (s : σ) (request : InitRequest) :
    Outcome → σ → Prop
  /-- The time zone is not known. -/
  | unknownZone {name : String} (asked : request.timezone? = some name)
      (unknown : zones.named name = .unknown) :
      Ends files zones s request
        (.failure 1 ("Unknown timezone: " ++ name)
          (some "Use an IANA name such as America/New_York")) s
  /-- Looking the time zone up fails. -/
  | zoneFails {name : String} (asked : request.timezone? = some name)
      (fails : zones.named name = .fails) :
      Ends files zones s request (.escaped .zone) s
  /-- A path stands for no place. -/
  | noPlace {path : Path} {e : ConfigError}
      (asked : path = request.target files.home ∨ path ∈ request.workDirs)
      (noPlace : place files.home files.cwd path = .error e) :
      Ends files zones s request (.escaped (.config e)) s
  /-- There is something in the place of the file, and it may not be replaced. -/
  | taken {path : Path} (placed : place files.home files.cwd (request.target files.home) = .ok path)
      (unforced : request.force = false) (there : (files.isThere path).run s = (true, s)) :
      Ends files zones s request
        (.failure 1 ("Config file already exists: " ++ path.text)
          (some "Use --force to overwrite")) s
  /-- The directory of the file cannot be made. -/
  | noDirectory {path : Path} {error : FileError} {s' : σ}
      (placed : place files.home files.cwd (request.target files.home) = .ok path)
      (failed : (files.makeDirectory path.parent).run s = (.error error, s')) :
      Ends files zones s request (writeFailure error path.parent) s'
  /-- The file cannot be written. -/
  | unwritten {path : Path} {workDirs : List Path} {error : FileError} {between s' : σ}
      (placed : place files.home files.cwd (request.target files.home) = .ok path)
      (dirsPlaced : request.workDirs.mapM (place files.home files.cwd) = .ok workDirs)
      (made : (files.makeDirectory path.parent).run s = (.ok (), between))
      (failed : (files.write path (request.textWith workDirs)).run between = (.error error, s')) :
      Ends files zones s request (writeFailure error path) s'
  /-- The file is written, and it loads with what was asked for in it. -/
  | written {path : Path} {workDirs : List Path} {warnings : List String} {between s' : σ}
      (placed : place files.home files.cwd (request.target files.home) = .ok path)
      (dirsPlaced : request.workDirs.mapM (place files.home files.cwd) = .ok workDirs)
      (made : (files.makeDirectory path.parent).run s = (.ok (), between))
      (wrote : (files.write path (request.textWith workDirs)).run between = (.ok (), s'))
      (loads : (Config.load files zones (some path)).run.run s'
        = (.ok (seededConfig request.timezone? workDirs path, warnings), s')) :
      Ends files zones s request
        ((Outcome.success (writtenText path (seededConfig request.timezone? workDirs path))).after
          (String.join (warnings.map warningLine))) s'

theorem missingWarnings_run_of_keeps (hfiles : files.Keeps) (s : σ) (paths : List Path) :
    ∃ warnings, (Config.missingWarnings files paths).run s = (warnings, s) := by
  induction paths with
  | nil => exact ⟨[], rfl⟩
  | cons path paths ih =>
      obtain ⟨found, hfound⟩ := hfiles.isDirectory_run path s
      obtain ⟨others, hothers⟩ := ih
      exact ⟨_, (run_bind hfound).trans (run_bind hothers)⟩

/-- A file that has been written loads. -/
theorem load_written (hfiles : files.Keeps) {path : Path} {workDirs : List Path}
    {between s' : σ} (hpath : path.IsPlace) (hzone : ZoneKnown zones request.zoneName)
    (hdirs : ∀ dir ∈ workDirs, dir.IsPlace)
    (hwrote : (files.write path (request.textWith workDirs)).run between = (.ok (), s')) :
    ∃ warnings, (Config.load files zones (some path)).run.run s'
      = (.ok (seededConfig request.timezone? workDirs path, warnings), s') := by
  choose warnings hwarnings using missingWarnings_run_of_keeps hfiles s'
  have hplaced : place files.home files.cwd ((some path).getD (Config.defaultPath files.home))
      = .ok path := Config.place_of_isPlace hpath
  refine ⟨warnings workDirs, ?_⟩
  rw [Config.load_run_of_read hplaced hwarnings (hfiles.stands hpath hwrote)
    (hfiles.reads hpath hwrote), InitRequest.textWith, Config.validated_fill hzone hdirs]
  rfl

theorem writeConfig_ends (hfiles : files.Keeps) {path : Path} {workDirs : List Path}
    (hzone : ZoneKnown zones request.zoneName)
    (hplaced : place files.home files.cwd (request.target files.home) = .ok path)
    (hdirsPlaced : request.workDirs.mapM (place files.home files.cwd) = .ok workDirs)
    (hpath : path.IsPlace) (hdirs : ∀ dir ∈ workDirs, dir.IsPlace) (s : σ) :
    ∃ outcome s',
      (writeConfig files zones path (request.textWith workDirs)).run s = (outcome, s') ∧
        Ends files zones s request outcome s' := by
  unfold writeConfig
  rcases hmade : (files.makeDirectory path.parent).run s with ⟨made, between⟩
  rw [run_bind hmade]
  cases made with
  | error e => exact ⟨_, _, rfl, .noDirectory hplaced hmade⟩
  | ok _ =>
      dsimp only
      rcases hwrote : (files.write path (request.textWith workDirs)).run between with ⟨wrote, s'⟩
      rw [run_bind hwrote]
      cases wrote with
      | error e => exact ⟨_, _, rfl, .unwritten hplaced hdirsPlaced hmade hwrote⟩
      | ok _ =>
          obtain ⟨warnings, hloads⟩ := load_written hfiles hpath hzone hdirs hwrote
          refine ⟨_, _, ?_, .written hplaced hdirsPlaced hmade hwrote hloads⟩
          exact run_bind hloads

theorem writeSeeded_ends (hfiles : files.Keeps) (hhome : files.home.IsPlace)
    (hcwd : files.cwd.IsPlace) (hread : request.IsRead)
    (hzone : ZoneKnown zones request.zoneName) (s : σ) :
    ∃ outcome s', (writeSeeded files zones request).run s = (outcome, s') ∧
      Ends files zones s request outcome s' := by
  unfold writeSeeded
  dsimp only
  cases hplaced : place files.home files.cwd (request.target files.home) with
  | error e => exact ⟨_, s, rfl, .noPlace (Or.inl rfl) hplaced⟩
  | ok path =>
      obtain ⟨there, hthere⟩ := hfiles.isThere_run path s
      dsimp only
      rw [run_bind hthere]
      by_cases htaken : (!request.force && there) = true
      · rw [if_pos htaken]
        have hboth : request.force = false ∧ there = true := by simpa using htaken
        exact ⟨_, s, rfl, .taken hplaced hboth.1 (hboth.2 ▸ hthere)⟩
      · rw [if_neg htaken]
        cases hdirsPlaced : request.workDirs.mapM (place files.home files.cwd) with
        | error e =>
            obtain ⟨dir, hdir, hnoPlace⟩ := exists_error_of_mapM hdirsPlaced
            exact ⟨_, s, rfl, .noPlace (Or.inr hdir) hnoPlace⟩
        | ok workDirs =>
            exact writeConfig_ends hfiles hzone hplaced hdirsPlaced
              (Config.isPlace_of_place hhome hcwd (hread.target hhome) hplaced)
              (Config.isPlace_of_mem_mapM_place hhome hcwd hread.workDirs hdirsPlaced) s

theorem answerInit_ends (hfiles : files.Keeps) (hhome : files.home.IsPlace)
    (hcwd : files.cwd.IsPlace) (hdefault : ZoneKnown zones Calendar.Zone.defaultName)
    (hread : request.IsRead) (s : σ) :
    ∃ outcome s', (answerInit files zones request).run s = (outcome, s') ∧
      Ends files zones s request outcome s' := by
  have hwrite : ZoneKnown zones request.zoneName → _ :=
    fun hzone => writeSeeded_ends hfiles hhome hcwd hread hzone s
  unfold answerInit
  unfold InitRequest.zoneName at hwrite
  cases hasked : request.timezone? with
  | none =>
      rw [hasked] at hwrite
      exact hwrite hdefault
  | some name =>
      rw [hasked] at hwrite
      dsimp only
      cases hnamed : zones.named name with
      | found zone => exact hwrite ⟨zone, hnamed⟩
      | unknown => exact ⟨_, s, rfl, .unknownZone hasked hnamed⟩
      | fails => exact ⟨_, s, rfl, .zoneFails hasked hnamed⟩

/-! ### Whole calls -/

/-- The request that a call makes; work directories must not be files. -/
def requestOf (files : Access (StateM σ)) (s : σ) (args : List String) :
    Except Outcome InitRequest := do
  let words ← (Callee.command .initConfig).words InitOption.grammar .help args
  InitRequest.ofWords words ((files.firstFile (words.values .workDir)).run s).1

/-- The name of a directory that would open a section if it were written as it is. -/
def oddName : String := "odd \"name\"\n[search]"

/-- The words of a call with that directory. -/
def oddWords : List String := ["-o", "crawl.toml", "-w", oddName, "-z", "UTC"]

/-- The request that they make. -/
def oddRequest : InitRequest := ⟨false, some ⟨"", ["crawl.toml"]⟩, [⟨"", [oddName]⟩], some "UTC"⟩

/-- Where the call is made. -/
def oddHome : Path := ⟨"/", ["home"]⟩

end MediaSearch.Cli
