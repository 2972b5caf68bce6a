/-
Files that keep what is written to them.

What is asked of the files is only that looking changes nothing and that a file, once it has
been written, is there with its content (`Access.Keeps`).  A tree in memory does that: a node
that has been put at some names is found when the same names are walked (`walk_put`).
-/
import MediaSearch.Files.Tree
import MediaSearch.Proofs.Except
import MediaSearch.Proofs.Files.Place
import MediaSearch.Proofs.Keyed

namespace MediaSearch.Files

/-- Looking at files changes nothing, and what is written is kept. -/
structure Access.Keeps {σ : Type} (files : Access (StateM σ)) : Prop where
  /-- Looking at a path changes nothing. -/
  looks : ∀ p s, ∃ kind?, (files.kind? p).run s = (kind?, s)
  /-- A file that has been written is there. -/
  stands : ∀ {p text s s'}, Path.IsPlace p → (files.write p text).run s = (.ok (), s') →
    (files.kind? p).run s' = (some .file, s')
  /-- It has what has been written as its content. -/
  reads : ∀ {p text s s'}, Path.IsPlace p → (files.write p text).run s = (.ok (), s') →
    (files.read p).run s' = (.ok text.toUTF8, s')

namespace Access.Keeps

variable {σ : Type} {files : Access (StateM σ)} (hfiles : files.Keeps)

include hfiles

theorem isThere_run (p : Path) (s : σ) : ∃ there, (files.isThere p).run s = (there, s) := by
  obtain ⟨kind?, hkind⟩ := hfiles.looks p s
  exact ⟨_, run_bind hkind⟩

theorem isDirectory_run (p : Path) (s : σ) :
    ∃ isDirectory, (files.isDirectory p).run s = (isDirectory, s) := by
  obtain ⟨kind?, hkind⟩ := hfiles.looks p s
  exact ⟨_, run_bind hkind⟩

theorem firstFile_run (texts : List String) (s : σ) :
    ∃ found?, (files.firstFile texts).run s = (found?, s) := by
  induction texts with
  | nil => exact ⟨none, rfl⟩
  | cons text texts ih =>
      obtain ⟨kind?, hkind⟩ := hfiles.looks (Path.ofString text) s
      obtain ⟨found?, hothers⟩ := ih
      unfold Access.firstFile
      dsimp only
      rw [run_bind hkind]
      split
      · exact ⟨some text, rfl⟩
      · exact ⟨found?, hothers⟩

end Access.Keeps

/-! ### A tree of files -/

/-- A node that has been put at some names is found there. -/
theorem Node.walk_put {node root root' : Node} {names : List String} {outer : List Node}
    (hdots : ".." ∉ names) (h : put node names root = .ok root') :
    walk (root' :: outer) names = .ok node := by
  induction names generalizing root root' outer with
  | nil =>
      obtain rfl := Except.ok.inj h
      rfl
  | cons name names ih =>
      have hname : ¬ (name == "..") = true := by
        intro hsame
        exact hdots (eq_of_beq hsame ▸ List.mem_cons_self)
      cases root with
      | file content => exact nomatch h
      | directory entries =>
          obtain ⟨inner, hinner, h⟩ := bind_eq_ok_iff.mp h
          obtain rfl := Except.ok.inj h
          rw [walk, if_neg hname, Keyed.lookup_put]
          exact ih (fun hmem => hdots (List.mem_cons_of_mem _ hmem)) hinner

namespace Tree

variable {t t' : Tree} {p : Path} {text : String}

theorem find_put {node : Node} (hp : p.IsPlace) (h : t.put p node = .ok t') :
    t'.find p = .ok node := by
  obtain ⟨root, hroot, h⟩ := bind_eq_ok_iff.mp h
  obtain rfl := Except.ok.inj h
  rw [hp.resolve] at hroot
  rw [find, hp.startingAt]
  exact Node.walk_put hp.noDots hroot

theorem put_of_write (h : t.write p text = .ok t') : t.put p (.file text.toUTF8) = .ok t' := by
  unfold write at h
  dsimp only at h
  split at h
  · exact nomatch h
  · obtain ⟨above, -, h⟩ := bind_eq_ok_iff.mp h
    cases above with
    | directory entries => exact h
    | file content => exact nomatch h

/-- A file that has been written is found. -/
theorem find_write (hp : p.IsPlace) (h : t.write p text = .ok t') :
    t'.find p = .ok (.file text.toUTF8) :=
  find_put hp (put_of_write h)

theorem change_run_ok {step : Tree → Except FileError Tree}
    (h : (change step).run t = (.ok (), t')) : step t = .ok t' := by
  have hget : (get : StateM Tree Tree).run t = (t, t) := rfl
  rw [change, run_bind hget] at h
  cases hstep : step t with
  | ok after =>
      rw [hstep] at h
      exact congrArg Except.ok (Prod.mk.inj h).2
  | error e =>
      rw [hstep] at h
      exact nomatch h

/-- **A tree of files keeps what is written to it.** -/
theorem access_keeps (cwd : Path) : (access cwd).Keeps where
  looks p s := ⟨(s.find p).toOption.map Node.kind, rfl⟩
  stands := by
    intro p text s s' hp h
    have hfile := find_write hp (change_run_ok h)
    show ((s'.find p).toOption.map Node.kind, s') = _
    rw [hfile]
    rfl
  reads := by
    intro p text s s' hp h
    have hfile := find_write hp (change_run_ok h)
    show (s'.read p, s') = _
    rw [read, hfile]
    rfl

end Tree

end MediaSearch.Files
