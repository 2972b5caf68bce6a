/-
What the lines of a document say.

A document is read statement by statement, and a statement of the simple kinds ends with its
line: a line that opens a table, or one that sets a value under a key without quotes.  Such a
line, an empty one and a comment say the same whatever comes before and after them (`Says`), so
what a document of such lines says is what its lines say, one after the other
(`readStatements_of_lines`).
-/
import MediaSearch.Proofs.Text.Pieces
import MediaSearch.Proofs.Toml.Printed

namespace MediaSearch.Toml

variable {rest : List Char} {d : Document}

/-! ### Keys -/

/-- A key that needs no quotes. -/
def IsBare (name : List Char) : Prop :=
  name ≠ [] ∧ ∀ c ∈ name, isBareKey c = true

instance (name : List Char) : Decidable (IsBare name) :=
  decidable_of_iff (name ≠ [] ∧ name.all isBareKey = true) (by simp [IsBare])

theorem IsBare.exists_cons {name : List Char} (h : IsBare name) :
    ∃ c others, name = c :: others ∧ isBareKey c = true ∧ ∀ d ∈ others, isBareKey d = true := by
  obtain ⟨hne, hbare⟩ := h
  obtain ⟨c, others, rfl⟩ := List.exists_cons_of_ne_nil hne
  refine ⟨c, others, rfl, hbare c List.mem_cons_self, ?_⟩
  exact fun d hd => hbare d (List.mem_cons_of_mem _ hd)

theorem ne_of_isBareKey {c d : Char} (h : isBareKey c = true) (hd : isBareKey d = false) :
    c ≠ d := by
  rintro rfl
  rw [h] at hd
  exact nomatch hd

theorem keyPart?_bare {name : List Char} {stop : Char} (hname : IsBare name)
    (hstop : isBareKey stop = false) :
    keyPart? (name ++ stop :: rest) = some (String.ofList name, stop :: rest) := by
  obtain ⟨c, others, rfl, hfirst, hothers⟩ := hname.exists_cons
  show keyPart? (c :: (others ++ stop :: rest)) = _
  rw [keyPart?]
  · simp [hfirst, hstop, List.takeWhile_append_of_pos hothers,
      List.dropWhile_append_of_pos hothers]
  · exact ne_of_isBareKey hfirst (by decide)
  · exact ne_of_isBareKey hfirst (by decide)

/-- A key of one part is read up to what follows it and blanks. -/
theorem key?_bare {name behind : List Char} {stop next : Char} (hname : IsBare name)
    (hstop : isBareKey stop = false) (hnext : skipBlanks (stop :: rest) = next :: behind)
    (hpoint : next ≠ '.') :
    key? (name ++ stop :: rest) = some ([String.ofList name], next :: behind) := by
  rw [key?, keyPart?_bare hname hstop]
  dsimp only
  rw [hnext]
  split
  · rename_i behind' hbehind
    exact absurd (List.cons.inj hbehind).1 hpoint
  · rfl

/-! ### Lines -/

/-- A line says these statements, whatever has been said before and comes after it. -/
def Says (line : List Char) (said : List Statement) : Prop :=
  ∀ d rest, readStatements d (line ++ '\n' :: rest)
    = demanded (said.foldlM Document.step d) >>= fun d => readStatements d rest

/-- An empty line or a comment. -/
def isSilent : List Char → Bool
  | [] => true
  | '#' :: comment => comment.all fun c => !isIllegal c
  | _ => false

theorem skipBlanks_cons {c : Char} {text : List Char} (hblank : c ≠ ' ' ∧ c ≠ '\t') :
    skipBlanks (c :: text) = c :: text := by
  simp [skipBlanks, hblank]

theorem skipBlanks_bare {name : List Char} (hname : IsBare name) :
    skipBlanks (name ++ rest) = name ++ rest := by
  obtain ⟨c, others, rfl, hfirst, -⟩ := hname.exists_cons
  exact skipBlanks_cons
    ⟨ne_of_isBareKey hfirst (by decide), ne_of_isBareKey hfirst (by decide)⟩

theorem lineEnd?_comment {comment : List Char} (h : comment.all (fun c => !isIllegal c) = true) :
    lineEnd? ('#' :: (comment ++ '\n' :: rest)) = some rest := by
  have hlegal : ∀ c ∈ comment, isIllegal c = false := by simpa using h
  have hon : ∀ c ∈ comment, (c != '\n') = true := by
    intro c hc
    refine bne_iff_ne.mpr ?_
    rintro rfl
    exact nomatch hlegal _ hc
  unfold lineEnd?
  rw [skipBlanks_cons (by decide)]
  simp [List.takeWhile_append_of_pos hon, List.dropWhile_append_of_pos hon]
  exact hlegal

theorem says_silent {line : List Char} (h : isSilent line = true) : Says line [] := by
  intro d rest
  show _ = readStatements d rest
  unfold isSilent at h
  split at h
  · show readStatements d ('\n' :: rest) = _
    rw [readStatements, skipBlanks_cons (by decide)]
    simp
  · rename_i comment
    show readStatements d ('#' :: (comment ++ '\n' :: rest)) = _
    rw [readStatements, skipBlanks_cons (by decide)]
    simp only [lineEnd?_comment h]
    rw [if_pos]
    simp only [List.length_cons, List.length_append]
    omega
  · cases h

/-- A statement is read off the front of a text, and then what comes on the next lines. -/
theorem readStatements_cons {c : Char} {text : List Char} {said : Statement}
    (hblank : c ≠ ' ' ∧ c ≠ '\t') (hfeed : c ≠ '\n') (hcomment : c ≠ '#')
    (hsaid : readStatement (c :: text) = .ok (said, '\n' :: rest))
    (hlength : rest.length ≤ text.length) :
    readStatements d (c :: text)
      = demanded ([said].foldlM Document.step d) >>= fun d => readStatements d rest := by
  have hfold : [said].foldlM Document.step d = d.step said := by simp
  rw [hfold, readStatements, skipBlanks_cons hblank]
  split
  · rename_i hnil
    cases hnil
  · rename_i behind hline
    exact absurd (List.cons.inj hline).1 hfeed
  · rename_i behind hline
    exact absurd (List.cons.inj hline).1 hcomment
  · have hend : lineEnd? ('\n' :: rest) = some rest := by rfl
    simp only [hsaid, hend]
    cases d.step said with
    | none => rfl
    | some later =>
        dsimp only
        rw [if_pos]
        · rfl
        · simp only [List.length_cons]
          omega

theorem says_table {name : List Char} (hname : IsBare name) :
    Says ('[' :: name ++ [']']) [.table [String.ofList name]] := by
  intro d rest
  have hkey : key? (skipBlanks (name ++ ']' :: '\n' :: rest))
      = some ([String.ofList name], ']' :: '\n' :: rest) := by
    rw [skipBlanks_bare hname]
    exact key?_bare hname (by decide) rfl (by decide)
  have hline : '[' :: name ++ [']'] ++ '\n' :: rest = '[' :: (name ++ ']' :: '\n' :: rest) := by
    simp
  rw [hline]
  refine readStatements_cons (by decide) (by decide) (by decide) ?_ ?_
  · rw [readStatement]
    · simp only [hkey]
    · intro behind hbehind
      obtain ⟨c, others, rfl, hfirst, -⟩ := hname.exists_cons
      exact absurd (List.cons.inj hbehind).1 (ne_of_isBareKey hfirst (by decide))
  · simp only [List.length_append, List.length_cons]
    omega

theorem keyAndSign?_bare {name text : List Char} (hname : IsBare name)
    (htext : skipBlanks text = text) :
    keyAndSign? (name ++ ' ' :: '=' :: ' ' :: text) = some ([String.ofList name], text) := by
  have hkey : key? (name ++ ' ' :: '=' :: ' ' :: text)
      = some ([String.ofList name], '=' :: ' ' :: text) :=
    key?_bare hname (by decide) rfl (by decide)
  have hblank : skipBlanks (' ' :: text) = text := htext
  rw [keyAndSign?, hkey]
  show some ([String.ofList name], skipBlanks (' ' :: text)) = _
  rw [hblank]

theorem says_assign {name text : List Char} {value : Value} (hname : IsBare name)
    (htext : ∀ rest, skipBlanks (text ++ '\n' :: rest) = text ++ '\n' :: rest)
    (hvalue : ∀ rest, Reads (readValue (text ++ '\n' :: rest)) value ('\n' :: rest)) :
    Says (name ++ " = ".toList ++ text) [.assign [String.ofList name] value] := by
  intro d rest
  have hsign := keyAndSign?_bare hname (htext rest)
  obtain ⟨found, hfound, rfl, hrest⟩ := hvalue rest
  obtain ⟨c, others, rfl, hfirst, -⟩ := hname.exists_cons
  have hline : c :: others ++ " = ".toList ++ text ++ '\n' :: rest
      = c :: (others ++ ' ' :: '=' :: ' ' :: (text ++ '\n' :: rest)) := by
    simp
  have hplain : ∀ {d : Char}, isBareKey d = false → c ≠ d := ne_of_isBareKey hfirst
  rw [List.cons_append] at hsign
  rw [hline]
  refine readStatements_cons ⟨hplain rfl, hplain rfl⟩ (hplain rfl) (hplain rfl) ?_ ?_
  · rw [readStatement]
    · rw [hsign]
      show (readValue (text ++ '\n' :: rest) >>= fun found =>
        pure (Statement.assign [String.ofList (c :: others)] found.value, found.rest)) = _
      rw [hfound]
      exact congrArg (fun behind => Except.ok (_, behind)) hrest
    · rintro behind h
      exact hplain rfl (List.cons.inj h).1
    · rintro behind h
      exact hplain rfl (List.cons.inj h).1
  · simp only [List.length_append, List.length_cons]
    omega

theorem demanded_bind {α β : Type} (x : Option α) (f : α → Option β) :
    (demanded x >>= fun a => demanded (f a)) = demanded (x >>= f) := by
  cases x <;> rfl

/-- Lines say together what each of them says. -/
theorem readStatements_of_lines {lines : List (List Char)} {said : List (List Statement)}
    (h : List.Forall₂ Says lines said) (d : Document) :
    readStatements d (Text.joined '\n' (lines ++ [[]]))
      = demanded (said.flatten.foldlM Document.step d) := by
  induction h generalizing d with
  | nil =>
      show readStatements d [] = .ok d
      rw [readStatements]
      rfl
  | @cons line said lines later hline hlines ih =>
      have hmore : lines ++ [[]] ≠ [] := List.append_ne_nil_of_right_ne_nil _ (List.cons_ne_nil _ _)
      rw [List.cons_append, Text.joined_cons hmore, hline, List.flatten_cons, List.foldlM_append,
        ← demanded_bind]
      congr 1
      funext d
      exact ih d

theorem withoutReturns_of_not_mem {text : List Char} (h : '\r' ∉ text) :
    withoutReturns text = text := by
  induction text with
  | nil => rfl
  | cons c text ih =>
      have hc : c ≠ '\r' := fun hsame => h (hsame ▸ List.mem_cons_self)
      rw [withoutReturns, ih fun hlater => h (List.mem_cons_of_mem _ hlater)]
      exact fun _ hsame _ => hc hsame

/-- **A document is what its lines say.** -/
theorem read_of_lines {lines : List (List Char)} {said : List (List Statement)}
    (h : List.Forall₂ Says lines said) (hclean : ∀ line ∈ lines, '\r' ∉ line) :
    read (String.ofList (Text.joined '\n' (lines ++ [[]])))
      = (demanded (said.flatten.foldlM Document.step .empty)).map fun d => d.nest.members := by
  have hreturns : '\r' ∉ Text.joined '\n' (lines ++ [[]]) := by
    intro hmem
    rcases Text.mem_joined hmem with hfeed | ⟨line, hline, hreturn⟩
    · exact absurd hfeed (by decide)
    · rcases List.mem_append.mp hline with hline | hlast
      · exact hclean line hline hreturn
      · rw [List.mem_singleton.mp hlast] at hreturn
        exact nomatch hreturn
  rw [read, String.toList_ofList, withoutReturns_of_not_mem hreturns, readStatements_of_lines h]

end MediaSearch.Toml
