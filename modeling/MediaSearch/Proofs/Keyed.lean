/-
Lists of values under keys.

Putting a value into such a list leaves the keys as they are or adds the new one at the end,
so a key never comes twice (`distinct_put`).  What is made of the values of a list therefore
has one value for each key, and making it again of these values changes nothing
(`values_ofValues_again`): each of them is new when its turn comes.

Which value that is, and where it stands, is `lastInPlace_ofValues`: the keys are in the order
in which they first come, and the value of each is the last one that has it.  One more value at
the end of the list is one more `put`, so the proof takes the list from its end.
-/
import Mathlib.Data.List.Induction
import Mathlib.Data.List.Nodup
import MediaSearch.Keyed

namespace MediaSearch.Keyed

variable {κ α : Type} [BEq κ] [LawfulBEq κ]

/-- No key comes twice. -/
def Distinct (list : Keyed κ α) : Prop :=
  (list.map (·.1)).Nodup

/-! ### Putting one value -/

theorem put_of_new {key : κ} {value : α} {list : Keyed κ α} (hnew : key ∉ list.map (·.1)) :
    put key value list = list ++ [(key, value)] := by
  induction list with
  | nil => rfl
  | cons entry list ih =>
      have hne : (entry.1 == key) = false := beq_false_of_ne fun h => hnew (h ▸ List.mem_cons_self)
      have hrest : key ∉ list.map (·.1) := fun h => hnew (List.mem_cons_of_mem _ h)
      simp [hne, ih hrest]

theorem keys_put_of_old {key : κ} {value : α} {list : Keyed κ α} (hold : key ∈ list.map (·.1)) :
    (put key value list).map (·.1) = list.map (·.1) := by
  induction list with
  | nil => exact absurd hold List.not_mem_nil
  | cons entry list ih =>
      by_cases hkey : entry.1 = key
      · simp [hkey]
      · have hrest : key ∈ list.map (·.1) := (List.mem_cons.mp hold).resolve_left (Ne.symm hkey)
        simp [beq_false_of_ne hkey, ih hrest]

theorem distinct_put {key : κ} {value : α} {list : Keyed κ α} (h : Distinct list) :
    Distinct (put key value list) := by
  by_cases hkey : key ∈ list.map (·.1)
  · rw [Distinct, keys_put_of_old hkey]
    exact h
  · rw [Distinct, put_of_new hkey, List.map_append]
    refine List.nodup_append.mpr ⟨h, List.nodup_singleton _, ?_⟩
    intro old hold new hnew hsame
    rw [hsame, List.mem_singleton.mp hnew] at hold
    exact hkey hold

omit [LawfulBEq κ] in
theorem mem_put {key : κ} {value : α} {list : Keyed κ α} {entry : κ × α}
    (h : entry ∈ put key value list) : entry = (key, value) ∨ entry ∈ list := by
  induction list with
  | nil => exact .inl (List.mem_singleton.mp h)
  | cons first list ih =>
      rw [put] at h
      split at h
      · exact (List.mem_cons.mp h).imp_right (List.mem_cons_of_mem _)
      · rcases List.mem_cons.mp h with hfirst | hrest
        · exact .inr (hfirst ▸ List.mem_cons_self)
        · exact (ih hrest).imp_right (List.mem_cons_of_mem _)

theorem lookup_put {key : κ} {value : α} {list : Keyed κ α} :
    (put key value list).lookup key = some value := by
  induction list with
  | nil => exact List.lookup_cons_self
  | cons entry list ih =>
      by_cases hkey : entry.1 = key
      · rw [put, if_pos (by simpa using hkey)]
        exact List.lookup_cons_self
      · have hne : (key == entry.1) = false := beq_false_of_ne (Ne.symm hkey)
        rw [put, if_neg (by simpa using hkey), List.lookup_cons, hne]
        exact ih

theorem mem_put_self {key : κ} {value : α} {list : Keyed κ α} :
    (key, value) ∈ put key value list := by
  have hfound : (put key value list).lookup key = some value := lookup_put
  obtain ⟨before, behind, hput, -⟩ := List.lookup_eq_some_iff.mp hfound
  rw [hput]
  exact List.mem_append_right _ List.mem_cons_self

/-- What stands under another key stays. -/
theorem mem_put_of_ne {key : κ} {value : α} {list : Keyed κ α} {entry : κ × α} (h : entry ∈ list)
    (hother : entry.1 ≠ key) : entry ∈ put key value list := by
  induction list with
  | nil => exact absurd h List.not_mem_nil
  | cons first list ih =>
      rw [put]
      rcases List.mem_cons.mp h with rfl | hrest
      · rw [if_neg (by simpa using hother)]
        exact List.mem_cons_self
      · split
        · exact List.mem_cons_of_mem _ hrest
        · exact List.mem_cons_of_mem _ (ih hrest)

/-- After a value is put under its key, any other that is still there has another key. -/
theorem mem_put_of_distinct {key : κ} {value : α} {list : Keyed κ α} {entry : κ × α}
    (hlist : Distinct list) (h : entry ∈ put key value list) :
    entry = (key, value) ∨ entry ∈ list ∧ entry.1 ≠ key := by
  by_cases hkey : entry.1 = key
  · exact .inl (List.inj_on_of_nodup_map (distinct_put hlist) h mem_put_self hkey)
  · exact .inr ⟨(mem_put h).resolve_left fun h => hkey (congrArg Prod.fst h), hkey⟩

/-! ### Putting many values -/

section

variable (keyOf : α → κ)

/-- The list with several values, each put under its key. -/
def putAll (values : List α) (list : Keyed κ α) : Keyed κ α :=
  values.foldl (fun list value => put (keyOf value) value list) list

theorem distinct_putAll {values : List α} :
    ∀ {list : Keyed κ α}, Distinct list → Distinct (putAll keyOf values list) := by
  induction values with
  | nil => exact fun h => h
  | cons value values ih => exact fun h => ih (distinct_put h)

omit [LawfulBEq κ] in
/-- What is in the list then was there or is one of the values, under its key. -/
theorem mem_putAll {values : List α} {entry : κ × α} :
    ∀ {list : Keyed κ α}, entry ∈ putAll keyOf values list →
      entry ∈ list ∨ ∃ value ∈ values, entry = (keyOf value, value) := by
  induction values with
  | nil => exact fun h => .inl h
  | cons value values ih =>
      intro list h
      rcases ih h with hput | ⟨later, hlater, rfl⟩
      · exact (mem_put hput).symm.imp_right fun h => ⟨value, List.mem_cons_self, h⟩
      · exact .inr ⟨later, List.mem_cons_of_mem _ hlater, rfl⟩

/-- What stands under a key that none of the values has stays. -/
theorem mem_putAll_of_notMem {values : List α} {entry : κ × α} :
    ∀ {list : Keyed κ α}, entry ∈ list → entry.1 ∉ values.map keyOf →
      entry ∈ putAll keyOf values list := by
  induction values with
  | nil => exact fun h _ => h
  | cons value values ih =>
      intro list h hnone
      rw [List.map_cons, List.mem_cons, not_or] at hnone
      exact ih (mem_put_of_ne h hnone.1) hnone.2

/-- Values under keys of their own are put at the end, one after the other. -/
theorem putAll_of_new {values : List α} :
    ∀ {list : Keyed κ α}, (list.map (·.1) ++ values.map keyOf).Nodup →
      putAll keyOf values list = list ++ values.map fun value => (keyOf value, value) := by
  induction values with
  | nil => exact fun _ => (List.append_nil _).symm
  | cons value values ih =>
      intro list h
      have hnew : keyOf value ∉ list.map (·.1) := fun hmem =>
        (List.nodup_append.mp h).2.2 _ hmem _ List.mem_cons_self rfl
      show putAll keyOf values (put (keyOf value) value list) = _
      rw [put_of_new hnew, ih (by simpa using h)]
      simp

end

variable {keyOf : α → κ} {values : List α}

theorem distinct_ofValues : Distinct (ofValues keyOf values) :=
  distinct_putAll keyOf List.nodup_nil

omit [LawfulBEq κ] in
theorem exists_of_mem_ofValues {entry : κ × α} (h : entry ∈ ofValues keyOf values) :
    ∃ value ∈ values, entry = (keyOf value, value) :=
  (mem_putAll keyOf h).resolve_left List.not_mem_nil

omit [LawfulBEq κ] in
/-- In a list that is made of values each value stands under its own key. -/
theorem map_keyOf_values_ofValues :
    (ofValues keyOf values).values.map keyOf = (ofValues keyOf values).map (·.1) := by
  rw [Keyed.values, List.map_map]
  refine List.map_congr_left fun entry hentry => ?_
  obtain ⟨value, -, rfl⟩ := exists_of_mem_ofValues hentry
  rfl

/-- The values of a list that is made of values have one key each. -/
theorem nodup_ofValues : ((ofValues keyOf values).values.map keyOf).Nodup := by
  rw [map_keyOf_values_ofValues]
  exact distinct_ofValues

omit [LawfulBEq κ] in
theorem mem_of_mem_values_ofValues {value : α} (h : value ∈ (ofValues keyOf values).values) :
    value ∈ values := by
  obtain ⟨entry, hentry, rfl⟩ := List.mem_map.mp h
  obtain ⟨value, hvalue, rfl⟩ := exists_of_mem_ofValues hentry
  exact hvalue

/-- Values with a key of their own each are all kept, in their order. -/
theorem values_ofValues_of_nodup (h : (values.map keyOf).Nodup) :
    (ofValues keyOf values).values = values := by
  have hnew : putAll keyOf values [] = [] ++ values.map fun value => (keyOf value, value) :=
    putAll_of_new keyOf h
  show (putAll keyOf values []).values = values
  rw [hnew, Keyed.values, List.nil_append, List.map_map]
  exact List.map_id _

/-- **What has been made of the values of a list is made again of its own values.** -/
theorem values_ofValues_again :
    (ofValues keyOf (ofValues keyOf values).values).values = (ofValues keyOf values).values :=
  values_ofValues_of_nodup nodup_ofValues

/-! ### The last value of each key, in the place of the first -/

variable (keyOf values) in
/-- Of values with keys those are kept that come last with their key, in the places in which
the keys come first. -/
structure LastInPlace (kept : List α) : Prop where
  /-- Every key once, in the order in which they first come. -/
  keys : kept.map keyOf = (values.map keyOf).eraseDups
  /-- None that is kept has its key again further on. -/
  last : ∀ value ∈ kept, ∃ before behind,
    values = before ++ value :: behind ∧ keyOf value ∉ behind.map keyOf

omit [LawfulBEq κ] in
theorem ofValues_concat {value : α} :
    ofValues keyOf (values ++ [value]) = put (keyOf value) value (ofValues keyOf values) := by
  rw [ofValues, List.foldl_append]
  rfl

theorem keys_ofValues :
    (ofValues keyOf values).map (·.1) = (values.map keyOf).eraseDups := by
  induction values using List.reverseRecOn with
  | nil => rfl
  | append_singleton values value ih =>
      have hkeys : ∀ key, key ∈ (ofValues keyOf values).map (·.1) ↔ key ∈ values.map keyOf :=
        fun key => by rw [ih, List.mem_eraseDups]
      rw [ofValues_concat, List.map_append, List.eraseDups_append, ← ih]
      by_cases hold : keyOf value ∈ values.map keyOf
      · have hnone : [keyOf value].removeAll (values.map keyOf) = [] := by
          simpa [List.removeAll] using hold
        rw [keys_put_of_old ((hkeys _).mpr hold), List.map_singleton, hnone]
        exact (List.append_nil _).symm
      · have hone : [keyOf value].removeAll (values.map keyOf) = [keyOf value] := by
          simpa [List.removeAll] using hold
        rw [put_of_new (hold ∘ (hkeys _).mp), List.map_append, List.map_singleton,
          List.map_singleton, hone]
        rfl

theorem exists_last_of_mem_ofValues {entry : κ × α} (h : entry ∈ ofValues keyOf values) :
    ∃ before behind, values = before ++ entry.2 :: behind ∧ entry.1 ∉ behind.map keyOf := by
  induction values using List.reverseRecOn with
  | nil => exact absurd h List.not_mem_nil
  | append_singleton values value ih =>
      rw [ofValues_concat] at h
      rcases mem_put_of_distinct distinct_ofValues h with rfl | ⟨hold, hother⟩
      · exact ⟨values, [], rfl, List.not_mem_nil⟩
      · obtain ⟨before, behind, hvalues, hlast⟩ := ih hold
        refine ⟨before, behind ++ [value], by rw [hvalues]; simp, ?_⟩
        rw [List.map_append, List.mem_append, not_or]
        exact ⟨hlast, fun h => hother (List.mem_singleton.mp h)⟩

/-- What stands under a key is the last value that has it. -/
theorem mem_ofValues_iff {key : κ} {value : α} :
    (key, value) ∈ ofValues keyOf values ↔ keyOf value = key ∧
      ∃ before behind, values = before ++ value :: behind ∧ keyOf value ∉ behind.map keyOf := by
  constructor
  · intro h
    obtain ⟨found, -, hentry⟩ := exists_of_mem_ofValues h
    obtain ⟨rfl, rfl⟩ := Prod.mk.inj hentry
    exact ⟨rfl, exists_last_of_mem_ofValues h⟩
  · rintro ⟨rfl, before, behind, rfl, hlast⟩
    have hput : (keyOf value, value) ∈ ofValues keyOf (before ++ [value]) := by
      rw [ofValues_concat]
      exact mem_put_self
    have hsplit : ofValues keyOf (before ++ value :: behind)
        = putAll keyOf behind (ofValues keyOf (before ++ [value])) := by
      rw [ofValues, ofValues, putAll, ← List.foldl_append, List.append_assoc]
      rfl
    rw [hsplit]
    exact mem_putAll_of_notMem keyOf hput hlast

/-- What is made of the values of a list keeps the last of each key in the place of the first. -/
theorem lastInPlace_ofValues : LastInPlace keyOf values (ofValues keyOf values).values where
  keys := map_keyOf_values_ofValues.trans keys_ofValues
  last := by
    intro value hvalue
    obtain ⟨entry, hentry, rfl⟩ := List.mem_map.mp hvalue
    obtain ⟨value, -, rfl⟩ := exists_of_mem_ofValues hentry
    exact exists_last_of_mem_ofValues hentry

end MediaSearch.Keyed
