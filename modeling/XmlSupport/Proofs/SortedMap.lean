import XmlSupport.SortedMap

/-!
# Maps made from lists of entries

Of several entries under one key the last counts, and a map is made again from
its own entries.
-/

namespace XmlSupport.SortedMap

variable {κ α : Type} [LT κ] [DecidableLT κ] [KeyOrder κ] {entries : List (κ × α)} {k : κ} {v : α}

theorem entries_foldl_insert (entries : List (κ × α)) (m : SortedMap κ α) :
    (entries.foldl (fun m e => m.insert e.1 e.2) m).entries =
      entries.foldl (fun m e => Entries.insert e.1 e.2 m) m.entries := by
  induction entries generalizing m with
  | nil => rfl
  | cons e entries ih => exact ih (m.insert e.1 e.2)

omit [DecidableLT κ] [KeyOrder κ] in
theorem eq_of_entries {m m' : SortedMap κ α} (h : m.entries = m'.entries) : m = m' := by
  cases m
  cases m'
  cases h
  rfl

theorem ofList_entries (m : SortedMap κ α) : ofList m.entries = m := by
  apply eq_of_entries
  calc (ofList m.entries).entries
      = Entries.ofList m.entries := entries_foldl_insert m.entries empty
    _ = m.entries := Entries.ofList_of_ascending m.ascending

variable [DecidableEq κ]

theorem find?_foldl_insert_of_not_mem (h : k ∉ entries.map (·.1)) (m : SortedMap κ α) :
    (entries.foldl (fun m e => m.insert e.1 e.2) m).find? k = m.find? k := by
  induction entries generalizing m with
  | nil => rfl
  | cons e entries ih =>
    rw [List.map_cons, List.mem_cons, not_or] at h
    rw [List.foldl_cons, ih h.2, find?_insert, if_neg h.1]

theorem find?_foldl_insert_of_last {front behind : List (κ × α)} (h : k ∉ behind.map (·.1))
    (m : SortedMap κ α) :
    ((front ++ (k, v) :: behind).foldl (fun m e => m.insert e.1 e.2) m).find? k = some v := by
  rw [List.foldl_append, List.foldl_cons, find?_foldl_insert_of_not_mem h, find?_insert,
    if_pos rfl]

omit [LT κ] [DecidableLT κ] [KeyOrder κ] in
theorem exists_last_of_mem (h : k ∈ entries.map (·.1)) :
    ∃ front v behind, entries = front ++ (k, v) :: behind ∧ k ∉ behind.map (·.1) := by
  induction entries with
  | nil => cases h
  | cons e entries ih =>
    by_cases hmore : k ∈ entries.map (·.1)
    · obtain ⟨front, v, behind, rfl, hbehind⟩ := ih hmore
      exact ⟨e :: front, v, behind, rfl, hbehind⟩
    · obtain rfl : k = e.1 := (List.mem_cons.1 h).resolve_right hmore
      exact ⟨[], e.2, entries, rfl, hmore⟩

/-- The last entry under a key counts. -/
theorem find?_ofList_eq_some_iff : (ofList entries).find? k = some v ↔
    ∃ front behind, entries = front ++ (k, v) :: behind ∧ k ∉ behind.map (·.1) := by
  constructor
  · intro h
    by_cases hmem : k ∈ entries.map (·.1)
    · obtain ⟨front, v', behind, rfl, hbehind⟩ := exists_last_of_mem hmem
      rw [ofList, find?_foldl_insert_of_last hbehind, Option.some_inj] at h
      exact ⟨front, behind, by rw [h], hbehind⟩
    · rw [ofList, find?_foldl_insert_of_not_mem hmem] at h
      cases h
  · rintro ⟨front, behind, rfl, hbehind⟩
    exact find?_foldl_insert_of_last hbehind empty

end XmlSupport.SortedMap
