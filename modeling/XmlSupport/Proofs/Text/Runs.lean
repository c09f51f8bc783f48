import Mathlib.Data.List.TakeWhile

/-!
# Runs of characters or bytes

A run is taken as long as it goes, so it is taken whole when what stands behind it
does not go on with it.
-/

namespace XmlSupport

variable {α : Type} {d : α} {cs rest : List α} {p : α → Bool}

/-- A run ends at the first that does not belong to it. -/
theorem dropWhile_eq_cons_iff :
    cs.dropWhile p = d :: rest ↔
      ∃ run, cs = run ++ d :: rest ∧ (∀ c ∈ run, p c = true) ∧ p d = false := by
  constructor
  · intro h
    have hd := List.head?_dropWhile_not p cs
    rw [h] at hd
    exact ⟨cs.takeWhile p, by rw [← h, List.takeWhile_append_dropWhile],
      List.all_eq_true.1 List.all_takeWhile, by simpa using hd⟩
  · rintro ⟨run, rfl, hrun, hd⟩
    rw [List.dropWhile_append_of_pos hrun, List.dropWhile_cons_of_neg (by simp [hd])]

/-- A run and what stands behind it, which does not go on with the run. -/
theorem takeWhile_append_of_head {run : List α} (hrun : ∀ c ∈ run, p c = true)
    (hrest : rest.head?.any p = false) : (run ++ rest).takeWhile p = run := by
  rw [List.takeWhile_append_of_pos hrun]
  cases rest with
  | nil => exact List.append_nil run
  | cons d rest =>
    have hd : p d = false := hrest
    rw [List.takeWhile_cons_of_neg (by simp [hd]), List.append_nil]

theorem dropWhile_append_of_head {run : List α} (hrun : ∀ c ∈ run, p c = true)
    (hrest : rest.head?.any p = false) : (run ++ rest).dropWhile p = rest := by
  rw [List.dropWhile_append_of_pos hrun]
  cases rest with
  | nil => rfl
  | cons d rest =>
    have hd : p d = false := hrest
    rw [List.dropWhile_cons_of_neg (by simp [hd])]

theorem head?_dropWhile_any : (cs.dropWhile p).head?.any p = false := by
  have h := List.head?_dropWhile_not p cs
  cases hd : (cs.dropWhile p).head? with
  | none => rfl
  | some d => simpa [hd] using h

end XmlSupport
