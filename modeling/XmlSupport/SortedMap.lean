import XmlSupport.KeyOrder

/-!
# Maps in ascending key order

Environments, command registries and the objects of a document are shown in
the order of their keys. A sorted map is the list of its entries in that
order, each key once; inserting under a present key replaces the value.
-/

namespace XmlSupport

namespace Entries

variable {κ α : Type} [LT κ]

def Ascending (entries : List (κ × α)) : Prop := entries.Pairwise (·.1 < ·.1)

theorem ascending_nil : Ascending ([] : List (κ × α)) := List.Pairwise.nil

variable [DecidableLT κ]

def insert (k : κ) (v : α) : List (κ × α) → List (κ × α)
  | [] => [(k, v)]
  | (k', v') :: rest =>
    if k < k' then (k, v) :: (k', v') :: rest
    else if k' < k then (k', v') :: insert k v rest
    else (k', v) :: rest

def find? (k : κ) : List (κ × α) → Option α
  | [] => none
  | (k', v') :: rest =>
    if k < k' then none else if k' < k then find? k rest else some v'

/-- Later entries win over earlier ones with the same key. -/
def ofList (entries : List (κ × α)) : List (κ × α) :=
  entries.foldl (fun m e => insert e.1 e.2 m) []

theorem key_of_mem_insert {k : κ} {v : α} {m : List (κ × α)} {e : κ × α}
    (h : e ∈ insert k v m) : e.1 = k ∨ ∃ e' ∈ m, e'.1 = e.1 := by
  induction m with
  | nil => simp_all [insert]
  | cons head rest ih =>
    obtain ⟨k', v'⟩ := head
    simp only [insert] at h
    split at h
    · rcases List.mem_cons.1 h with h | h
      · exact Or.inl (by rw [h])
      · exact Or.inr ⟨e, h, rfl⟩
    · split at h
      · rcases List.mem_cons.1 h with h | h
        · exact Or.inr ⟨(k', v'), by simp, by rw [h]⟩
        · rcases ih h with h | ⟨e', h', he⟩
          · exact Or.inl h
          · exact Or.inr ⟨e', List.mem_cons_of_mem _ h', he⟩
      · rcases List.mem_cons.1 h with h | h
        · exact Or.inr ⟨(k', v'), by simp, by rw [h]⟩
        · exact Or.inr ⟨e, List.mem_cons_of_mem _ h, rfl⟩

variable [KeyOrder κ]

theorem ascending_insert {k : κ} {v : α} {m : List (κ × α)} (h : Ascending m) :
    Ascending (insert k v m) := by
  induction m with
  | nil => exact List.pairwise_singleton _ _
  | cons head rest ih =>
    obtain ⟨k', v'⟩ := head
    obtain ⟨hall, hrest⟩ := List.pairwise_cons.1 h
    simp only [insert]
    split
    · rename_i hlt
      refine List.pairwise_cons.2 ⟨fun e he => ?_, h⟩
      rcases List.mem_cons.1 he with he | he
      · rw [he]; exact hlt
      · exact KeyOrder.trans hlt (hall e he)
    · split
      · rename_i hlt
        refine List.pairwise_cons.2 ⟨fun e he => ?_, ih hrest⟩
        rcases key_of_mem_insert he with he | ⟨e', he', hk⟩
        · show k' < e.1
          rw [he]; exact hlt
        · show k' < e.1
          rw [← hk]; exact hall e' he'
      · exact List.pairwise_cons.2 ⟨hall, hrest⟩

theorem find?_insert_self (k : κ) (v : α) (m : List (κ × α)) :
    find? k (insert k v m) = some v := by
  induction m with
  | nil => simp [insert, find?, KeyOrder.irrefl]
  | cons head rest ih =>
    obtain ⟨k', v'⟩ := head
    simp only [insert]
    split
    · simp [find?, KeyOrder.irrefl]
    · rename_i hle
      split
      · rename_i hlt
        simp [find?, hle, hlt, ih]
      · rename_i hle'
        simp [find?, hle, hle']

theorem find?_insert_of_ne {k k' : κ} (h : k' ≠ k) (v : α) {m : List (κ × α)}
    (hm : Ascending m) : find? k' (insert k v m) = find? k' m := by
  induction m with
  | nil =>
    simp only [insert, find?]
    split
    · rfl
    · rename_i hle
      split
      · rfl
      · rename_i hle'
        exact absurd (KeyOrder.eq_of_not_lt hle hle') h
  | cons head rest ih =>
    obtain ⟨l, w⟩ := head
    obtain ⟨hall, hrest⟩ := List.pairwise_cons.1 hm
    simp only [insert]
    split
    · rename_i hkl
      simp only [find?]
      split
      · rename_i hlt
        rw [if_pos (KeyOrder.trans hlt hkl)]
      · rename_i hle
        split
        · rfl
        · rename_i hle'
          exact absurd (KeyOrder.eq_of_not_lt hle hle') h
    · rename_i hkl
      split
      · simp only [find?, ih hrest]
      · rename_i hlk
        obtain rfl := KeyOrder.eq_of_not_lt hkl hlk
        simp only [find?]
        split
        · rfl
        · rename_i hle
          split
          · rfl
          · rename_i hle'
            exact absurd (KeyOrder.eq_of_not_lt hle hle') h

theorem find?_eq_some_iff {k : κ} {v : α} {m : List (κ × α)} (hm : Ascending m) :
    find? k m = some v ↔ (k, v) ∈ m := by
  induction m with
  | nil => simp [find?]
  | cons head rest ih =>
    obtain ⟨l, w⟩ := head
    obtain ⟨hall, hrest⟩ := List.pairwise_cons.1 hm
    -- A key that stands behind the head is greater than the head's.
    have hafter : ∀ v, (k, v) ∈ rest → l < k := fun v hv => hall (k, v) hv
    rw [find?, List.mem_cons, Prod.mk.injEq]
    split
    · rename_i hkl
      refine iff_of_false nofun ?_
      rintro (⟨rfl, -⟩ | hmem)
      · exact KeyOrder.irrefl k hkl
      · exact KeyOrder.irrefl k (KeyOrder.trans hkl (hafter v hmem))
    · rename_i hkl
      split
      · rename_i hlk
        rw [ih hrest]
        constructor
        · exact Or.inr
        · rintro (⟨rfl, -⟩ | hmem)
          · exact absurd hlk (KeyOrder.irrefl k)
          · exact hmem
      · rename_i hlk
        obtain rfl := KeyOrder.eq_of_not_lt hkl hlk
        constructor
        · intro h
          exact .inl ⟨rfl, (Option.some.inj h).symm⟩
        · rintro (⟨-, rfl⟩ | hmem)
          · rfl
          · exact absurd (hafter v hmem) (KeyOrder.irrefl k)

theorem insert_of_forall_lt {k : κ} (v : α) {m : List (κ × α)} (h : ∀ e ∈ m, e.1 < k) :
    insert k v m = m ++ [(k, v)] := by
  induction m with
  | nil => rfl
  | cons head rest ih =>
    obtain ⟨l, w⟩ := head
    obtain ⟨hlt, hrest⟩ := List.forall_mem_cons.1 h
    have hle : ¬k < l := fun hkl => KeyOrder.irrefl k (KeyOrder.trans hkl hlt)
    rw [insert, if_neg hle, if_pos hlt, ih hrest, List.cons_append]

theorem foldl_insert_of_ascending {front m : List (κ × α)} (h : Ascending (front ++ m)) :
    m.foldl (fun m e => insert e.1 e.2 m) front = front ++ m := by
  induction m generalizing front with
  | nil => rw [List.foldl_nil, List.append_nil]
  | cons e rest ih =>
    have hlt : ∀ e' ∈ front, e'.1 < e.1 := fun e' he' =>
      (List.pairwise_append.1 h).2.2 e' he' e List.mem_cons_self
    rw [List.foldl_cons, insert_of_forall_lt e.2 hlt, ih (by simpa using h), List.append_assoc,
      List.singleton_append]

/-- Entries that ascend already are kept as they are. -/
theorem ofList_of_ascending {m : List (κ × α)} (h : Ascending m) : ofList m = m :=
  foldl_insert_of_ascending h

end Entries

/-- A finite map whose entries stand in ascending order of their keys. -/
structure SortedMap (κ α : Type) [LT κ] where
  entries : List (κ × α)
  ascending : Entries.Ascending entries

namespace SortedMap

variable {κ α : Type} [LT κ] [DecidableLT κ] [KeyOrder κ]

def empty : SortedMap κ α := ⟨[], Entries.ascending_nil⟩

def insert (m : SortedMap κ α) (k : κ) (v : α) : SortedMap κ α :=
  ⟨Entries.insert k v m.entries, Entries.ascending_insert m.ascending⟩

def find? (m : SortedMap κ α) (k : κ) : Option α := Entries.find? k m.entries

def keys (m : SortedMap κ α) : List κ := m.entries.map (·.1)

def contains (m : SortedMap κ α) (k : κ) : Bool := (m.find? k).isSome

theorem find?_insert [DecidableEq κ] (m : SortedMap κ α) (k k' : κ) (v : α) :
    (m.insert k v).find? k' = if k' = k then some v else m.find? k' := by
  split
  · rename_i h
    rw [h]
    exact Entries.find?_insert_self k v m.entries
  · rename_i h
    exact Entries.find?_insert_of_ne h v m.ascending

theorem mem_keys_iff {m : SortedMap κ α} {k : κ} : k ∈ m.keys ↔ ∃ v, m.find? k = some v := by
  simp only [keys, List.mem_map, find?, Entries.find?_eq_some_iff m.ascending]
  constructor
  · rintro ⟨⟨k, v⟩, hmem, rfl⟩
    exact ⟨v, hmem⟩
  · rintro ⟨v, hmem⟩
    exact ⟨(k, v), hmem, rfl⟩

theorem contains_iff {m : SortedMap κ α} {k : κ} : m.contains k = true ↔ k ∈ m.keys := by
  rw [mem_keys_iff, contains, Option.isSome_iff_exists]

/-- Later entries win over earlier ones with the same key. -/
def ofList (entries : List (κ × α)) : SortedMap κ α :=
  entries.foldl (fun m e => m.insert e.1 e.2) empty

end SortedMap
end XmlSupport
