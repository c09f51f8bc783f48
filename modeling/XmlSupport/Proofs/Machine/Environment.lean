import Mathlib.Data.List.Basic
import XmlSupport.Machine.Environment
import XmlSupport.Proofs.SortedMap
import XmlSupport.Proofs.Text.Runs

/-!
# Environments in the blocks they are handed on in

A program that is handed a block finds those variables in it that entries begin
with. Where a variable stands twice, the last entry counts when all are listed
and the first when one is looked up. A block that was made from an environment
holds that environment, unless a name in it cannot be told from a value.
-/

namespace XmlSupport.Machine.Environment.Block

variable {block : Block} {name value entry : Bytes}

/-- A name of one byte at least, with no equals sign behind it. -/
def IsName (name : Bytes) : Prop := ∃ first rest, name = first :: rest ∧ equalsSign ∉ rest

theorem binding?_eq_some_iff :
    binding? entry = some (name, value) ↔ IsName name ∧ entry = name ++ equalsSign :: value := by
  constructor
  · intro h
    unfold binding? at h
    split at h
    · cases h
    · rename_i first rest
      split at h
      · cases h
      · rename_i sign value' hrest
        cases h
        obtain ⟨-, -, -, hstop⟩ := dropWhile_eq_cons_iff.1 hrest
        obtain rfl : sign = equalsSign := by simpa using hstop
        refine ⟨⟨first, _, rfl, fun hmem => ?_⟩, ?_⟩
        · have hne := List.all_eq_true.1 List.all_takeWhile _ hmem
          simp at hne
        · rw [List.cons_append, ← hrest, List.takeWhile_append_dropWhile]
  · rintro ⟨⟨first, rest, rfl, hrest⟩, rfl⟩
    have hrun : ∀ b ∈ rest, (b != equalsSign) = true := by
      intro b hb
      rw [bne_iff_ne]
      rintro rfl
      exact hrest hb
    have hstop : (equalsSign :: value).head?.any (· != equalsSign) = false := rfl
    simp only [List.cons_append, binding?, dropWhile_append_of_head hrun hstop,
      takeWhile_append_of_head hrun hstop]

/-- Whether an entry is one of a variable shows in how it begins. -/
theorem exists_binding?_iff (hname : IsName name) :
    (∃ value, binding? entry = some (name, value)) ↔ name ++ [equalsSign] <+: entry := by
  constructor
  · rintro ⟨value, h⟩
    obtain ⟨-, rfl⟩ := binding?_eq_some_iff.1 h
    exact ⟨value, by simp⟩
  · rintro ⟨value, rfl⟩
    exact ⟨value, binding?_eq_some_iff.2 ⟨hname, by simp⟩⟩

theorem mem_names_iff (hname : IsName name) :
    name ∈ (block.filterMap binding?).map (·.1) ↔
      ∃ entry ∈ block, name ++ [equalsSign] <+: entry := by
  simp only [List.mem_map, List.mem_filterMap, ← exists_binding?_iff hname]
  constructor
  · rintro ⟨⟨_, value⟩, ⟨entry, hentry, hvalue⟩, rfl⟩
    exact ⟨entry, hentry, value, hvalue⟩
  · rintro ⟨entry, hentry, value, hvalue⟩
    exact ⟨(name, value), ⟨entry, hentry, hvalue⟩, rfl⟩

/-- Of the entries that begin with a variable, a snapshot shows the last. -/
theorem find?_snapshot_eq_some_iff (hname : IsName name) :
    block.snapshot.find? name = some value ↔
      ∃ front behind, block = front ++ (name ++ equalsSign :: value) :: behind ∧
        ∀ entry ∈ behind, ¬ name ++ [equalsSign] <+: entry := by
  rw [snapshot, SortedMap.find?_ofList_eq_some_iff]
  constructor
  · rintro ⟨_, _, hblock, hbehind⟩
    obtain ⟨front, more, rfl, -, hmore⟩ := List.filterMap_eq_append_iff.1 hblock
    obtain ⟨skipped, entry, behind, rfl, hskipped, hentry, rfl⟩ :=
      List.filterMap_eq_cons_iff.1 hmore
    obtain ⟨-, rfl⟩ := binding?_eq_some_iff.1 hentry
    refine ⟨front ++ skipped, behind, by simp, fun entry hmem hstarts => hbehind ?_⟩
    exact (mem_names_iff hname).2 ⟨entry, hmem, hstarts⟩
  · rintro ⟨front, behind, rfl, hbehind⟩
    have hentry : binding? (name ++ equalsSign :: value) = some (name, value) :=
      binding?_eq_some_iff.2 ⟨hname, rfl⟩
    refine ⟨front.filterMap binding?, behind.filterMap binding?, ?_, fun hmem => ?_⟩
    · rw [List.filterMap_append, List.filterMap_cons_some hentry]
    · obtain ⟨entry, hmem, hstarts⟩ := (mem_names_iff hname).1 hmem
      exact hbehind entry hmem hstarts

theorem lookUps_eq_snapshot (block : Block) : block.lookUps = snapshot block.reverse := rfl

/-- A look-up finds the first. -/
theorem find?_lookUps_eq_some_iff (hname : IsName name) :
    block.lookUps.find? name = some value ↔
      ∃ front behind, block = front ++ (name ++ equalsSign :: value) :: behind ∧
        ∀ entry ∈ front, ¬ name ++ [equalsSign] <+: entry := by
  rw [lookUps_eq_snapshot, find?_snapshot_eq_some_iff hname]
  constructor
  · rintro ⟨behind, front, hblock, hfront⟩
    refine ⟨front.reverse, behind.reverse, ?_, fun entry hmem => ?_⟩
    · rw [← List.reverse_reverse block, hblock]
      simp
    · exact hfront entry (List.mem_reverse.1 hmem)
  · rintro ⟨front, behind, rfl, hfront⟩
    refine ⟨behind.reverse, front.reverse, by simp, fun entry hmem => ?_⟩
    exact hfront entry (List.mem_reverse.1 hmem)

/-- The block of an environment holds just its variables, if their names can be told from values. -/
theorem snapshot_ofEnvironment {env : Environment} (h : ∀ name ∈ env.keys, IsName name) :
    (ofEnvironment env).snapshot = env := by
  have hbindings : (ofEnvironment env).filterMap binding? = env.entries := by
    have hentry : ∀ e ∈ env.entries, binding? (e.1 ++ equalsSign :: e.2) = some (id e) :=
      fun e he => binding?_eq_some_iff.2 ⟨h e.1 (List.mem_map_of_mem he), rfl⟩
    rw [ofEnvironment, List.filterMap_map]
    exact (List.filterMap_eq_map_iff_forall_eq_some.2 hentry).trans (List.map_id _)
  rw [snapshot, hbindings, SortedMap.ofList_entries]

end XmlSupport.Machine.Environment.Block
