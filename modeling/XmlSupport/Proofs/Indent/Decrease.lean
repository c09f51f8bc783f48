import XmlSupport.Proofs.Indent.Marks
import XmlSupport.Proofs.Indent.Published

/-!
# The decrease rule is the published pattern

A search may give back characters of a name until a word begins or ends behind
what is left of it. Main statement: such a place exists exactly when the name
holds a letter, a digit or an underscore, so that the rule, which looks for one,
and the pattern outdent the same lines.
-/

namespace XmlSupport.Indent

open Pattern Pattern.Node

/-- A name that can be cut at a word boundary in front of some `>`. -/
def CutsAtBoundary (text : List Char) : Prop :=
  ∃ name behind, text = name ++ behind ∧ name ≠ [] ∧ (∀ c ∈ name, isNameChar c = true) ∧
    (name.getLast?.any isWordChar != behind.head?.any isWordChar) = true ∧ '>' ∈ behind

/-- Hyphens and dots, and then a word character in front of some `>`. -/
def HoldsWordChar (text : List Char) : Prop :=
  ∃ marks c rest, text = marks ++ c :: rest ∧ (∀ d ∈ marks, d = '-' ∨ d = '.') ∧
    isWordChar c = true ∧ '>' ∈ rest

theorem mark_or_isWordChar {c : Char} (h : isNameChar c = true) :
    (c = '-' ∨ c = '.') ∨ isWordChar c = true := by
  simp only [isNameChar, Bool.or_eq_true, decide_eq_true_eq] at h
  rcases h with (h | h) | h
  · exact Or.inr h
  · exact Or.inl (Or.inl h)
  · exact Or.inl (Or.inr h)

/-- The first character of a name that is no mark is a word character. If all
are marks, a word can only begin behind the name. -/
theorem CutsAtBoundary.holdsWordChar {text : List Char} (h : CutsAtBoundary text) :
    HoldsWordChar text := by
  obtain ⟨name, behind, rfl, hne, hname, hboundary, hclose⟩ := h
  cases hdrop : name.dropWhile (fun c => c = '-' || c = '.') with
  | cons c more =>
    obtain ⟨marks, rfl, hmarks, hc⟩ := dropWhile_eq_cons_iff.1 hdrop
    have hword : isWordChar c = true := by
      rcases mark_or_isWordChar (hname c (by simp)) with hmark | hword
      · exact absurd hc (by simpa [← not_or] using hmark)
      · exact hword
    exact ⟨marks, c, more ++ behind, by simp, by simpa using hmarks, hword,
      List.mem_append_right more hclose⟩
  | nil =>
    have hmarks : ∀ d ∈ name, d = '-' ∨ d = '.' := by
      simpa [List.dropWhile_eq_nil_iff] using hdrop
    have hlast : name.getLast?.any isWordChar = false := by
      rw [List.getLast?_eq_some_getLast hne]
      rcases hmarks _ (List.getLast_mem hne) with hd | hd
      · rw [hd]; rfl
      · rw [hd]; rfl
    cases behind with
    | nil => exact absurd hclose List.not_mem_nil
    | cons c rest =>
      have hc : isWordChar c = true := by simpa [hlast] using hboundary
      have hne : '>' ≠ c := fun h => absurd (h ▸ hc) (by decide)
      exact ⟨name, c, rest, rfl, hmarks, hc, (List.mem_cons.1 hclose).resolve_left hne⟩

/-- The run of word characters from the first one on ends at a boundary. -/
theorem HoldsWordChar.cutsAtBoundary {text : List Char} (h : HoldsWordChar text) :
    CutsAtBoundary text := by
  obtain ⟨marks, c, rest, rfl, hmarks, hc, hclose⟩ := h
  let word := c :: rest.takeWhile isWordChar
  have hword : ∀ d ∈ word, isWordChar d = true :=
    List.forall_mem_cons.2 ⟨hc, List.all_eq_true.1 List.all_takeWhile⟩
  have hlast : (marks ++ word).getLast?.any isWordChar = true := by
    have hne : word ≠ [] := List.cons_ne_nil _ _
    rw [List.getLast?_append, List.getLast?_eq_some_getLast hne, Option.some_or]
    exact hword _ (List.getLast_mem hne)
  refine ⟨marks ++ word, rest.dropWhile isWordChar, ?_, ?_, ?_, ?_, ?_⟩
  · simp [word]
  · simp [word]
  · intro d hd
    rcases List.mem_append.1 hd with hd | hd
    · rcases hmarks d hd with rfl | rfl
      · decide
      · decide
    · exact isNameChar_of_isWordChar (hword d hd)
  · rw [hlast, head?_dropWhile_any]
    rfl
  · have hsplit := hclose
    rw [← List.takeWhile_append_dropWhile (p := isWordChar) (l := rest)] at hsplit
    refine (List.mem_append.1 hsplit).resolve_left fun hmem => ?_
    exact absurd (hword _ (List.mem_cons_of_mem c hmem)) (by decide)

theorem cutsAtBoundary_iff {text : List Char} : CutsAtBoundary text ↔ HoldsWordChar text :=
  ⟨CutsAtBoundary.holdsWordChar, HoldsWordChar.cutsAtBoundary⟩

theorem closingTagNode_leadsTo {s : Cursor} :
    closingTagNode.LeadsTo s (fun _ => True) ↔
      ∃ text, s.back = '<' :: '/' :: text ∧ CutsAtBoundary text := by
  rw [closingTagNode, leadsTo_behindText]
  simp only [leadsTo_oneOrMore, leadsTo_sequence_cons (n := .wordBoundary), leadsTo_wordBoundary,
    leadsTo_upTo, leadsTo_sequence_nil, and_true, admits_nameClass]
  constructor
  · rintro ⟨_, hback, name, behind, rfl, hne, hname, hboundary, inside, rest, rfl, -⟩
    rw [Cursor.isAtWordBoundary_behind hne] at hboundary
    exact ⟨_, hback, name, _, rfl, hne, hname, hboundary, by simp⟩
  · rintro ⟨_, hback, name, behind, rfl, hne, hname, hboundary, hclose⟩
    obtain ⟨inside, rest, hbehind, hinside⟩ := List.eq_append_cons_of_mem hclose
    refine ⟨_, hback, name, behind, rfl, hne, hname, ?_, inside, rest, hbehind, hinside⟩
    rw [Cursor.isAtWordBoundary_behind hne]
    exact hboundary

theorem closingTagNode_leadsTo_iff {s : Cursor} :
    closingTagNode.LeadsTo s (fun _ => True) ↔ closesTagHere s.back = true := by
  simp only [closingTagNode_leadsTo, cutsAtBoundary_iff, closesTagHere_iff, HoldsWordChar]
  constructor
  · rintro ⟨_, hback, marks, c, rest, rfl, h⟩
    exact ⟨marks, c, rest, hback, h⟩
  · rintro ⟨marks, c, rest, hback, h⟩
    exact ⟨_, hback, marks, c, rest, rfl, h⟩

/-- Whether a text begins with what outdents its line. -/
def ClosesHere (cs : List Char) : Prop :=
  closesTagHere cs = true ∨ "-->".toList <+: cs ∨ ['\x7d'] <+: cs

theorem isSome_after?_iff {lead cs : List Char} : (after? lead cs).isSome = true ↔ lead <+: cs := by
  rw [Option.isSome_iff_exists]
  simp only [after?_eq_some_iff]
  exact ⟨fun ⟨rest, h⟩ => ⟨rest, h.symm⟩, fun ⟨rest, h⟩ => ⟨rest, h.symm⟩⟩

theorem decreases_iff {line : List Char} :
    decreases line = true ↔ ClosesHere (line.dropWhile Text.isBlank) := by
  simp only [decreases, ClosesHere, Bool.or_eq_true, isSome_after?_iff, or_assoc]

/-- What outdents a line begins with no white space. -/
theorem ClosesHere.head?_any_isBlank {cs : List Char} (h : ClosesHere cs) :
    cs.head?.any Text.isBlank = false := by
  rcases h with h | ⟨rest, rfl⟩ | ⟨rest, rfl⟩
  · obtain ⟨marks, c, rest, rfl, -⟩ := closesTagHere_iff.1 h
    rfl
  · rfl
  · rfl

theorem decreaseNode_leadsTo {s : Cursor} :
    decreaseNode.LeadsTo s (fun _ => True) ↔
      s.front = [] ∧ ∃ run rest, s.back = run ++ rest ∧
        (∀ c ∈ run, Text.isBlank c = true) ∧ ClosesHere rest := by
  simp only [decreaseNode, leadsTo_sequence_cons, leadsTo_start, leadsTo_many, leadsTo_group,
    leadsTo_either, leadsTo_text, leadsTo_sequence_nil, admits_blankClass,
    closingTagNode_leadsTo_iff, ClosesHere]

/-- The blanks that the pattern passes over are all that the line begins with. -/
theorem decreaseNode_leadsTo_start_iff {line : List Char} :
    decreaseNode.LeadsTo ⟨[], line, []⟩ (fun _ => True) ↔ decreases line = true := by
  rw [decreaseNode_leadsTo, decreases_iff]
  constructor
  · rintro ⟨-, run, rest, rfl, hrun, hcloses⟩
    rwa [dropWhile_append_of_head hrun hcloses.head?_any_isBlank]
  · intro hcloses
    exact ⟨rfl, line.takeWhile Text.isBlank, line.dropWhile Text.isBlank,
      List.takeWhile_append_dropWhile.symm, List.all_eq_true.1 List.all_takeWhile, hcloses⟩

/-- The rule outdents just the lines at whose start the published pattern
matches, and a search along the line finds no others. -/
theorem decreases_eq_standard (line : List Char) :
    decreases line = Configuration.standard.decrease.isFoundAtStartOf line ∧
      decreases line = Configuration.standard.decreases line := by
  constructor
  · rw [Bool.eq_iff_iff, ← decreaseNode_leadsTo_start_iff]
    exact (isFoundAtStartOf_iff decreasePattern_node? rfl).symm
  · rw [Bool.eq_iff_iff, ← decreaseNode_leadsTo_start_iff]
    refine Iff.trans ?_ (isFoundIn_iff decreasePattern_node? rfl).symm
    constructor
    · intro h
      exact ⟨[], line, rfl, h⟩
    · rintro ⟨front, back, rfl, h⟩
      obtain ⟨hfront, -⟩ := decreaseNode_leadsTo.1 h
      rw [List.reverse_eq_nil_iff.1 hfront] at h ⊢
      exact h

end XmlSupport.Indent
