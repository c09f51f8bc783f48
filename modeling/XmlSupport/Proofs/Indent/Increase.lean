import XmlSupport.Proofs.Indent.Marks
import XmlSupport.Proofs.Indent.Published

/-!
# The increase rule is the published pattern

On a line without line ends the published pattern is found exactly where the
rule sees a tag, a comment or a brace left open. A search may try shorter names
and later ends of a tag, but what has to follow a name leaves it one choice: the
whole run of name characters, and the first `>`.
-/

namespace XmlSupport.Indent

open Pattern Pattern.Node

variable {s : Cursor} {P : Cursor → Prop}

theorem notSelfClosing_leadsTo :
    notSelfClosing.LeadsTo s P ↔
      (¬ ['?'] <+: s.back ∧
        ∀ inside behind, s.back = inside ++ '/' :: '>' :: behind → '>' ∈ inside) ∧ P s := by
  rw [notSelfClosing, leadsTo_ahead_false, leadsTo_either, leadsTo_text]
  refine and_congr_left fun _ => ?_
  rw [not_or]
  refine and_congr_right fun _ => ?_
  simp only [leadsTo_sequence_cons, leadsTo_many, leadsTo_literal, leadsTo_sequence_nil, and_true,
    CharClass.admits_allBut, List.mem_singleton]
  constructor
  · intro h inside behind hback
    by_cases hclose : '>' ∈ inside
    · exact hclose
    · exact absurd ⟨inside, _, hback, fun c hc hcm => hclose (hcm ▸ hc), _, rfl, behind, rfl⟩ h
  · rintro h ⟨inside, _, hback, hinside, _, rfl, behind, rfl⟩
    exact hinside '>' (h inside behind hback) rfl

theorem nameEnd_leadsTo : nameEnd.LeadsTo s P ↔ endsName s.back = true ∧ P s := by
  rw [nameEnd, leadsTo_ahead_true rfl, leadsTo_either, leadsTo_text]
  refine and_congr_left fun _ => ?_
  simp only [leadsTo_sequence_cons, leadsTo_one, leadsTo_sequence_nil, and_true, admits_blankClass]
  cases h : s.back with
  | nil => simp [endsName]
  | cons c rest =>
    rw [endsName, Bool.or_eq_true, decide_eq_true_eq, or_comm (a := c = '>')]
    refine or_congr ?_ ?_
    · simp
    · simp [eq_comm]

theorem notClosedBehind_leadsTo {name : List Char} (hline : ∀ c ∈ s.back, c ∉ lineEnds)
    (hname : s.groups.lookup 1 = some name) :
    notClosedBehind.LeadsTo s P ↔ ¬ closingTag name <:+: s.back ∧ P s := by
  rw [notClosedBehind, leadsTo_ahead_false]
  refine and_congr_left fun _ => not_congr (leadsTo_dots hline fun t ht => ?_)
  have hlookup : (t.groups.lookup 1).getD [] = name := by rw [ht, hname]; rfl
  change (sequence [literal '<', literal '/', .reference 1, literal '>']).LeadsTo t _ ↔ _
  simp only [leadsTo_sequence_cons, leadsTo_literal, leadsTo_reference, leadsTo_sequence_nil,
    and_true, hlookup]
  constructor
  · rintro ⟨_, hback, _, rfl, _, rfl, rest, rfl⟩
    exact ⟨rest, by rw [hback]; simp [closingTag]⟩
  · rintro ⟨rest, hback⟩
    refine ⟨'/' :: (name ++ '>' :: rest), ?_, _, rfl, _, rfl, rest, rfl⟩
    rw [← hback]
    simp [closingTag]

theorem isWordChar_eq_false_of_not_isNameChar {c : Char} (h : isNameChar c = false) :
    isWordChar c = false := by
  simp only [isNameChar, Bool.or_eq_false_iff] at h
  exact h.1.1

theorem head?_any_isWordChar_of_endsName {text : List Char} (h : endsName text = true) :
    text.head?.any isWordChar = false := by
  cases text with
  | nil => rfl
  | cons c text =>
    simp only [endsName, Bool.or_eq_true, decide_eq_true_eq] at h
    rcases h with rfl | h
    · rfl
    · exact isWordChar_eq_false_of_not_isNameChar (isNameChar_eq_false_of_isBlank h)

/-- Behind a name there is no word, so that one has to end with it. -/
theorem boundary_iff {name text : List Char} (h : endsName text = true) :
    (name.getLast?.any isWordChar != text.head?.any isWordChar) = true ↔
      name.getLast?.any isWordChar = true := by
  rw [head?_any_isWordChar_of_endsName h, Bool.bne_false]

/-- A tag that ends at its first `>` closes itself only right there. -/
theorem OpensTag.mem_of_selfClosing {rest name attributes behind inside behind' : List Char}
    (h : OpensTag rest name attributes behind) (heq : rest = inside ++ '/' :: '>' :: behind') :
    '>' ∈ inside := by
  by_contra hinside
  have hcut : cut? '>' rest = some (inside ++ ['/'], behind') :=
    cut?_eq_some_iff.2 ⟨by rw [heq, List.append_assoc]; rfl, by simpa using hinside⟩
  rw [h.cut?_eq] at hcut
  obtain ⟨heq', -⟩ := Prod.mk.inj (Option.some.inj hcut)
  exact h.getLast?_ne (by rw [heq', List.getLast?_concat])

theorem openTagNode_leadsTo (hline : ∀ c ∈ s.back, c ∉ lineEnds) :
    openTagNode.LeadsTo s (fun _ => True) ↔ opensTagHere s.back = true := by
  rw [openTagNode, leadsTo_behindText, opensTagHere_iff]
  simp only [leadsTo_sequence_cons (n := notSelfClosing), notSelfClosing_leadsTo,
    leadsTo_sequence_cons (n := .group 1 _), leadsTo_group_oneOrMore, admits_nameClass,
    leadsTo_sequence_cons (n := nameEnd), nameEnd_leadsTo,
    leadsTo_sequence_cons (n := .wordBoundary), leadsTo_wordBoundary, leadsTo_upTo,
    leadsTo_sequence_cons (n := notClosedBehind)]
  constructor
  · rintro ⟨rest, hback, ⟨-, hself⟩, name, _, rfl, hne, hname, hend, hboundary, attributes, behind,
      rfl, hattributes, hbehind⟩
    rw [Cursor.isAtWordBoundary_behind hne] at hboundary
    refine ⟨name, attributes, behind, _, hback, ⟨rfl, hname, (boundary_iff hend).1 hboundary,
      (endsName_iff hattributes _).1 hend, hattributes, ?_⟩, ?_⟩
    · intro hlast
      obtain ⟨inside, rfl⟩ := List.getLast?_eq_some_iff.1 hlast
      rcases List.mem_append.1 (hself (name ++ inside) behind (by simp)) with hmem | hmem
      · exact absurd (hname _ hmem) (by decide)
      · exact hattributes (List.mem_append_left _ hmem)
    · refine ((notClosedBehind_leadsTo ?_ rfl).1 hbehind).1
      exact fun c hc => hline c (by rw [hback]; simp [hc])
  · rintro ⟨name, attributes, behind, rest, hback, hopens, hbehind⟩
    have hend := (endsName_iff hopens.staysInside behind).2 hopens.startsBlank
    have hquestion : ¬ ['?'] <+: rest := by
      rintro ⟨text, rfl⟩
      exact hopens.head?_ne rfl
    refine ⟨rest, hback, ⟨hquestion, fun _ _ => hopens.mem_of_selfClosing⟩, name, _,
      hopens.eq_append, hopens.name_ne_nil, hopens.isName, hend, ?_, attributes, behind, rfl,
      hopens.staysInside,
      (notClosedBehind_leadsTo ?_ rfl).2 ⟨hbehind, leadsTo_sequence_nil.2 trivial⟩⟩
    · rw [Cursor.isAtWordBoundary_behind hopens.name_ne_nil]
      exact (boundary_iff hend).2 hopens.endsInWord
    · exact fun c hc => hline c (by rw [hback, hopens.eq_append]; simp [hc])

theorem openCommentNode_leadsTo (hline : ∀ c ∈ s.back, c ∉ lineEnds) :
    openCommentNode.LeadsTo s (fun _ => True) ↔ opensCommentHere s.back = true := by
  rw [openCommentNode, leadsTo_behindText, opensCommentHere_iff]
  simp only [leadsTo_sequence_cons, leadsTo_ahead_false, leadsTo_sequence_nil, and_true]
  refine exists_congr fun rest => and_congr_right fun hback => not_congr ?_
  refine leadsTo_dots (fun c hc => hline c ?_) fun t _ => leadsTo_text
  rw [hback]
  exact List.mem_append_right _ hc

theorem openBraceNode_leadsTo :
    openBraceNode.LeadsTo s (fun _ => True) ↔ opensBraceHere s.back = true := by
  rw [openBraceNode, leadsTo_behindText, opensBraceHere_iff]
  simp only [leadsTo_sequence_cons, leadsTo_many, leadsTo_finish, leadsTo_sequence_nil, and_true,
    CharClass.admits_allBut]
  constructor
  · rintro ⟨rest, hback, run, _, hrest, hrun, rfl⟩
    rw [List.append_nil] at hrest
    exact ⟨rest, hback, hrest ▸ hrun⟩
  · rintro ⟨rest, hback, hrest⟩
    exact ⟨rest, hback, rest, [], (List.append_nil rest).symm, hrest, rfl⟩

theorem increases_iff {line : List Char} :
    increases line = true ↔ ∃ front back, line = front ++ back ∧
      (opensTagHere back = true ∨ opensCommentHere back = true ∨ opensBraceHere back = true) := by
  simp only [increases, Bool.or_eq_true, anywhere_eq_true_iff, and_or_left, exists_or, or_assoc]

/-- The rule indents behind just the lines in which the published pattern is found. -/
theorem increases_eq_standard (line : List Char) (hline : ∀ c ∈ line, c ∉ lineEnds) :
    increases line = Configuration.standard.increases line := by
  rw [Bool.eq_iff_iff, increases_iff]
  refine Iff.trans ?_ (isFoundIn_iff increasePattern_node? rfl).symm
  refine exists_congr fun front => exists_congr fun back => and_congr_right fun heq => ?_
  have hback : ∀ c ∈ back, c ∉ lineEnds :=
    fun c hc => hline c (heq ▸ List.mem_append_right front hc)
  rw [increaseNode, leadsTo_either, leadsTo_either]
  refine (or_congr ?_ (or_congr ?_ ?_)).symm
  · exact openTagNode_leadsTo hback
  · exact openCommentNode_leadsTo hback
  · exact openBraceNode_leadsTo

/-- Of three tags only the last stays open, whose name begins like one that is closed. -/
theorem increases_eq_standard_of_unclosed_tag :
    let line := "<a-b c=\"/\"><a></a-b><a.b ></a>".toList
    (∀ c ∈ line, c ∉ lineEnds) ∧ increases line = true ∧
      increases line = Configuration.standard.increases line := by
  intro line
  have hline : ∀ c ∈ line, c ∉ lineEnds := by
    have hall : line.all (fun c => decide (c ∉ lineEnds)) = true := by decide
    exact fun c hc => of_decide_eq_true (List.all_eq_true.1 hall c hc)
  exact ⟨hline, by decide, increases_eq_standard line hline⟩

end XmlSupport.Indent
