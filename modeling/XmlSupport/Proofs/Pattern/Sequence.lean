import XmlSupport.Proofs.Pattern.Ways

/-!
# Parts in sequence

Most of a pattern is a sequence of parts, and most of these stand for one
character each. A text of such characters leads to the place behind that text.
-/

namespace XmlSupport.Pattern

namespace CharClass

/-- All characters but those of a list. -/
def allBut (cs : List Char) : CharClass := ⟨true, cs.map .one⟩

theorem admits_eq_any {members : List Member} {c : Char} :
    (⟨false, members⟩ : CharClass).admits false c = members.any (·.holds c) := by
  simp [admits, Member.covers]

theorem admits_of {m : Member} {c : Char} : (CharClass.of m).admits false c = m.holds c := by
  rw [CharClass.of, admits_eq_any, List.any_cons, List.any_nil, Bool.or_false]

theorem admits_allBut {cs : List Char} {c : Char} :
    (allBut cs).admits false c = true ↔ c ∉ cs := by
  simp [allBut, admits, Member.covers, Member.holds, List.forall_mem_ne]

end CharClass

/-- The characters that end a line for the editor's patterns. -/
def lineEnds : List Char := ['\n', '\r', '\u2028', '\u2029']

theorem dot_eq_allBut_lineEnds : CharClass.dot = .allBut lineEnds := rfl

namespace Node

/-- Parts one behind the other. -/
def sequence : List Node → Node := List.foldr .both .empty

/-- A character that stands for itself. -/
def literal (c : Char) : Node := .one (.of (.one c))

/-- Characters that stand for themselves, and parts behind them. -/
def behindText (text : List Char) (parts : List Node) : Node := sequence (text.map literal ++ parts)

variable {s : Cursor} {P : Cursor → Prop}

theorem leadsTo_sequence_nil : (sequence []).LeadsTo s P ↔ P s := leadsTo_empty

theorem leadsTo_sequence_cons {n : Node} {ns : List Node} :
    (sequence (n :: ns)).LeadsTo s P ↔ n.LeadsTo s fun t => (sequence ns).LeadsTo t P :=
  leadsTo_both

theorem leadsTo_literal {c : Char} :
    (literal c).LeadsTo s P ↔
      ∃ rest, s.back = c :: rest ∧ P ⟨c :: s.front, rest, s.groups⟩ := by
  simp only [literal, leadsTo_one, CharClass.admits_of, Member.holds, decide_eq_true_eq]
  constructor
  · rintro ⟨_, rest, hback, rfl, hP⟩
    exact ⟨rest, hback, hP⟩
  · rintro ⟨rest, hback, hP⟩
    exact ⟨c, rest, hback, rfl, hP⟩

theorem leadsTo_behindText {text : List Char} {parts : List Node} :
    (behindText text parts).LeadsTo s P ↔
      ∃ rest, s.back = text ++ rest ∧
        (sequence parts).LeadsTo ⟨text.reverse ++ s.front, rest, s.groups⟩ P := by
  induction text generalizing s with
  | nil =>
    constructor
    · intro h
      exact ⟨s.back, rfl, h⟩
    · rintro ⟨rest, h, hP⟩
      obtain rfl : s.back = rest := h
      exact hP
  | cons c text ih =>
    have hcons : behindText (c :: text) parts = .both (literal c) (behindText text parts) := rfl
    rw [hcons, leadsTo_both, leadsTo_literal]
    simp only [ih]
    constructor
    · rintro ⟨_, hback, rest, rfl, hP⟩
      exact ⟨rest, hback, by simpa using hP⟩
    · rintro ⟨rest, hback, hP⟩
      exact ⟨text ++ rest, hback, rest, rfl, by simpa using hP⟩

theorem leadsTo_text {text : List Char} :
    (behindText text []).LeadsTo s (fun _ => True) ↔ text <+: s.back := by
  simp only [leadsTo_behindText, leadsTo_sequence_nil, and_true]
  exact ⟨fun ⟨rest, h⟩ => ⟨rest, h.symm⟩, fun ⟨rest, h⟩ => ⟨rest, h.symm⟩⟩

/-- One or more characters of a class. -/
theorem leadsTo_oneOrMore {k : CharClass} {parts : List Node} :
    (sequence (one k :: many k :: parts)).LeadsTo s P ↔
      ∃ run rest, s.back = run ++ rest ∧ run ≠ [] ∧ (∀ c ∈ run, k.admits false c = true) ∧
        (sequence parts).LeadsTo ⟨run.reverse ++ s.front, rest, s.groups⟩ P := by
  simp only [leadsTo_sequence_cons, leadsTo_one, leadsTo_many]
  constructor
  · rintro ⟨c, _, hback, hc, run, rest, rfl, hrun, hP⟩
    exact ⟨c :: run, rest, hback, List.cons_ne_nil c run, List.forall_mem_cons.2 ⟨hc, hrun⟩,
      by simpa using hP⟩
  · rintro ⟨run, rest, hback, hne, hrun, hP⟩
    obtain ⟨c, run, rfl⟩ := List.exists_cons_of_ne_nil hne
    obtain ⟨hc, hrun⟩ := List.forall_mem_cons.1 hrun
    exact ⟨c, run ++ rest, hback, hc, run, rest, rfl, hrun, by simpa using hP⟩

/-- One or more characters of a class, taken by a group. -/
theorem leadsTo_group_oneOrMore {k : CharClass} {index : Nat} :
    (group index (sequence [one k, many k])).LeadsTo s P ↔
      ∃ run rest, s.back = run ++ rest ∧ run ≠ [] ∧ (∀ c ∈ run, k.admits false c = true) ∧
        P ⟨run.reverse ++ s.front, rest, (index, run) :: s.groups⟩ := by
  obtain ⟨front, back, groups⟩ := s
  simp only [leadsTo_group, leadsTo_oneOrMore, leadsTo_sequence_nil]
  constructor
  · rintro ⟨run, rest, rfl, hne, hrun, hP⟩
    rw [Cursor.capture, Cursor.textTo_append] at hP
    exact ⟨run, rest, rfl, hne, hrun, hP⟩
  · rintro ⟨run, rest, rfl, hne, hrun, hP⟩
    refine ⟨run, rest, rfl, hne, hrun, ?_⟩
    rw [Cursor.capture, Cursor.textTo_append]
    exact hP

/-- Any characters of one line, and then a part that stands for a text. -/
theorem leadsTo_dots {text : List Char} {n : Node} (hline : ∀ c ∈ s.back, c ∉ lineEnds)
    (hn : ∀ t : Cursor, t.groups = s.groups →
      (n.LeadsTo t (fun _ => True) ↔ text <+: t.back)) :
    (both (many .dot) n).LeadsTo s (fun _ => True) ↔ text <:+: s.back := by
  simp only [leadsTo_both, leadsTo_many, dot_eq_allBut_lineEnds, CharClass.admits_allBut]
  constructor
  · rintro ⟨run, rest, hback, -, h⟩
    obtain ⟨behind, rfl⟩ := (hn ⟨run.reverse ++ s.front, rest, s.groups⟩ rfl).1 h
    exact ⟨run, behind, by rw [hback, List.append_assoc]⟩
  · rintro ⟨run, behind, hback⟩
    refine ⟨run, text ++ behind, by rw [← hback, List.append_assoc], ?_,
      (hn ⟨run.reverse ++ s.front, text ++ behind, s.groups⟩ rfl).2
        (List.prefix_append text behind)⟩
    intro c hc
    refine hline c ?_
    rw [← hback, List.append_assoc]
    exact List.mem_append_left _ hc

/-- Any characters up to the first `mark`. -/
theorem leadsTo_upTo {mark : Char} {parts : List Node} :
    (sequence (many (.allBut [mark]) :: literal mark :: parts)).LeadsTo s P ↔
      ∃ inside behind, s.back = inside ++ mark :: behind ∧ mark ∉ inside ∧
        (sequence parts).LeadsTo ⟨mark :: (inside.reverse ++ s.front), behind, s.groups⟩ P := by
  have hinside (inside : List Char) :
      (∀ c ∈ inside, (CharClass.allBut [mark]).admits false c = true) ↔ mark ∉ inside := by
    simp only [CharClass.admits_allBut, List.mem_singleton]
    exact ⟨fun h hmark => h mark hmark rfl, fun h c hc hcm => h (hcm ▸ hc)⟩
  simp only [leadsTo_sequence_cons, leadsTo_many, leadsTo_literal, hinside]
  constructor
  · rintro ⟨inside, _, hback, hmark, behind, rfl, hP⟩
    exact ⟨inside, behind, hback, hmark, hP⟩
  · rintro ⟨inside, behind, hback, hmark, hP⟩
    exact ⟨inside, mark :: behind, hback, hmark, behind, rfl, hP⟩

end Node

/-- Behind a run of characters, whether a word ends there depends on its last one. -/
theorem Cursor.isAtWordBoundary_behind {run front back : List Char}
    {groups : List (Nat × List Char)} (hrun : run ≠ []) :
    (⟨run.reverse ++ front, back, groups⟩ : Cursor).isAtWordBoundary =
      (run.getLast?.any Member.isWord != back.head?.any Member.isWord) := by
  have hhead : (run.reverse ++ front).head? = run.getLast? := by
    rw [List.head?_append, List.head?_reverse, List.getLast?_eq_some_getLast hrun, Option.some_or]
  simp only [isAtWordBoundary, hhead]

end XmlSupport.Pattern
