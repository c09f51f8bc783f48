import XmlSupport.Pattern.Search

/-!
# Where the parts of a pattern lead

A pattern is found in a text if some way through its parts leads anywhere. For
each kind of part it is stated what has to stand at a place, so that a way
leads from there to a place with a given property. A whole pattern is taken
apart by these statements, from its first part on. Letters are read in their
own case here.
-/

namespace XmlSupport.Pattern

namespace Cursor

theorem mem_onwards {front text : List Char} {s : Cursor} :
    s ∈ onwards front text ↔
      ∃ passed back, text = passed ++ back ∧ s = ⟨passed.reverse ++ front, back, []⟩ := by
  induction text generalizing front with
  | nil =>
    simp only [onwards, List.mem_singleton]
    constructor
    · rintro rfl
      exact ⟨[], [], rfl, rfl⟩
    · rintro ⟨passed, back, h, rfl⟩
      obtain ⟨rfl, rfl⟩ := List.append_eq_nil_iff.1 h.symm
      rfl
  | cons c text ih =>
    simp only [onwards, List.mem_cons, ih]
    constructor
    · rintro (rfl | ⟨passed, back, rfl, rfl⟩)
      · exact ⟨[], c :: text, rfl, rfl⟩
      · exact ⟨c :: passed, back, rfl, by simp⟩
    · rintro ⟨passed, back, h, rfl⟩
      cases passed with
      | nil => exact Or.inl (by rw [h]; rfl)
      | cons d passed =>
        obtain ⟨rfl, rfl⟩ := List.cons.inj h
        exact Or.inr ⟨passed, back, rfl, by simp⟩

theorem mem_reach {admits : Char → Bool} {groups : List (Nat × List Char)}
    {front back : List Char} {t : Cursor} :
    t ∈ reach admits groups front back ↔
      ∃ run rest, back = run ++ rest ∧ (∀ c ∈ run, admits c = true) ∧
        t = ⟨run.reverse ++ front, rest, groups⟩ := by
  induction back generalizing front with
  | nil =>
    simp only [reach, List.mem_singleton]
    constructor
    · rintro rfl
      exact ⟨[], [], rfl, by simp, rfl⟩
    · rintro ⟨run, rest, h, -, rfl⟩
      obtain ⟨rfl, rfl⟩ := List.append_eq_nil_iff.1 h.symm
      rfl
  | cons c back ih =>
    have hstay : ⟨front, c :: back, groups⟩ =
        (⟨([] : List Char).reverse ++ front, c :: back, groups⟩ : Cursor) := rfl
    by_cases hc : admits c = true
    · simp only [reach, if_pos hc, List.mem_append, ih, List.mem_singleton]
      constructor
      · rintro (⟨run, rest, rfl, hrun, rfl⟩ | rfl)
        · exact ⟨c :: run, rest, rfl, List.forall_mem_cons.2 ⟨hc, hrun⟩, by simp⟩
        · exact ⟨[], c :: back, rfl, by simp, hstay⟩
      · rintro ⟨run, rest, h, hrun, rfl⟩
        cases run with
        | nil => exact Or.inr (by rw [h]; rfl)
        | cons d run =>
          obtain ⟨rfl, rfl⟩ := List.cons.inj h
          exact Or.inl ⟨run, rest, rfl, (List.forall_mem_cons.1 hrun).2, by simp⟩
    · simp only [reach, if_neg hc, List.mem_singleton]
      constructor
      · rintro rfl
        exact ⟨[], c :: back, rfl, by simp, hstay⟩
      · rintro ⟨run, rest, h, hrun, rfl⟩
        cases run with
        | nil => rw [h]; rfl
        | cons d run =>
          obtain ⟨rfl, -⟩ := List.cons.inj h
          exact absurd (hrun c List.mem_cons_self) hc

theorem textTo_append (front front' text rest : List Char)
    (groups groups' : List (Nat × List Char)) :
    textTo ⟨front, text ++ rest, groups⟩ ⟨front', rest, groups'⟩ = text := by
  have hlength : (text ++ rest).length - rest.length = text.length := by
    rw [List.length_append]; omega
  simp only [textTo, hlength, List.take_left]

theorem skip?_eq_some_iff {text : List Char} {s t : Cursor} :
    s.skip? false text = some t ↔
      ∃ rest, s.back = text ++ rest ∧ t = ⟨text.reverse ++ s.front, rest, s.groups⟩ := by
  induction text generalizing s with
  | nil =>
    simp only [skip?, Option.some.injEq, List.nil_append, List.reverse_nil]
    constructor
    · rintro rfl
      exact ⟨s.back, rfl, rfl⟩
    · rintro ⟨rest, rfl, rfl⟩
      rfl
  | cons c text ih =>
    obtain ⟨front, back, groups⟩ := s
    cases back with
    | nil => simp [skip?]
    | cons d back =>
      by_cases hcd : c = d
      · subst hcd
        simp [skip?, isSame, ih]
      · simp [skip?, isSame, hcd, Ne.symm hcd]

end Cursor

namespace Node

attribute [local simp] Node.matches

/-- Some way through a part leads to a place with the property. -/
def LeadsTo (n : Node) (s : Cursor) (P : Cursor → Prop) : Prop := ∃ t ∈ n.matches false s, P t

variable {s : Cursor} {P : Cursor → Prop}

theorem leadsTo_empty : empty.LeadsTo s P ↔ P s := by
  simp [LeadsTo]

theorem leadsTo_one {k : CharClass} :
    (one k).LeadsTo s P ↔
      ∃ c rest, s.back = c :: rest ∧ k.admits false c = true ∧
        P ⟨c :: s.front, rest, s.groups⟩ := by
  obtain ⟨front, back, groups⟩ := s
  cases back with
  | nil => simp [LeadsTo]
  | cons c back =>
    constructor
    · rintro ⟨t, ht, hP⟩
      by_cases hc : k.admits false c = true
      · simp only [Node.matches, if_pos hc, List.mem_singleton] at ht
        exact ⟨c, back, rfl, hc, ht ▸ hP⟩
      · simp [hc] at ht
    · rintro ⟨d, rest, h, hd, hP⟩
      obtain ⟨rfl, rfl⟩ := List.cons.inj h
      exact ⟨_, by simp [hd], hP⟩

theorem leadsTo_many {k : CharClass} :
    (many k).LeadsTo s P ↔
      ∃ run rest, s.back = run ++ rest ∧ (∀ c ∈ run, k.admits false c = true) ∧
        P ⟨run.reverse ++ s.front, rest, s.groups⟩ := by
  simp only [LeadsTo, Node.matches, Cursor.mem_reach]
  constructor
  · rintro ⟨_, ⟨run, rest, hback, hrun, rfl⟩, hP⟩
    exact ⟨run, rest, hback, hrun, hP⟩
  · rintro ⟨run, rest, hback, hrun, hP⟩
    exact ⟨_, ⟨run, rest, hback, hrun, rfl⟩, hP⟩

theorem leadsTo_group {index : Nat} {body : Node} :
    (group index body).LeadsTo s P ↔ body.LeadsTo s fun t => P (s.capture t index) := by
  simp only [LeadsTo, Node.matches, List.mem_map]
  constructor
  · rintro ⟨_, ⟨t, ht, rfl⟩, hP⟩
    exact ⟨t, ht, hP⟩
  · rintro ⟨t, ht, hP⟩
    exact ⟨_, ⟨t, ht, rfl⟩, hP⟩

theorem leadsTo_reference {index : Nat} :
    (reference index).LeadsTo s P ↔
      ∃ rest, s.back = (s.groups.lookup index).getD [] ++ rest ∧
        P ⟨((s.groups.lookup index).getD []).reverse ++ s.front, rest, s.groups⟩ := by
  simp only [LeadsTo, Node.matches, Option.mem_toList, Cursor.skip?_eq_some_iff]
  constructor
  · rintro ⟨_, ⟨rest, hback, rfl⟩, hP⟩
    exact ⟨rest, hback, hP⟩
  · rintro ⟨rest, hback, hP⟩
    exact ⟨_, ⟨rest, hback, rfl⟩, hP⟩

theorem leadsTo_both {first second : Node} :
    (both first second).LeadsTo s P ↔ first.LeadsTo s fun t => second.LeadsTo t P := by
  simp only [LeadsTo, Node.matches, List.mem_flatMap]
  constructor
  · rintro ⟨t, ⟨u, hu, ht⟩, hP⟩
    exact ⟨u, hu, t, ht, hP⟩
  · rintro ⟨u, hu, t, ht, hP⟩
    exact ⟨t, ⟨u, hu, ht⟩, hP⟩

theorem leadsTo_either {first second : Node} :
    (either first second).LeadsTo s P ↔ first.LeadsTo s P ∨ second.LeadsTo s P := by
  simp only [LeadsTo, Node.matches, List.mem_append, or_and_right, exists_or]

theorem leadsTo_wordBoundary :
    wordBoundary.LeadsTo s P ↔ s.isAtWordBoundary = true ∧ P s := by
  by_cases h : s.isAtWordBoundary = true
  · simp [LeadsTo, h]
  · simp [LeadsTo, h]

theorem leadsTo_start : start.LeadsTo s P ↔ s.front = [] ∧ P s := by
  by_cases h : s.front = []
  · simp [LeadsTo, h]
  · simp [LeadsTo, h]

theorem leadsTo_finish : finish.LeadsTo s P ↔ s.back = [] ∧ P s := by
  by_cases h : s.back = []
  · simp [LeadsTo, h]
  · simp [LeadsTo, h]

theorem leadsTo_ahead_false {body : Node} :
    (ahead false body).LeadsTo s P ↔ ¬ body.LeadsTo s (fun _ => True) ∧ P s := by
  cases h : body.matches false s with
  | nil => simp [LeadsTo, h]
  | cons t rest => simp [LeadsTo, h]

/-- A part in which nothing is put into a group. -/
def isGroupless : Node → Bool
  | .group _ _ => false
  | .both first second | .either first second => first.isGroupless && second.isGroupless
  | .ahead _ body => body.isGroupless
  | .empty | .one _ | .many _ | .reference _ | .wordBoundary | .start | .finish => true

/-- What the groups have taken stays as it is on all ways through such a part. -/
theorem groups_eq_of_mem_matches {n : Node} (hn : n.isGroupless = true) {s t : Cursor}
    (ht : t ∈ n.matches false s) : t.groups = s.groups := by
  induction n generalizing s t with
  | empty => rw [List.mem_singleton.1 ht]
  | one k =>
    obtain ⟨_, rest, -, -, rfl⟩ := leadsTo_one.1 ⟨t, ht, rfl⟩
    rfl
  | many k =>
    obtain ⟨_, _, -, -, rfl⟩ := Cursor.mem_reach.1 ht
    rfl
  | group index body => exact absurd hn Bool.false_ne_true
  | reference index =>
    obtain ⟨_, -, rfl⟩ := Cursor.skip?_eq_some_iff.1 (Option.mem_toList.1 ht)
    rfl
  | both first second ih₁ ih₂ =>
    obtain ⟨h₁, h₂⟩ := Bool.and_eq_true_iff.1 hn
    obtain ⟨u, hu, ht⟩ := List.mem_flatMap.1 ht
    rw [ih₂ h₂ ht, ih₁ h₁ hu]
  | either first second ih₁ ih₂ =>
    obtain ⟨h₁, h₂⟩ := Bool.and_eq_true_iff.1 hn
    rcases List.mem_append.1 ht with ht | ht
    · exact ih₁ h₁ ht
    · exact ih₂ h₂ ht
  | ahead expected body ih =>
    cases h : body.matches false s with
    | nil =>
      cases expected with
      | false =>
        have hts : t = s := by simpa [h] using ht
        rw [hts]
      | true => simp [h] at ht
    | cons u rest =>
      cases expected with
      | false => simp [h] at ht
      | true =>
        have hu : u.groups = s.groups := ih hn (by rw [h]; exact List.mem_cons_self)
        have htu : t = { s with groups := u.groups } := by simpa [h] using ht
        rw [htu, hu]
  | wordBoundary => exact congrArg Cursor.groups (leadsTo_wordBoundary.1 ⟨t, ht, rfl⟩).2
  | start => exact congrArg Cursor.groups (leadsTo_start.1 ⟨t, ht, rfl⟩).2
  | finish => exact congrArg Cursor.groups (leadsTo_finish.1 ⟨t, ht, rfl⟩).2

theorem leadsTo_ahead_true {body : Node} (hbody : body.isGroupless = true) :
    (ahead true body).LeadsTo s P ↔ body.LeadsTo s (fun _ => True) ∧ P s := by
  cases h : body.matches false s with
  | nil => simp [LeadsTo, h]
  | cons t rest =>
    have ht : t.groups = s.groups :=
      groups_eq_of_mem_matches hbody (by rw [h]; exact List.mem_cons_self)
    simp [LeadsTo, h, ht]

end Node

/-- Whether the pattern matches from the start of a text on. -/
def isFoundAtStartOf (p : Pattern) (text : List Char) : Bool :=
  match p.node? with
  | some n => !(n.matches p.ignoresCase ⟨[], text, []⟩).isEmpty
  | none => false

theorem Node.not_isEmpty_matches_iff {n : Node} {s : Cursor} :
    (!(n.matches false s).isEmpty) = true ↔ n.LeadsTo s fun _ => True := by
  simp only [Bool.not_eq_true', List.isEmpty_eq_false_iff_exists_mem, Node.LeadsTo, and_true]

theorem isFoundAtStartOf_iff {p : Pattern} {n : Node} (hn : p.node? = some n)
    (hp : p.ignoresCase = false) {text : List Char} :
    p.isFoundAtStartOf text = true ↔ n.LeadsTo ⟨[], text, []⟩ fun _ => True := by
  simp only [isFoundAtStartOf, hn, hp, Node.not_isEmpty_matches_iff]

theorem isFoundIn_eq_true_iff {p : Pattern} {n : Node} (hn : p.node? = some n) {text : List Char} :
    p.isFoundIn text = true ↔
      ∃ front back, text = front ++ back ∧
        (!(n.matches p.ignoresCase ⟨front.reverse, back, []⟩).isEmpty) = true := by
  simp only [isFoundIn, hn, List.any_eq_true, Cursor.starts, Cursor.mem_onwards]
  constructor
  · rintro ⟨_, ⟨front, back, rfl, rfl⟩, h⟩
    exact ⟨front, back, rfl, by simpa using h⟩
  · rintro ⟨front, back, rfl, h⟩
    exact ⟨_, ⟨front, back, rfl, rfl⟩, by simpa using h⟩

/-- A pattern is found in a text if it leads anywhere from one of its places. -/
theorem isFoundIn_iff {p : Pattern} {n : Node} (hn : p.node? = some n)
    (hp : p.ignoresCase = false) {text : List Char} :
    p.isFoundIn text = true ↔
      ∃ front back, text = front ++ back ∧ n.LeadsTo ⟨front.reverse, back, []⟩ fun _ => True := by
  simp only [isFoundIn_eq_true_iff hn, hp, Node.not_isEmpty_matches_iff]

end XmlSupport.Pattern
