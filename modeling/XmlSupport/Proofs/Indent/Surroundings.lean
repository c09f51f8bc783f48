import XmlSupport.Proofs.Indent.Decrease
import XmlSupport.Proofs.Indent.Enter

/-!
# The rules in longer lines

Every rule looks for something that begins with a mark, and text without that
mark may stand in front of it. Main statements: white space in front of a line
changes nothing, Enter acts behind a longer text as it does behind its end, and
what it pushes down to an outdented line is a line that the decrease rule
outdents. Only a name that begins with a colon is known to one of the two rules
and not to the other.
-/

namespace XmlSupport.Indent

variable {c mark : Char} {cs front back blanks before after rest : List Char}
  {start : Char → Bool}

section Front

variable {p : List Char → Bool}

/-- What begins with a mark does not begin in a text without it. -/
theorem anywhere_append_of_not_mem (hp : ∀ cs, p cs = true → cs.head? = some mark)
    (hfront : mark ∉ front) (cs : List Char) : anywhere p (front ++ cs) = anywhere p cs := by
  induction front with
  | nil => rfl
  | cons c front ih =>
    rw [List.mem_cons, not_or] at hfront
    obtain ⟨hc, hmore⟩ := hfront
    have hhere : p (c :: (front ++ cs)) = false := by
      rw [Bool.eq_false_iff]
      intro h
      exact hc (Option.some.inj (hp _ h)).symm
    rw [List.cons_append, anywhere, hhere, Bool.false_or, ih hmore]

theorem increases_append_of_not_mem (htag : '<' ∉ front) (hbrace : '\x7b' ∉ front)
    (line : List Char) : increases (front ++ line) = increases line := by
  rw [increases, increases,
    anywhere_append_of_not_mem (fun _ => head?_eq_of_opensTagHere) htag,
    anywhere_append_of_not_mem (fun _ => head?_eq_of_opensCommentHere) htag,
    anywhere_append_of_not_mem (fun _ => head?_eq_of_opensBraceHere) hbrace]

theorem endsInTag_append_of_not_mem (hfront : '<' ∉ front) (before : List Char) :
    endsInTag start (front ++ before) = endsInTag start before :=
  anywhere_append_of_not_mem (fun _ => head?_eq_of_endsInTagHere) hfront before

theorem onEnter_append_of_not_mem (hfront : '<' ∉ front) (before after : List Char) :
    onEnter (front ++ before) after = onEnter before after := by
  rw [onEnter, onEnter, endsInTag_append_of_not_mem hfront, endsInTag_append_of_not_mem hfront]

end Front

section Blanks

theorem not_mem_of_isBlank (hmark : Text.isBlank mark = false)
    (hblanks : ∀ c ∈ blanks, Text.isBlank c = true) : mark ∉ blanks := by
  intro hmem
  rw [hblanks mark hmem] at hmark
  cases hmark

theorem decreases_append_of_isBlank (hblanks : ∀ c ∈ blanks, Text.isBlank c = true)
    (line : List Char) : decreases (blanks ++ line) = decreases line := by
  rw [decreases, decreases, List.dropWhile_append_of_pos hblanks]

/-- A line may be indented by any white space, and the rules say the same of it. -/
theorem rules_indented (hblanks : ∀ c ∈ blanks, Text.isBlank c = true)
    (line before after : List Char) :
    increases (blanks ++ line) = increases line ∧
      decreases (blanks ++ line) = decreases line ∧
      onEnter (blanks ++ before) after = onEnter before after := by
  have htag : '<' ∉ blanks := not_mem_of_isBlank rfl hblanks
  have hbrace : '\x7b' ∉ blanks := not_mem_of_isBlank rfl hblanks
  exact ⟨increases_append_of_not_mem htag hbrace line, decreases_append_of_isBlank hblanks line,
    onEnter_append_of_not_mem htag before after⟩

/-- White space of three kinds in front of a line that closes a tag and leaves a brace open. -/
theorem rules_indented_wideSpaces :
    let blanks := "\t\xa0\u3000".toList
    (∀ c ∈ blanks, Text.isBlank c = true) ∧ increases (blanks ++ "</a>\x7b b".toList) = true ∧
      decreases (blanks ++ "</a>\x7b b".toList) = true ∧
      onEnter (blanks ++ "<:a>".toList) "</a>".toList = some .indentOutdent := by
  intro blanks
  have hblanks : ∀ c ∈ blanks, Text.isBlank c = true := List.all_eq_true.1 rfl
  obtain ⟨hincreases, hdecreases, henter⟩ :=
    rules_indented hblanks "</a>\x7b b".toList "<:a>".toList "</a>".toList
  refine ⟨hblanks, hincreases.trans ?_, hdecreases.trans ?_, henter.trans ?_⟩
  · decide
  · decide
  · decide

end Blanks

section Enter

theorem endsInTag_append (h : endsInTag start before = true) (front : List Char)
    (hback : '<' ∉ back) : endsInTag start (front ++ before ++ back) = true := by
  obtain ⟨more, text, rfl, hends⟩ := endsInTag_iff.1 h
  obtain ⟨c, inside, behind, rfl, hc, hinside, hbehind⟩ := endsInTagHere_iff.1 hends
  have hends' : endsInTagHere start ('<' :: c :: (inside ++ '>' :: (behind ++ back))) = true :=
    endsInTagHere_iff.2 ⟨c, inside, behind ++ back, rfl, hc, hinside,
      List.not_mem_append hbehind hback⟩
  exact endsInTag_iff.2 ⟨front ++ more, _, by simp, hends'⟩

/-- A name that begins with a letter, a digit or an underscore is one to both rules for Enter. -/
theorem endsInTag_isQualifiedStart (h : endsInTag isWordChar before = true) :
    endsInTag isQualifiedStart before = true := by
  obtain ⟨front, text, rfl, hends⟩ := endsInTag_iff.1 h
  obtain ⟨c, inside, behind, rfl, hc, hinside, hbehind⟩ := endsInTagHere_iff.1 hends
  have hc' : isQualifiedStart c = true := by rw [isQualifiedStart, hc, Bool.true_or]
  exact endsInTag_iff.2 ⟨front, _, rfl, endsInTagHere_iff.2
    ⟨c, inside, behind, rfl, hc', hinside, hbehind⟩⟩

/-- The second rule acts only where no closing tag follows: it fits no text in front of the cursor
that the first one does not fit. -/
theorem onEnter_eq_some_iff {action : Action} :
    onEnter before after = some action ↔
      (startsWithClosingTag after = true ∧ endsInTag isQualifiedStart before = true ∧
        action = .indentOutdent) ∨
      (startsWithClosingTag after = false ∧ endsInTag isWordChar before = true ∧
        action = .indent) := by
  constructor
  · intro henter
    unfold onEnter at henter
    split_ifs at henter with hboth hword
    · obtain ⟨hends, hclosing⟩ := Bool.and_eq_true_iff.1 hboth
      exact .inl ⟨hclosing, hends, (Option.some.inj henter).symm⟩
    · have hclosing : startsWithClosingTag after = false := by
        rw [Bool.eq_false_iff]
        intro hclosing
        exact hboth (Bool.and_eq_true_iff.2 ⟨endsInTag_isQualifiedStart hword, hclosing⟩)
      exact .inr ⟨hclosing, hword, (Option.some.inj henter).symm⟩
  · rintro (⟨hclosing, hends, rfl⟩ | ⟨hclosing, hends, rfl⟩)
    · simp [onEnter, hclosing, hends]
    · simp [onEnter, hclosing, hends]

/-- An action of Enter stays when anything is put in front of the text and plain text behind it. -/
theorem onEnter_append_append {action : Action} (henter : onEnter before after = some action)
    (front : List Char) (hback : '<' ∉ back) :
    onEnter (front ++ before ++ back) after = some action := by
  rcases onEnter_eq_some_iff.1 henter with ⟨hclosing, hends, rfl⟩ | ⟨hclosing, hends, rfl⟩
  · exact onEnter_eq_some_iff.2 (.inl ⟨hclosing, endsInTag_append hends front hback, rfl⟩)
  · exact onEnter_eq_some_iff.2 (.inr ⟨hclosing, endsInTag_append hends front hback, rfl⟩)

/-- A text that ends in a mark stands in front, and ends of tags behind. The tag with a colon in
front makes no room for a line: what follows the cursor is no whole closing tag. -/
theorem onEnter_append_append_marks :
    let front := "<:a></b><".toList
    let back := "c/> d>".toList
    '<' ∉ back ∧ onEnter "<e>".toList "</e".toList = some .indent ∧
      onEnter (front ++ "<e>".toList ++ back) "</e".toList = some .indent := by
  intro front back
  have hback : '<' ∉ back := by decide
  have henter : onEnter "<e>".toList "</e".toList = some .indent := by decide
  exact ⟨hback, henter, onEnter_append_append henter front hback⟩

end Enter

section Closing

theorem isWordChar_iff_of_isQualifiedStart (hc : isQualifiedStart c = true) :
    isWordChar c = true ↔ c ≠ ':' := by
  constructor
  · rintro hword rfl
    exact absurd hword (by decide)
  · intro hcolon
    simpa [isQualifiedStart, hcolon] using hc

/-- Of the names that a closing tag behind the cursor may have, the decrease rule lacks those that
begin with a colon: it passes over no more than marks, and a colon is none. -/
theorem closesTagHere_iff_of_isQualifiedStart (hc : isQualifiedStart c = true)
    (hclose : '>' ∈ rest) : closesTagHere ('<' :: '/' :: c :: rest) = true ↔ c ≠ ':' := by
  constructor
  · rintro hcloses rfl
    simp [closesTagHere, after?, isWordChar, isAsciiLetter, isAsciiDigit] at hcloses
  · intro hcolon
    have hword := (isWordChar_iff_of_isQualifiedStart hc).2 hcolon
    exact closesTagHere_iff.2 ⟨[], c, rest, rfl, by simp, hword, hclose⟩

/-- A line that begins with a slash behind a `<` closes a tag or nothing. -/
theorem decreases_iff_closesTagHere :
    decreases ('<' :: '/' :: rest) = true ↔ closesTagHere ('<' :: '/' :: rest) = true := by
  have hdrop : ('<' :: '/' :: rest).dropWhile Text.isBlank = '<' :: '/' :: rest := rfl
  rw [decreases_iff, hdrop, ClosesHere]
  simp

/-- What Enter pushes down to an outdented line is outdented there by the decrease rule as well,
under any indentation and whatever follows, unless the name in it begins with a colon. -/
theorem decreases_pushedDown (henter : onEnter before after = some .indentOutdent)
    (hblanks : ∀ c ∈ blanks, Text.isBlank c = true) (behind : List Char) :
    decreases (blanks ++ after ++ behind) = true ↔ ¬ "</:".toList <+: after := by
  have hstarts : startsWithClosingTag after = true := by
    rcases onEnter_eq_some_iff.1 henter with ⟨hclosing, -, -⟩ | ⟨-, -, haction⟩
    · exact hclosing
    · cases haction
  obtain ⟨c, name, spaces, rest, rfl, hc, -, -⟩ := startsWithClosingTag_iff.1 hstarts
  have hclose : '>' ∈ name ++ (spaces ++ '>' :: rest) ++ behind := by simp
  rw [List.append_assoc, decreases_append_of_isBlank hblanks]
  calc decreases ('<' :: '/' :: c :: (name ++ (spaces ++ '>' :: rest) ++ behind)) = true
      ↔ closesTagHere ('<' :: '/' :: c :: (name ++ (spaces ++ '>' :: rest) ++ behind)) = true :=
        decreases_iff_closesTagHere
    _ ↔ c ≠ ':' := closesTagHere_iff_of_isQualifiedStart hc hclose
    _ ↔ ¬ "</:".toList <+: '<' :: '/' :: c :: (name ++ (spaces ++ '>' :: rest)) := by
        simp [eq_comm]

/-- A name with a dot and white space behind it is outdented, one that begins with a colon not. -/
theorem decreases_pushedDown_colon :
    let blanks := "\t\u2003".toList
    let dotted := "</b.c\u3000>".toList
    let colon := "</:b>".toList
    (∀ c ∈ blanks, Text.isBlank c = true) ∧
      onEnter "<a>".toList dotted = some .indentOutdent ∧
      onEnter "<a>".toList colon = some .indentOutdent ∧
      decreases (blanks ++ dotted ++ "<d>".toList) = true ∧
      decreases (blanks ++ colon ++ "<d>".toList) = false := by
  intro blanks dotted colon
  have hblanks : ∀ c ∈ blanks, Text.isBlank c = true := List.all_eq_true.1 rfl
  have hdotted : onEnter "<a>".toList dotted = some .indentOutdent := by decide
  have hcolon : onEnter "<a>".toList colon = some .indentOutdent := by decide
  refine ⟨hblanks, hdotted, hcolon, ?_, ?_⟩
  · exact (decreases_pushedDown hdotted hblanks _).2 (by decide)
  · rw [Bool.eq_false_iff, ne_eq, decreases_pushedDown hcolon hblanks, not_not]
    decide

end Closing

end XmlSupport.Indent
