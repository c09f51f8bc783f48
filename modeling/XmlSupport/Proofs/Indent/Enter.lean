import XmlSupport.Proofs.Indent.Marks
import XmlSupport.Proofs.Indent.Published
import XmlSupport.Proofs.Pattern.Case

/-!
# The rules for Enter are the published ones

The published rules ignore case, and their classes hold both cases of every
letter they hold. Their patterns for the text in front of the cursor differ only
in the characters of a name. Behind its first character, a name and what follows
it in its tag are one run of characters to the rule: no way through the pattern
reads more or less than this run.
-/

namespace XmlSupport.Indent

open Pattern Pattern.Node

variable {s : Cursor}

/-- Where a name may go on, the tag may go on as well. -/
theorem lastTagNode_leadsTo {first more : CharClass} {start : Char → Bool}
    (hfirst : ∀ c, first.admits false c = start c)
    (hmore : ∀ c, more.admits false c = true → c ≠ '/' ∧ c ≠ '>') :
    (lastTagNode first more).LeadsTo s (fun _ => True) ↔ endsInTagHere start s.back = true := by
  rw [lastTagNode, leadsTo_behindText, endsInTagHere_iff]
  simp only [leadsTo_sequence_cons, leadsTo_group, leadsTo_one, leadsTo_many, leadsTo_literal,
    leadsTo_ahead_false, leadsTo_text, leadsTo_finish, leadsTo_sequence_nil, and_true, hfirst,
    CharClass.admits_allBut, Cursor.capture]
  constructor
  · rintro ⟨_, hback, c, _, rfl, hc, run, _, rfl, hrun, inside, _, rfl, hinside, -, _, rfl, behind,
      _, rfl, hbehind, rfl⟩
    refine ⟨c, run ++ inside, behind, by rw [hback]; simp, hc, ?_, ?_⟩
    · intro d hd
      rcases List.mem_append.1 hd with hd | hd
      · exact hmore d (hrun d hd)
      · simpa [not_or] using hinside d hd
    · exact fun hmem => hbehind _ hmem (List.mem_singleton_self _)
  · rintro ⟨c, inside, behind, hback, hc, hinside, hbehind⟩
    -- All of the tag behind the first character is left to `[^/>]*`.
    refine ⟨_, hback, c, _, rfl, hc, [], _, rfl, by simp, inside, _, rfl, ?_, ?_, _, rfl, behind,
      [], (List.append_nil behind).symm, ?_, rfl⟩
    · intro d hd
      simpa [not_or] using hinside d hd
    · rintro ⟨rest, hrest⟩
      exact absurd (List.cons.inj hrest).1 (by decide)
    · exact fun d hd hmem => hbehind (List.mem_singleton.1 hmem ▸ hd)

theorem startingTagNode_leadsTo :
    startingTagNode.LeadsTo s (fun _ => True) ↔
      s.front = [] ∧ startsWithClosingTag s.back = true := by
  rw [startingTagNode, leadsTo_both, leadsTo_start, leadsTo_behindText, startsWithClosingTag_iff]
  refine and_congr_right fun _ => ?_
  simp only [leadsTo_sequence_cons, leadsTo_group, leadsTo_one, leadsTo_many, leadsTo_literal,
    leadsTo_sequence_nil, and_true, admits_qualifiedStartClass, admits_qualifiedClass,
    admits_blankClass, Cursor.capture]
  constructor
  · rintro ⟨_, hback, c, _, rfl, hc, name, _, rfl, hname, blanks, _, rfl, hblanks, rest, rfl⟩
    exact ⟨c, name, blanks, rest, hback, hc, hname, hblanks⟩
  · rintro ⟨c, name, blanks, rest, hback, hc, hname, hblanks⟩
    exact ⟨_, hback, c, _, rfl, hc, name, _, rfl, hname, blanks, _, rfl, hblanks, rest, rfl⟩

theorem endsInTag_iff {start : Char → Bool} {before : List Char} :
    endsInTag start before = true ↔
      ∃ front back, before = front ++ back ∧ endsInTagHere start back = true :=
  anywhere_eq_true_iff

theorem not_closing_of_isQualifiedChar {c : Char} (h : isQualifiedChar c = true) :
    c ≠ '/' ∧ c ≠ '>' :=
  ⟨fun hc => absurd (hc ▸ h) (by decide), fun hc => absurd (hc ▸ h) (by decide)⟩

theorem not_closing_of_isWordChar {c : Char} (h : isWordChar c = true) : c ≠ '/' ∧ c ≠ '>' :=
  ⟨fun hc => absurd (hc ▸ h) (by decide), fun hc => absurd (hc ▸ h) (by decide)⟩

theorem betweenTags_before_isFoundIn (before : List Char) :
    Configuration.betweenTags.before.isFoundIn before = endsInTag isQualifiedStart before := by
  rw [Bool.eq_iff_iff, endsInTag_iff, isFoundIn_iff_of_isCaseless betweenTags_before_node? rfl]
  simp only [lastTagNode_leadsTo (fun _ => admits_qualifiedStartClass)
    (fun _ h => not_closing_of_isQualifiedChar (admits_qualifiedClass ▸ h))]

theorem behindTag_before_isFoundIn (before : List Char) :
    Configuration.behindTag.before.isFoundIn before = endsInTag isWordChar before := by
  rw [Bool.eq_iff_iff, endsInTag_iff, isFoundIn_iff_of_isCaseless behindTag_before_node? rfl]
  simp only [lastTagNode_leadsTo (fun _ => admits_wordClass)
    (fun _ h => not_closing_of_isWordChar (admits_wordOrDigitClass ▸ h))]

theorem closingTagAfter_isFoundIn (after : List Char) :
    closingTagAfter.isFoundIn after = startsWithClosingTag after := by
  rw [Bool.eq_iff_iff, isFoundIn_iff_of_isCaseless closingTagAfter_node? rfl]
  simp only [startingTagNode_leadsTo]
  constructor
  · rintro ⟨front, back, rfl, hfront, h⟩
    rwa [List.reverse_eq_nil_iff.1 hfront]
  · intro h
    exact ⟨[], after, rfl, rfl, h⟩

/-- Enter acts as the first published rule that fits the two texts. -/
theorem onEnter_eq_standard (before after : List Char) :
    onEnter before after = Configuration.standard.onEnter before after := by
  have hbetween : (Configuration.betweenTags.before.isFoundIn before &&
      Configuration.betweenTags.after.all (·.isFoundIn after)) =
        (endsInTag isQualifiedStart before && startsWithClosingTag after) := by
    rw [betweenTags_before_isFoundIn, betweenTags_after, Option.all_some, closingTagAfter_isFoundIn]
  have hbehind : (Configuration.behindTag.before.isFoundIn before &&
      Configuration.behindTag.after.all (·.isFoundIn after)) = endsInTag isWordChar before := by
    rw [behindTag_before_isFoundIn]
    exact Bool.and_true _
  simp only [onEnter, Configuration.onEnter, Configuration.standard, List.find?_cons, hbetween,
    hbehind]
  cases endsInTag isQualifiedStart before && startsWithClosingTag after with
  | true => rfl
  | false =>
    cases endsInTag isWordChar before with
    | true => rfl
    | false => rfl

end XmlSupport.Indent
