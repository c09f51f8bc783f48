import XmlSupport.Indent.Rules
import XmlSupport.Proofs.Text.Runs

/-!
# What the line rules look for

Each test of the line rules looks at the text behind one position. Here it is
stated how that text is put together when the test succeeds: which name stands
in it, which run of characters follows, and what may not follow.
-/

namespace XmlSupport.Indent

variable {c d mark : Char} {cs rest : List Char} {p : Char → Bool}

theorem isQualifiedChar_eq_false_of_isBlank (h : Text.isBlank c = true) :
    isQualifiedChar c = false := by
  have hall : Text.blanks.all (fun c => !isQualifiedChar c) = true := by decide
  simpa using List.all_eq_true.1 hall c (List.contains_iff_mem.1 h)

theorem isNameChar_eq_false_of_isBlank (h : Text.isBlank c = true) : isNameChar c = false :=
  (Bool.or_eq_false_iff.1 (isQualifiedChar_eq_false_of_isBlank h)).1

theorem isNameChar_of_isWordChar (h : isWordChar c = true) : isNameChar c = true := by
  simp [isNameChar, h]

theorem not_mark_of_isWordChar (h : isWordChar c = true) :
    (decide (c = '-') || decide (c = '.')) = false := by
  have hdash : c ≠ '-' := fun hc => absurd (hc ▸ h) (by decide)
  have hdot : c ≠ '.' := fun hc => absurd (hc ▸ h) (by decide)
  simp [hdash, hdot]

theorem cut?_eq_some_iff {inside behind : List Char} :
    cut? mark cs = some (inside, behind) ↔ cs = inside ++ mark :: behind ∧ mark ∉ inside := by
  induction cs generalizing inside with
  | nil => simp [cut?]
  | cons c cs ih =>
    by_cases hc : c = mark
    · subst hc
      simp only [cut?, if_true, Option.some.injEq, Prod.mk.injEq]
      constructor
      · rintro ⟨rfl, rfl⟩
        exact ⟨rfl, List.not_mem_nil⟩
      · rintro ⟨h, hmark⟩
        cases inside with
        | nil => exact ⟨rfl, (List.cons.inj h).2⟩
        | cons e inside => exact absurd ((List.cons.inj h).1 ▸ List.mem_cons_self) hmark
    · simp only [cut?, if_neg hc, Option.map_eq_some_iff]
      constructor
      · rintro ⟨⟨front, back⟩, h, heq⟩
        obtain ⟨rfl, rfl⟩ := Prod.mk.inj heq
        obtain ⟨rfl, hfront⟩ := ih.1 h
        exact ⟨rfl, by simp [Ne.symm hc, hfront]⟩
      · rintro ⟨h, hmark⟩
        cases inside with
        | nil => exact absurd (List.cons.inj h).1 hc
        | cons e inside =>
          obtain ⟨rfl, rfl⟩ := List.cons.inj h
          exact ⟨(inside, behind), ih.2 ⟨rfl, fun hm => hmark (List.mem_cons_of_mem c hm)⟩, rfl⟩

theorem after?_eq_some_iff {lead : List Char} :
    after? lead cs = some rest ↔ cs = lead ++ rest := by
  induction lead generalizing cs with
  | nil => simp [after?]
  | cons l lead ih =>
    cases cs with
    | nil => simp [after?]
    | cons c cs =>
      by_cases hc : c = l
      · simp [after?, hc, ih]
      · simp [after?, hc]

theorem occurs_iff {part : List Char} : occurs part cs = true ↔ part <:+: cs := by
  rw [occurs, anywhere_eq_true_iff, List.infix_iff_prefix_suffix]
  constructor
  · rintro ⟨front, back, rfl, h⟩
    exact ⟨back, List.isPrefixOf_iff_prefix.1 h, List.suffix_append front back⟩
  · rintro ⟨back, h, front, rfl⟩
    exact ⟨front, back, rfl, List.isPrefixOf_iff_prefix.2 h⟩

theorem endsName_iff {attributes : List Char} (h : '>' ∉ attributes) (behind : List Char) :
    endsName (attributes ++ '>' :: behind) = true ↔ attributes.head?.all Text.isBlank = true := by
  cases attributes with
  | nil => simp [endsName]
  | cons c more =>
    have hc : c ≠ '>' := fun hc => h (hc ▸ List.mem_cons_self)
    simp [endsName, hc]

/-- What stands behind the `<` of an opening tag: a name that ends in a letter,
a digit or an underscore, then nothing more or attributes behind white space. -/
structure OpensTag (rest name attributes behind : List Char) : Prop where
  eq_append : rest = name ++ (attributes ++ '>' :: behind)
  isName : ∀ c ∈ name, isNameChar c = true
  endsInWord : name.getLast?.any isWordChar = true
  startsBlank : attributes.head?.all Text.isBlank = true
  staysInside : '>' ∉ attributes
  closesLater : attributes.getLast? ≠ some '/'

namespace OpensTag

variable {name attributes behind : List Char}

theorem name_ne_nil (h : OpensTag rest name attributes behind) : name ≠ [] := by
  rintro rfl
  exact Bool.false_ne_true h.endsInWord

/-- The name goes no further: white space or the end of the tag follows. -/
theorem head?_any_isNameChar (h : OpensTag rest name attributes behind) :
    (attributes ++ '>' :: behind).head?.any isNameChar = false := by
  have hblank := h.startsBlank
  cases attributes with
  | nil => rfl
  | cons c attributes => exact isNameChar_eq_false_of_isBlank hblank

theorem takeWhile_eq (h : OpensTag rest name attributes behind) :
    rest.takeWhile isNameChar = name := by
  rw [h.eq_append]
  exact takeWhile_append_of_head h.isName h.head?_any_isNameChar

theorem dropWhile_eq (h : OpensTag rest name attributes behind) :
    rest.dropWhile isNameChar = attributes ++ '>' :: behind := by
  rw [h.eq_append]
  exact dropWhile_append_of_head h.isName h.head?_any_isNameChar

theorem cut?_eq (h : OpensTag rest name attributes behind) :
    cut? '>' rest = some (name ++ attributes, behind) := by
  refine cut?_eq_some_iff.2 ⟨by rw [h.eq_append, List.append_assoc], ?_⟩
  intro hmem
  rcases List.mem_append.1 hmem with hname | hattributes
  · exact absurd (h.isName _ hname) (by decide)
  · exact h.staysInside hattributes

theorem head?_ne (h : OpensTag rest name attributes behind) : rest.head? ≠ some '?' := by
  obtain ⟨c, name', hname⟩ := List.exists_cons_of_ne_nil h.name_ne_nil
  rw [h.eq_append, hname]
  intro hc
  have hc : c = '?' := Option.some.inj hc
  exact absurd (h.isName c (by rw [hname]; exact List.mem_cons_self)) (by rw [hc]; decide)

theorem getLast?_ne (h : OpensTag rest name attributes behind) :
    (name ++ attributes).getLast? ≠ some '/' := by
  rw [List.getLast?_append]
  cases hlast : attributes.getLast? with
  | some c => exact fun hc => h.closesLater (hlast.trans hc)
  | none =>
    intro hname
    have hword := h.endsInWord
    rw [show name.getLast? = some '/' from hname] at hword
    exact absurd hword (by decide)

end OpensTag

theorem leavesTagOpen_iff :
    leavesTagOpen rest = true ↔
      ∃ name attributes behind, OpensTag rest name attributes behind ∧
        ¬ closingTag name <:+: behind := by
  constructor
  · intro h
    simp only [leavesTagOpen] at h
    cases hcut : cut? '>' rest with
    | none => simp [hcut] at h
    | some parts =>
      obtain ⟨inside, behind⟩ := parts
      obtain ⟨rfl, hinside⟩ := cut?_eq_some_iff.1 hcut
      -- The name is a run in front of the first `>`, for it cannot go on behind it.
      let name := inside.takeWhile isNameChar
      let attributes := inside.dropWhile isNameChar
      have hsplit : inside = name ++ attributes := List.takeWhile_append_dropWhile.symm
      have hname : ∀ c ∈ name, isNameChar c = true := List.all_eq_true.1 List.all_takeWhile
      have hstop : (attributes ++ '>' :: behind).head?.any isNameChar = false := by
        cases hattributes : attributes with
        | nil => rfl
        | cons c more =>
          have hhead : attributes.head?.any isNameChar = false := head?_dropWhile_any
          rwa [hattributes] at hhead
      rw [hcut, hsplit, List.append_assoc, takeWhile_append_of_head hname hstop,
        dropWhile_append_of_head hname hstop] at h
      simp only [Bool.and_eq_true, bne_iff_ne, Bool.not_eq_true'] at h
      obtain ⟨⟨⟨⟨-, hlast⟩, hword⟩, hends⟩, hoccurs⟩ := h
      have hattributes : '>' ∉ attributes :=
        fun h => hinside (hsplit ▸ List.mem_append_right name h)
      refine ⟨name, attributes, behind,
        ⟨?_, hname, hword, (endsName_iff hattributes _).1 hends, hattributes, ?_⟩, ?_⟩
      · rw [hsplit, List.append_assoc]
      · exact fun hc => hlast (by rw [List.getLast?_append, hc]; rfl)
      · exact fun hc => Bool.false_ne_true (hoccurs.symm.trans (occurs_iff.2 hc))
  · rintro ⟨name, attributes, behind, hopens, hbehind⟩
    have hends := (endsName_iff hopens.staysInside behind).2 hopens.startsBlank
    have hoccurs : occurs (closingTag name) behind = false := by
      simpa [← occurs_iff] using hbehind
    simp only [leavesTagOpen, hopens.cut?_eq, hopens.takeWhile_eq, hopens.dropWhile_eq, hends,
      hoccurs, hopens.endsInWord, bne_iff_ne.2 hopens.head?_ne, bne_iff_ne.2 hopens.getLast?_ne,
      Bool.and_self, Bool.not_false]

theorem opensTagHere_iff :
    opensTagHere cs = true ↔
      ∃ name attributes behind rest, cs = '<' :: rest ∧ OpensTag rest name attributes behind ∧
        ¬ closingTag name <:+: behind := by
  constructor
  · intro h
    unfold opensTagHere at h
    split at h
    · rename_i rest
      obtain ⟨name, attributes, behind, hopens, hbehind⟩ := leavesTagOpen_iff.1 h
      exact ⟨name, attributes, behind, rest, rfl, hopens, hbehind⟩
    · exact absurd h Bool.false_ne_true
  · rintro ⟨name, attributes, behind, rest, rfl, hopens, hbehind⟩
    exact leavesTagOpen_iff.2 ⟨name, attributes, behind, hopens, hbehind⟩

theorem opensCommentHere_iff :
    opensCommentHere cs = true ↔
      ∃ rest, cs = "<!--".toList ++ rest ∧ ¬ "-->".toList <:+: rest := by
  unfold opensCommentHere
  cases h : after? "<!--".toList cs with
  | none =>
    simp only [Bool.false_eq_true, false_iff]
    rintro ⟨rest, hcs, -⟩
    rw [after?_eq_some_iff.2 hcs] at h
    cases h
  | some rest =>
    obtain rfl := after?_eq_some_iff.1 h
    simp [← occurs_iff]

theorem opensBraceHere_iff :
    opensBraceHere cs = true ↔
      ∃ rest, cs = '\x7b' :: rest ∧ ∀ c ∈ rest, c ∉ ['\x7d', '"', '\''] := by
  constructor
  · intro h
    unfold opensBraceHere at h
    split at h
    · rename_i rest
      exact ⟨rest, rfl, by simpa [and_assoc] using h⟩
    · exact absurd h Bool.false_ne_true
  · rintro ⟨rest, rfl, h⟩
    simpa [opensBraceHere, and_assoc] using h

theorem head?_eq_of_opensTagHere (h : opensTagHere cs = true) : cs.head? = some '<' := by
  obtain ⟨-, -, -, rest, rfl, -, -⟩ := opensTagHere_iff.1 h
  rfl

theorem head?_eq_of_opensCommentHere (h : opensCommentHere cs = true) : cs.head? = some '<' := by
  obtain ⟨rest, rfl, -⟩ := opensCommentHere_iff.1 h
  rfl

theorem head?_eq_of_opensBraceHere (h : opensBraceHere cs = true) : cs.head? = some '\x7b' := by
  obtain ⟨rest, rfl, -⟩ := opensBraceHere_iff.1 h
  rfl

theorem closesTagHere_iff :
    closesTagHere cs = true ↔
      ∃ marks c rest, cs = '<' :: '/' :: (marks ++ c :: rest) ∧
        (∀ d ∈ marks, d = '-' ∨ d = '.') ∧ isWordChar c = true ∧ '>' ∈ rest := by
  constructor
  · intro h
    unfold closesTagHere at h
    split at h
    · exact absurd h Bool.false_ne_true
    · rename_i rest hrest
      obtain rfl := after?_eq_some_iff.1 hrest
      split at h
      · exact absurd h Bool.false_ne_true
      · rename_i c rest hdrop
        obtain ⟨marks, rfl, hmarks, -⟩ := dropWhile_eq_cons_iff.1 hdrop
        obtain ⟨hc, hclose⟩ := Bool.and_eq_true_iff.1 h
        exact ⟨marks, c, rest, rfl, by simpa using hmarks, hc, List.contains_iff_mem.1 hclose⟩
  · rintro ⟨marks, c, rest, rfl, hmarks, hc, hclose⟩
    have hdrop : (marks ++ c :: rest).dropWhile (fun c => c = '-' || c = '.') = c :: rest :=
      dropWhile_eq_cons_iff.2 ⟨marks, rfl, by simpa using hmarks, not_mark_of_isWordChar hc⟩
    simp only [closesTagHere, after?, if_true, hdrop, hc, Bool.true_and]
    exact List.contains_iff_mem.2 hclose

theorem endsInTagHere_iff {start : Char → Bool} :
    endsInTagHere start cs = true ↔
      ∃ c inside behind, cs = '<' :: c :: (inside ++ '>' :: behind) ∧ start c = true ∧
        (∀ d ∈ inside, d ≠ '/' ∧ d ≠ '>') ∧ '<' ∉ behind := by
  constructor
  · intro h
    unfold endsInTagHere at h
    split at h
    · rename_i c rest
      obtain ⟨hc, hrest⟩ := Bool.and_eq_true_iff.1 h
      split at hrest
      · rename_i behind hdrop
        obtain ⟨inside, rfl, hinside, -⟩ := dropWhile_eq_cons_iff.1 hdrop
        exact ⟨c, inside, behind, rfl, hc, by simpa using hinside, by simpa using hrest⟩
      · exact absurd hrest Bool.false_ne_true
    · exact absurd h Bool.false_ne_true
  · rintro ⟨c, inside, behind, rfl, hc, hinside, hbehind⟩
    have hdrop : (inside ++ '>' :: behind).dropWhile (fun d => d != '/' && d != '>') =
        '>' :: behind :=
      dropWhile_eq_cons_iff.2 ⟨inside, rfl, by simpa using hinside, rfl⟩
    simpa [endsInTagHere, hc, hdrop] using hbehind

theorem head?_eq_of_endsInTagHere {start : Char → Bool} (h : endsInTagHere start cs = true) :
    cs.head? = some '<' := by
  obtain ⟨c, inside, behind, rfl, -⟩ := endsInTagHere_iff.1 h
  rfl

theorem startsWithClosingTag_iff :
    startsWithClosingTag cs = true ↔
      ∃ c name blanks rest, cs = '<' :: '/' :: c :: (name ++ (blanks ++ '>' :: rest)) ∧
        isQualifiedStart c = true ∧ (∀ d ∈ name, isQualifiedChar d = true) ∧
        ∀ d ∈ blanks, Text.isBlank d = true := by
  constructor
  · intro h
    unfold startsWithClosingTag at h
    split at h
    · rename_i c rest hcs
      obtain ⟨hc, hhead⟩ := Bool.and_eq_true_iff.1 h
      obtain ⟨behind, hbehind⟩ := List.head?_eq_some_iff.1 (beq_iff_eq.1 hhead)
      obtain ⟨blanks, hblanks, hall, -⟩ := dropWhile_eq_cons_iff.1 hbehind
      refine ⟨c, rest.takeWhile isQualifiedChar, blanks, behind, ?_, hc,
        List.all_eq_true.1 List.all_takeWhile, hall⟩
      rw [← hblanks, List.takeWhile_append_dropWhile]
      exact after?_eq_some_iff.1 hcs
    · exact absurd h Bool.false_ne_true
  · rintro ⟨c, name, blanks, rest, rfl, hc, hname, hblanks⟩
    have hstop : (blanks ++ '>' :: rest).head?.any isQualifiedChar = false := by
      cases blanks with
      | nil => rfl
      | cons d blanks => exact isQualifiedChar_eq_false_of_isBlank (hblanks d List.mem_cons_self)
    have hdrop : (blanks ++ '>' :: rest).dropWhile Text.isBlank = '>' :: rest :=
      dropWhile_append_of_head hblanks rfl
    simp [startsWithClosingTag, after?, hc, dropWhile_append_of_head hname hstop, hdrop]

end XmlSupport.Indent
