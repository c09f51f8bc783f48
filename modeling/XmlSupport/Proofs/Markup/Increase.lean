import XmlSupport.Proofs.Indent.Increase
import XmlSupport.Proofs.Markup.Rendering

/-!
# Which lines of tags indent the next one

On a line of texts and tags without braces the increase rule has a meaning that
does not mention characters: some open tag with a plain name is followed by no
closing tag of that name. A line of whole elements leaves no tag open, however
deeply they nest.
-/

namespace XmlSupport.Markup

open Indent Reserved

variable {r : Reserved} {tokens : List Token} {name attributes rest : List Char}

theorem IsPlainName.mark_not_mem (h : IsPlainName name) : '>' ∉ name :=
  fun hmem => absurd (h.1 _ hmem) (by decide)

theorem IsPlainName.not_isBlank (h : IsPlainName name) : ∀ c ∈ name, (!Text.isBlank c) = true := by
  intro c hc
  cases hblank : Text.isBlank c with
  | false => rfl
  | true => exact absurd (h.1 c hc) (by simp [isNameChar_eq_false_of_isBlank hblank])

theorem Reserved.IsName.slash_cons_ne_append (h : r.IsName name) (behind rest : List Char) :
    '/' :: behind ≠ name ++ rest := by
  obtain ⟨c, more, rfl⟩ := List.exists_cons_of_ne_nil h.1
  intro heq
  have hc : '/' = c := (List.cons.inj heq).1
  have hslash : '/' ∉ c :: more := h.not_mem (by decide)
  exact absurd List.mem_cons_self (hc ▸ hslash)

/-- Nothing but a closing tag begins with a slash. -/
theorem eq_of_closingTag_isPrefix {t : Token} (h : r.Admits t) (ht : t.isTag = true)
    (hname : '>' ∉ name) (hstarts : closingTag name <+: t.render ++ rest) :
    t = .closingTag name := by
  obtain ⟨behind, heq⟩ := hstarts
  cases t with
  | text content => exact absurd ht Bool.false_ne_true
  | openTag name' attributes =>
    have hrest : '/' :: (name ++ '>' :: behind) = name' ++ (attributes ++ '>' :: rest) := by
      simpa [closingTag, Token.render] using heq
    exact absurd hrest (h.1.slash_cons_ne_append _ _)
  | emptyTag name' attributes =>
    have hrest : '/' :: (name ++ '>' :: behind) = name' ++ (attributes ++ '/' :: '>' :: rest) := by
      simpa [closingTag, Token.render] using heq
    exact absurd hrest (h.1.slash_cons_ne_append _ _)
  | closingTag name' =>
    have hrest : name ++ '>' :: behind = name' ++ '>' :: rest := by
      simpa [closingTag, Token.render] using heq
    have hname' : '>' ∉ name' := IsName.not_mem h (by decide)
    rw [(eq_of_append_mark hname hname' hrest).1]

theorem closingTag_isInfix_render_iff (h : ∀ t ∈ tokens, r.Admits t) (hname : '>' ∉ name) :
    closingTag name <:+: render tokens ↔ .closingTag name ∈ tokens := by
  have hmark : ∀ cs, closingTag name <+: cs → cs.head? = some '<' := by
    rintro cs ⟨behind, rfl⟩
    rfl
  have hstands := exists_suffix_iff h hmark
  constructor
  · rintro ⟨front, behind, heq⟩
    obtain ⟨before, t, after, rfl, htag, hstarts⟩ :=
      hstands.1 ⟨front, closingTag name ++ behind, by rw [← heq, List.append_assoc],
        List.prefix_append _ _⟩
    have ht : r.Admits t := h t (List.mem_append_right _ List.mem_cons_self)
    rw [eq_of_closingTag_isPrefix ht htag hname hstarts]
    exact List.mem_append_right _ List.mem_cons_self
  · intro hmem
    obtain ⟨before, after, rfl⟩ := List.append_of_mem hmem
    refine ⟨render before, render after, ?_⟩
    simp [render_append, render_cons, Token.render, closingTag]

section Openings

theorem opensTagHere_openTag (h : r.Admits (.openTag name attributes)) :
    opensTagHere ((Token.openTag name attributes).render ++ rest) = true ↔
      IsPlainName name ∧ ¬ closingTag name <:+: rest := by
  obtain ⟨hname, hattributes, hlast⟩ := h
  have hrender : (Token.openTag name attributes).render ++ rest =
      '<' :: (name ++ (attributes ++ '>' :: rest)) := by simp [Token.render]
  have hinside : '>' ∉ attributes := hattributes.not_mem (by decide)
  rw [hrender, opensTagHere, leavesTagOpen_iff]
  constructor
  · rintro ⟨name', attributes', behind, hopens, hbehind⟩
    have hopened : IsPlainName name' := ⟨hopens.isName, hopens.endsInWord⟩
    have heq : (name ++ attributes) ++ '>' :: rest = (name' ++ attributes') ++ '>' :: behind := by
      simpa using hopens.eq_append
    have hfirst : '>' ∉ name ++ attributes :=
      List.not_mem_append (hname.not_mem (by decide)) hinside
    have hfirst' : '>' ∉ name' ++ attributes' :=
      List.not_mem_append hopened.mark_not_mem hopens.staysInside
    obtain ⟨hparts, rfl⟩ := eq_of_append_mark hfirst hfirst' heq
    obtain ⟨rfl, rfl⟩ := name_unique hname.not_isBlank hattributes.startsBlank
      hopened.not_isBlank hopens.startsBlank hparts
    exact ⟨hopened, hbehind⟩
  · rintro ⟨⟨hplain, hword⟩, hbehind⟩
    exact ⟨name, attributes, rest,
      ⟨rfl, hplain, hword, hattributes.startsBlank, hinside, hlast⟩, hbehind⟩

theorem opensTagHere_closingTag (name rest : List Char) :
    opensTagHere ((Token.closingTag name).render ++ rest) = false := by
  rw [Bool.eq_false_iff]
  intro hopens
  obtain ⟨name', attributes, behind, h, -⟩ := leavesTagOpen_iff.1 hopens
  obtain ⟨c, more, rfl⟩ := List.exists_cons_of_ne_nil h.name_ne_nil
  have hc : '/' = c := (List.cons.inj h.eq_append).1
  exact absurd (h.isName c List.mem_cons_self) (hc ▸ by decide)

theorem opensTagHere_emptyTag (h : r.Admits (.emptyTag name attributes)) (rest : List Char) :
    opensTagHere ((Token.emptyTag name attributes).render ++ rest) = false := by
  obtain ⟨hname, hattributes⟩ := h
  have hrender : (Token.emptyTag name attributes).render ++ rest =
      '<' :: (name ++ attributes ++ '/' :: '>' :: rest) := by simp [Token.render]
  rw [Bool.eq_false_iff, hrender]
  intro hopens
  obtain ⟨name', attributes', behind, hopens, -⟩ := leavesTagOpen_iff.1 hopens
  rcases List.mem_append.1 (hopens.mem_of_selfClosing rfl) with hmem | hmem
  · exact hname.not_mem (by decide) hmem
  · exact hattributes.not_mem (by decide) hmem

end Openings

section Line

variable {t : Token}

theorem brace_not_mem_render (h : byLineRules.Admits t) : '\x7b' ∉ t.render := by
  have hname {name : List Char} (h : byLineRules.IsName name) : '\x7b' ∉ name :=
    fun hmem => (h.2 _ hmem).2.2 (by decide)
  have hattributes {attributes : List Char} (h : byLineRules.AreAttributes attributes) :
      '\x7b' ∉ attributes :=
    fun hmem => (h.2 _ hmem).2 (by decide)
  cases t with
  | text content => exact fun hmem => (h _ hmem).2 (by decide)
  | openTag name attributes => simp [Token.render, hname h.1, hattributes h.2.1]
  | closingTag name => simp [Token.render, hname h]
  | emptyTag name attributes => simp [Token.render, hname h.1, hattributes h.2]

/-- No name begins like a comment. -/
theorem opensCommentHere_render (h : byLineRules.Admits t) (ht : t.isTag = true)
    (rest : List Char) : opensCommentHere (t.render ++ rest) = false := by
  have hname {name : List Char} (h : byLineRules.IsName name) (more behind : List Char) :
      '<' :: (name ++ more) ≠ "<!--".toList ++ behind := by
    obtain ⟨c, name, rfl⟩ := List.exists_cons_of_ne_nil h.1
    intro heq
    have hc : c = '!' := (List.cons.inj (List.cons.inj heq).2).1
    exact (h.2 c List.mem_cons_self).2.2 (hc ▸ by decide)
  rw [Bool.eq_false_iff]
  intro hopens
  obtain ⟨behind, heq, -⟩ := opensCommentHere_iff.1 hopens
  cases t with
  | text content => exact absurd ht Bool.false_ne_true
  | openTag name attributes =>
    exact hname h.1 (attributes ++ '>' :: rest) behind (by rw [← heq]; simp [Token.render])
  | closingTag name => exact absurd (List.cons.inj (List.cons.inj heq).2).1 (by decide)
  | emptyTag name attributes =>
    exact hname h.1 (attributes ++ '/' :: '>' :: rest) behind (by rw [← heq]; simp [Token.render])

theorem not_opensBraceHere (h : ∀ t ∈ tokens, byLineRules.Admits t) :
    ¬ ∃ front back, render tokens = front ++ back ∧ opensBraceHere back = true := by
  rintro ⟨front, back, heq, hback⟩
  obtain ⟨rest, rfl, -⟩ := opensBraceHere_iff.1 hback
  have hmem : '\x7b' ∈ render tokens := heq ▸ List.mem_append_right front List.mem_cons_self
  obtain ⟨t, ht, hmem⟩ := List.mem_flatMap.1 hmem
  exact brace_not_mem_render (h t ht) hmem

theorem not_opensCommentHere (h : ∀ t ∈ tokens, byLineRules.Admits t) :
    ¬ ∃ front back, render tokens = front ++ back ∧ opensCommentHere back = true := by
  rw [exists_suffix_iff h fun _ => head?_eq_of_opensCommentHere]
  rintro ⟨before, t, after, rfl, ht, hopens⟩
  have hadmits := h t (List.mem_append_right before List.mem_cons_self)
  rw [opensCommentHere_render hadmits ht] at hopens
  exact Bool.false_ne_true hopens

theorem exists_opensTagHere_iff (h : ∀ t ∈ tokens, byLineRules.Admits t) :
    (∃ front back, render tokens = front ++ back ∧ opensTagHere back = true) ↔
      LeavesOpen tokens := by
  rw [exists_suffix_iff h fun _ => head?_eq_of_opensTagHere]
  constructor
  · rintro ⟨before, t, after, rfl, ht, hopens⟩
    obtain ⟨hadmits, hafter⟩ := List.forall_mem_cons.1 (List.forall_mem_append.1 h).2
    cases t with
    | text content => exact absurd ht Bool.false_ne_true
    | openTag name attributes =>
      obtain ⟨hplain, hbehind⟩ := (opensTagHere_openTag hadmits).1 hopens
      rw [closingTag_isInfix_render_iff hafter hplain.mark_not_mem] at hbehind
      exact ⟨before, name, attributes, after, rfl, hplain, hbehind⟩
    | closingTag name =>
      rw [opensTagHere_closingTag] at hopens
      exact absurd hopens Bool.false_ne_true
    | emptyTag name attributes =>
      rw [opensTagHere_emptyTag hadmits] at hopens
      exact absurd hopens Bool.false_ne_true
  · rintro ⟨before, name, attributes, after, rfl, hplain, hbehind⟩
    obtain ⟨hadmits, hafter⟩ := List.forall_mem_cons.1 (List.forall_mem_append.1 h).2
    refine ⟨before, .openTag name attributes, after, rfl, rfl, ?_⟩
    rw [opensTagHere_openTag hadmits, closingTag_isInfix_render_iff hafter hplain.mark_not_mem]
    exact ⟨hplain, hbehind⟩

end Line

section Forests

/-- Every open tag is followed by a closing tag of its name. -/
def ClosesAll (tokens : List Token) : Prop :=
  ∀ front name attributes back,
    tokens = front ++ .openTag name attributes :: back → .closingTag name ∈ back

theorem ClosesAll.not_leavesOpen (h : ClosesAll tokens) : ¬ LeavesOpen tokens := by
  rintro ⟨front, name, attributes, back, heq, -, hback⟩
  exact hback (h front name attributes back heq)

theorem ClosesAll.append {first second : List Token} (h : ClosesAll first)
    (h' : ClosesAll second) : ClosesAll (first ++ second) := by
  intro front name attributes back heq
  rcases List.append_eq_append_iff.1 heq with ⟨part, -, hsecond⟩ | ⟨part, hfirst, hback⟩
  · exact h' part name attributes back hsecond
  · cases part with
    | nil => exact h' [] name attributes back hback.symm
    | cons t part =>
      obtain ⟨rfl, rfl⟩ := List.cons.inj hback
      exact List.mem_append_left second (h front name attributes part hfirst)

theorem closesAll_singleton {t : Token} (h : ∀ name attributes, t ≠ .openTag name attributes) :
    ClosesAll [t] := by
  intro front name attributes back heq
  have hmem : Token.openTag name attributes ∈ [t] :=
    heq ▸ List.mem_append_right front List.mem_cons_self
  exact absurd (List.mem_singleton.1 hmem).symm (h name attributes)

theorem ClosesAll.enclose (h : ClosesAll tokens) (name attributes : List Char) :
    ClosesAll (.openTag name attributes :: (tokens ++ [.closingTag name])) := by
  intro front name' attributes' back heq
  cases front with
  | nil =>
    obtain ⟨htag, rfl⟩ := List.cons.inj heq
    obtain ⟨rfl, -⟩ := Token.openTag.inj htag
    exact List.mem_append_right tokens (List.mem_singleton_self _)
  | cons t front =>
    have hlast : ClosesAll [.closingTag name] := closesAll_singleton fun _ _ => nofun
    exact h.append hlast front name' attributes' back (List.cons.inj heq).2

mutual

theorem Tree.closesAll_tokens (t : Tree) : ClosesAll t.tokens := by
  match t with
  | .text content => exact closesAll_singleton fun _ _ => nofun
  | .empty name attributes => exact closesAll_singleton fun _ _ => nofun
  | .element name attributes children =>
    exact (closesAll_forestTokens children).enclose name attributes

theorem closesAll_forestTokens (forest : List Tree) : ClosesAll (forestTokens forest) := by
  match forest with
  | [] => exact fun front _ _ _ heq => by simp [forestTokens] at heq
  | t :: rest => exact t.closesAll_tokens.append (closesAll_forestTokens rest)

end

end Forests

/-- A line of texts and tags indents the next one just when one of its tags stays
open, and a line of whole elements never does. -/
theorem increases_render (h : ∀ t ∈ tokens, byLineRules.Admits t) :
    (increases (render tokens) = true ↔ LeavesOpen tokens) ∧
      ∀ forest, tokens = forestTokens forest → increases (render tokens) = false := by
  have hiff : increases (render tokens) = true ↔ LeavesOpen tokens := by
    have hbrace := not_opensBraceHere h
    have hcomment := not_opensCommentHere h
    have htag := exists_opensTagHere_iff h
    simp only [increases_iff, and_or_left, exists_or]
    rw [htag]
    simp only [hbrace, hcomment, or_false]
  refine ⟨hiff, ?_⟩
  rintro forest rfl
  rw [Bool.eq_false_iff]
  exact fun hincreases => (closesAll_forestTokens forest).not_leavesOpen (hiff.1 hincreases)

/-- The closing tag of a longer name does not close a tag, and neither does a slash in it. -/
theorem increases_render_longerName :
    let tokens : List Token :=
      [.openTag "ab".toList [], .openTag "a".toList " b=\"/\"".toList, .closingTag "ab".toList,
        .emptyTag "a".toList []]
    (∀ t ∈ tokens, byLineRules.Admits t) ∧
      render tokens = "<ab><a b=\"/\"></ab><a/>".toList ∧ LeavesOpen tokens ∧
      increases (render tokens) = true := by
  intro tokens
  have hadmits : ∀ t ∈ tokens, byLineRules.Admits t := by
    simp [tokens, Admits, IsName, AreAttributes, byLineRules, Text.isBlank, Text.blanks]
  have hopen : LeavesOpen tokens := by
    refine ⟨[.openTag "ab".toList []], _, _, _, rfl, ⟨?_, rfl⟩, ?_⟩
    · simp [isNameChar, isWordChar, isAsciiLetter]
    · simp
  exact ⟨hadmits, rfl, hopen, (increases_render hadmits).1.2 hopen⟩

end XmlSupport.Markup
