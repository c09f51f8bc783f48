import XmlSupport.Proofs.Indent.Enter
import XmlSupport.Proofs.Markup.Rendering

/-!
# What Enter does behind tags

In front of the cursor only the last tag counts: an open tag without a slash in
its attributes indents, by the first character of its name, and makes room for a
line when a closing tag stands behind the cursor. No earlier tag is taken for the
last one, though what the rules look for may run over several of them.
-/

namespace XmlSupport.Markup

open Indent

variable {r : Reserved} {t : Token} {tokens : List Token} {name attributes rest : List Char}
  {start : Char → Bool}

/-- A closing tag, the name in it being one that the rules know, up to its `>`. -/
def BeginsWithClosingTag (after : List Char) : Prop :=
  ∃ c name blanks rest, after = "</".toList ++ c :: name ++ blanks ++ '>' :: rest ∧
    isQualifiedStart c = true ∧ (∀ d ∈ name, isQualifiedChar d = true) ∧
    ∀ d ∈ blanks, Text.isBlank d = true

/-- The action of Enter behind a last tag, if there is one, in front of a closing
tag or of another text. -/
def actionBehind (last : Option Token) (closing : Bool) : Option Action :=
  match last with
  | some (.openTag (c :: _) attributes) =>
    if attributes.contains '/' then none
    else if isWordChar c then some (if closing then .indentOutdent else .indent)
    else if c = ':' && closing then some .indentOutdent
    else none
  | _ => none

section LastTag

theorem lastTag?_eq_some_iff :
    lastTag? tokens = some t ↔ ∃ before after, tokens = before ++ t :: after ∧ t.isTag = true ∧
      ∀ u ∈ after, u.isTag = false := by
  rw [lastTag?, List.getLast?_filter, List.find?_eq_some_iff_append]
  constructor
  · rintro ⟨ht, back, front, hreverse, hback⟩
    refine ⟨front.reverse, back.reverse, ?_, ht, fun u hu => ?_⟩
    · rw [← List.reverse_reverse tokens, hreverse]
      simp
    · simpa using hback u (List.mem_reverse.1 hu)
  · rintro ⟨before, after, rfl, ht, hafter⟩
    exact ⟨ht, after.reverse, before.reverse, by simp, fun u hu => by
      simp [hafter u (List.mem_reverse.1 hu)]⟩

theorem mark_not_mem_render_iff (h : ∀ t ∈ tokens, r.Admits t) :
    '<' ∉ render tokens ↔ ∀ t ∈ tokens, t.isTag = false := by
  constructor
  · intro hmark t ht
    cases htag : t.isTag with
    | false => rfl
    | true =>
      obtain ⟨inside, hinside, -⟩ := t.exists_render_eq_cons (h t ht) htag
      have hmem : '<' ∈ t.render := hinside ▸ List.mem_cons_self
      exact absurd (List.mem_flatMap.2 ⟨t, ht, hmem⟩) hmark
  · intro htext hmark
    obtain ⟨t, ht, hmem⟩ := List.mem_flatMap.1 hmark
    exact Token.mark_not_mem_render (h t ht) (htext t ht) hmem

end LastTag

section Endings

/-- No name starts with the end of a tag. -/
structure StartsName (start : Char → Bool) : Prop where
  slash : start '/' = false
  close : start '>' = false

theorem StartsName.close_not_mem {c : Char} {inside : List Char} (hstart : StartsName start)
    (hc : start c = true) (hinside : ∀ d ∈ inside, d ≠ '/' ∧ d ≠ '>') : '>' ∉ c :: inside := by
  intro hmem
  rcases List.mem_cons.1 hmem with hmem | hmem
  · rw [← hmem, hstart.close] at hc
    exact Bool.false_ne_true hc
  · exact (hinside _ hmem).2 rfl

theorem endsInTagHere_openTag (hstart : StartsName start)
    (h : r.Admits (.openTag name attributes)) :
    endsInTagHere start ((Token.openTag name attributes).render ++ rest) = true ↔
      name.head?.any start = true ∧ '/' ∉ attributes ∧ '<' ∉ rest := by
  obtain ⟨hname, hattributes, -⟩ := h
  have hslash : '/' ∉ name := hname.not_mem (by decide)
  have hclose : '>' ∉ name ++ attributes :=
    List.not_mem_append (hname.not_mem (by decide)) (hattributes.not_mem (by decide))
  have hrender : (Token.openTag name attributes).render ++ rest =
      '<' :: (name ++ attributes ++ '>' :: rest) := by simp [Token.render]
  obtain ⟨d, more, rfl⟩ := List.exists_cons_of_ne_nil hname.1
  rw [hrender, endsInTagHere_iff]
  constructor
  · rintro ⟨c, inside, behind, heq, hc, hinside, hbehind⟩
    have hclose' := hstart.close_not_mem hc hinside
    obtain ⟨hparts, rfl⟩ := eq_of_append_mark hclose hclose' (List.cons.inj heq).2
    obtain ⟨rfl, rfl⟩ := List.cons.inj hparts
    exact ⟨hc, fun hmem => (hinside _ (List.mem_append_right more hmem)).1 rfl, hbehind⟩
  · rintro ⟨hd, hslash', hrest⟩
    refine ⟨d, more ++ attributes, rest, rfl, hd, fun e he => ⟨?_, ?_⟩, hrest⟩
    · rintro rfl
      rcases List.mem_append.1 he with he | he
      · exact hslash (List.mem_cons_of_mem d he)
      · exact hslash' he
    · rintro rfl
      exact hclose (List.mem_cons_of_mem d he)

theorem endsInTagHere_closingTag (hstart : StartsName start) (name rest : List Char) :
    endsInTagHere start ((Token.closingTag name).render ++ rest) = false := by
  rw [Bool.eq_false_iff]
  intro hends
  obtain ⟨c, inside, behind, heq, hc, -⟩ := endsInTagHere_iff.1 hends
  have hslash : '/' = c := (List.cons.inj (List.cons.inj heq).2).1
  rw [← hslash, hstart.slash] at hc
  exact Bool.false_ne_true hc

theorem endsInTagHere_emptyTag (hstart : StartsName start)
    (h : r.Admits (.emptyTag name attributes)) (rest : List Char) :
    endsInTagHere start ((Token.emptyTag name attributes).render ++ rest) = false := by
  obtain ⟨hname, hattributes⟩ := h
  have hclose : '>' ∉ name ++ attributes ++ ['/'] :=
    List.not_mem_append
      (List.not_mem_append (hname.not_mem (by decide)) (hattributes.not_mem (by decide)))
      (by decide)
  have hrender : (Token.emptyTag name attributes).render ++ rest =
      '<' :: (name ++ attributes ++ ['/'] ++ '>' :: rest) := by simp [Token.render]
  obtain ⟨d, more, rfl⟩ := List.exists_cons_of_ne_nil hname.1
  rw [Bool.eq_false_iff, hrender]
  intro hends
  obtain ⟨c, inside, behind, heq, hc, hinside, -⟩ := endsInTagHere_iff.1 hends
  have hclose' := hstart.close_not_mem hc hinside
  obtain ⟨hparts, -⟩ := eq_of_append_mark hclose hclose' (List.cons.inj heq).2
  obtain ⟨-, rfl⟩ := List.cons.inj hparts
  exact (hinside '/' (by simp)).1 rfl

/-- A line ends in an open tag just when its last tag is one. -/
theorem endsInTag_render_iff (hstart : StartsName start) (h : ∀ t ∈ tokens, r.Admits t) :
    endsInTag start (render tokens) = true ↔
      ∃ name attributes, lastTag? tokens = some (.openTag name attributes) ∧
        name.head?.any start = true ∧ '/' ∉ attributes := by
  rw [endsInTag_iff, exists_suffix_iff h fun _ => head?_eq_of_endsInTagHere]
  constructor
  · rintro ⟨before, t, after, rfl, ht, hends⟩
    obtain ⟨hadmits, hafter⟩ := List.forall_mem_cons.1 (List.forall_mem_append.1 h).2
    cases t with
    | text content => exact absurd ht Bool.false_ne_true
    | openTag name attributes =>
      obtain ⟨hname, hslash, hrest⟩ := (endsInTagHere_openTag hstart hadmits).1 hends
      have htext := (mark_not_mem_render_iff hafter).1 hrest
      have hlast := lastTag?_eq_some_iff.2 ⟨before, after, rfl, ht, htext⟩
      exact ⟨name, attributes, hlast, hname, hslash⟩
    | closingTag name =>
      rw [endsInTagHere_closingTag hstart] at hends
      exact absurd hends Bool.false_ne_true
    | emptyTag name attributes =>
      rw [endsInTagHere_emptyTag hstart hadmits] at hends
      exact absurd hends Bool.false_ne_true
  · rintro ⟨name, attributes, hlast, hname, hslash⟩
    obtain ⟨before, after, rfl, ht, htext⟩ := lastTag?_eq_some_iff.1 hlast
    obtain ⟨hadmits, hafter⟩ := List.forall_mem_cons.1 (List.forall_mem_append.1 h).2
    refine ⟨before, _, after, rfl, ht, (endsInTagHere_openTag hstart hadmits).2 ⟨hname, hslash, ?_⟩⟩
    exact (mark_not_mem_render_iff hafter).2 htext

end Endings

theorem beginsWithClosingTag_iff {after : List Char} :
    BeginsWithClosingTag after ↔ startsWithClosingTag after = true := by
  rw [startsWithClosingTag_iff, BeginsWithClosingTag]
  simp

theorem startsName_isQualifiedStart : StartsName isQualifiedStart := ⟨by decide, by decide⟩

theorem startsName_isWordChar : StartsName isWordChar := ⟨by decide, by decide⟩

/-- Whether a last tag is one of the open tags that a rule for Enter looks for. -/
def isOpening (start : Char → Bool) : Option Token → Bool
  | some (.openTag name attributes) => name.head?.any start && !attributes.contains '/'
  | _ => false

theorem isOpening_eq_true_iff {last : Option Token} :
    isOpening start last = true ↔ ∃ name attributes, last = some (.openTag name attributes) ∧
      name.head?.any start = true ∧ '/' ∉ attributes := by
  constructor
  · intro hopening
    unfold isOpening at hopening
    split at hopening
    · rename_i name attributes
      obtain ⟨hname, hslash⟩ := Bool.and_eq_true_iff.1 hopening
      exact ⟨name, attributes, rfl, hname, by simpa using hslash⟩
    · exact absurd hopening Bool.false_ne_true
  · rintro ⟨name, attributes, rfl, hname, hslash⟩
    simp [isOpening, hname, hslash]

/-- The first rule asks for more behind the cursor, the second for more of the name. -/
theorem actionBehind_eq (last : Option Token) (closing : Bool) :
    actionBehind last closing =
      if isOpening isQualifiedStart last && closing then some .indentOutdent
      else if isOpening isWordChar last then some .indent
      else none := by
  match last with
  | none => rfl
  | some (.text content) => rfl
  | some (.closingTag name) => rfl
  | some (.emptyTag name attributes) => rfl
  | some (.openTag [] attributes) => rfl
  | some (.openTag (c :: name) attributes) =>
    simp only [actionBehind, isOpening, List.head?_cons, Option.any_some, isQualifiedStart]
    by_cases hslash : attributes.contains '/' = true
    · simp only [hslash, if_true, Bool.not_true, Bool.and_false, Bool.false_and, Bool.false_eq_true,
        if_false]
    · rw [Bool.not_eq_true] at hslash
      simp only [hslash, Bool.false_eq_true, if_false, Bool.not_false, Bool.and_true]
      by_cases hword : isWordChar c = true
      · cases closing <;> simp [hword]
      · cases closing <;> simp [hword]

/-- Enter depends on the last tag in front of the cursor and on whether a closing
tag stands behind it, and on nothing else. -/
theorem onEnter_render (h : ∀ t ∈ tokens, Reserved.none.Admits t) (after : List Char) :
    (BeginsWithClosingTag after →
      onEnter (render tokens) after = actionBehind (lastTag? tokens) true) ∧
    (¬ BeginsWithClosingTag after →
      onEnter (render tokens) after = actionBehind (lastTag? tokens) false) := by
  have hends {start : Char → Bool} (hstart : StartsName start) :
      endsInTag start (render tokens) = isOpening start (lastTag? tokens) := by
    rw [Bool.eq_iff_iff, endsInTag_render_iff hstart h, isOpening_eq_true_iff]
  have haction : onEnter (render tokens) after =
      actionBehind (lastTag? tokens) (startsWithClosingTag after) := by
    rw [onEnter, hends startsName_isQualifiedStart, hends startsName_isWordChar, actionBehind_eq]
  rw [beginsWithClosingTag_iff, Bool.not_eq_true]
  refine ⟨fun hclosing => ?_, fun hclosing => ?_⟩
  · rw [haction, hclosing]
  · rw [haction, hclosing]

/-- A tag whose name begins with a colon only makes room in front of a closing tag,
which may have another name. -/
theorem onEnter_render_colon :
    let tokens : List Token :=
      [.openTag "a".toList [], .emptyTag "b".toList [' '], .openTag ":c".toList " d=\"!\"".toList,
        .text "x > y".toList]
    (∀ t ∈ tokens, Reserved.none.Admits t) ∧ BeginsWithClosingTag "</e-1 >".toList ∧
      onEnter (render tokens) "</e-1 >".toList = some .indentOutdent ∧
      onEnter (render tokens) [] = none := by
  intro tokens
  have hadmits : ∀ t ∈ tokens, Reserved.none.Admits t := by
    simp [tokens, Reserved.Admits, Reserved.IsName, Reserved.AreAttributes, Reserved.none,
      Text.isBlank, Text.blanks]
  have hclosing : BeginsWithClosingTag "</e-1 >".toList :=
    ⟨'e', "-1".toList, [' '], [], rfl, rfl, List.all_eq_true.1 rfl, List.all_eq_true.1 rfl⟩
  have hnothing : ¬ BeginsWithClosingTag [] := by
    rintro ⟨_, _, _, _, heq, -⟩
    cases heq
  exact ⟨hadmits, hclosing, (onEnter_render hadmits _).1 hclosing,
    (onEnter_render hadmits _).2 hnothing⟩

end XmlSupport.Markup
