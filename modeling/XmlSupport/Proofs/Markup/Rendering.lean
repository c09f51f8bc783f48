import XmlSupport.Markup.Token
import XmlSupport.Proofs.Indent.Marks

/-!
# Where tags stand in a line

Every `<` of a line that is made of texts and tags begins one of the tags. Behind
it the rest of this tag is read, then the tokens that follow, and a name in front
of it ends where its attributes or its `>` begin.
-/

namespace XmlSupport.Markup

variable {r : Reserved} {t : Token} {tokens : List Token}
  {name name' attributes attributes' rest rest' : List Char}

theorem render_append (front back : List Token) :
    render (front ++ back) = render front ++ render back :=
  List.flatMap_append

theorem render_cons (t : Token) (tokens : List Token) :
    render (t :: tokens) = t.render ++ render tokens :=
  List.flatMap_cons

namespace Reserved

theorem IsName.not_mem {mark : Char} (h : r.IsName name) (hmark : mark ∈ ['<', '>', '/']) :
    mark ∉ name :=
  fun hmem => (h.2 mark hmem).2.1 hmark

theorem IsName.not_isBlank (h : r.IsName name) : ∀ c ∈ name, (!Text.isBlank c) = true := by
  intro c hc
  rw [(h.2 c hc).1]
  rfl

theorem AreAttributes.not_mem {mark : Char} (h : r.AreAttributes attributes)
    (hmark : mark ∈ ['<', '>']) : mark ∉ attributes :=
  fun hmem => (h.2 mark hmem).1 hmark

theorem AreAttributes.startsBlank (h : r.AreAttributes attributes) :
    attributes.head?.all Text.isBlank = true := by
  cases attributes with
  | nil => rfl
  | cons c attributes => exact h.1 c rfl

end Reserved

namespace Token

/-- A tag is a `<` and what holds no other. -/
theorem exists_render_eq_cons (h : r.Admits t) (ht : t.isTag = true) :
    ∃ inside, t.render = '<' :: inside ∧ '<' ∉ inside := by
  cases t with
  | text content => exact absurd ht Bool.false_ne_true
  | openTag name attributes =>
    obtain ⟨hname, hattributes, -⟩ := h
    have hn : '<' ∉ name := hname.not_mem (by decide)
    have ha : '<' ∉ attributes := hattributes.not_mem (by decide)
    exact ⟨name ++ attributes ++ ['>'], rfl, by simp [hn, ha]⟩
  | closingTag name =>
    have hn : '<' ∉ name := Reserved.IsName.not_mem h (by decide)
    exact ⟨'/' :: (name ++ ['>']), rfl, by simp [hn]⟩
  | emptyTag name attributes =>
    obtain ⟨hname, hattributes⟩ := h
    have hn : '<' ∉ name := hname.not_mem (by decide)
    have ha : '<' ∉ attributes := hattributes.not_mem (by decide)
    exact ⟨name ++ attributes ++ ['/', '>'], rfl, by simp [hn, ha]⟩

theorem mark_not_mem_render (h : r.Admits t) (ht : t.isTag = false) : '<' ∉ t.render := by
  cases t with
  | text content => exact fun hmem => (h _ hmem).1 rfl
  | openTag name attributes => exact absurd ht.symm Bool.false_ne_true
  | closingTag name => exact absurd ht.symm Bool.false_ne_true
  | emptyTag name attributes => exact absurd ht.symm Bool.false_ne_true

/-- A `<` in a token and a text behind it stands in the text or begins the token. -/
theorem suffix_of_render_append (h : r.Admits t) (hsuffix : '<' :: rest <:+ t.render ++ rest') :
    (t.isTag = true ∧ '<' :: rest = t.render ++ rest') ∨ '<' :: rest <:+ rest' := by
  obtain ⟨front, heq⟩ := hsuffix
  rcases List.append_eq_append_iff.1 heq with ⟨part, hrender, hrest⟩ | ⟨part, -, hrest⟩
  · cases part with
    | nil => exact .inr (hrest ▸ List.suffix_rfl)
    | cons c part =>
      obtain ⟨rfl, hpart⟩ := List.cons.inj hrest
      have hmem : '<' ∈ t.render := hrender ▸ List.mem_append_right _ List.mem_cons_self
      cases ht : t.isTag with
      | false => exact absurd hmem (mark_not_mem_render h ht)
      | true =>
        obtain ⟨inside, hinside, hmark⟩ := exists_render_eq_cons h ht
        cases front with
        | nil => exact .inl ⟨rfl, hrest.trans (congrArg (· ++ rest') hrender.symm)⟩
        | cons d front =>
          rw [hinside] at hrender
          have htail := (List.cons.inj hrender).2
          exact absurd (htail ▸ List.mem_append_right front List.mem_cons_self) hmark
  · exact .inr ⟨part, hrest.symm⟩

end Token

theorem exists_token_of_suffix (h : ∀ t ∈ tokens, r.Admits t)
    (hsuffix : '<' :: rest <:+ render tokens) :
    ∃ before t after, tokens = before ++ t :: after ∧ t.isTag = true ∧
      '<' :: rest = t.render ++ render after := by
  induction tokens with
  | nil => exact absurd (List.suffix_nil.1 hsuffix) (List.cons_ne_nil _ _)
  | cons t tokens ih =>
    obtain ⟨ht, htokens⟩ := List.forall_mem_cons.1 h
    rw [render_cons] at hsuffix
    rcases t.suffix_of_render_append ht hsuffix with ⟨htag, heq⟩ | hbehind
    · exact ⟨[], t, tokens, rfl, htag, heq⟩
    · obtain ⟨before, u, after, rfl, hu, heq⟩ := ih htokens hbehind
      exact ⟨t :: before, u, after, rfl, hu, heq⟩

/-- What is asked of a text that begins with a `<` can only hold from a tag on. -/
theorem exists_suffix_iff (h : ∀ t ∈ tokens, r.Admits t) {P : List Char → Prop}
    (hP : ∀ cs, P cs → cs.head? = some '<') :
    (∃ front back, render tokens = front ++ back ∧ P back) ↔
      ∃ before t after, tokens = before ++ t :: after ∧ t.isTag = true ∧
        P (t.render ++ render after) := by
  constructor
  · rintro ⟨front, back, heq, hback⟩
    obtain ⟨rest, rfl⟩ := List.head?_eq_some_iff.1 (hP back hback)
    obtain ⟨before, t, after, rfl, ht, hrest⟩ := exists_token_of_suffix h ⟨front, heq.symm⟩
    exact ⟨before, t, after, rfl, ht, hrest ▸ hback⟩
  · rintro ⟨before, t, after, rfl, -, hback⟩
    exact ⟨render before, _, by rw [render_append, render_cons], hback⟩

/-- The first mark divides a text in one way only. -/
theorem eq_of_append_mark {mark : Char} {inside inside' : List Char} (h : mark ∉ inside)
    (h' : mark ∉ inside') (heq : inside ++ mark :: rest = inside' ++ mark :: rest') :
    inside = inside' ∧ rest = rest' := by
  have hcut := Indent.cut?_eq_some_iff.2 ⟨heq, h'⟩
  rw [Indent.cut?_eq_some_iff.2 ⟨rfl, h⟩] at hcut
  exact Prod.mk.inj (Option.some.inj hcut)

/-- A name and attributes are told apart by the first white space. -/
theorem name_unique (hname : ∀ c ∈ name, (!Text.isBlank c) = true)
    (hattributes : attributes.head?.all Text.isBlank = true)
    (hname' : ∀ c ∈ name', (!Text.isBlank c) = true)
    (hattributes' : attributes'.head?.all Text.isBlank = true)
    (heq : name ++ attributes = name' ++ attributes') :
    name = name' ∧ attributes = attributes' := by
  have hstop {cs : List Char} (h : cs.head?.all Text.isBlank = true) :
      cs.head?.any (fun c => !Text.isBlank c) = false := by
    cases cs with
    | nil => rfl
    | cons c cs => simpa using h
  have hrun : name = name' := by
    rw [← takeWhile_append_of_head hname (hstop hattributes), heq,
      takeWhile_append_of_head hname' (hstop hattributes')]
  subst hrun
  exact ⟨rfl, List.append_cancel_left heq⟩

end XmlSupport.Markup
