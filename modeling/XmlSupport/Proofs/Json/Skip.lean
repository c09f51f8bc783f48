import XmlSupport.Proofs.Json.Grammar

/-!
# Values are passed over

What is passed over is exactly one value, however deeply its arrays and objects
nest. The steps it takes are at most two for each character, so that they never
run out.
-/

namespace XmlSupport.Json

section Blanks

variable {c : Char} {blank rest : List Char}

theorem IsBlank.isSpace_and (h : IsBlank blank) :
    ∀ c ∈ blank, isSpace c = true ∧ continuesNumber c = false := by
  intro c hc
  have hmem := h c hc
  simp only [List.mem_cons, List.not_mem_nil, or_false] at hmem
  rcases hmem with rfl | rfl | rfl | rfl <;> exact ⟨rfl, rfl⟩

theorem dropSpace_append (h : IsBlank blank) (rest : List Char) :
    dropSpace (blank ++ rest) = dropSpace rest :=
  List.dropWhile_append_of_pos fun c hc => (h.isSpace_and c hc).1

theorem dropSpace_cons (h : isSpace c = false) (rest : List Char) :
    dropSpace (c :: rest) = c :: rest :=
  List.dropWhile_cons_of_neg (by simp [h])

/-- White space and most other things end a number. -/
theorem endsNumber_append (h : IsBlank blank) (hc : continuesNumber c = false) (rest : List Char) :
    EndsNumber (blank ++ c :: rest) := by
  cases blank with
  | nil => exact hc
  | cons b blank => exact (h.isSpace_and b List.mem_cons_self).2

end Blanks

section Steps

variable {fuel : Nat} {frame : Frame} {frames : List Frame} {c : Char}
  {blank label text rest : List Char}

attribute [local simp] skipFrom

def Frame.open : Frame → Char
  | .list => '['
  | .object => '\x7b'

theorem Frame.enclose_eq (frame : Frame) (parts : List (List Char)) :
    frame.enclose parts = frame.open :: ([','].intercalate parts ++ [frame.close]) := by
  cases frame <;> rfl

theorem skipFrom_value_blank (h : IsBlank blank) :
    skipFrom (fuel + 1) .value frames (blank ++ rest) = skipFrom (fuel + 1) .value frames rest := by
  simp only [skipFrom, dropSpace_append h]

theorem skipFrom_first_blank (h : IsBlank blank) :
    skipFrom (fuel + 1) .first (frame :: frames) (blank ++ rest) =
      skipFrom (fuel + 1) .first (frame :: frames) rest := by
  simp only [skipFrom, dropSpace_append h]

theorem skipFrom_next_blank (h : IsBlank blank) :
    skipFrom (fuel + 1) .next (frame :: frames) (blank ++ rest) =
      skipFrom (fuel + 1) .next (frame :: frames) rest := by
  simp only [skipFrom, dropSpace_append h]

theorem skipFrom_open (frame : Frame) :
    skipFrom (fuel + 1) .value frames (frame.open :: rest) =
      skipFrom fuel .first (frame :: frames) rest := by
  cases frame <;> simp [Frame.open, dropSpace_cons, isSpace]

theorem skipFrom_first_close (frame : Frame) :
    skipFrom (fuel + 1) .first (frame :: frames) (frame.close :: rest) =
      skipFrom fuel .next frames rest := by
  cases frame <;> simp [Frame.close, dropSpace_cons, isSpace]

theorem skipFrom_next_close (frame : Frame) :
    skipFrom (fuel + 1) .next (frame :: frames) (frame.close :: rest) =
      skipFrom fuel .next frames rest := by
  cases frame <;> simp [Frame.close, dropSpace_cons, isSpace]

/-- The texts that are passed over as a value in a number of steps, less one,
whatever is open around them and whatever stands behind them. -/
def PassedIn (n : Nat) (text : List Char) : Prop :=
  ∀ fuel frames rest, EndsNumber rest →
    skipFrom (fuel + (n + 1)) .value frames (text ++ rest) = skipFrom fuel .next frames rest

theorem IsScalar.passedIn (h : IsScalar text) : PassedIn 0 text := by
  intro fuel frames rest hrest
  obtain ⟨c, more, rfl, hc, hskip⟩ := h.exists_skipScalar
  have hlist : c ≠ '[' := ne_of_startsScalar hc rfl
  have hobject : c ≠ '\x7b' := ne_of_startsScalar hc rfl
  simp [dropSpace_cons (isSpace_of_startsScalar hc), hlist, hobject, hskip rest hrest]

theorem IsScalar.length_pos (h : IsScalar text) : 0 < text.length := by
  obtain ⟨c, more, rfl, -, -⟩ := h.exists_skipScalar
  exact Nat.succ_pos _

/-- No value begins with white space or with a closing bracket. -/
theorem IsValue.exists_cons (h : IsValue text) :
    ∃ c more, text = c :: more ∧ isSpace c = false ∧ c ≠ ']' := by
  have hopen (frame : Frame) : isSpace frame.open = false ∧ frame.open ≠ ']' := by
    cases frame <;> exact ⟨rfl, by decide⟩
  cases h with
  | scalar h =>
    obtain ⟨c, more, rfl, hc, -⟩ := h.exists_skipScalar
    exact ⟨c, more, rfl, isSpace_of_startsScalar hc, ne_of_startsScalar hc rfl⟩
  | empty frame _ => exact ⟨_, _, frame.enclose_eq _, hopen frame⟩
  | compound frame _ _ _ => exact ⟨_, _, frame.enclose_eq _, hopen frame⟩

theorem skipKey_append {before key behind : List Char} (hbefore : IsBlank before)
    (hkey : IsQuotable key) (hbehind : IsBlank behind) (rest : List Char) :
    skipKey (before ++ (quoted key ++ (behind ++ [':'])) ++ rest) = .ok rest := by
  have hstring := hkey.skipString_append (behind ++ ':' :: rest)
  have hcolon : dropSpace (behind ++ ':' :: rest) = ':' :: rest :=
    (dropSpace_append hbehind _).trans (dropSpace_cons rfl _)
  simp [skipKey, quoted, dropSpace_append hbefore, dropSpace_cons (c := '"') rfl, hstring, hcolon]

theorem IsLabel.skipLabel_append (h : IsLabel frame label) (rest : List Char) :
    skipLabel frame (label ++ rest) = .ok rest := by
  cases h with
  | list => rfl
  | object hbefore hkey hbehind => exact skipKey_append hbefore hkey hbehind rest

variable {p : Part}

theorem skipFrom_next_part (h : p.IsFramed frame) :
    skipFrom (fuel + 2) .next (frame :: frames) (',' :: (p.written ++ rest)) =
      skipFrom (fuel + 1) .value (frame :: frames) (p.text ++ (p.after ++ rest)) := by
  have hclose : ',' ≠ frame.close := by cases frame <;> decide
  have hlabel := h.label.skipLabel_append (p.before ++ (p.text ++ (p.after ++ rest)))
  rw [← skipFrom_value_blank h.before]
  simp [Part.written, dropSpace_cons (c := ',') rfl, hclose, hlabel]

theorem skipFrom_first_of_skipLabel {more rest' : List Char} (hrest : dropSpace rest = c :: more)
    (hclose : c ≠ frame.close) (hlabel : skipLabel frame (c :: more) = .ok rest') :
    skipFrom (fuel + 1) .first (frame :: frames) rest =
      skipFrom fuel .value (frame :: frames) rest' := by
  simp only [skipFrom, hrest, if_neg hclose, hlabel]

theorem skipFrom_first_part (h : p.IsFramed frame) (htext : IsValue p.text) :
    skipFrom (fuel + 2) .first (frame :: frames) (p.written ++ rest) =
      skipFrom (fuel + 1) .value (frame :: frames) (p.text ++ (p.after ++ rest)) := by
  obtain ⟨label, before, text, after⟩ := p
  obtain ⟨hlabel, hbefore, -⟩ := h
  cases hlabel with
  | list =>
    obtain ⟨c, more, rfl, hspace, hclose⟩ := htext.exists_cons
    refine skipFrom_first_of_skipLabel ?_ hclose rfl
    simp [Part.written, dropSpace_append hbefore, dropSpace_cons hspace]
  | @object space key behind hspace hkey hbehind =>
    have hnone : IsBlank [] := List.forall_mem_nil _
    have hskip := skipKey_append hnone hkey hbehind (before ++ (text ++ (after ++ rest)))
    rw [← skipFrom_value_blank hbefore]
    refine skipFrom_first_of_skipLabel (c := '"') ?_ (by decide) hskip
    simp [Part.written, quoted, dropSpace_append hspace, dropSpace_cons (c := '"') rfl]

end Steps

/-- Each text behind a comma. -/
def commaed (parts : List (List Char)) : List Char := parts.flatMap (',' :: ·)

theorem intercalate_cons (part : List Char) (parts : List (List Char)) :
    [','].intercalate (part :: parts) = part ++ commaed parts := by
  induction parts generalizing part with
  | nil => simp [List.intercalate, commaed]
  | cons next parts ih =>
    show part ++ (',' :: [','].intercalate (next :: parts)) = _
    rw [ih]
    rfl

section Runs

variable {frame : Frame} {text : List Char} {parts : List Part} {p : Part}

theorem endsNumber_after {after : List Char} (h : IsBlank after) (frame : Frame)
    (parts : List (List Char)) (rest : List Char) :
    EndsNumber (after ++ (commaed parts ++ frame.close :: rest)) := by
  cases parts with
  | nil => exact endsNumber_append h (by cases frame <;> rfl) rest
  | cons next parts => exact endsNumber_append h rfl _

/-- A part is passed over from its value on, up to the comma or the bracket behind it. -/
theorem PassedIn.skipFrom_part {n : Nat} (h : PassedIn n p.text) (hp : p.IsFramed frame)
    (fuel : Nat) (frames : List Frame) (parts : List (List Char)) (rest : List Char) :
    skipFrom (fuel + 1 + (n + 1)) .value (frame :: frames)
        (p.text ++ (p.after ++ (commaed parts ++ frame.close :: rest))) =
      skipFrom (fuel + 1) .next (frame :: frames) (commaed parts ++ frame.close :: rest) := by
  rw [h _ _ _ (endsNumber_after hp.after frame parts rest), skipFrom_next_blank hp.after]

/-- A part and all that follows it are passed over, if what follows it is. -/
theorem PassedIn.skipFrom_parts {k n : Nat} {parts : List (List Char)} (h : PassedIn k p.text)
    (hp : p.IsFramed frame)
    (hskip : ∀ fuel frames rest, skipFrom (fuel + (n + 1)) .next (frame :: frames)
      (commaed parts ++ frame.close :: rest) = skipFrom fuel .next frames rest)
    (fuel : Nat) (frames : List Frame) (rest : List Char) :
    skipFrom (fuel + (k + n + 1) + 1) .value (frame :: frames)
        (p.text ++ (p.after ++ (commaed parts ++ frame.close :: rest))) =
      skipFrom fuel .next frames rest := by
  have hfuel : fuel + (k + n + 1) + 1 = fuel + n + 1 + (k + 1) := by omega
  rw [hfuel, h.skipFrom_part hp]
  exact hskip fuel frames rest

/-- What follows the first part is passed over up to the closing bracket, part by part. -/
theorem exists_skipFrom_commaed (hframed : ∀ p ∈ parts, p.IsFramed frame)
    (h : ∀ p ∈ parts, ∃ n, n + 1 ≤ 2 * p.text.length ∧ PassedIn n p.text) :
    ∃ n, n ≤ 2 * (commaed (parts.map Part.written)).length ∧ ∀ fuel frames rest,
      skipFrom (fuel + (n + 1)) .next (frame :: frames)
        (commaed (parts.map Part.written) ++ frame.close :: rest) =
          skipFrom fuel .next frames rest := by
  induction parts with
  | nil => exact ⟨0, Nat.zero_le _, fun fuel frames rest => skipFrom_next_close frame⟩
  | cons p parts ih =>
    obtain ⟨hp, hframed⟩ := List.forall_mem_cons.1 hframed
    obtain ⟨⟨k, hk, hpassed⟩, h⟩ := List.forall_mem_cons.1 h
    obtain ⟨n, hn, hskip⟩ := ih hframed h
    -- one step for the comma, `k + 1` for the value, `n + 1` for what follows it
    refine ⟨k + n + 2, ?_, fun fuel frames rest => ?_⟩
    · simp only [commaed, List.map_cons, List.flatMap_cons, List.length_append, List.length_cons,
        Part.written] at hn ⊢
      omega
    · let tail := commaed (parts.map Part.written) ++ frame.close :: rest
      have htail : commaed ((p :: parts).map Part.written) ++ frame.close :: rest =
          ',' :: (p.written ++ tail) := by simp [commaed, tail]
      calc skipFrom (fuel + (k + n + 2 + 1)) .next (frame :: frames)
            (commaed ((p :: parts).map Part.written) ++ frame.close :: rest)
        _ = skipFrom (fuel + (k + n + 1) + 2) .next (frame :: frames)
              (',' :: (p.written ++ tail)) := by rw [htail]; rfl
        _ = skipFrom (fuel + (k + n + 1) + 1) .value (frame :: frames)
              (p.text ++ (p.after ++ tail)) := skipFrom_next_part hp
        _ = skipFrom fuel .next frames rest := hpassed.skipFrom_parts hp hskip fuel frames rest

/-- A value is passed over in at most two steps for each of its characters. -/
theorem IsValue.exists_passedIn (h : IsValue text) :
    ∃ n, n + 1 ≤ 2 * text.length ∧ PassedIn n text := by
  induction h with
  | scalar h => exact ⟨0, by have := h.length_pos; omega, h.passedIn⟩
  | @empty frame blank h =>
    refine ⟨1, ?_, fun fuel frames rest _ => ?_⟩
    · simp only [Frame.enclose_eq, List.length_cons, List.length_append]
      omega
    have hinside :
        frame.enclose [blank] ++ rest = frame.open :: (blank ++ frame.close :: rest) := by
      simp [Frame.enclose_eq]
    rw [hinside, skipFrom_open, skipFrom_first_blank h, skipFrom_first_close]
  | @compound frame parts hne hframed hvalues ih =>
    obtain ⟨p, parts, rfl⟩ := List.exists_cons_of_ne_nil hne
    obtain ⟨hp, hframed⟩ := List.forall_mem_cons.1 hframed
    obtain ⟨⟨k, hk, hpassed⟩, ih⟩ := List.forall_mem_cons.1 ih
    obtain ⟨n, hn, hskip⟩ := exists_skipFrom_commaed hframed ih
    -- one step for the bracket and one for the label of the first part
    refine ⟨k + n + 3, ?_, fun fuel frames rest _ => ?_⟩
    · simp only [Frame.enclose_eq, List.map_cons, intercalate_cons, List.length_cons,
        List.length_append, Part.written] at hn ⊢
      omega
    · let tail := commaed (parts.map Part.written) ++ frame.close :: rest
      have hinside : frame.enclose ((p :: parts).map Part.written) ++ rest =
          frame.open :: (p.written ++ tail) := by
        simp [Frame.enclose_eq, intercalate_cons, tail]
      calc skipFrom (fuel + (k + n + 3 + 1)) .value frames
            (frame.enclose ((p :: parts).map Part.written) ++ rest)
        _ = skipFrom (fuel + (k + n + 1) + 2) .first (frame :: frames) (p.written ++ tail) := by
              rw [hinside]; exact skipFrom_open frame
        _ = skipFrom (fuel + (k + n + 1) + 1) .value (frame :: frames)
              (p.text ++ (p.after ++ tail)) := skipFrom_first_part hp (hvalues p List.mem_cons_self)
        _ = skipFrom fuel .next frames rest := hpassed.skipFrom_parts hp hskip fuel frames rest

/-- One value and the white space in front of it are passed over, and nothing else. -/
theorem IsValue.skipValue_append {blank rest : List Char} (h : IsValue text)
    (hblank : IsBlank blank) (hrest : EndsNumber rest) :
    skipValue (blank ++ (text ++ rest)) = .ok rest := by
  obtain ⟨n, hn, hpassed⟩ := h.exists_passedIn
  obtain ⟨fuel, hfuel⟩ : ∃ fuel, 2 * (blank ++ (text ++ rest)).length + 2 = fuel + 1 + (n + 1) :=
    ⟨2 * (blank ++ (text ++ rest)).length - n, by simp only [List.length_append]; omega⟩
  rw [skipValue, hfuel, ← Nat.add_assoc, skipFrom_value_blank hblank, Nat.add_assoc,
    hpassed _ _ _ hrest, skipFrom]

end Runs

end XmlSupport.Json
