import XmlSupport.Proofs.Json.Reading

/-!
# What is passed over is a value

Passing over a value checks its grammar and nothing else. It keeps the arrays and
objects that are still open on a stack, so what is behind a value has to finish
each of them in turn, from the innermost outwards, before anything else may
follow. When the stack is empty, exactly one value of the grammar has been passed.
-/

namespace XmlSupport.Json

section Strings

variable {c : Char} {rest rest' : List Char}

theorem exists_isPiece_of_skipEscape (h : skipEscape rest = .ok rest') :
    ∃ written, rest = written ++ rest' ∧ IsPiece ('\\' :: written) := by
  unfold skipEscape at h
  split at h
  · cases h
  · rename_i rest
    obtain ⟨⟨n, behind⟩, hunit, heq⟩ := map_eq_ok_iff.1 h
    obtain ⟨digits, rfl, hdigits⟩ := exists_writesUnit_of_readHexUnit hunit
    obtain rfl : behind = rest' := heq
    exact ⟨'u' :: digits, rfl, .number hdigits⟩
  · rename_i l rest _
    split_ifs at h with hletter
    cases h
    obtain ⟨c, hc⟩ := Option.isSome_iff_exists.1 hletter
    exact ⟨[l], rfl, .letter (mem_letters_of_escapedLetter? hc)⟩

theorem exists_isQuotable_of_skipCharacters {fuel : Nat}
    (h : skipCharacters fuel rest = .ok rest') :
    ∃ written, rest = written ++ '"' :: rest' ∧ IsQuotable written := by
  induction fuel generalizing rest with
  | zero => cases h
  | succ fuel ih =>
    cases rest with
    | nil => cases h
    | cons c rest =>
      simp only [skipCharacters] at h
      split_ifs at h with hquote hbackslash hcontrol
      · cases h
        exact ⟨[], by simp [hquote], .nil⟩
      · split at h
        · cases h
        · rename_i behind hescape
          obtain ⟨piece, rfl, hpiece⟩ := exists_isPiece_of_skipEscape hescape
          obtain ⟨written, rfl, hwritten⟩ := ih h
          exact ⟨('\\' :: piece) ++ written, by simp [hbackslash], .cons hpiece hwritten⟩
      · obtain ⟨written, rfl, hwritten⟩ := ih h
        exact ⟨[c] ++ written, rfl, .cons (.plain (isPlain_iff.2 ⟨hquote, hbackslash, hcontrol⟩))
          hwritten⟩

/-- A string that is passed over is one that may be quoted. -/
theorem exists_isQuotable_of_skipString (h : skipString rest = .ok rest') :
    ∃ written, rest = written ++ '"' :: rest' ∧ IsQuotable written :=
  exists_isQuotable_of_skipCharacters h

end Strings

section Scalars

variable {c : Char} {rest rest' : List Char}

theorem skipString_of_readString {text : String} (h : readString rest = .ok (text, rest')) :
    skipString rest = .ok rest' := by
  obtain ⟨written, rfl, hwritten⟩ := exists_spells_of_readString h
  exact hwritten.isQuotable.skipString_append rest'

/-- Whatever scalar is read can be passed over. -/
theorem skipScalar_of_readScalar {v : Json} (h : readScalar c rest = .ok (v, rest')) :
    skipScalar c rest = .ok rest' := by
  unfold readScalar at h
  unfold skipScalar
  split_ifs at h ⊢ with hquote hminus hdigit hnull htrue hfalse
  all_goals
    obtain ⟨x, hread, heq⟩ := map_eq_ok_iff.1 h
    cases heq
  · exact skipString_of_readString hread
  · exact skipNumber_of_readNumber hread
  · exact skipNumber_of_readNumber hread
  · exact hread
  · exact hread
  · exact hread

/-- A scalar that is passed over is one of the grammar. -/
theorem exists_isScalar_of_skipScalar (h : skipScalar c rest = .ok rest') :
    ∃ text, c :: rest = text ++ rest' ∧ IsScalar text := by
  unfold skipScalar at h
  split_ifs at h with hquote hminus hdigit hnull htrue hfalse
  · obtain ⟨written, rfl, hwritten⟩ := exists_isQuotable_of_skipString h
    exact ⟨quoted written, by simp [quoted, hquote], .string hwritten⟩
  · obtain ⟨text, hrest, htext⟩ := exists_isNumber_of_skipNumber ['-'] (by simp) h
    exact ⟨text, by rw [← hrest, hminus]; rfl, .number htext⟩
  · obtain ⟨text, hrest, htext⟩ := exists_isNumber_of_skipNumber [] (by simp) h
    exact ⟨text, hrest, .number htext⟩
  · exact ⟨"null".toList, by rw [eq_append_of_readWord h, hnull]; rfl, .word (by simp)⟩
  · exact ⟨"true".toList, by rw [eq_append_of_readWord h, htrue]; rfl, .word (by simp)⟩
  · exact ⟨"false".toList, by rw [eq_append_of_readWord h, hfalse]; rfl, .word (by simp)⟩

/-- A scalar that is read is one of the grammar. -/
theorem exists_isScalar_of_readScalar {v : Json} (h : readScalar c rest = .ok (v, rest')) :
    ∃ text, c :: rest = text ++ rest' ∧ IsScalar text :=
  exists_isScalar_of_skipScalar (skipScalar_of_readScalar h)

end Scalars

section Labels

variable {frame : Frame} {blank rest rest' : List Char}

theorem exists_isLabel_of_skipKey (hblank : IsBlank blank) (h : skipKey rest = .ok rest') :
    ∃ label, IsLabel .object label ∧ blank ++ rest = label ++ rest' := by
  obtain ⟨before, hbefore, hrest⟩ := exists_blank rest
  unfold skipKey at h
  split at h
  · cases h
  · rename_i c more hmore
    split_ifs at h with hquote
    split at h
    · cases h
    · rename_i behind hstring
      obtain ⟨key, rfl, hkey⟩ := exists_isQuotable_of_skipString hstring
      split at h
      · cases h
      · rename_i d end' hcolon
        split_ifs at h with hd
        cases h
        obtain ⟨space, hspace, hbehind⟩ := exists_blank_of_dropSpace hcolon
        refine ⟨_, .object (List.forall_mem_append.2 ⟨hblank, hbefore⟩) hkey hspace, ?_⟩
        rw [hrest, hmore, hbehind, hquote, hd]
        simp [quoted]

/-- The label of a part is read off the text in front of its value. White space in
front of an item belongs to the item, for which there is no label. -/
theorem exists_isLabel_of_skipLabel (hblank : IsBlank blank)
    (h : skipLabel frame rest = .ok rest') :
    ∃ label space, IsLabel frame label ∧ IsBlank space ∧
      blank ++ rest = label ++ (space ++ rest') := by
  cases frame with
  | list =>
    cases h
    exact ⟨[], blank, .list, hblank, rfl⟩
  | object =>
    obtain ⟨label, hlabel, hrest⟩ := exists_isLabel_of_skipKey hblank h
    exact ⟨label, [], hlabel, List.forall_mem_nil _, hrest⟩

end Labels

/-- What may stand behind a value in frames that are open: further parts of each of them
and its closing bracket. -/
inductive Closes : List Frame → List Char → List Char → Prop where
  | nil (rest : List Char) : Closes [] rest rest
  | cons {frame : Frame} {frames : List Frame} {after rest rest' : List Char} {parts : List Part}
      (hafter : IsBlank after) (hparts : ∀ p ∈ parts, p.IsFramed frame ∧ IsValue p.text)
      (h : Closes frames rest rest') :
    Closes (frame :: frames)
      (after ++ (commaed (parts.map Part.written) ++ frame.close :: rest)) rest'

/-- What may stand between the brackets of an array or an object. -/
inductive IsInside (frame : Frame) : List Char → Prop where
  | blank {blank : List Char} (h : IsBlank blank) : IsInside frame blank
  | parts {p : Part} {parts : List Part}
      (h : ∀ q ∈ p :: parts, q.IsFramed frame ∧ IsValue q.text) :
    IsInside frame (p.written ++ commaed (parts.map Part.written))

theorem IsInside.isValue {frame : Frame} {inside : List Char} (h : IsInside frame inside) :
    IsValue (frame.open :: (inside ++ [frame.close])) := by
  cases h with
  | blank h => simpa [Frame.enclose_eq] using IsValue.empty frame h
  | @parts p parts h =>
    have hvalue := IsValue.compound frame (List.cons_ne_nil p parts) (fun q hq => (h q hq).1)
      fun q hq => (h q hq).2
    rwa [Frame.enclose_eq, List.map_cons, intercalate_cons] at hvalue

/-- What has to be ahead for all frames to be left, by what is expected next. -/
def Leaves (rest' : List Char) : Expectation → List Frame → List Char → Prop
  | .value, frames, rest => ∃ blank text behind, IsBlank blank ∧ IsValue text ∧
      rest = blank ++ (text ++ behind) ∧ Closes frames behind rest'
  | .first, [], rest => rest = rest'
  | .first, frame :: frames, rest => ∃ inside behind, IsInside frame inside ∧
      rest = inside ++ frame.close :: behind ∧ Closes frames behind rest'
  | .next, frames, rest => Closes frames rest rest'

section Runs

variable {fuel : Nat} {c : Char} {frame : Frame} {frames : List Frame}
  {blank more rest rest' : List Char}

/-- A label is followed by a value, and that by the other parts of its frame. -/
theorem Leaves.exists_part (hblank : IsBlank blank) (hskip : skipLabel frame more = .ok rest)
    (h : Leaves rest' .value (frame :: frames) rest) :
    ∃ p parts behind, (∀ q ∈ p :: parts, q.IsFramed frame ∧ IsValue q.text) ∧
      blank ++ more = p.written ++ (commaed (parts.map Part.written) ++ frame.close :: behind) ∧
      Closes frames behind rest' := by
  obtain ⟨label, space, hlabel, hspace, hmore⟩ := exists_isLabel_of_skipLabel hblank hskip
  obtain ⟨before, text, _, hbefore, htext, rfl, hcloses⟩ := h
  cases hcloses with
  | @cons _ _ after behind _ parts hafter hparts hcloses =>
    have hframed : Part.IsFramed frame ⟨label, space ++ before, text, after⟩ :=
      ⟨hlabel, List.forall_mem_append.2 ⟨hspace, hbefore⟩, hafter⟩
    refine ⟨_, parts, behind, List.forall_mem_cons.2 ⟨⟨hframed, htext⟩, hparts⟩, ?_, hcloses⟩
    rw [hmore]
    simp [Part.written]

theorem Leaves.open (frame : Frame) (hblank : IsBlank blank)
    (h : Leaves rest' .first (frame :: frames) more) :
    Leaves rest' .value frames (blank ++ frame.open :: more) := by
  obtain ⟨inside, behind, hinside, rfl, hcloses⟩ := h
  exact ⟨blank, _, behind, hblank, hinside.isValue, by simp, hcloses⟩

theorem Leaves.close (hblank : IsBlank blank) (h : Leaves rest' .next frames more) :
    Leaves rest' .next (frame :: frames) (blank ++ frame.close :: more) := by
  have hnone : ∀ p ∈ ([] : List Part), p.IsFramed frame ∧ IsValue p.text := List.forall_mem_nil _
  exact .cons hblank hnone h

theorem Leaves.comma (hblank : IsBlank blank) (hskip : skipLabel frame more = .ok rest)
    (h : Leaves rest' .value (frame :: frames) rest) :
    Leaves rest' .next (frame :: frames) (blank ++ ',' :: more) := by
  obtain ⟨p, parts, behind, hparts, hpart, hcloses⟩ := h.exists_part (List.forall_mem_nil _) hskip
  have hmore : blank ++ ',' :: more =
      blank ++ (commaed ((p :: parts).map Part.written) ++ frame.close :: behind) := by
    rw [List.nil_append] at hpart
    simp [commaed, hpart]
  exact hmore ▸ .cons hblank hparts hcloses

section Steps

-- The steps after one leave the frames, so this one does.
variable (ih : ∀ expected frames rest, skipFrom fuel expected frames rest = .ok rest' →
  Leaves rest' expected frames rest)

include ih

theorem leaves_value_of_skipFrom_succ (h : skipFrom (fuel + 1) .value frames rest = .ok rest') :
    Leaves rest' .value frames rest := by
  obtain ⟨blank, hblank, hrest⟩ := exists_blank rest
  simp only [skipFrom] at h
  split at h
  · cases h
  rename_i c more hmore
  rw [hrest, hmore]
  split_ifs at h with hlist hobject
  · exact hlist ▸ Leaves.open .list hblank (ih _ _ _ h)
  · exact hobject ▸ Leaves.open .object hblank (ih _ _ _ h)
  split at h
  · cases h
  rename_i behind hscalar
  obtain ⟨text, htext, hisScalar⟩ := exists_isScalar_of_skipScalar hscalar
  exact ⟨blank, text, behind, hblank, .scalar hisScalar, by rw [htext], ih _ _ _ h⟩

theorem leaves_first_of_skipFrom_succ
    (h : skipFrom (fuel + 1) .first (frame :: frames) rest = .ok rest') :
    Leaves rest' .first (frame :: frames) rest := by
  obtain ⟨blank, hblank, hrest⟩ := exists_blank rest
  simp only [skipFrom] at h
  split at h
  · cases h
  rename_i c more hmore
  rw [hrest, hmore]
  split_ifs at h with hclose
  · exact ⟨blank, more, .blank hblank, by rw [hclose], ih _ _ _ h⟩
  split at h
  · cases h
  rename_i behind hskip
  obtain ⟨p, parts, behind, hparts, hpart, hcloses⟩ := (ih _ _ _ h).exists_part hblank hskip
  exact ⟨_, behind, .parts hparts, by rw [hpart, List.append_assoc], hcloses⟩

theorem leaves_next_of_skipFrom_succ
    (h : skipFrom (fuel + 1) .next (frame :: frames) rest = .ok rest') :
    Leaves rest' .next (frame :: frames) rest := by
  obtain ⟨blank, hblank, hrest⟩ := exists_blank rest
  simp only [skipFrom] at h
  split at h
  · cases h
  rename_i c more hmore
  rw [hrest, hmore]
  split_ifs at h with hclose hcomma
  · exact hclose ▸ Leaves.close hblank (ih _ _ _ h)
  split at h
  · cases h
  rename_i behind hskip
  exact hcomma ▸ (ih _ _ _ h).comma hblank hskip

theorem leaves_of_skipFrom_succ (expected : Expectation)
    (h : skipFrom (fuel + 1) expected frames rest = .ok rest') :
    Leaves rest' expected frames rest := by
  cases expected with
  | value => exact leaves_value_of_skipFrom_succ ih h
  | first =>
    cases frames with
    | nil => exact Except.ok.inj h
    | cons frame frames => exact leaves_first_of_skipFrom_succ ih h
  | next =>
    cases frames with
    | nil =>
      obtain rfl := Except.ok.inj h
      exact .nil rest
    | cons frame frames => exact leaves_next_of_skipFrom_succ ih h

end Steps

theorem leaves_of_skipFrom {expected : Expectation}
    (h : skipFrom fuel expected frames rest = .ok rest') : Leaves rest' expected frames rest := by
  induction fuel generalizing expected frames rest with
  | zero => cases h
  | succ fuel ih => exact leaves_of_skipFrom_succ (fun _ _ _ h => ih h) expected h

/-- What is passed over is one value of the grammar, behind white space. -/
theorem exists_isValue_of_skipValue (h : skipValue rest = .ok rest') :
    ∃ blank text, IsBlank blank ∧ IsValue text ∧ rest = blank ++ (text ++ rest') := by
  obtain ⟨blank, text, _, hblank, htext, rfl, hcloses⟩ := leaves_of_skipFrom h
  cases hcloses
  exact ⟨blank, text, hblank, htext, rfl⟩

end Runs

end XmlSupport.Json
