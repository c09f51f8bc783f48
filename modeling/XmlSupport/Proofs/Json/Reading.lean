import Mathlib.Tactic.SplitIfs
import XmlSupport.Json.Reader
import XmlSupport.Proofs.Except
import XmlSupport.Proofs.Json.Skip
import XmlSupport.Proofs.Text.Utf8

/-!
# What is read stands in the text

What a reader takes off the front of a text is a piece of the grammar: white
space, a string in some spelling of the characters that are read, a number. A
number that can be read can also be passed over, and the other way around only
its size matters, so the grammar of numbers is found from passing over them.
-/

namespace XmlSupport.Json

section Blanks

variable {word rest rest' : List Char}

theorem mem_of_isSpace {c : Char} (h : isSpace c = true) : c ∈ [' ', '\t', '\n', '\r'] := by
  simp only [isSpace, Bool.or_eq_true, decide_eq_true_eq] at h
  rcases h with ((rfl | rfl) | rfl) | rfl <;> simp

theorem exists_blank (rest : List Char) : ∃ blank, IsBlank blank ∧ rest = blank ++ dropSpace rest :=
  ⟨rest.takeWhile isSpace, fun _ hc => mem_of_isSpace (List.all_eq_true.1 List.all_takeWhile _ hc),
    List.takeWhile_append_dropWhile.symm⟩

theorem exists_blank_of_dropSpace (h : dropSpace rest = rest') :
    ∃ blank, IsBlank blank ∧ rest = blank ++ rest' :=
  h ▸ exists_blank rest

theorem eq_append_of_readWord (h : readWord word rest = .ok rest') : rest = word ++ rest' := by
  induction word generalizing rest with
  | nil =>
    cases h
    rfl
  | cons w word ih =>
    cases rest with
    | nil => cases h
    | cons c rest =>
      simp only [readWord] at h
      split_ifs at h with hc
      rw [hc, ih h, List.cons_append]

end Blanks

section Strings

variable {c : Char} {n : Nat} {cs before rest rest' : List Char}

theorem isHexDigit_of_hexValue? (h : hexValue? c = some n) : IsHexDigit n c := by
  have hascii : c.toNat < 128 := by
    simp only [hexValue?, Char.le_def, UInt32.le_iff_toNat_le] at h
    have hnine : ('9' : Char).val.toNat = 57 := rfl
    have hf : ('f' : Char).val.toNat = 102 := rfl
    have hF : ('F' : Char).val.toNat = 70 := rfl
    show c.val.toNat < 128
    split_ifs at h <;> omega
  have hall : ∀ k < 128, (hexValue? (Char.ofNat k)).all fun n =>
      n < 16 && (Char.ofNat k == n.digitChar || Char.ofNat k == n.digitChar.toUpper) := by decide
  have hc := hall _ hascii
  rw [Char.ofNat_toNat, h] at hc
  simpa [IsHexDigit] using hc

theorem exists_writesUnit_of_readHexUnit (h : readHexUnit rest = .ok (n, rest')) :
    ∃ digits, rest = digits ++ rest' ∧ WritesUnit digits n := by
  have hunit : hexUnit? rest = some (n, rest') := by
    simp only [readHexUnit] at h
    split at h
    · rename_i hsome
      rw [hsome, Except.ok.inj h]
    · split_ifs at h
  unfold hexUnit? at hunit
  split at hunit
  · simp only [Option.bind_eq_bind, Option.bind_eq_some_iff, Option.pure_def, Option.some.injEq,
      Prod.mk.injEq] at hunit
    obtain ⟨a, ha, b, hb, c, hc, d, hd, rfl, rfl⟩ := hunit
    exact ⟨_, rfl, .digits (isHexDigit_of_hexValue? ha) (isHexDigit_of_hexValue? hb)
      (isHexDigit_of_hexValue? hc) (isHexDigit_of_hexValue? hd)⟩
  · cases hunit

theorem WritesUnit.lt {digits : List Char} (h : WritesUnit digits n) : n < 0x10000 := by
  cases h with
  | digits ha hb hc hd =>
    have ha := ha.1
    have hb := hb.1
    have hc := hc.1
    have hd := hd.1
    omega

theorem exists_spellsChar_of_readLowSurrogate {first : List Char} {high : Nat}
    (hfirst : WritesUnit first high) (hhigh : isHighSurrogate high = true)
    (h : readLowSurrogate high rest = .ok (c, rest')) :
    ∃ written, rest = written ++ rest' ∧ SpellsChar ('\\' :: 'u' :: (first ++ written)) c := by
  unfold readLowSurrogate at h
  split at h
  · rename_i rest
    split at h
    · cases h
    · rename_i low behind hunit
      obtain ⟨second, rfl, hsecond⟩ := exists_writesUnit_of_readHexUnit hunit
      split_ifs at h with hlow
      simp only [isHighSurrogate, isLowSurrogate, Bool.and_eq_true, decide_eq_true_eq] at hhigh hlow
      obtain ⟨rfl, rfl⟩ := Prod.mk.injEq .. ▸ Except.ok.inj h
      have hvalue : (Char.ofNat (pairSurrogates high low)).toNat = pairSurrogates high low :=
        Utf8.toNat_ofNat (by rw [pairSurrogates]; omega)
      have hfirst : WritesUnit first (0xD800 + (high - 0xD800)) := by
        rwa [show 0xD800 + (high - 0xD800) = high by omega]
      have hsecond : WritesUnit second (0xDC00 + (low - 0xDC00)) := by
        rwa [show 0xDC00 + (low - 0xDC00) = low by omega]
      refine ⟨'\\' :: 'u' :: second, by simp, .pair hfirst hsecond (by omega) ?_⟩
      rw [hvalue, pairSurrogates]
      omega
  all_goals cases h

theorem exists_spellsChar_of_readEscapedNumber (h : readEscapedNumber rest = .ok (c, rest')) :
    ∃ written, rest = written ++ rest' ∧ SpellsChar ('\\' :: 'u' :: written) c := by
  unfold readEscapedNumber at h
  split at h
  · cases h
  · rename_i n behind hunit
    obtain ⟨digits, rfl, hdigits⟩ := exists_writesUnit_of_readHexUnit hunit
    split_ifs at h with hlow hhigh
    · obtain ⟨written, rfl, hwritten⟩ := exists_spellsChar_of_readLowSurrogate hdigits hhigh h
      exact ⟨digits ++ written, by simp, hwritten⟩
    · cases h
      have hlt := hdigits.lt
      simp only [isHighSurrogate, isLowSurrogate, Bool.and_eq_true, decide_eq_true_eq] at hhigh hlow
      have hvalue : (Char.ofNat n).toNat = n := Utf8.toNat_ofNat (by omega)
      exact ⟨digits, rfl, .number (hvalue.symm ▸ hdigits)⟩

theorem mem_letters_of_escapedLetter? {l : Char} (h : escapedLetter? l = some c) :
    (l, c) ∈ letters := by
  unfold escapedLetter? at h
  split_ifs at h with h1 h2 h3 h4 h5 h6 h7 h8
  all_goals
    subst l
    rw [← Option.some.inj h]
    decide

theorem exists_spellsChar_of_readEscape (h : readEscape rest = .ok (c, rest')) :
    ∃ written, rest = written ++ rest' ∧ SpellsChar ('\\' :: written) c := by
  unfold readEscape at h
  split at h
  · cases h
  · rename_i rest
    obtain ⟨written, rfl, hwritten⟩ := exists_spellsChar_of_readEscapedNumber h
    exact ⟨'u' :: written, rfl, hwritten⟩
  · rename_i l rest _
    split at h
    · rename_i d hletter
      cases h
      exact ⟨[l], rfl, .letter (mem_letters_of_escapedLetter? hletter)⟩
    · cases h

theorem exists_spells_of_readCharacters {fuel : Nat}
    (h : readCharacters fuel before rest = .ok (cs, rest')) :
    ∃ written tail, cs = before.reverse ++ tail ∧ rest = written ++ '"' :: rest' ∧
      Spells written tail := by
  induction fuel generalizing before rest with
  | zero => cases h
  | succ fuel ih =>
    cases rest with
    | nil => cases h
    | cons c rest =>
      simp only [readCharacters] at h
      split_ifs at h with hquote hbackslash hcontrol
      · cases h
        exact ⟨[], [], by simp, by simp [hquote], .nil⟩
      · split at h
        · cases h
        · rename_i d behind hescape
          obtain ⟨piece, rfl, hpiece⟩ := exists_spellsChar_of_readEscape hescape
          obtain ⟨written, tail, rfl, rfl, hwritten⟩ := ih h
          exact ⟨('\\' :: piece) ++ written, d :: tail, by simp, by simp [hbackslash],
            .cons hpiece hwritten⟩
      · obtain ⟨written, tail, rfl, rfl, hwritten⟩ := ih h
        have hplain : isPlain c = true := isPlain_iff.2 ⟨hquote, hbackslash, hcontrol⟩
        exact ⟨[c] ++ written, c :: tail, by simp, by simp, .cons (.plain hplain) hwritten⟩

/-- A string is read off one of its spellings. -/
theorem exists_spells_of_readString {s : String} (h : readString rest = .ok (s, rest')) :
    ∃ written, rest = written ++ '"' :: rest' ∧ Spells written s.toList := by
  unfold readString at h
  split at h
  · cases h
  · rename_i cs behind hcharacters
    cases h
    obtain ⟨written, tail, rfl, rfl, hwritten⟩ := exists_spells_of_readCharacters hcharacters
    exact ⟨written, rfl, by simpa using hwritten⟩

theorem SpellsChar.isQuotable {piece : List Char} (h : SpellsChar piece c) : IsQuotable piece := by
  cases h with
  | plain h => exact .cons (.plain h) .nil
  | letter h => exact .cons (.letter h) .nil
  | number h => simpa using IsQuotable.cons (.number h) .nil
  | pair hfirst hsecond =>
    simpa using IsQuotable.cons (.number hfirst) (.cons (.number hsecond) .nil)

theorem IsQuotable.append {front back : List Char} (hfront : IsQuotable front)
    (hback : IsQuotable back) : IsQuotable (front ++ back) := by
  induction hfront with
  | nil => exact hback
  | cons hpiece _ ih =>
    rw [List.append_assoc]
    exact .cons hpiece ih

theorem Spells.isQuotable {written : List Char} (h : Spells written cs) : IsQuotable written := by
  induction h with
  | nil => exact .nil
  | cons hc _ ih => exact hc.isQuotable.append ih

end Strings

section Digits

variable {n n' : Nat} {c : Char} {cs rest : List Char}

theorem exists_digits (cs : List Char) :
    ∃ ds, (∀ c ∈ ds, isDigit c = true) ∧ cs = ds ++ dropDigits cs :=
  ⟨cs.takeWhile isDigit, List.all_eq_true.1 List.all_takeWhile,
    List.takeWhile_append_dropWhile.symm⟩

theorem dropDigits_cons (h : isDigit c = true) : dropDigits (c :: rest) = dropDigits rest :=
  List.dropWhile_cons_of_pos h

theorem dropDigits_cons_of_neg (h : ¬ isDigit c = true) : dropDigits (c :: rest) = c :: rest :=
  List.dropWhile_cons_of_neg h

theorem takeInteger_rest (n : Nat) (cs : List Char) : (takeInteger n cs).2.2 = dropDigits cs := by
  induction cs generalizing n with
  | nil => rfl
  | cons c cs ih =>
    simp only [takeInteger]
    split_ifs with hdigit hlimit
    · rw [dropDigits_cons hdigit]
    · rw [dropDigits_cons hdigit, ih]
    · rw [dropDigits_cons_of_neg hdigit]

theorem takeFraction_rest (n : Nat) (e : Int) (cs : List Char) :
    (takeFraction n e cs).2.2 = dropDigits cs := by
  induction cs generalizing n e with
  | nil => rfl
  | cons c cs ih =>
    simp only [takeFraction]
    split_ifs with hdigit hlimit
    · rfl
    · rw [dropDigits_cons hdigit, ih]
    · rw [dropDigits_cons_of_neg hdigit]

theorem rest_of_readExponentDigits (h : readExponentDigits n cs = (n', some rest)) :
    rest = dropDigits cs := by
  induction cs generalizing n with
  | nil =>
    cases h
    rfl
  | cons c cs ih =>
    simp only [readExponentDigits] at h
    split_ifs at h with hdigit hlimit
    · cases h
    · rw [dropDigits_cons hdigit, ih h]
    · cases h
      rw [dropDigits_cons_of_neg hdigit]

/-- Where the digits of an exponent pass the limit, the others are dropped. -/
theorem dropDigits_afterOverflow (n : Nat) (cs : List Char) :
    dropDigits (afterOverflow n cs) = dropDigits cs := by
  induction cs generalizing n with
  | nil => rfl
  | cons c cs ih =>
    simp only [afterOverflow]
    split_ifs with hdigit hlimit
    · rw [dropDigits_cons hdigit]
    · rw [dropDigits_cons hdigit, ih]
    · rfl

end Digits

section Numbers

variable {negative : Bool} {significand dropped : Nat} {exponent : Int} {x : Number}
  {rest rest' : List Char}

theorem rest_of_finishFloat (h : finishFloat negative significand exponent rest = .ok (x, rest')) :
    rest = rest' := by
  unfold finishFloat at h
  split at h
  · exact congrArg Prod.snd (Except.ok.inj h)
  · cases h

theorem rest_of_finishInteger (h : finishInteger negative significand rest = .ok (x, rest')) :
    rest = rest' := by
  unfold finishInteger at h
  split at h
  · exact congrArg Prod.snd (Except.ok.inj h)
  · split at h
    · exact rest_of_finishFloat h
    · exact congrArg Prod.snd (Except.ok.inj h)

/-- The sign of an exponent is read as it is passed over. -/
theorem skipExponent_of_sign {down : Bool} {digits more : List Char} {d : Char}
    (hsign : (match rest with
      | '+' :: more => (false, more)
      | '-' :: more => (true, more)
      | more => (false, more)) = (down, digits))
    (hdigits : digits = d :: more) (hd : isDigit d = true) :
    skipExponent rest = .ok (dropDigits more) := by
  subst hdigits
  split at hsign <;> cases hsign
  · simp [skipExponent, hd]
  · simp [skipExponent, hd]
  · rename_i hplus hminus
    have hplus : d ≠ '+' := by
      rintro rfl
      exact hplus _ rfl
    have hminus : d ≠ '-' := by
      rintro rfl
      exact hminus _ rfl
    simp [skipExponent, hplus, hminus, hd]

theorem skipExponent_of_readExponent
    (h : readExponent negative significand exponent rest = .ok (x, rest')) :
    skipExponent rest = .ok rest' := by
  unfold readExponent at h
  split at h
  rename_i down digits hsign
  split at h
  · cases h
  · rename_i d more
    split at h
    · rename_i hd
      rw [skipExponent_of_sign hsign rfl hd]
      split at h
      · rename_i behind hread
        rw [← rest_of_finishFloat h, rest_of_readExponentDigits hread]
      · simp only at h
        split at h
        · cases h
        · cases h
          rw [dropDigits_afterOverflow]
    · cases h

theorem skipFraction_of_readFraction
    (h : readFraction negative significand exponent rest = .ok (x, rest')) :
    skipFraction rest = .ok rest' := by
  unfold readFraction at h
  split at h
  · cases h
  · rename_i d more
    split_ifs at h with hdigit
    have hrest : (takeFraction significand exponent (d :: more)).2.2 = dropDigits more := by
      rw [takeFraction_rest, dropDigits_cons hdigit]
    simp only [readAfterFraction, hrest] at h
    simp only [skipFraction, hdigit, if_true]
    split at h
    · exact skipExponent_of_readExponent h
    · exact skipExponent_of_readExponent h
    · rw [rest_of_finishFloat h]

theorem skipNumberTail_of_readNumberTail
    (h : readNumberTail negative significand dropped rest = .ok (x, rest')) :
    skipNumberTail rest = .ok rest' := by
  unfold readNumberTail at h
  split at h
  · exact skipFraction_of_readFraction h
  · exact skipExponent_of_readExponent h
  · exact skipExponent_of_readExponent h
  · rename_i hdot he hE
    have hrest : rest = rest' := by
      split_ifs at h
      · exact rest_of_finishInteger h
      · exact rest_of_finishFloat h
    rw [← hrest]
    unfold skipNumberTail
    split
    · exact absurd rfl (hdot _)
    · exact absurd rfl (he _)
    · exact absurd rfl (hE _)
    · rfl

/-- A number that can be read can be passed over as well. -/
theorem skipNumber_of_readNumber (h : readNumber negative rest = .ok (x, rest')) :
    skipNumber rest = .ok rest' := by
  cases rest with
  | nil => cases h
  | cons c rest =>
    simp only [readNumber] at h
    simp only [skipNumber]
    split_ifs at h ⊢ with hzero hdigit
    · cases rest with
      | nil => exact skipNumberTail_of_readNumberTail h
      | cons d more =>
        simp only at h ⊢
        split_ifs at h ⊢
        exact skipNumberTail_of_readNumberTail h
    · have hrest : (takeInteger 0 (c :: rest)).2.2 = dropDigits rest := by
        rw [takeInteger_rest, dropDigits_cons hdigit]
      rw [← hrest]
      exact skipNumberTail_of_readNumberTail h

theorem exists_sign_of_skipExponent (h : skipExponent rest = .ok rest') :
    ∃ sign ds, sign ∈ [[], ['+'], ['-']] ∧ AreDigits ds ∧ rest = sign ++ (ds ++ rest') := by
  cases rest with
  | nil => cases h
  | cons c rest =>
    obtain ⟨sign, digits, hsign, hrest, hdigits⟩ : ∃ sign digits, sign ∈ [[], ['+'], ['-']] ∧
        c :: rest = sign ++ digits ∧ (if c = '+' || c = '-' then rest else c :: rest) = digits := by
      by_cases hplus : c = '+'
      · exact ⟨['+'], rest, by simp, by simp [hplus], by simp [hplus]⟩
      by_cases hminus : c = '-'
      · exact ⟨['-'], rest, by simp, by simp [hminus], by simp [hminus]⟩
      · exact ⟨[], c :: rest, by simp, rfl, by simp [hplus, hminus]⟩
    simp only [skipExponent, hdigits] at h
    cases digits with
    | nil => cases h
    | cons d more =>
      simp only at h
      split_ifs at h with hd
      obtain ⟨ds, hds, hmore⟩ := exists_digits more
      rw [Except.ok.inj h] at hmore
      refine ⟨sign, d :: ds, hsign, ⟨List.cons_ne_nil _ _, List.forall_mem_cons.2 ⟨hd, hds⟩⟩, ?_⟩
      rw [hrest, List.cons_append, ← hmore]

theorem exists_exponent_of_skipExponent {e : Char} (he : e ∈ ['e', 'E'])
    (h : skipExponent rest = .ok rest') :
    ∃ exponent, e :: rest = exponent ++ rest' ∧ IsExponent exponent := by
  obtain ⟨sign, ds, hsign, hds, rfl⟩ := exists_sign_of_skipExponent h
  exact ⟨e :: (sign ++ ds), by simp, .some he hsign hds⟩

theorem exists_digits_of_skipFraction (h : skipFraction rest = .ok rest') :
    ∃ ds exponent, AreDigits ds ∧ IsExponent exponent ∧ rest = ds ++ (exponent ++ rest') := by
  unfold skipFraction at h
  split at h
  · cases h
  · rename_i d more
    split at h
    · rename_i hd
      obtain ⟨ds, hds, hmore⟩ := exists_digits more
      have hdigits : AreDigits (d :: ds) :=
        ⟨List.cons_ne_nil _ _, List.forall_mem_cons.2 ⟨hd, hds⟩⟩
      obtain ⟨exponent, hexponent, htail⟩ :
          ∃ exponent, IsExponent exponent ∧ dropDigits more = exponent ++ rest' := by
        split at h
        · rename_i hmark
          obtain ⟨exponent, htail, hexponent⟩ :=
            exists_exponent_of_skipExponent (e := 'e') (by simp) h
          exact ⟨exponent, hexponent, hmark.trans htail⟩
        · rename_i hmark
          obtain ⟨exponent, htail, hexponent⟩ :=
            exists_exponent_of_skipExponent (e := 'E') (by simp) h
          exact ⟨exponent, hexponent, hmark.trans htail⟩
        · exact ⟨[], .none, Except.ok.inj h⟩
      exact ⟨d :: ds, exponent, hdigits, hexponent, by rw [List.cons_append, ← htail, ← hmore]⟩
    · cases h

theorem exists_fraction_of_skipNumberTail (h : skipNumberTail rest = .ok rest') :
    ∃ fraction exponent, IsFraction fraction ∧ IsExponent exponent ∧
      rest = fraction ++ (exponent ++ rest') := by
  unfold skipNumberTail at h
  split at h
  · obtain ⟨ds, exponent, hds, hexponent, rfl⟩ := exists_digits_of_skipFraction h
    exact ⟨'.' :: ds, exponent, .some hds, hexponent, rfl⟩
  · obtain ⟨exponent, htail, hexponent⟩ := exists_exponent_of_skipExponent (e := 'e') (by simp) h
    exact ⟨[], exponent, .none, hexponent, htail⟩
  · obtain ⟨exponent, htail, hexponent⟩ := exists_exponent_of_skipExponent (e := 'E') (by simp) h
    exact ⟨[], exponent, .none, hexponent, htail⟩
  · exact ⟨[], [], .none, .none, Except.ok.inj h⟩

theorem exists_integer_of_skipNumber (h : skipNumber rest = .ok rest') :
    ∃ integer fraction exponent, IsInteger integer ∧ IsFraction fraction ∧ IsExponent exponent ∧
      rest = integer ++ (fraction ++ (exponent ++ rest')) := by
  cases rest with
  | nil => cases h
  | cons c rest =>
    simp only [skipNumber] at h
    split_ifs at h with hzero hdigit
    · have htail : skipNumberTail rest = .ok rest' := by
        cases rest with
        | nil => exact h
        | cons d more =>
          simp only at h
          split_ifs at h
          exact h
      obtain ⟨fraction, exponent, hfraction, hexponent, rfl⟩ :=
        exists_fraction_of_skipNumberTail htail
      exact ⟨['0'], fraction, exponent, .zero, hfraction, hexponent, by simp [hzero]⟩
    · obtain ⟨ds, hds, hrest⟩ := exists_digits rest
      obtain ⟨fraction, exponent, hfraction, hexponent, htail⟩ :=
        exists_fraction_of_skipNumberTail h
      refine ⟨c :: ds, fraction, exponent, .digits hzero hdigit hds, hfraction, hexponent, ?_⟩
      rw [List.cons_append, ← htail, ← hrest]

/-- A number that is passed over, its sign in front, is one of the grammar. -/
theorem exists_isNumber_of_skipNumber (sign : List Char) (hsign : sign ∈ [[], ['-']])
    (h : skipNumber rest = .ok rest') : ∃ text, sign ++ rest = text ++ rest' ∧ IsNumber text := by
  obtain ⟨integer, fraction, exponent, hinteger, hfraction, hexponent, rfl⟩ :=
    exists_integer_of_skipNumber h
  exact ⟨_, by simp, .mk hsign hinteger hfraction hexponent⟩

end Numbers

end XmlSupport.Json
