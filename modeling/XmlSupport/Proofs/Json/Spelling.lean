import XmlSupport.Json.Scan

/-!
# Spellings of strings

A character may be written in a string as it is, by a letter behind a backslash,
by its number, or by the numbers of a surrogate pair. Whatever the spelling, the
reader finds the string that is spelled. A string that is only passed over may
hold the number of a surrogate on its own.
-/

namespace XmlSupport.Json

/-- A hexadecimal digit for a number, in either case. -/
def IsHexDigit (n : Nat) (digit : Char) : Prop :=
  n < 16 ∧ (digit = n.digitChar ∨ digit = n.digitChar.toUpper)

/-- Four digits and the number they write. -/
inductive WritesUnit : List Char → Nat → Prop where
  | digits {a b c d : Nat} {da db dc dd : Char} (ha : IsHexDigit a da) (hb : IsHexDigit b db)
      (hc : IsHexDigit c dc) (hd : IsHexDigit d dd) :
    WritesUnit [da, db, dc, dd] (((a * 16 + b) * 16 + c) * 16 + d)

/-- Letters behind a backslash and what they stand for. -/
def letters : List (Char × Char) :=
  [('"', '"'), ('\\', '\\'), ('/', '/'), ('b', '\x08'), ('f', '\x0c'), ('n', '\n'), ('r', '\r'),
    ('t', '\t')]

/-- Whether a character stands for itself. -/
def isPlain (c : Char) : Bool := c != '"' && c != '\\' && 0x20 ≤ c.toNat

/-- The spellings of a character. -/
inductive SpellsChar : List Char → Char → Prop where
  | plain {c : Char} (h : isPlain c = true) : SpellsChar [c] c
  | letter {l c : Char} (h : (l, c) ∈ letters) : SpellsChar ['\\', l] c
  | number {digits : List Char} {c : Char} (h : WritesUnit digits c.toNat) :
    SpellsChar ('\\' :: 'u' :: digits) c
  | pair {first second : List Char} {high low : Nat} {c : Char}
      (hfirst : WritesUnit first (0xD800 + high)) (hsecond : WritesUnit second (0xDC00 + low))
      (hlow : low < 0x400) (h : c.toNat = 0x10000 + high * 0x400 + low) :
    SpellsChar ('\\' :: 'u' :: first ++ '\\' :: 'u' :: second) c

/-- The spellings of a string, between the quotes. -/
inductive Spells : List Char → List Char → Prop where
  | nil : Spells [] []
  | cons {written cs : List Char} {piece : List Char} {c : Char} (hc : SpellsChar piece c)
      (h : Spells written cs) : Spells (piece ++ written) (c :: cs)

/-- The pieces of a string that is only passed over. -/
inductive IsPiece : List Char → Prop where
  | plain {c : Char} (h : isPlain c = true) : IsPiece [c]
  | letter {l c : Char} (h : (l, c) ∈ letters) : IsPiece ['\\', l]
  | number {digits : List Char} {n : Nat} (h : WritesUnit digits n) :
    IsPiece ('\\' :: 'u' :: digits)

/-- What may stand between the quotes of a string that is only passed over. -/
inductive IsQuotable : List Char → Prop where
  | nil : IsQuotable []
  | cons {piece written : List Char} (hpiece : IsPiece piece) (h : IsQuotable written) :
    IsQuotable (piece ++ written)

/-- A text in quotes. -/
def quoted (written : List Char) : List Char := '"' :: written ++ ['"']

section Escapes

variable {digits rest : List Char} {n : Nat} {l c : Char}

theorem hexValue?_of_isHexDigit (h : IsHexDigit n c) : hexValue? c = some n := by
  have hall : ∀ n < 16,
      hexValue? n.digitChar = some n ∧ hexValue? n.digitChar.toUpper = some n := by decide
  obtain ⟨hn, rfl | rfl⟩ := h
  · exact (hall n hn).1
  · exact (hall n hn).2

theorem WritesUnit.readHexUnit_append (h : WritesUnit digits n) (rest : List Char) :
    readHexUnit (digits ++ rest) = .ok (n, rest) := by
  cases h with
  | digits ha hb hc hd =>
    simp only [readHexUnit, List.cons_append, List.nil_append, hexUnit?,
      hexValue?_of_isHexDigit ha, hexValue?_of_isHexDigit hb, hexValue?_of_isHexDigit hc,
      hexValue?_of_isHexDigit hd, Option.bind_eq_bind, Option.bind_some, Option.pure_def]

theorem escapedLetter?_of_mem (h : (l, c) ∈ letters) : escapedLetter? l = some c := by
  have hall : ∀ e ∈ letters, escapedLetter? e.1 = some e.2 := by decide
  exact hall _ h

theorem ne_of_mem_letters (h : (l, c) ∈ letters) : l ≠ 'u' := by
  have hall : ∀ e ∈ letters, e.1 ≠ 'u' := by decide
  exact hall _ h

theorem readEscape_letter (h : (l, c) ∈ letters) (rest : List Char) :
    readEscape (l :: rest) = .ok (c, rest) := by
  have hne := ne_of_mem_letters h
  simp [readEscape, escapedLetter?_of_mem h]

theorem readEscapedNumber_number (h : WritesUnit digits c.toNat) (rest : List Char) :
    readEscapedNumber (digits ++ rest) = .ok (c, rest) := by
  have hscalar : c.toNat < 0xD800 ∨ 0xDFFF < c.toNat ∧ c.toNat < 0x110000 := c.valid
  have hlow : isLowSurrogate c.toNat = false := by
    simp only [isLowSurrogate, Bool.and_eq_false_iff, decide_eq_false_iff_not]
    omega
  have hhigh : isHighSurrogate c.toNat = false := by
    simp only [isHighSurrogate, Bool.and_eq_false_iff, decide_eq_false_iff_not]
    omega
  simp [readEscapedNumber, h.readHexUnit_append, hlow, hhigh]

theorem readEscapedNumber_pair {first second : List Char} {high low : Nat}
    (hfirst : WritesUnit first (0xD800 + high)) (hsecond : WritesUnit second (0xDC00 + low))
    (hlow : low < 0x400) (h : c.toNat = 0x10000 + high * 0x400 + low) (rest : List Char) :
    readEscapedNumber (first ++ '\\' :: 'u' :: (second ++ rest)) = .ok (c, rest) := by
  have hscalar : c.toNat < 0xD800 ∨ 0xDFFF < c.toNat ∧ c.toNat < 0x110000 := c.valid
  have hnotLow : isLowSurrogate (0xD800 + high) = false := by
    simp only [isLowSurrogate, Bool.and_eq_false_iff, decide_eq_false_iff_not]
    omega
  have hisHigh : isHighSurrogate (0xD800 + high) = true := by
    simp only [isHighSurrogate, Bool.and_eq_true, decide_eq_true_eq]
    omega
  have hisLow : isLowSurrogate (0xDC00 + low) = true := by
    simp only [isLowSurrogate, Bool.and_eq_true, decide_eq_true_eq]
    omega
  have hpair : pairSurrogates (0xD800 + high) (0xDC00 + low) = c.toNat := by
    rw [h, pairSurrogates]
    omega
  simp [readEscapedNumber, hfirst.readHexUnit_append, hnotLow, hisHigh, readLowSurrogate,
    hsecond.readHexUnit_append, hisLow, hpair]

end Escapes

section Strings

variable {piece written cs rest : List Char} {c : Char}

theorem isPlain_iff : isPlain c = true ↔ c ≠ '"' ∧ c ≠ '\\' ∧ ¬ c.toNat < 0x20 := by
  simp only [isPlain, Bool.and_eq_true, bne_iff_ne, decide_eq_true_eq, Nat.not_lt, and_assoc]

/-- Characters that stand for themselves spell themselves. -/
theorem Spells.of_isPlain (h : cs.all isPlain = true) : Spells cs cs := by
  induction cs with
  | nil => exact .nil
  | cons c cs ih =>
    rw [List.all_cons, Bool.and_eq_true] at h
    exact .cons (.plain h.1) (ih h.2)

theorem SpellsChar.readCharacters_append (h : SpellsChar piece c) (fuel : Nat)
    (before rest : List Char) :
    readCharacters (fuel + 1) before (piece ++ rest) = readCharacters fuel (c :: before) rest := by
  cases h with
  | plain h =>
    obtain ⟨hquote, hbackslash, hvisible⟩ := isPlain_iff.1 h
    simp [readCharacters, hquote, hbackslash, hvisible]
  | letter h => simp [readCharacters, readEscape_letter h]
  | number h => simp [readCharacters, readEscape, readEscapedNumber_number h]
  | pair hfirst hsecond hlow h =>
    simp [readCharacters, readEscape, readEscapedNumber_pair hfirst hsecond hlow h]

theorem Spells.readCharacters_append (h : Spells written cs) (fuel : Nat)
    (before rest : List Char) :
    readCharacters (fuel + 1 + cs.length) before (written ++ '"' :: rest) =
      .ok (before.reverse ++ cs, rest) := by
  induction h generalizing before with
  | nil => simp [readCharacters]
  | @cons written cs piece c hc _ ih =>
    rw [List.length_cons, ← Nat.add_assoc, List.append_assoc, hc.readCharacters_append, ih,
      List.reverse_cons, List.append_assoc, List.singleton_append]

theorem SpellsChar.length_pos (h : SpellsChar piece c) : 0 < piece.length := by
  cases h <;> simp

theorem Spells.length_le (h : Spells written cs) : cs.length ≤ written.length := by
  induction h with
  | nil => exact Nat.le_refl 0
  | cons hc _ ih =>
    rw [List.length_cons, List.length_append]
    exact Nat.add_comm _ 1 ▸ Nat.add_le_add hc.length_pos ih

/-- A string is read back from any of its spellings. -/
theorem Spells.readString_append {s : String} (h : Spells written s.toList) (rest : List Char) :
    readString (written ++ '"' :: rest) = .ok (s, rest) := by
  have hlength := h.length_le
  obtain ⟨fuel, hfuel⟩ : ∃ fuel, (written ++ '"' :: rest).length + 1 = fuel + 1 + s.toList.length :=
    ⟨written.length + rest.length + 1 - s.toList.length, by
      simp only [List.length_append, List.length_cons]
      omega⟩
  rw [readString, hfuel, h.readCharacters_append]
  simp [String.ofList_toList]

theorem IsPiece.skipCharacters_append (h : IsPiece piece) (fuel : Nat) (rest : List Char) :
    skipCharacters (fuel + 1) (piece ++ rest) = skipCharacters fuel rest := by
  cases h with
  | plain h =>
    obtain ⟨hquote, hbackslash, hvisible⟩ := isPlain_iff.1 h
    simp [skipCharacters, hquote, hbackslash, hvisible]
  | letter h =>
    have hne := ne_of_mem_letters h
    simp [skipCharacters, skipEscape, escapedLetter?_of_mem h]
  | number h => simp [skipCharacters, skipEscape, h.readHexUnit_append, Except.map]

theorem IsPiece.length_pos (h : IsPiece piece) : 0 < piece.length := by
  cases h <;> simp

theorem IsQuotable.skipCharacters_append (h : IsQuotable written) {fuel : Nat}
    (hfuel : written.length < fuel) (rest : List Char) :
    skipCharacters fuel (written ++ '"' :: rest) = .ok rest := by
  induction h generalizing fuel with
  | nil =>
    obtain ⟨fuel, rfl⟩ := Nat.exists_eq_succ_of_ne_zero (Nat.ne_zero_of_lt hfuel)
    simp [skipCharacters]
  | cons hpiece _ ih =>
    have hpos := hpiece.length_pos
    rw [List.length_append] at hfuel
    obtain ⟨fuel, rfl⟩ := Nat.exists_eq_succ_of_ne_zero (Nat.ne_zero_of_lt hfuel)
    rw [List.append_assoc, hpiece.skipCharacters_append, ih (by omega)]

/-- A string is passed over up to its closing quote. -/
theorem IsQuotable.skipString_append (h : IsQuotable written) (rest : List Char) :
    skipString (written ++ '"' :: rest) = .ok rest := by
  have hfuel : written.length < (written ++ '"' :: rest).length + 1 := by
    rw [List.length_append]
    omega
  exact h.skipCharacters_append hfuel rest

end Strings
end XmlSupport.Json
