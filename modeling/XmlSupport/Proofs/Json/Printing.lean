import Mathlib.Tactic.SplitIfs
import XmlSupport.Json.Printer
import XmlSupport.Json.Reader
import XmlSupport.Proofs.Json.Skip

/-!
# Printed values are read back

The pretty form of a value is a text that the reader takes for this value again,
with the keys of its objects in ascending order. Numbers are left out: a floating
point number is printed by its shortest digits.
-/

namespace XmlSupport.Json

mutual

/-- Whether a value holds no number at any depth. -/
def isNumberless : Json → Bool
  | .number _ => false
  | .array items => areNumberless items
  | .object members => haveNumberless members
  | _ => true

def areNumberless : List Json → Bool
  | [] => true
  | v :: rest => isNumberless v && areNumberless rest

def haveNumberless : List (String × Json) → Bool
  | [] => true
  | (_, v) :: rest => isNumberless v && haveNumberless rest

end

mutual

/-- A value as a reader gives it, its objects in ascending order at every depth. -/
def ordered : Json → Json
  | .array items => .array (orderedItems items)
  | .object members => ofMembers (orderedMembers members)
  | v => v

def orderedItems : List Json → List Json
  | [] => []
  | v :: rest => ordered v :: orderedItems rest

def orderedMembers : List (String × Json) → List (String × Json)
  | [] => []
  | (k, v) :: rest => (k, ordered v) :: orderedMembers rest

end

section Strings

theorem isHexDigit_hexDigit {n : Nat} (h : n < 16) : IsHexDigit n (hexDigit n) := by
  have hall : ∀ n < 16, hexDigit n = n.digitChar := by decide
  exact ⟨h, .inl (hall n h)⟩

theorem writesUnit_control {n : Nat} (h : n < 0x20) :
    WritesUnit ['0', '0', hexDigit (n / 16), hexDigit (n % 16)] n := by
  have hzero : IsHexDigit 0 '0' := ⟨by decide, .inl rfl⟩
  have hwrites := WritesUnit.digits hzero hzero (isHexDigit_hexDigit (n := n / 16) (by omega))
    (isHexDigit_hexDigit (n := n % 16) (by omega))
  have hvalue : ((0 * 16 + 0) * 16 + n / 16) * 16 + n % 16 = n := by omega
  rwa [hvalue] at hwrites

theorem spellsChar_escapeChar (c : Char) : SpellsChar (escapeChar c) c := by
  unfold escapeChar
  split_ifs with hquote hbackslash hback htab hline hpage hreturn hcontrol
  · subst hquote
    exact .letter (by decide)
  · subst hbackslash
    exact .letter (by decide)
  · subst hback
    exact .letter (by decide)
  · subst htab
    exact .letter (by decide)
  · subst hline
    exact .letter (by decide)
  · subst hpage
    exact .letter (by decide)
  · subst hreturn
    exact .letter (by decide)
  · exact .number (writesUnit_control hcontrol)
  · exact .plain (isPlain_iff.2 ⟨hquote, hbackslash, hcontrol⟩)

theorem spells_escaped (cs : List Char) : Spells (cs.flatMap escapeChar) cs := by
  induction cs with
  | nil => exact .nil
  | cons c cs ih => exact .cons (spellsChar_escapeChar c) ih

/-- A printed string is read back, whatever follows it. -/
theorem readString_stringText (s : String) (rest : List Char) :
    readString (s.toList.flatMap escapeChar ++ '"' :: rest) = .ok (s, rest) :=
  (spells_escaped s.toList).readString_append rest

end Strings

section Values

variable {fuel depth : Nat} {rest : List Char}

theorem isBlank_newLine (depth : Nat) : IsBlank (newLine depth) := by
  intro c hc
  rcases List.mem_cons.1 hc with rfl | hc
  · decide
  · rw [List.eq_of_mem_replicate hc]
    decide

theorem dropSpace_newLine (depth : Nat) (rest : List Char) :
    dropSpace (newLine depth ++ rest) = dropSpace rest :=
  dropSpace_append (isBlank_newLine depth) rest

theorem readValueFrom_space (fuel : Nat) (rest : List Char) :
    readValueFrom (fuel + 1) (' ' :: rest) = readValueFrom (fuel + 1) rest := by
  have hspace : dropSpace (' ' :: rest) = dropSpace rest := rfl
  simp only [readValueFrom, hspace]

/-- No printed value begins with white space or with a closing bracket. -/
theorem exists_prettyText_eq_cons (depth : Nat) {v : Json} (h : v.isNumberless = true) :
    ∃ c more, prettyText depth v = c :: more ∧ isSpace c = false ∧ c ≠ ']' ∧ c ≠ '\x7d' := by
  cases v with
  | null => exact ⟨_, _, rfl, rfl, by decide, by decide⟩
  | bool b => cases b <;> exact ⟨_, _, rfl, rfl, by decide, by decide⟩
  | number n => exact absurd h Bool.false_ne_true
  | string s => exact ⟨_, _, rfl, rfl, by decide, by decide⟩
  | array items => exact ⟨_, _, rfl, rfl, by decide, by decide⟩
  | object members => exact ⟨_, _, rfl, rfl, by decide, by decide⟩

theorem dropSpace_prettyText {v : Json} (h : v.isNumberless = true) :
    dropSpace (prettyText depth v ++ rest) = prettyText depth v ++ rest := by
  obtain ⟨c, more, htext, hspace, -, -⟩ := exists_prettyText_eq_cons depth h
  rw [htext]
  exact dropSpace_cons hspace _

/-- What stands behind an opening bracket is read as items, unless it closes at once. -/
theorem readValueFrom_array {text : List Char} {items : List Json} {c : Char} {more : List Char}
    (htext : dropSpace text = c :: more) (hc : c ≠ ']')
    (hitems : readItems fuel (c :: more) = .ok (items, rest)) :
    readValueFrom (fuel + 1) ('[' :: text) = .ok (.array items, rest) := by
  have hopen : dropSpace ('[' :: text) = '[' :: text := rfl
  simp [readValueFrom, hopen, htext, hc, hitems]

theorem readValueFrom_object {text : List Char} {members : List (String × Json)} {c : Char}
    {more : List Char} (htext : dropSpace text = c :: more) (hc : c ≠ '\x7d')
    (hmembers : readMembers fuel (c :: more) = .ok (members, rest)) :
    readValueFrom (fuel + 1) ('\x7b' :: text) = .ok (ofMembers members, rest) := by
  have hopen : dropSpace ('\x7b' :: text) = '\x7b' :: text := rfl
  simp [readValueFrom, hopen, htext, hc, hmembers]

theorem readItems_last {v : Json} {text behind : List Char}
    (hv : readValueFrom fuel text = .ok (v, behind)) (hbehind : dropSpace behind = ']' :: rest) :
    readItems (fuel + 1) text = .ok ([v], rest) := by
  simp [readItems, hv, hbehind]

theorem readItems_cons {v : Json} {items : List Json} {text behind next : List Char} {c : Char}
    {more : List Char} (hv : readValueFrom fuel text = .ok (v, behind))
    (hbehind : dropSpace behind = ',' :: next) (hnext : dropSpace next = c :: more) (hc : c ≠ ']')
    (hitems : readItems fuel (c :: more) = .ok (items, rest)) :
    readItems (fuel + 1) text = .ok (v :: items, rest) := by
  simp [readItems, hv, hbehind, hnext, hc, hitems]

theorem readMembers_last {k : String} {v : Json} {text value behind : List Char}
    (hkey : readKey text = .ok (k, value)) (hv : readValueFrom fuel value = .ok (v, behind))
    (hbehind : dropSpace behind = '\x7d' :: rest) :
    readMembers (fuel + 1) text = .ok ([(k, v)], rest) := by
  simp [readMembers, hkey, hv, hbehind]

theorem readMembers_cons {k : String} {v : Json} {members : List (String × Json)}
    {text value behind next : List Char} {c : Char} {more : List Char}
    (hkey : readKey text = .ok (k, value)) (hv : readValueFrom fuel value = .ok (v, behind))
    (hbehind : dropSpace behind = ',' :: next) (hnext : dropSpace next = c :: more)
    (hc : c ≠ '\x7d') (hmembers : readMembers fuel (c :: more) = .ok (members, rest)) :
    readMembers (fuel + 1) text = .ok ((k, v) :: members, rest) := by
  simp [readMembers, hkey, hv, hbehind, hnext, hc, hmembers]

theorem readKey_stringText (k : String) (rest : List Char) :
    readKey (stringText k ++ ':' :: rest) = .ok (k, rest) := by
  have hcolon : dropSpace (':' :: rest) = ':' :: rest := rfl
  simp [readKey, stringText, readString_stringText, hcolon]

mutual

/-- Two steps for each printed character are enough to read a value back. -/
theorem readValueFrom_prettyText (depth : Nat) (v : Json) (h : v.isNumberless = true) (fuel : Nat)
    (hfuel : 2 * (prettyText depth v).length ≤ fuel) (rest : List Char) :
    readValueFrom fuel (prettyText depth v ++ rest) = .ok (ordered v, rest) := by
  obtain ⟨fuel, rfl⟩ : ∃ n, fuel = n + 1 := by
    obtain ⟨c, more, htext, -⟩ := exists_prettyText_eq_cons depth h
    rw [htext, List.length_cons] at hfuel
    exact Nat.exists_eq_succ_of_ne_zero (by omega)
  match v with
  | .null => rfl
  | .bool true => rfl
  | .bool false => rfl
  | .number n => exact absurd h Bool.false_ne_true
  | .string s =>
    have hopen (text : List Char) : dropSpace ('"' :: text) = '"' :: text := rfl
    simp [prettyText, stringText, readValueFrom, hopen, readScalar, readString_stringText, ordered,
      Except.map]
  | .array [] => rfl
  | .array (w :: items) =>
    obtain ⟨hw, hitems⟩ := Bool.and_eq_true_iff.1 h
    obtain ⟨c, more, htext, hspace, hc, -⟩ := exists_prettyText_eq_cons (depth + 1) hw
    have hread := readItems_pretty depth w items hw hitems fuel
      (by
        simp only [prettyText, prettyItems, List.length_cons, List.length_append] at hfuel ⊢
        omega) rest
    have hdrop : dropSpace (prettyItems depth (w :: items) ++ rest) =
        prettyText (depth + 1) w ++ (morePrettyItems depth items ++ rest) := by
      rw [prettyItems, List.append_assoc, List.append_assoc, dropSpace_newLine,
        dropSpace_prettyText hw]
    rw [htext] at hread hdrop
    exact readValueFrom_array hdrop hc hread
  | .object [] => rfl
  | .object ((k, w) :: members) =>
    obtain ⟨hw, hmembers⟩ := Bool.and_eq_true_iff.1 h
    have hread := readMembers_pretty depth k w members hw hmembers fuel
      (by
        simp only [prettyText, prettyMembers, List.length_cons, List.length_append] at hfuel ⊢
        omega) rest
    have hdrop : dropSpace (prettyMembers depth ((k, w) :: members) ++ rest) =
        stringText k ++ (": ".toList ++ (prettyText (depth + 1) w ++
          (morePrettyMembers depth members ++ rest))) := by
      simp only [prettyMembers, List.append_assoc, dropSpace_newLine]
      rfl
    exact readValueFrom_object hdrop (by decide) hread
termination_by fuel

theorem readItems_pretty (depth : Nat) (v : Json) (items : List Json) (hv : v.isNumberless = true)
    (hitems : areNumberless items = true) (fuel : Nat)
    (hfuel : 2 * (prettyText (depth + 1) v ++ morePrettyItems depth items).length < fuel)
    (rest : List Char) :
    readItems fuel (prettyText (depth + 1) v ++ (morePrettyItems depth items ++ rest)) =
      .ok (ordered v :: orderedItems items, rest) := by
  obtain ⟨fuel, rfl⟩ := Nat.exists_eq_succ_of_ne_zero (Nat.ne_zero_of_lt hfuel)
  rw [List.length_append] at hfuel
  have hread := readValueFrom_prettyText (depth + 1) v hv fuel (by omega)
    (morePrettyItems depth items ++ rest)
  match items with
  | [] =>
    refine readItems_last hread ?_
    rw [morePrettyItems, List.append_assoc, dropSpace_newLine]
    exact dropSpace_cons rfl _
  | w :: items =>
    obtain ⟨hw, hitems⟩ := Bool.and_eq_true_iff.1 hitems
    obtain ⟨c, more, htext, hspace, hc, -⟩ := exists_prettyText_eq_cons (depth + 1) hw
    have hmore := readItems_pretty depth w items hw hitems fuel
      (by
        simp only [morePrettyItems, List.length_cons, List.length_append] at hfuel ⊢
        omega) rest
    have hdrop : dropSpace (newLine (depth + 1) ++ prettyText (depth + 1) w ++
        morePrettyItems depth items ++ rest) =
          prettyText (depth + 1) w ++ (morePrettyItems depth items ++ rest) := by
      rw [List.append_assoc, List.append_assoc, dropSpace_newLine, dropSpace_prettyText hw]
    rw [htext] at hmore
    exact readItems_cons hread rfl (hdrop.trans (by rw [htext]; rfl)) hc hmore
termination_by fuel

theorem readMembers_pretty (depth : Nat) (k : String) (v : Json) (members : List (String × Json))
    (hv : v.isNumberless = true) (hmembers : haveNumberless members = true) (fuel : Nat)
    (hfuel : 2 * (stringText k ++ (": ".toList ++ (prettyText (depth + 1) v ++
      morePrettyMembers depth members))).length < fuel) (rest : List Char) :
    readMembers fuel (stringText k ++ (": ".toList ++ (prettyText (depth + 1) v ++
        (morePrettyMembers depth members ++ rest)))) =
      .ok ((k, ordered v) :: orderedMembers members, rest) := by
  obtain ⟨fuel, rfl⟩ := Nat.exists_eq_succ_of_ne_zero (Nat.ne_zero_of_lt hfuel)
  simp only [List.length_append] at hfuel
  have hkey := readKey_stringText k (' ' :: (prettyText (depth + 1) v ++
    (morePrettyMembers depth members ++ rest)))
  have hread : readValueFrom fuel (' ' :: (prettyText (depth + 1) v ++
      (morePrettyMembers depth members ++ rest))) =
        .ok (ordered v, morePrettyMembers depth members ++ rest) := by
    have hvalue := readValueFrom_prettyText (depth + 1) v hv fuel (by omega)
      (morePrettyMembers depth members ++ rest)
    obtain ⟨more, rfl⟩ := Nat.exists_eq_succ_of_ne_zero (n := fuel) (by
      have : ": ".toList.length = 2 := rfl
      omega)
    rwa [readValueFrom_space]
  match members with
  | [] =>
    refine readMembers_last hkey hread ?_
    rw [morePrettyMembers, List.append_assoc, dropSpace_newLine]
    exact dropSpace_cons rfl _
  | (l, w) :: members =>
    obtain ⟨hw, hmembers⟩ := Bool.and_eq_true_iff.1 hmembers
    have hmore := readMembers_pretty depth l w members hw hmembers fuel
      (by
        simp only [morePrettyMembers, List.length_cons, List.length_append] at hfuel ⊢
        omega) rest
    have hdrop : dropSpace (newLine (depth + 1) ++ stringText l ++ ": ".toList ++
        prettyText (depth + 1) w ++ morePrettyMembers depth members ++ rest) =
          stringText l ++ (": ".toList ++ (prettyText (depth + 1) w ++
            (morePrettyMembers depth members ++ rest))) := by
      simp only [List.append_assoc, dropSpace_newLine]
      rfl
    exact readMembers_cons hkey hread rfl hdrop (by decide) hmore
termination_by fuel

end

/-- A value without numbers is read back from its pretty form. -/
theorem parse_pretty {v : Json} (h : v.isNumberless = true) :
    parse v.pretty.toList = .ok (ordered v) := by
  have hread := readValueFrom_prettyText 0 v h (2 * (prettyText 0 v).length + 2) (by omega) []
  rw [List.append_nil] at hread
  simp [parse, readValue, pretty, hread, dropSpace]

end Values

end XmlSupport.Json
