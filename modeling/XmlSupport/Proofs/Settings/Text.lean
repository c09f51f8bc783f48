import XmlSupport.Proofs.Json.Skip
import XmlSupport.Settings.Reader

/-!
# Settings files as they may be written

A settings file is an object with members under any keys. The key of the server
path may stand among them once, at any place and in any spelling, with a string
or `null` for its value; the other members may have any values. Whatever the
white space, the reader finds the server path that is written.
-/

namespace XmlSupport.Settings

open Json

/-- A key in some spelling and its colon. -/
inductive SpellsLabel : List Char → String → Prop where
  | mk {before written behind : List Char} {key : String} (hbefore : IsBlank before)
      (hkey : Spells written key.toList) (hbehind : IsBlank behind) :
    SpellsLabel (before ++ (quoted written ++ (behind ++ [':']))) key

/-- A member under a key, whatever its value. -/
structure IsMember (key : String) (p : Part) : Prop where
  label : SpellsLabel p.label key
  before : IsBlank p.before
  after : IsBlank p.after

/-- A member that has nothing to do with the server path. -/
def IsUnrelated (p : Part) : Prop :=
  ∃ key, key ≠ "xml.laguageServerPath" ∧ IsMember key p ∧ IsValue p.text

/-- A value for the key of the server path. -/
inductive WritesPath : List Char → Option String → Prop where
  | null : WritesPath "null".toList .none
  | string {written : List Char} {path : String} (h : Spells written path.toList) :
    WritesPath (quoted written) (some path)

/-- A member that gives the server path. -/
structure GivesPath (p : Part) (path : Option String) : Prop where
  isMember : IsMember "xml.laguageServerPath" p
  value : WritesPath p.text path

/-- The texts of settings files that are objects. -/
inductive WrittenAs : List Char → Settings → Prop where
  | empty {before inside after : List Char} (hbefore : IsBlank before) (hinside : IsBlank inside)
      (hafter : IsBlank after) :
    WrittenAs (before ++ (Frame.object.enclose [inside] ++ after)) none
  | unset {before after : List Char} {members : List Part} (hbefore : IsBlank before)
      (hne : members ≠ []) (hmembers : ∀ p ∈ members, IsUnrelated p) (hafter : IsBlank after) :
    WrittenAs (before ++ (Frame.object.enclose (members.map Part.written) ++ after)) none
  | set {before after : List Char} {front back : List Part} {p : Part} {path : Option String}
      (hbefore : IsBlank before) (hfront : ∀ q ∈ front, IsUnrelated q) (hpath : GivesPath p path)
      (hback : ∀ q ∈ back, IsUnrelated q) (hafter : IsBlank after) :
    WrittenAs (before ++ (Frame.object.enclose ((front ++ p :: back).map Part.written) ++ after))
      ⟨path⟩

section Members

variable {written behind text rest : List Char} {key : String} {path : Option String} {p : Part}
  {found : Option (Option String)}

theorem readColon_append (h : IsBlank behind) (rest : List Char) :
    readColon (behind ++ ':' :: rest) = .ok rest := by
  simp [readColon, dropSpace_append h, dropSpace_cons (c := ':') rfl]

theorem WritesPath.readServerPath_append {blank : List Char} (h : WritesPath text path)
    (hblank : IsBlank blank) (rest : List Char) :
    readServerPath (blank ++ (text ++ rest)) = .ok (path, rest) := by
  cases h with
  | null =>
    simp only [readServerPath, dropSpace_append hblank]
    rfl
  | string h =>
    have hstring := h.readString_append rest
    simp [readServerPath, dropSpace_append hblank, quoted, dropSpace_cons (c := '"') rfl, hstring,
      grammar, Except.map]

/-- Behind its opening quote a member is read as its key and its colon, up to the value. -/
theorem IsMember.exists_inside (h : IsMember key p) :
    ∃ blank inside, p.written = blank ++ '"' :: inside ∧ IsBlank blank ∧ ∀ rest, ∃ colon,
      grammar (readString (inside ++ rest)) = .ok (key, colon) ∧
        readColon colon = .ok (p.before ++ (p.text ++ (p.after ++ rest))) := by
  obtain ⟨hlabel, -, -⟩ := h
  obtain ⟨label, before, text, after⟩ := p
  cases hlabel with
  | @mk blank written behind _ hblank hwritten hbehind =>
    refine ⟨blank, written ++ '"' :: (behind ++ ':' :: (before ++ (text ++ after))), ?_, hblank,
      fun rest => ⟨_, ?_, readColon_append hbehind _⟩⟩
    · simp [Part.written, quoted]
    · have hstring := hwritten.readString_append
        (behind ++ ':' :: (before ++ (text ++ (after ++ rest))))
      simp [hstring, grammar]

/-- A member that can be read, whatever follows it, and what has been found of
the server path before and after it. -/
def Turns (found : Option (Option String)) (p : Part) (found' : Option (Option String)) : Prop :=
  IsBlank p.after ∧ ∃ blank inside, p.written = blank ++ '"' :: inside ∧ IsBlank blank ∧
    ∀ rest, EndsNumber (p.after ++ rest) →
      readMember found (inside ++ rest) = .ok (found', p.after ++ rest)

theorem IsUnrelated.turns (h : IsUnrelated p) (found : Option (Option String)) :
    Turns found p found := by
  obtain ⟨key, hne, hmember, hvalue⟩ := h
  obtain ⟨blank, inside, hwritten, hblank, hread⟩ := hmember.exists_inside
  refine ⟨hmember.after, blank, inside, hwritten, hblank, fun rest hrest => ?_⟩
  obtain ⟨colon, hkey, hcolon⟩ := hread rest
  have hskip : grammar (skipValue (p.before ++ (p.text ++ (p.after ++ rest)))) =
      .ok (p.after ++ rest) := by rw [hvalue.skipValue_append hmember.before hrest, grammar]
  simp [readMember, serverPathKey, hkey, hne, hcolon, hskip, bind, Except.bind, pure, Except.pure]

theorem GivesPath.turns (h : GivesPath p path) : Turns .none p (some path) := by
  obtain ⟨hmember, hvalue⟩ := h
  obtain ⟨blank, inside, hwritten, hblank, hread⟩ := hmember.exists_inside
  refine ⟨hmember.after, blank, inside, hwritten, hblank, fun rest _ => ?_⟩
  obtain ⟨colon, hkey, hcolon⟩ := hread rest
  have hpath := hvalue.readServerPath_append hmember.before (p.after ++ rest)
  simp [readMember, serverPathKey, hkey, hcolon, hpath, bind, Except.bind, pure, Except.pure]

end Members

/-- Members one after the other. -/
inductive Run : Option (Option String) → List Part → Option (Option String) → Prop where
  | nil (found : Option (Option String)) : Run found [] found
  | cons {found found' found'' : Option (Option String)} {p : Part} {members : List Part}
      (hp : Turns found p found') (h : Run found' members found'') :
    Run found (p :: members) found''

section Runs

variable {found found' : Option (Option String)} {members front back : List Part} {p : Part}
  {path : Option String} {rest : List Char}

theorem Run.of_unrelated (h : ∀ p ∈ members, IsUnrelated p) (found : Option (Option String)) :
    Run found members found := by
  induction members with
  | nil => exact .nil found
  | cons p members ih =>
    obtain ⟨hp, hmembers⟩ := List.forall_mem_cons.1 h
    exact .cons (hp.turns found) (ih hmembers)

theorem Run.of_givesPath (hfront : ∀ q ∈ front, IsUnrelated q) (hpath : GivesPath p path)
    (hback : ∀ q ∈ back, IsUnrelated q) : Run .none (front ++ p :: back) (some path) := by
  induction front with
  | nil => exact .cons hpath.turns (.of_unrelated hback _)
  | cons q front ih =>
    obtain ⟨hq, hfront⟩ := List.forall_mem_cons.1 hfront
    exact .cons (hq.turns .none) (ih hfront)

theorem readMembers_blank {blank : List Char} {fuel : Nat} (h : IsBlank blank) :
    readMembers fuel.succ found (blank ++ rest) = readMembers fuel.succ found rest := by
  simp only [readMembers, dropSpace_append h]

theorem readNextKey_append {blank : List Char} (h : IsBlank blank) (rest : List Char) :
    readNextKey (blank ++ '"' :: rest) = .ok rest := by
  simp [readNextKey, dropSpace_append h, dropSpace_cons (c := '"') rfl]

/-- The members behind a comma are read one by one up to the closing brace. -/
theorem Run.readMembers_append (h : Run found members found') {fuel : Nat}
    (hfuel : members.length < fuel) (rest : List Char) :
    readMembers fuel found (commaed (members.map Part.written) ++ '\x7d' :: rest) =
      .ok (found', rest) := by
  induction h generalizing fuel with
  | nil found =>
    obtain ⟨fuel, rfl⟩ := Nat.exists_eq_succ_of_ne_zero (Nat.ne_zero_of_lt hfuel)
    simp [readMembers, commaed, dropSpace_cons (c := '\x7d') rfl]
  | @cons found found' found'' p members hp _ ih =>
    obtain ⟨hafter, blank, inside, hwritten, hblank, hread⟩ := hp
    obtain ⟨fuel, rfl⟩ := Nat.exists_eq_succ_of_ne_zero (Nat.ne_zero_of_lt hfuel)
    have hrest := ih (Nat.lt_of_succ_lt_succ hfuel)
    -- the closing brace takes a step too, so one is left behind the last member
    obtain ⟨fuel, rfl⟩ := Nat.exists_eq_succ_of_ne_zero
      (Nat.ne_zero_of_lt (Nat.lt_of_succ_lt_succ hfuel))
    let tail := commaed (members.map Part.written) ++ '\x7d' :: rest
    have htail : commaed ((p :: members).map Part.written) ++ '\x7d' :: rest =
        ',' :: (blank ++ '"' :: (inside ++ tail)) := by simp [commaed, tail, hwritten]
    have hmember : readMember found (inside ++ tail) = .ok (found', p.after ++ tail) :=
      hread _ (endsNumber_after hafter .object _ rest)
    rw [htail, readMembers, dropSpace_cons rfl]
    simp [readNextKey_append hblank, hmember, bind, Except.bind, readMembers_blank hafter, tail,
      hrest]

theorem length_le_length_commaed (parts : List (List Char)) :
    parts.length ≤ (commaed parts).length := by
  induction parts with
  | nil => exact Nat.le_refl 0
  | cons part parts ih =>
    simp only [commaed, List.flatMap_cons, List.length_append, List.length_cons] at ih ⊢
    omega

theorem Run.readObject_append (h : Run .none members found') (hne : members ≠ [])
    (rest : List Char) :
    readObject ([','].intercalate (members.map Part.written) ++ '\x7d' :: rest) =
      .ok (⟨found'.join⟩, rest) := by
  cases h with
  | nil => exact absurd rfl hne
  | @cons _ found found' p members hp h =>
    obtain ⟨hafter, blank, inside, hwritten, hblank, hread⟩ := hp
    let tail := commaed (members.map Part.written) ++ '\x7d' :: rest
    have htext : [','].intercalate ((p :: members).map Part.written) ++ '\x7d' :: rest =
        blank ++ '"' :: (inside ++ tail) := by simp [intercalate_cons, tail, hwritten]
    have hmember : readMember .none (inside ++ tail) = .ok (found, p.after ++ tail) :=
      hread _ (endsNumber_after hafter .object _ rest)
    have hlength : members.length < (p.after ++ tail).length := by
      have hle := length_le_length_commaed (members.map Part.written)
      simp only [List.length_map, List.length_append, List.length_cons, tail] at hle ⊢
      omega
    have hmembers : readMembers (p.after ++ tail).length found (p.after ++ tail) =
        .ok (found', rest) := by
      obtain ⟨fuel, hfuel⟩ := Nat.exists_eq_succ_of_ne_zero (Nat.ne_zero_of_lt hlength)
      rw [hfuel, readMembers_blank hafter]
      exact h.readMembers_append (hfuel ▸ hlength) rest
    rw [htext, readObject, dropSpace_append hblank, dropSpace_cons rfl]
    simp [hmember, -List.length_append, hmembers, bind, Except.bind, pure, Except.pure]

theorem readObject_blank {blank : List Char} (h : IsBlank blank) (rest : List Char) :
    readObject (blank ++ '\x7d' :: rest) = .ok (none, rest) := by
  simp [readObject, dropSpace_append h, dropSpace_cons (c := '\x7d') rfl]

theorem dropSpace_eq_nil {blank : List Char} (h : IsBlank blank) : dropSpace blank = [] := by
  rw [← List.append_nil blank, dropSpace_append h]
  rfl

/-- An object and the white space around it are a whole text. -/
theorem parse_object {before after : List Char} {inside : List (List Char)} {settings : Settings}
    (hbefore : IsBlank before) (hafter : IsBlank after)
    (h : readObject ([','].intercalate inside ++ '\x7d' :: after) = .ok (settings, after)) :
    parse (before ++ (Frame.object.enclose inside ++ after)) = .ok settings := by
  have hsettings : readSettings (before ++ (Frame.object.enclose inside ++ after)) =
      .ok (settings, after) := by
    simp [readSettings, dropSpace_append hbefore, Frame.enclose, dropSpace_cons (c := '\x7b') rfl,
      h]
  simp [parse, hsettings, dropSpace_eq_nil hafter, bind, Except.bind, pure, Except.pure]

/-- Every text of settings is read as the settings that are written. -/
theorem WrittenAs.parse_eq {text : List Char} {settings : Settings} (h : WrittenAs text settings) :
    parse text = .ok settings := by
  cases h with
  | empty hbefore hinside hafter =>
    exact parse_object hbefore hafter (by simpa using readObject_blank hinside _)
  | unset hbefore hne hmembers hafter =>
    exact parse_object hbefore hafter ((Run.of_unrelated hmembers .none).readObject_append hne _)
  | set hbefore hfront hpath hback hafter =>
    exact parse_object hbefore hafter
      ((Run.of_givesPath hfront hpath hback).readObject_append (by simp) _)

end Runs

end XmlSupport.Settings
