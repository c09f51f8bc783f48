import XmlSupport.Proofs.Json.Printing
import XmlSupport.Proofs.Machine.Files
import XmlSupport.Proofs.Settings.Members
import XmlSupport.Settings.Load

/-!
# A settings file and the value of its text

The settings of a file are read in one pass over its text, in which members under
other keys are passed over. Settings can also be taken from the value of the text,
in which the last of equal keys has won. The two agree on every text of an object,
as long as the server path stands in it at most once and has a fitting value; any
other text is refused.
-/

namespace XmlSupport

namespace Json

theorem member?_insert (key k : String) (v : Json) (members : List (String × Json)) :
    member? key (Entries.insert k v members) = if k = key then some v else member? key members := by
  induction members with
  | nil => rfl
  | cons head rest ih =>
    obtain ⟨k', v'⟩ := head
    simp only [Entries.insert]
    split
    · rfl
    · rename_i hless
      split
      · rename_i hgreater
        by_cases hkey : k' = key
        · have hne : k ≠ key := by
            rintro rfl
            exact KeyOrder.irrefl k (hkey ▸ hgreater)
          simp [member?, hkey, hne]
        · simp [member?, hkey, ih]
      · rename_i hgreater
        obtain rfl := KeyOrder.eq_of_not_lt hless hgreater
        by_cases hkey : k = key <;> simp [member?, hkey]

end Json

namespace Settings

open Json

/-- The server path stands at most once among the members, and its value is a string or `null`. -/
structure InOrder (members : List (String × Part)) : Prop where
  once : (members.map (·.1)).count serverPathKey ≤ 1
  value : ∀ m ∈ members, m.1 = serverPathKey → ∃ path, WritesPath m.2.text path

/-- What has been found of the server path before a member and after it. -/
inductive Gives : Option (Option String) → String × Part → Option (Option String) → Prop where
  | unrelated {found : Option (Option String)} {m : String × Part} (h : m.1 ≠ serverPathKey) :
    Gives found m found
  | path {p : Part} {path : Option String} (h : WritesPath p.text path) :
    Gives .none (serverPathKey, p) (some path)

/-- Members one after the other. -/
inductive Leads :
    Option (Option String) → List (String × Part) → Option (Option String) → Prop where
  | nil (found : Option (Option String)) : Leads found [] found
  | cons {found found' found'' : Option (Option String)} {m : String × Part}
      {members : List (String × Part)} (hm : Gives found m found')
      (h : Leads found' members found'') : Leads found (m :: members) found''

section Members

variable {found found' : Option (Option String)} {key : String} {m : String × Part} {p : Part}
  {members : List (String × Part)}

theorem Gives.turns (h : Gives found m found') (hm : IsMember m.1 m.2) (hvalue : IsValue m.2.text) :
    Turns found m.2 found' := by
  cases h with
  | unrelated hne => exact IsUnrelated.turns ⟨m.1, hne, hm, hvalue⟩ found
  | path hpath => exact GivesPath.turns ⟨hm, hpath⟩

theorem Leads.run (h : Leads found members found')
    (hmembers : ∀ m ∈ members, IsMember m.1 m.2 ∧ IsValue m.2.text) :
    Run found (members.map (·.2)) found' := by
  induction h with
  | nil found => exact .nil found
  | cons hm _ ih =>
    obtain ⟨⟨hmember, hvalue⟩, hmembers⟩ := List.forall_mem_cons.1 hmembers
    exact .cons (hm.turns hmember hvalue) (ih hmembers)

theorem exists_leads_cons_iff : (∃ found', Leads found (m :: members) found') ↔
    ∃ found', Gives found m found' ∧ ∃ found'', Leads found' members found'' := by
  constructor
  · rintro ⟨found'', h⟩
    cases h with
    | cons hm h => exact ⟨_, hm, _, h⟩
  · rintro ⟨found', hm, found'', h⟩
    exact ⟨found'', .cons hm h⟩

/-- What has been found before counts as one more server path. -/
theorem exists_leads_iff (found : Option (Option String)) (members : List (String × Part)) :
    (∃ found', Leads found members found') ↔
      found.isSome.toNat + (members.map (·.1)).count serverPathKey ≤ 1 ∧
        ∀ m ∈ members, m.1 = serverPathKey → ∃ path, WritesPath m.2.text path := by
  induction members generalizing found with
  | nil =>
    refine iff_of_true ⟨found, .nil found⟩ ⟨?_, List.forall_mem_nil _⟩
    cases found <;> simp
  | cons m members ih =>
    obtain ⟨key, p⟩ := m
    rw [exists_leads_cons_iff, List.map_cons, List.forall_mem_cons, List.count_cons]
    by_cases hkey : key = serverPathKey
    · subst hkey
      constructor
      · rintro ⟨found', hm, h⟩
        cases hm with
        | unrelated hne => exact absurd rfl hne
        | path hpath =>
          obtain ⟨hcount, hvalues⟩ := (ih _).1 h
          exact ⟨by simpa [Nat.add_comm] using hcount, fun _ => ⟨_, hpath⟩, hvalues⟩
      · rintro ⟨hcount, hvalue, hvalues⟩
        obtain ⟨path, hpath⟩ := hvalue rfl
        cases found with
        | some _ =>
          rw [Option.isSome_some, Bool.toNat_true, if_pos (beq_self_eq_true _)] at hcount
          omega
        | none => exact ⟨_, .path hpath, (ih _).2 ⟨by simpa [Nat.add_comm] using hcount, hvalues⟩⟩
    · constructor
      · rintro ⟨found', hm, h⟩
        cases hm with
        | path hpath => exact absurd rfl hkey
        | unrelated _ =>
          obtain ⟨hcount, hvalues⟩ := (ih _).1 h
          exact ⟨by simpa [hkey] using hcount, fun h => absurd h hkey, hvalues⟩
      · rintro ⟨hcount, -, hvalues⟩
        exact ⟨found, .unrelated hkey, (ih _).2 ⟨by simpa [hkey] using hcount, hvalues⟩⟩

theorem exists_leads_iff_inOrder : (∃ found, Leads .none members found) ↔ InOrder members := by
  rw [exists_leads_iff]
  constructor
  · rintro ⟨hcount, hvalue⟩
    exact ⟨by simpa using hcount, hvalue⟩
  · rintro ⟨hcount, hvalue⟩
    exact ⟨by simpa using hcount, hvalue⟩

end Members

section Reading

variable {found found' : Option (Option String)} {path : Option String} {key : String} {p : Part}
  {members : List (String × Part)} {text written rest rest' : List Char} {settings : Settings}

theorem grammar_eq_ok_iff {α : Type} {x : Except (Stop Json.Fault) α} {a : α} :
    grammar x = .ok a ↔ x = .ok a := by
  cases x <;> simp [grammar]

theorem refuseValue_ne_ok {α : Type} {a : α} (expected : Shape) (c : Char) :
    refuseValue expected c rest ≠ .ok a := by
  unfold refuseValue
  split
  · nofun
  · split
    · nofun
    · split <;> nofun

/-- A quoted text ends at its first quote that is not escaped. -/
theorem eq_of_quoted_append {written' : List Char} (hwritten : IsQuotable written)
    (hwritten' : IsQuotable written') (h : written ++ '"' :: rest = written' ++ '"' :: rest') :
    written = written' ∧ rest = rest' := by
  have hskip := hwritten.skipString_append rest
  rw [h, hwritten'.skipString_append] at hskip
  obtain rfl := Except.ok.inj hskip
  exact ⟨List.append_cancel_right h, rfl⟩

theorem eq_null_or_of_isValue (h : IsValue text) :
    text = "null".toList ∨ (∃ written, IsQuotable written ∧ text = quoted written) ∨
      ∃ c more, text = c :: more ∧ isSpace c = false ∧ c ≠ 'n' ∧ c ≠ '"' := by
  have hopen (frame : Frame) (parts : List (List Char)) : ∃ c more,
      frame.enclose parts = c :: more ∧ isSpace c = false ∧ c ≠ 'n' ∧ c ≠ '"' := by
    cases frame <;> exact ⟨_, _, rfl, rfl, by decide, by decide⟩
  cases h with
  | empty frame _ => exact .inr (.inr (hopen frame _))
  | compound frame _ _ _ => exact .inr (.inr (hopen frame _))
  | scalar h =>
    cases h with
    | string h => exact .inr (.inl ⟨_, h, rfl⟩)
    | word h =>
      simp only [List.mem_cons, List.not_mem_nil, or_false] at h
      rcases h with rfl | rfl | rfl
      · exact .inl rfl
      all_goals exact .inr (.inr ⟨_, _, rfl, rfl, by decide, by decide⟩)
    | number h =>
      cases h with
      | mk hsign hinteger _ _ =>
        simp only [List.mem_cons, List.not_mem_nil, or_false] at hsign
        rcases hsign with rfl | rfl
        · obtain ⟨c, more, rfl, hc⟩ := hinteger.exists_cons
          have hspace : isSpace c = false := isSpace_of_startsScalar (by simp [startsScalar, hc])
          have hn : c ≠ 'n' := by rintro rfl; cases hc
          have hquote : c ≠ '"' := by rintro rfl; cases hc
          exact .inr (.inr ⟨_, _, rfl, hspace, hn, hquote⟩)
        · exact .inr (.inr ⟨_, _, rfl, rfl, by decide, by decide⟩)

theorem writesPath_of_readServerPath {blank : List Char} (hblank : IsBlank blank)
    (htext : IsValue text) (h : readServerPath (blank ++ (text ++ rest)) = .ok (path, rest')) :
    WritesPath text path ∧ rest' = rest := by
  rcases eq_null_or_of_isValue htext with rfl | ⟨written, hwritten, rfl⟩ | ⟨c, more, rfl, hc⟩
  · rw [WritesPath.null.readServerPath_append hblank] at h
    cases h
    exact ⟨.null, rfl⟩
  · have hquoted : quoted written ++ rest = '"' :: (written ++ '"' :: rest) := by simp [quoted]
    rw [readServerPath, dropSpace_append hblank, hquoted, dropSpace_cons rfl] at h
    simp only [if_true] at h
    obtain ⟨⟨s, behind⟩, hread, heq⟩ := map_eq_ok_iff.1 h
    cases heq
    obtain ⟨written', hrest, hspells⟩ := exists_spells_of_readString (grammar_eq_ok_iff.1 hread)
    obtain ⟨rfl, rfl⟩ := eq_of_quoted_append hwritten hspells.isQuotable hrest
    exact ⟨.string hspells, rfl⟩
  · obtain ⟨hspace, hnull, hquote⟩ := hc
    rw [readServerPath, dropSpace_append hblank, List.cons_append, dropSpace_cons hspace] at h
    simp only [hnull, hquote, if_false] at h
    exact absurd h (refuseValue_ne_ok _ _)

theorem IsMember.exists_inside_gives (hm : IsMember key p) (hvalue : IsValue p.text) :
    ∃ blank inside, p.written = blank ++ '"' :: inside ∧ IsBlank blank ∧
      ∀ {found found' rest rest'}, EndsNumber (p.after ++ rest) →
        readMember found (inside ++ rest) = .ok (found', rest') →
          Gives found (key, p) found' ∧ rest' = p.after ++ rest := by
  obtain ⟨blank, inside, hwritten, hblank, hread⟩ := hm.exists_inside
  refine ⟨blank, inside, hwritten, hblank, fun {found found' rest rest'} hrest h => ?_⟩
  obtain ⟨colon, hkey, hcolon⟩ := hread rest
  simp only [readMember, bind_eq_ok_iff, hkey, Except.ok.injEq] at h
  obtain ⟨_, rfl, h⟩ := h
  split_ifs at h with hpath hfound
  · cases h
  · simp only [bind_eq_ok_iff, hcolon, Except.ok.injEq] at h
    obtain ⟨_, rfl, ⟨path, behind⟩, hread, h⟩ := h
    cases h
    obtain ⟨hwrites, rfl⟩ := writesPath_of_readServerPath hm.before hvalue hread
    obtain rfl := Option.not_isSome_iff_eq_none.1 hfound
    obtain rfl : key = serverPathKey := hpath
    exact ⟨.path hwrites, rfl⟩
  · have hskip := hvalue.skipValue_append hm.before hrest
    simp only [bind_eq_ok_iff, hcolon, Except.ok.injEq, grammar_eq_ok_iff] at h
    obtain ⟨_, rfl, behind, hbehind, h⟩ := h
    obtain rfl := Except.ok.inj (hskip.symm.trans hbehind)
    cases h
    exact ⟨.unrelated hpath, rfl⟩

theorem readMembers_comma {blank inside : List Char} (hblank : IsBlank blank) (fuel : Nat) :
    readMembers (fuel + 1) found (',' :: (blank ++ '"' :: inside)) =
      readMember found inside >>= fun (found, rest) => readMembers fuel found rest := by
  rw [readMembers, dropSpace_cons rfl]
  simp [readNextKey_append hblank, bind, Except.bind]

theorem readObject_quote {blank inside : List Char} (hblank : IsBlank blank) :
    readObject (blank ++ '"' :: inside) =
      readMember .none inside >>= fun (found, rest) =>
        readMembers rest.length found rest >>= fun (found, rest) => .ok (⟨found.join⟩, rest) := by
  rw [readObject, dropSpace_append hblank, dropSpace_cons rfl]
  rfl

-- White space behind the member in front is still ahead, which is what the induction needs.
theorem leads_of_readMembers {fuel : Nat} {after : List Char} (hafter : IsBlank after)
    (hmembers : ∀ m ∈ members, IsMember m.1 m.2 ∧ IsValue m.2.text)
    (h : readMembers fuel found (after ++ (commaed (members.map (·.2.written)) ++ '\x7d' :: rest)) =
      .ok (found', rest')) :
    Leads found members found' ∧ rest' = rest := by
  induction members generalizing fuel found after with
  | nil =>
    cases fuel with
    | zero => cases h
    | succ fuel =>
      rw [readMembers_blank hafter] at h
      simp only [readMembers, commaed, List.map_nil, List.flatMap_nil, List.nil_append,
        dropSpace_cons (c := '\x7d') rfl, if_true] at h
      cases h
      exact ⟨.nil _, rfl⟩
  | cons m members ih =>
    obtain ⟨⟨hmember, hvalue⟩, hmembers⟩ := List.forall_mem_cons.1 hmembers
    obtain ⟨blank, inside, hwritten, hblank, hgives⟩ := hmember.exists_inside_gives hvalue
    let tail := commaed (members.map (·.2.written)) ++ '\x7d' :: rest
    have htail : commaed ((m :: members).map (·.2.written)) ++ '\x7d' :: rest =
        ',' :: (blank ++ '"' :: (inside ++ tail)) := by simp [commaed, tail, hwritten]
    cases fuel with
    | zero => cases h
    | succ fuel =>
      rw [readMembers_blank hafter, htail, readMembers_comma hblank, bind_eq_ok_iff] at h
      obtain ⟨⟨found'', behind⟩, hfirst, hothers⟩ := h
      obtain ⟨hm, rfl⟩ := hgives (endsNumber_after hmember.after .object _ rest) hfirst
      obtain ⟨hleads, rfl⟩ := ih hmember.after hmembers hothers
      exact ⟨.cons hm hleads, rfl⟩

theorem leads_of_readObject (hne : members ≠ [])
    (hmembers : ∀ m ∈ members, IsMember m.1 m.2 ∧ IsValue m.2.text)
    (h : readObject ([','].intercalate (members.map (·.2.written)) ++ '\x7d' :: rest) =
      .ok (settings, rest')) :
    ∃ found, Leads .none members found ∧ settings = ⟨found.join⟩ ∧ rest' = rest := by
  obtain ⟨m, members, rfl⟩ := List.exists_cons_of_ne_nil hne
  obtain ⟨⟨hmember, hvalue⟩, hmembers⟩ := List.forall_mem_cons.1 hmembers
  obtain ⟨blank, inside, hwritten, hblank, hgives⟩ := hmember.exists_inside_gives hvalue
  let tail := commaed (members.map (·.2.written)) ++ '\x7d' :: rest
  have htext : [','].intercalate ((m :: members).map (·.2.written)) ++ '\x7d' :: rest =
      blank ++ '"' :: (inside ++ tail) := by simp [intercalate_cons, tail, hwritten]
  rw [htext, readObject_quote hblank] at h
  simp only [bind_eq_ok_iff, Prod.exists, Except.ok.injEq, Prod.mk.injEq] at h
  obtain ⟨found, _, hfirst, found', _, hothers, rfl, rfl⟩ := h
  obtain ⟨hm, rfl⟩ := hgives (endsNumber_after hmember.after .object _ rest) hfirst
  obtain ⟨hleads, rfl⟩ := leads_of_readMembers hmember.after hmembers hothers
  exact ⟨found', .cons hm hleads, rfl, rfl⟩

theorem exists_readObject_of_parse {before after : List Char} {inside : List (List Char)}
    (hbefore : IsBlank before)
    (h : parse (before ++ (Frame.object.enclose inside ++ after)) = .ok settings) :
    ∃ rest, readObject ([','].intercalate inside ++ '\x7d' :: after) = .ok (settings, rest) := by
  have hsettings : readSettings (before ++ (Frame.object.enclose inside ++ after)) =
      readObject ([','].intercalate inside ++ '\x7d' :: after) := by
    simp [readSettings, dropSpace_append hbefore, Frame.enclose, dropSpace_cons (c := '\x7b') rfl]
  simp only [parse, hsettings, bind_eq_ok_iff, Prod.exists] at h
  obtain ⟨s, rest, hread, h⟩ := h
  split at h
  · rw [pure_eq_ok_iff] at h
    exact ⟨rest, h ▸ hread⟩
  · cases h

/-- A text of an object is read as settings just when its members lead to them. -/
theorem parse_eq_ok_iff (h : HasMembers text members) :
    parse text = .ok settings ↔ ∃ found, Leads .none members found ∧ settings = ⟨found.join⟩ := by
  cases h with
  | empty hbefore hinside hafter =>
    have hparse : parse _ = .ok none := WrittenAs.parse_eq (.empty hbefore hinside hafter)
    rw [hparse]
    constructor
    · intro h
      exact ⟨.none, .nil _, (Except.ok.inj h).symm⟩
    · rintro ⟨found, hleads, rfl⟩
      cases hleads
      rfl
  | @members before after _ hbefore hne hmembers hafter =>
    constructor
    · intro h
      obtain ⟨rest, hread⟩ := exists_readObject_of_parse hbefore h
      obtain ⟨found, hleads, hsettings, -⟩ := leads_of_readObject hne hmembers hread
      exact ⟨found, hleads, hsettings⟩
    · rintro ⟨found, hleads, rfl⟩
      have hread := (hleads.run hmembers).readObject_append (by simpa using hne) after
      rw [List.map_map] at hread
      exact parse_object hbefore hafter hread

end Reading

section Values

variable {found found' : Option (Option String)} {path : Option String}
  {text blank rest : List Char} {members : List (String × Part)} {entries o : List (String × Json)}

/-- The value of a member that gives the server path. -/
def pathValue : Option String → Json
  | .none => .null
  | some path => .string path

theorem ofHostValue_map_pathValue (found : Option (Option String)) :
    ofHostValue (found.map pathValue) = ⟨found.join⟩ := by
  rcases found with _ | _ | path <;> rfl

theorem WritesPath.eq_pathValue (h : WritesPath text path) (hblank : IsBlank blank) {fuel : Nat}
    {v : Json} (hread : readValueFrom fuel (blank ++ (text ++ rest)) = .ok (v, rest)) :
    v = pathValue path := by
  cases fuel with
  | zero => cases hread
  | succ fuel =>
    cases h with
    | null =>
      have hnull : dropSpace ("null".toList ++ rest) = 'n' :: ("ull".toList ++ rest) := rfl
      simp only [readValueFrom, dropSpace_append hblank, hnull] at hread
      cases hread
      rfl
    | string hspells =>
      simp [readValueFrom, dropSpace_append hblank, quoted, dropSpace_cons (c := '"') rfl,
        readScalar, hspells.readString_append, Except.map] at hread
      exact hread.symm

/-- Merging equal keys keeps what was found of the server path. -/
theorem Leads.member?_foldl (h : Leads found members found')
    (hholds : List.Forall₂ Holds entries members)
    (ho : member? serverPathKey o = found.map pathValue) :
    member? serverPathKey (entries.foldl (fun m e => Entries.insert e.1 e.2 m) o) =
      found'.map pathValue := by
  induction h generalizing entries o with
  | nil found =>
    cases hholds
    exact ho
  | cons hm _ ih =>
    cases hholds with
    | cons hhold hothers =>
      rw [List.foldl_cons]
      refine ih hothers ?_
      rw [member?_insert, hhold.key]
      cases hm with
      | unrelated hne => rw [if_neg hne, ho]
      | path hpath =>
        obtain ⟨fuel, behind, hread⟩ := hhold.value
        rw [if_pos rfl, hpath.eq_pathValue hhold.isMember.before hread, Option.map_some]

end Values

/-- A file whose text is read as an object holds an object of the grammar, however its members
are told apart. If the server path stands in it at most once, with a string or `null` for
its value, the settings of the file are those of the object. Otherwise they are refused,
and the path of the file is named. -/
theorem load_eq_ofHostValue (files : Machine.Files) (current : Machine.Place) (path : Bytes)
    (text : String) (o : List (String × Json))
    (hread : files.read current path = .ok (Utf8.encode text))
    (hparse : Json.parse text.toList = .ok (.object o)) :
    (∃ members, HasMembers text.toList members) ∧
    ∀ members, HasMembers text.toList members →
      (InOrder members →
        load files current path = .ok (ofHostValue ((Json.object o).get? serverPathKey))) ∧
      (¬ InOrder members → ∃ reason, load files current path = .error (.settings path reason)) := by
  obtain ⟨members, entries, hmembers, hholds, rfl⟩ := exists_hasMembers hparse
  have hreadText : files.readText current path = .ok text :=
    Machine.Files.readText_eq_ok_iff.2 ⟨_, hread, Utf8.decode?_encode text⟩
  refine ⟨⟨members, hmembers⟩, fun members' hmembers' => ⟨fun hinOrder => ?_, fun hinOrder => ?_⟩⟩
  · obtain ⟨found', hleads'⟩ := exists_leads_iff_inOrder.2 hinOrder
    have hsettings := (parse_eq_ok_iff hmembers').2 ⟨found', hleads', rfl⟩
    -- the entries of the object come from the members that the reader has told apart
    obtain ⟨found, hleads, heq⟩ := (parse_eq_ok_iff hmembers).1 hsettings
    have hvalue : (Json.object (Entries.ofList entries)).get? serverPathKey = found.map pathValue :=
      hleads.member?_foldl hholds rfl
    rw [hvalue, ofHostValue_map_pathValue, ← heq]
    simp only [load, hreadText, hsettings]
  · cases hresult : parse text.toList with
    | error stop => exact ⟨reason text.toList stop, by simp only [load, hreadText, hresult]⟩
    | ok settings =>
      obtain ⟨found, hleads, -⟩ := (parse_eq_ok_iff hmembers').1 hresult
      exact absurd (exists_leads_iff_inOrder.1 ⟨found, hleads⟩) hinOrder

/-- A nested object with the key of the server path, and the server path under an escaped key. -/
def nestedAndEscaped : String :=
  "\x7b\"a\":\x7b\"xml.laguageServerPath\":null\x7d,\"\\u0078ml.laguageServerPath\" :\"/a.jar\"\x7d"

theorem exists_hasMembers_nestedAndEscaped :
    ∃ members, HasMembers nestedAndEscaped.toList members ∧ InOrder members := by
  let key := "xml.laguageServerPath".toList
  let inner : Part := ⟨quoted key ++ [':'], [], "null".toList, []⟩
  let nested : Part := ⟨quoted "a".toList ++ [':'], [], Frame.object.enclose [inner.written], []⟩
  let escaped : Part :=
    ⟨"\"\\u0078ml.laguageServerPath\" :".toList, [], quoted "/a.jar".toList, []⟩
  have hnone : IsBlank [] := List.forall_mem_nil _
  have hspace : IsBlank [' '] := List.forall_mem_singleton.2 List.mem_cons_self
  have ha : Spells "a".toList "a".toList := .of_isPlain rfl
  have hkey : Spells key key := .of_isPlain rfl
  have hjar : Spells "/a.jar".toList "/a.jar".toList := .of_isPlain rfl
  have hx : WritesUnit "0078".toList 'x'.toNat :=
    .digits (a := 0) (b := 0) (c := 7) (d := 8) ⟨by decide, .inl rfl⟩ ⟨by decide, .inl rfl⟩
      ⟨by decide, .inl rfl⟩ ⟨by decide, .inl rfl⟩
  have hmore : Spells "ml.laguageServerPath".toList "ml.laguageServerPath".toList := .of_isPlain rfl
  have hescaped : Spells "\\u0078ml.laguageServerPath".toList key := .cons (.number hx) hmore
  have hinner : ∀ p ∈ [inner], p.IsFramed .object :=
    List.forall_mem_singleton.2 ⟨.object hnone hkey.isQuotable hnone, hnone, hnone⟩
  have hnull : ∀ p ∈ [inner], IsValue p.text :=
    List.forall_mem_singleton.2 (.scalar (.word (by decide)))
  have hmembers : ∀ m ∈ [("a", nested), (serverPathKey, escaped)],
      IsMember m.1 m.2 ∧ IsValue m.2.text :=
    List.forall_mem_cons.2 ⟨⟨⟨.mk hnone ha hnone, hnone, hnone⟩,
      .compound .object (List.cons_ne_nil inner []) hinner hnull⟩,
      List.forall_mem_singleton.2 ⟨⟨.mk hnone hescaped hspace, hnone, hnone⟩,
        .scalar (.string hjar.isQuotable)⟩⟩
  have hpath : ∀ m ∈ [("a", nested), (serverPathKey, escaped)], m.1 = serverPathKey →
      ∃ path, WritesPath m.2.text path :=
    List.forall_mem_cons.2 ⟨fun h => absurd h (by decide),
      List.forall_mem_singleton.2 fun _ => ⟨_, .string hjar⟩⟩
  exact ⟨_, .members hnone (List.cons_ne_nil _ _) hmembers hnone, by decide, hpath⟩

theorem load_eq_ofHostValue_nestedAndEscaped :
    let path := Utf8.encode "settings.json"
    let files : Machine.Files := .ofList [([path], .file (Utf8.encode nestedAndEscaped) false)]
    let o := [("a", Json.object [(serverPathKey, .null)]), (serverPathKey, .string "/a.jar")]
    files.read [] path = .ok (Utf8.encode nestedAndEscaped) ∧
    Json.parse nestedAndEscaped.toList = .ok (.object o) ∧
    load files [] path = .ok ⟨some "/a.jar"⟩ := by
  intro path files o
  have hread : files.read [] path = .ok (Utf8.encode nestedAndEscaped) := rfl
  let text := nestedAndEscaped.toList
  have hkey : readKey (text.drop 6) = .ok (serverPathKey, text.drop 30) := rfl
  have hnull : readValueFrom 148 (text.drop 30) = .ok (.null, text.drop 34) := rfl
  have hinner : Json.readMembers 149 (text.drop 6) = .ok ([(serverPathKey, .null)], text.drop 35) :=
    readMembers_last hkey hnull rfl
  have hnested : readValueFrom 150 (text.drop 5) =
      .ok (.object [(serverPathKey, .null)], text.drop 35) :=
    readValueFrom_object (c := '"') rfl (by decide) hinner
  have hescaped : readKey (text.drop 36) = .ok (serverPathKey, text.drop 66) := rfl
  have hjar : readValueFrom 149 (text.drop 66) = .ok (.string "/a.jar", text.drop 74) := rfl
  have hpath : Json.readMembers 150 (text.drop 36) =
      .ok ([(serverPathKey, .string "/a.jar")], []) := readMembers_last hescaped hjar rfl
  have ha : readKey (text.drop 1) = .ok ("a", text.drop 5) := rfl
  have hentries : Json.readMembers 151 (text.drop 1) = .ok (o, []) :=
    readMembers_cons ha hnested rfl (c := '"') rfl (by decide) hpath
  have hvalue : Json.readValue nestedAndEscaped.toList = .ok (.object o, []) :=
    readValueFrom_object (c := '"') rfl (by decide) hentries
  have hparse : Json.parse nestedAndEscaped.toList = .ok (.object o) := by
    simp only [Json.parse, hvalue]
    rfl
  obtain ⟨members, hmembers, hinOrder⟩ := exists_hasMembers_nestedAndEscaped
  have hload := load_eq_ofHostValue files [] _ _ _ hread hparse
  exact ⟨hread, hparse, (hload.2 members hmembers).1 hinOrder⟩

end Settings
end XmlSupport
