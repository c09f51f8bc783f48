import XmlSupport.Proofs.Json.Passing
import XmlSupport.Proofs.Settings.Agreement

/-!
# Unrelated settings never matter

A text that is read as settings and begins with a brace is an object of the
grammar: its members are found as they are read, and the value of an unrelated
one is whatever has been passed over. So one more unrelated member, wherever it is
put in and however the text is spaced, is passed over as well, and the server path
stays what it was.
-/

namespace XmlSupport.Settings

open Json

section Reading

variable {found found' : Option (Option String)} {path : Option String} {settings : Settings}
  {blank text rest rest' : List Char}

theorem exists_blank_of_readColon (h : readColon rest = .ok rest') :
    ∃ behind, IsBlank behind ∧ rest = behind ++ ':' :: rest' := by
  simp only [readColon, refuse] at h
  split at h
  · cases h
  · rename_i c more hmore
    split_ifs at h with hcolon
    cases h
    exact exists_blank_of_dropSpace (hcolon ▸ hmore)

theorem exists_blank_of_readNextKey (h : readNextKey rest = .ok rest') :
    ∃ before, IsBlank before ∧ rest = before ++ '"' :: rest' := by
  simp only [readNextKey, refuse] at h
  split at h
  · cases h
  · rename_i c more hmore
    split_ifs at h with hquote
    cases h
    exact exists_blank_of_dropSpace (hquote ▸ hmore)

theorem exists_writesPath_of_readServerPath (h : readServerPath rest = .ok (path, rest')) :
    ∃ blank text, IsBlank blank ∧ WritesPath text path ∧ rest = blank ++ (text ++ rest') := by
  obtain ⟨blank, hblank, hrest⟩ := exists_blank rest
  unfold readServerPath at h
  split at h
  · cases h
  · rename_i c more hmore
    rw [hrest, hmore]
    split_ifs at h with hnull hquote
    · obtain ⟨behind, hword, heq⟩ := map_eq_ok_iff.1 h
      cases heq
      rw [eq_append_of_readWord (grammar_eq_ok_iff.1 hword), hnull]
      exact ⟨blank, _, hblank, .null, rfl⟩
    · obtain ⟨⟨s, behind⟩, hstring, heq⟩ := map_eq_ok_iff.1 h
      cases heq
      obtain ⟨written, rfl, hwritten⟩ := exists_spells_of_readString (grammar_eq_ok_iff.1 hstring)
      exact ⟨blank, _, hblank, .string hwritten, by simp [quoted, hquote]⟩
    · exact absurd h (refuseValue_ne_ok _ _)

theorem WritesPath.isValue (h : WritesPath text path) : IsValue text := by
  cases h with
  | null => exact .scalar (.word (by simp))
  | string h => exact .scalar (.string h.isQuotable)

/-- A member that has been read is one of the grammar, whether its value is a server path
or has been passed over. -/
theorem exists_isMember_of_readMember (hblank : IsBlank blank)
    (h : readMember found rest = .ok (found', rest')) :
    ∃ key label before text, blank ++ '"' :: rest = label ++ (before ++ (text ++ rest')) ∧
      IsValue text ∧ ∀ after, IsBlank after → IsMember key ⟨label, before, text, after⟩ := by
  simp only [readMember, bind_eq_ok_iff, grammar_eq_ok_iff, Prod.exists] at h
  obtain ⟨key, behind, hkey, h⟩ := h
  obtain ⟨written, rfl, hwritten⟩ := exists_spells_of_readString hkey
  suffices ∃ value, readColon behind = .ok value ∧
      ∃ before text, IsBlank before ∧ IsValue text ∧ value = before ++ (text ++ rest') by
    obtain ⟨_, hcolon, before, text, hbefore, htext, rfl⟩ := this
    obtain ⟨space, hspace, rfl⟩ := exists_blank_of_readColon hcolon
    exact ⟨key, _, before, text, by simp [quoted], htext,
      fun after hafter => ⟨.mk hblank hwritten hspace, hbefore, hafter⟩⟩
  split_ifs at h with hpath hfound
  · cases h
  · simp only [bind_eq_ok_iff, Prod.exists] at h
    obtain ⟨value, hcolon, path, end', hread, h⟩ := h
    cases h
    obtain ⟨before, text, hbefore, htext, hvalue⟩ := exists_writesPath_of_readServerPath hread
    exact ⟨value, hcolon, before, text, hbefore, htext.isValue, hvalue⟩
  · simp only [bind_eq_ok_iff, grammar_eq_ok_iff] at h
    obtain ⟨value, hcolon, end', hskip, h⟩ := h
    cases h
    exact ⟨value, hcolon, exists_isValue_of_skipValue hskip⟩

theorem exists_isMember_of_readMembers {fuel : Nat}
    (h : readMembers fuel found rest = .ok (found', rest')) :
    ∃ after, ∃ members : List (String × Part), IsBlank after ∧
      (∀ m ∈ members, IsMember m.1 m.2 ∧ IsValue m.2.text) ∧
      rest = after ++ (commaed (members.map (·.2.written)) ++ '\x7d' :: rest') := by
  induction fuel generalizing found rest with
  | zero => cases h
  | succ fuel ih =>
    obtain ⟨after, hafter, hrest⟩ := exists_blank rest
    simp only [readMembers, refuse] at h
    split at h
    · cases h
    rename_i c more hmore
    rw [hmore] at hrest
    split_ifs at h with hclose hcomma
    · cases h
      exact ⟨after, [], hafter, List.forall_mem_nil _, by rw [hrest, hclose]; rfl⟩
    · simp only [bind_eq_ok_iff, Prod.exists] at h
      obtain ⟨inside, hkey, found'', behind, hmember, hmembers⟩ := h
      obtain ⟨space, hspace, rfl⟩ := exists_blank_of_readNextKey hkey
      obtain ⟨key, label, before, text, htext, hvalue, hisMember⟩ :=
        exists_isMember_of_readMember hspace hmember
      obtain ⟨end', members, hend, hothers, rfl⟩ := ih hmembers
      refine ⟨after, (key, ⟨label, before, text, end'⟩) :: members, hafter,
        List.forall_mem_cons.2 ⟨⟨hisMember end' hend, hvalue⟩, hothers⟩, ?_⟩
      rw [hrest, hcomma, htext]
      simp [commaed, Part.written]

/-- An object that has been read has members of the grammar. -/
theorem exists_hasMembers_of_readObject {before after : List Char} (hbefore : IsBlank before)
    (hafter : IsBlank after) (h : readObject rest = .ok (settings, after)) :
    ∃ members, HasMembers (before ++ '\x7b' :: rest) members := by
  obtain ⟨blank, hblank, hrest⟩ := exists_blank rest
  simp only [readObject, refuse] at h
  split at h
  · cases h
  rename_i c more hmore
  rw [hrest, hmore]
  split_ifs at h with hclose hquote
  · cases h
    refine ⟨[], ?_⟩
    simpa [Frame.enclose, hclose] using HasMembers.empty hbefore hblank hafter
  · simp only [bind_eq_ok_iff, Prod.exists] at h
    obtain ⟨found, behind, hmember, found', end', hmembers, h⟩ := h
    cases h
    obtain ⟨key, label, before', text, htext, hvalue, hisMember⟩ :=
      exists_isMember_of_readMember hblank hmember
    obtain ⟨space, members, hspace, hothers, rfl⟩ := exists_isMember_of_readMembers hmembers
    let m : String × Part := (key, ⟨label, before', text, space⟩)
    have hm : IsMember m.1 m.2 ∧ IsValue m.2.text := ⟨hisMember space hspace, hvalue⟩
    have hall : ∀ q ∈ m :: members, IsMember q.1 q.2 ∧ IsValue q.2.text :=
      List.forall_mem_cons.2 ⟨hm, hothers⟩
    refine ⟨m :: members, ?_⟩
    rw [hquote, htext]
    simpa [Frame.enclose, intercalate_cons, Part.written, m] using
      HasMembers.members hbefore (List.cons_ne_nil _ _) hall hafter

/-- A text of settings that begins with a brace is the text of an object. -/
theorem exists_hasMembers_of_parse {more : List Char} (h : parse text = .ok settings)
    (hopen : dropSpace text = '\x7b' :: more) : ∃ members, HasMembers text members := by
  obtain ⟨before, hbefore, rfl⟩ := exists_blank_of_dropSpace hopen
  simp only [parse, bind_eq_ok_iff, Prod.exists] at h
  obtain ⟨settings', after, hread, h⟩ := h
  split at h
  · rename_i hend
    have hafter : IsBlank after := by
      obtain ⟨blank, hblank, rfl⟩ := exists_blank_of_dropSpace hend
      simpa using hblank
    simp only [readSettings, hopen, if_true] at hread
    exact exists_hasMembers_of_readObject hbefore hafter hread
  · cases h

end Reading

/-- A member under the same key, however it is spelled and spaced. The value of the server path
stays; that of another key may even be another value. -/
structure Restates (m m' : String × Part) : Prop where
  key : m'.1 = m.1
  text : m.1 = serverPathKey → m'.2.text = m.2.text

section Members

variable {found found' : Option (Option String)} {m m' : String × Part}
  {front back members members' : List (String × Part)}

theorem Gives.restated (h : Gives found m found') (hm : Restates m m') : Gives found m' found' := by
  obtain ⟨key', p'⟩ := m'
  cases h with
  | unrelated hne => exact .unrelated (hm.key ▸ hne)
  | path hpath =>
    obtain rfl : key' = serverPathKey := hm.key
    exact .path (hm.text rfl ▸ hpath)

theorem Leads.restated (h : Leads found members found')
    (hmembers : List.Forall₂ Restates members members') : Leads found members' found' := by
  induction h generalizing members' with
  | nil found =>
    cases hmembers
    exact .nil found
  | cons hm _ ih =>
    cases hmembers with
    | cons hrestates hothers => exact .cons (hm.restated hrestates) (ih hothers)

theorem Leads.insert (h : Leads found (front ++ back) found') (hne : m.1 ≠ serverPathKey) :
    Leads found (front ++ m :: back) found' := by
  induction front generalizing found with
  | nil => exact .cons (.unrelated hne) h
  | cons first front ih =>
    cases h with
    | cons hfirst h => exact .cons hfirst (ih h)

end Members

/-- A file that gives settings and holds an object still gives them with one more member under
any other key, whatever its value, among any of its members; white space between the tokens
may come and go. -/
theorem load_eq_of_unrelated {files : Machine.Files} {current : Machine.Place} {path : Bytes}
    {text : String} {more : List Char} {settings : Settings}
    (hread : files.read current path = .ok (Utf8.encode text))
    (hobject : dropSpace text.toList = '\x7b' :: more)
    (hload : load files current path = .ok settings) :
    (∃ members, HasMembers text.toList members) ∧
    ∀ front back, HasMembers text.toList (front ++ back) →
      ∀ m, m.1 ≠ serverPathKey → ∀ front' back' text',
        List.Forall₂ Restates front front' → List.Forall₂ Restates back back' →
        HasMembers text'.toList (front' ++ m :: back') →
          ∀ files' current' path', files'.read current' path' = .ok (Utf8.encode text') →
            load files' current' path' = .ok settings := by
  have hparse : parse text.toList = .ok settings := by
    have hreadText := Machine.Files.readText_eq_ok_iff.2 ⟨_, hread, Utf8.decode?_encode text⟩
    simp only [load, hreadText] at hload
    split at hload
    · cases hload
    · rename_i hparse
      rwa [Except.ok.inj hload] at hparse
  refine ⟨exists_hasMembers_of_parse hparse hobject,
    fun front back hmembers m hne front' back' text' hfront hback hmembers' => ?_⟩
  intro files' current' path' hread'
  obtain ⟨found, hleads, rfl⟩ := (parse_eq_ok_iff hmembers).1 hparse
  have hleads' : Leads .none (front' ++ m :: back') found :=
    Leads.insert (hleads.restated (List.rel_append hfront hback)) hne
  have hparse' := (parse_eq_ok_iff hmembers').2 ⟨found, hleads', rfl⟩
  have hreadText' := Machine.Files.readText_eq_ok_iff.2 ⟨_, hread', Utf8.decode?_encode text'⟩
  simp only [load, hreadText', hparse']

/-- A file with nothing but the server path. -/
def pathOnly : String := "\x7b\"xml.laguageServerPath\":\"/a.jar\"\x7d"

/-- The same file with one more member in front. Its value holds the key of the server path,
a number past all bounds, a bracket and a quote in a string, and half a surrogate pair. -/
def behindUnrelated : String :=
  "\x7b \"b\" : [\x7b\"xml.laguageServerPath\":-1e999\x7d, \"]\\\"\\ud800\"] ," ++
    "\"xml.laguageServerPath\":\"/a.jar\"\x7d"

theorem exists_hasMembers_behindUnrelated :
    ∃ m back, m.1 ≠ serverPathKey ∧ HasMembers pathOnly.toList back ∧
      HasMembers behindUnrelated.toList (m :: back) := by
  let key := "xml.laguageServerPath".toList
  let nested : Part := ⟨quoted key ++ [':'], [], "-1e999".toList, []⟩
  let inner : Part := ⟨[], [], Frame.object.enclose [nested.written], []⟩
  let text : Part := ⟨[], [' '], quoted "]\\\"\\ud800".toList, []⟩
  let m : Part :=
    ⟨" \"b\" :".toList, [' '], Frame.list.enclose [inner.written, text.written], [' ']⟩
  let server : Part := ⟨quoted key ++ [':'], [], quoted "/a.jar".toList, []⟩
  have hnone : IsBlank [] := List.forall_mem_nil _
  have hspace : IsBlank [' '] := List.forall_mem_singleton.2 List.mem_cons_self
  have hb : Spells "b".toList "b".toList := .of_isPlain rfl
  have hkey : Spells key key := .of_isPlain rfl
  have hjar : Spells "/a.jar".toList "/a.jar".toList := .of_isPlain rfl
  have hone : IsInteger ['1'] := .digits (by decide) rfl (List.forall_mem_nil _)
  have hdigits : AreDigits "999".toList := ⟨by decide, List.all_eq_true.1 rfl⟩
  have hsign : ([] : List Char) ∈ [[], ['+'], ['-']] := List.mem_cons_self
  have hexponent : IsExponent "e999".toList := .some (e := 'e') List.mem_cons_self hsign hdigits
  have hminus : ['-'] ∈ [[], ['-']] := by decide
  have hnumber : IsNumber "-1e999".toList := .mk hminus hone .none hexponent
  have hsurrogate : WritesUnit "d800".toList 0xD800 :=
    .digits (a := 13) (b := 8) (c := 0) (d := 0) ⟨by decide, .inl rfl⟩ ⟨by decide, .inl rfl⟩
      ⟨by decide, .inl rfl⟩ ⟨by decide, .inl rfl⟩
  have hquote : ('"', '"') ∈ letters := List.mem_cons_self
  have htext : IsQuotable "]\\\"\\ud800".toList :=
    .cons (.plain rfl) (.cons (.letter hquote) (.cons (.number hsurrogate) .nil))
  have hnested : ∀ p ∈ [nested], p.IsFramed .object :=
    List.forall_mem_singleton.2 ⟨.object hnone hkey.isQuotable hnone, hnone, hnone⟩
  have hinner : IsValue inner.text := .compound .object (List.cons_ne_nil _ _) hnested
    (List.forall_mem_singleton.2 (.scalar (.number hnumber)))
  have hitems : ∀ p ∈ [inner, text], p.IsFramed .list :=
    List.forall_mem_cons.2
      ⟨⟨.list, hnone, hnone⟩, List.forall_mem_singleton.2 ⟨.list, hspace, hnone⟩⟩
  have hvalues : ∀ p ∈ [inner, text], IsValue p.text :=
    List.forall_mem_cons.2 ⟨hinner, List.forall_mem_singleton.2 (.scalar (.string htext))⟩
  have hback : ∀ q ∈ [(serverPathKey, server)], IsMember q.1 q.2 ∧ IsValue q.2.text :=
    List.forall_mem_singleton.2
      ⟨⟨.mk hnone hkey hnone, hnone, hnone⟩, .scalar (.string hjar.isQuotable)⟩
  have hall : ∀ q ∈ [("b", m), (serverPathKey, server)], IsMember q.1 q.2 ∧ IsValue q.2.text :=
    List.forall_mem_cons.2 ⟨⟨⟨.mk hspace hb hspace, hspace, hspace⟩,
      .compound .list (List.cons_ne_nil _ _) hitems hvalues⟩, hback⟩
  have hpathOnly : pathOnly.toList = Frame.object.enclose [server.written] ++ [] := by
    decide +kernel
  have hbehind :
      behindUnrelated.toList = Frame.object.enclose [m.written, server.written] ++ [] := by
    decide +kernel
  exact ⟨("b", m), [(serverPathKey, server)], by decide,
    hpathOnly ▸ .members hnone (List.cons_ne_nil _ _) hback hnone,
    hbehind ▸ .members hnone (List.cons_ne_nil _ _) hall hnone⟩

theorem load_eq_of_unrelated_inFront :
    let path := Utf8.encode "settings.json"
    let files : String → Machine.Files := fun text =>
      .ofList [([path], .file (Utf8.encode text) false)]
    (files pathOnly).read [] path = .ok (Utf8.encode pathOnly) ∧
    dropSpace pathOnly.toList = '\x7b' :: pathOnly.toList.tail ∧
    load (files pathOnly) [] path = .ok ⟨some "/a.jar"⟩ ∧
    load (files behindUnrelated) [] path = .ok ⟨some "/a.jar"⟩ := by
  intro path files
  have hread : (files pathOnly).read [] path = .ok (Utf8.encode pathOnly) := rfl
  have hobject : dropSpace pathOnly.toList = '\x7b' :: pathOnly.toList.tail := rfl
  have hload : load (files pathOnly) [] path = .ok ⟨some "/a.jar"⟩ := rfl
  obtain ⟨m, back, hne, hback, hmembers⟩ := exists_hasMembers_behindUnrelated
  have hsame : List.Forall₂ Restates back back :=
    List.forall₂_same.2 fun _ _ => ⟨rfl, fun _ => rfl⟩
  have hinserted := (load_eq_of_unrelated hread hobject hload).2 [] back hback m hne
  exact ⟨hread, hobject, hload,
    hinserted [] back behindUnrelated .nil hsame hmembers (files behindUnrelated) [] path rfl⟩

end XmlSupport.Settings
