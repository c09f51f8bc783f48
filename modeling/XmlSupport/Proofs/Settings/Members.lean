import XmlSupport.Proofs.Json.Passing
import XmlSupport.Proofs.Settings.Text

/-!
# The members of an object text

A text that is read as an object is an object of the grammar, and each entry that
is read comes from one of its members, in their order, before equal keys are
merged. Keys are those that the members spell.
-/

namespace XmlSupport.Settings

open Json

/-- The texts of objects, with the keys that their members spell. -/
inductive HasMembers : List Char → List (String × Part) → Prop where
  | empty {before inside after : List Char} (hbefore : IsBlank before) (hinside : IsBlank inside)
      (hafter : IsBlank after) :
    HasMembers (before ++ (Frame.object.enclose [inside] ++ after)) []
  | members {before after : List Char} {members : List (String × Part)} (hbefore : IsBlank before)
      (hne : members ≠ []) (hmembers : ∀ m ∈ members, IsMember m.1 m.2 ∧ IsValue m.2.text)
      (hafter : IsBlank after) :
    HasMembers (before ++ (Frame.object.enclose (members.map (·.2.written)) ++ after)) members

/-- A member from which an entry is read. -/
structure Holds (entry : String × Json) (member : String × Part) : Prop where
  key : entry.1 = member.1
  isMember : IsMember member.1 member.2
  isValue : IsValue member.2.text
  value : ∃ fuel behind,
    readValueFrom fuel (member.2.before ++ (member.2.text ++ behind)) = .ok (entry.2, behind)

/-- The ways in which a value that begins at once can be read. -/
inductive Opens (fuel : Nat) : List Char → Json → List Char → Prop where
  | scalar {c : Char} {more rest' : List Char} {v : Json} (h : readScalar c more = .ok (v, rest')) :
    Opens fuel (c :: more) v rest'
  | emptyArray {inside rest' : List Char} (hinside : IsBlank inside) :
    Opens fuel ('[' :: (inside ++ ']' :: rest')) (.array []) rest'
  | array {inside more rest' : List Char} {items : List Json} (hinside : IsBlank inside)
      (h : Json.readItems fuel more = .ok (items, rest')) :
    Opens fuel ('[' :: (inside ++ more)) (.array items) rest'
  | emptyObject {inside rest' : List Char} (hinside : IsBlank inside) :
    Opens fuel ('\x7b' :: (inside ++ '\x7d' :: rest')) (.object []) rest'
  | object {inside more rest' : List Char} {entries : List (String × Json)}
      (hinside : IsBlank inside) (h : Json.readMembers fuel more = .ok (entries, rest')) :
    Opens fuel ('\x7b' :: (inside ++ more)) (ofMembers entries) rest'

section Values

variable {fuel : Nat} {v : Json} {rest rest' : List Char}

theorem exists_opens (h : readValueFrom (fuel + 1) rest = .ok (v, rest')) :
    ∃ blank text, IsBlank blank ∧ rest = blank ++ text ∧ Opens fuel text v rest' := by
  obtain ⟨blank, hblank, hrest⟩ := exists_blank rest
  refine ⟨blank, dropSpace rest, hblank, hrest, ?_⟩
  simp only [readValueFrom] at h
  split at h
  · cases h
  · rename_i more htext
    obtain ⟨inside, hinside, hmore⟩ := exists_blank more
    rw [htext, hmore]
    split at h
    · rename_i hclose
      cases h
      rw [hclose]
      exact .emptyArray hinside
    · cases h
    · split at h
      · cases h
      · rename_i hitems
        cases h
        exact .array hinside hitems
  · rename_i more htext
    obtain ⟨inside, hinside, hmore⟩ := exists_blank more
    rw [htext, hmore]
    split at h
    · rename_i hclose
      cases h
      rw [hclose]
      exact .emptyObject hinside
    · cases h
    · split at h
      · cases h
      · rename_i hmembers
        cases h
        exact .object hinside hmembers
  · rename_i htext
    rw [htext]
    exact .scalar h

theorem exists_spellsLabel {key : String} {blank : List Char} (hblank : IsBlank blank)
    (h : readKey rest = .ok (key, rest')) :
    ∃ label, SpellsLabel label key ∧ blank ++ rest = label ++ rest' := by
  unfold readKey at h
  split at h
  · split at h
    · cases h
    · rename_i hstring
      obtain ⟨written, rfl, hwritten⟩ := exists_spells_of_readString hstring
      split at h
      · cases h
      · rename_i hcolon
        cases h
        obtain ⟨behind, hbehind, rfl⟩ := exists_blank_of_dropSpace hcolon
        exact ⟨_, .mk hblank hwritten hbehind, by simp [quoted]⟩
      · cases h
  · cases h

theorem SpellsLabel.isLabel {label : List Char} {key : String} (h : SpellsLabel label key) :
    IsLabel .object label := by
  cases h with
  | mk hbefore hkey hbehind => exact .object hbefore hkey.isQuotable hbehind

theorem IsMember.isFramed {key : String} {p : Part} (h : IsMember key p) : p.IsFramed .object :=
  ⟨h.label.isLabel, h.before, h.after⟩

theorem isMember_of_holds {entries : List (String × Json)} {members : List (String × Part)}
    (h : List.Forall₂ Holds entries members) :
    ∀ m ∈ members, IsMember m.1 m.2 ∧ IsValue m.2.text := by
  induction h with
  | nil => exact List.forall_mem_nil _
  | cons hm _ ih => exact List.forall_mem_cons.2 ⟨⟨hm.isMember, hm.isValue⟩, ih⟩

mutual

/-- What is read as a value is one of the grammar, behind white space. -/
theorem exists_isValue (fuel : Nat) {v : Json} {rest rest' : List Char}
    (h : readValueFrom fuel rest = .ok (v, rest')) :
    ∃ blank text, IsBlank blank ∧ IsValue text ∧ rest = blank ++ (text ++ rest') := by
  match fuel with
  | 0 => cases h
  | fuel + 1 =>
    obtain ⟨blank, value, hblank, rfl, hopens⟩ := exists_opens h
    suffices ∃ text, IsValue text ∧ value = text ++ rest' by
      obtain ⟨text, htext, rfl⟩ := this
      exact ⟨blank, text, hblank, htext, rfl⟩
    cases hopens with
    | scalar h =>
      obtain ⟨text, htext, hscalar⟩ := exists_isScalar_of_readScalar h
      exact ⟨text, .scalar hscalar, htext⟩
    | emptyArray hinside => exact ⟨_, .empty .list hinside, by simp [Frame.enclose]⟩
    | emptyObject hinside => exact ⟨_, .empty .object hinside, by simp [Frame.enclose]⟩
    | array hinside h =>
      obtain ⟨parts, hne, hparts, hmore⟩ := exists_parts fuel hinside h
      refine ⟨_, .compound .list hne (fun p hp => (hparts p hp).1) (fun p hp => (hparts p hp).2),
        ?_⟩
      rw [hmore, Frame.enclose, List.cons_append, List.append_assoc, List.singleton_append]
    | object hinside h =>
      obtain ⟨members, hne, hholds, hmore⟩ := exists_members fuel hinside h
      have hmembers : ∀ p ∈ members.map (·.2), p.IsFramed .object ∧ IsValue p.text :=
        List.forall_mem_map.2 fun m hm =>
          let hm := isMember_of_holds hholds m hm
          ⟨hm.1.isFramed, hm.2⟩
      refine ⟨_, .compound .object (by simpa using hne) (fun p hp => (hmembers p hp).1)
        (fun p hp => (hmembers p hp).2), ?_⟩
      rw [hmore, Frame.enclose, List.map_map, List.cons_append, List.append_assoc,
        List.singleton_append]
      rfl

-- White space in front of the first item or member has been passed over by the caller, and
-- is a part of it in the text: `blank` is handed down.
theorem exists_parts (fuel : Nat) {items : List Json} {blank rest rest' : List Char}
    (hblank : IsBlank blank) (h : Json.readItems fuel rest = .ok (items, rest')) :
    ∃ parts : List Part, parts ≠ [] ∧ (∀ p ∈ parts, p.IsFramed .list ∧ IsValue p.text) ∧
      blank ++ rest = [','].intercalate (parts.map Part.written) ++ ']' :: rest' := by
  match fuel with
  | 0 => cases h
  | fuel + 1 =>
    simp only [readItems] at h
    split at h
    · cases h
    rename_i v next hvalue
    obtain ⟨before, text, hbefore, htext, rfl⟩ := exists_isValue fuel hvalue
    have hboth : IsBlank (blank ++ before) := List.forall_mem_append.2 ⟨hblank, hbefore⟩
    have hpart (after : List Char) (hafter : IsBlank after) :
        Part.IsFramed .list ⟨[], blank ++ before, text, after⟩ ∧ IsValue text :=
      ⟨⟨.list, hboth, hafter⟩, htext⟩
    split at h
    · cases h
    · rename_i hclose
      cases h
      obtain ⟨after, hafter, rfl⟩ := exists_blank_of_dropSpace hclose
      exact ⟨[⟨[], blank ++ before, text, after⟩], List.cons_ne_nil _ _,
        List.forall_mem_singleton.2 (hpart after hafter), by simp [Part.written]⟩
    · rename_i more hcomma
      obtain ⟨after, hafter, rfl⟩ := exists_blank_of_dropSpace hcomma
      split at h
      · cases h
      split at h
      · cases h
      rename_i hitems
      cases h
      obtain ⟨space, hspace, hmore⟩ := exists_blank more
      obtain ⟨parts, hne, hparts, hrest⟩ := exists_parts fuel hspace hitems
      refine ⟨⟨[], blank ++ before, text, after⟩ :: parts, List.cons_ne_nil _ _,
        List.forall_mem_cons.2 ⟨hpart after hafter, hparts⟩, ?_⟩
      rw [hmore, hrest, List.map_cons, List.intercalate_cons_of_ne_nil (by simpa using hne)]
      simp [Part.written]
    · cases h

/-- The entries of an object are read off its members one by one. -/
theorem exists_members (fuel : Nat) {entries : List (String × Json)} {blank rest rest' : List Char}
    (hblank : IsBlank blank) (h : Json.readMembers fuel rest = .ok (entries, rest')) :
    ∃ members : List (String × Part), members ≠ [] ∧ List.Forall₂ Holds entries members ∧
      blank ++ rest = [','].intercalate (members.map (·.2.written)) ++ '\x7d' :: rest' := by
  match fuel with
  | 0 => cases h
  | fuel + 1 =>
    simp only [Json.readMembers] at h
    split at h
    · cases h
    rename_i key value hkey
    obtain ⟨label, hlabel, hrest⟩ := exists_spellsLabel hblank hkey
    split at h
    · cases h
    rename_i v next hvalue
    obtain ⟨before, text, hbefore, htext, rfl⟩ := exists_isValue fuel hvalue
    have hmember (after : List Char) (hafter : IsBlank after) :
        Holds (key, v) (key, ⟨label, before, text, after⟩) :=
      ⟨rfl, ⟨hlabel, hbefore, hafter⟩, htext, fuel, next, hvalue⟩
    split at h
    · cases h
    · rename_i hclose
      cases h
      obtain ⟨after, hafter, rfl⟩ := exists_blank_of_dropSpace hclose
      refine ⟨[(key, ⟨label, before, text, after⟩)], List.cons_ne_nil _ _,
        .cons (hmember after hafter) .nil, ?_⟩
      rw [hrest]
      simp [Part.written]
    · rename_i more hcomma
      obtain ⟨after, hafter, rfl⟩ := exists_blank_of_dropSpace hcomma
      split at h
      · cases h
      · cases h
      split at h
      · cases h
      rename_i hmembers
      cases h
      obtain ⟨space, hspace, hmore⟩ := exists_blank more
      obtain ⟨members, hne, hholds, hbehind⟩ := exists_members fuel hspace hmembers
      refine ⟨(key, ⟨label, before, text, after⟩) :: members, List.cons_ne_nil _ _,
        .cons (hmember after hafter) hholds, ?_⟩
      rw [hrest, hmore, hbehind, List.map_cons,
        List.intercalate_cons_of_ne_nil (by simpa using hne)]
      simp [Part.written]
    · cases h

end

theorem readScalar_ne_object {c : Char} {entries : List (String × Json)} :
    readScalar c rest ≠ .ok (.object entries, rest') := by
  intro h
  unfold readScalar at h
  split_ifs at h
  all_goals
    obtain ⟨x, -, heq⟩ := map_eq_ok_iff.1 h
    cases heq

/-- A text that is read as an object is an object of the grammar, and its entries are read
off the members. The last of equal keys wins. -/
theorem exists_hasMembers {text : List Char} {o : List (String × Json)}
    (h : Json.parse text = .ok (.object o)) :
    ∃ members entries, HasMembers text members ∧ List.Forall₂ Holds entries members ∧
      o = Entries.ofList entries := by
  unfold Json.parse at h
  split at h
  · cases h
  rename_i v rest hvalue
  split at h
  · rename_i hend
    obtain ⟨after, hafter, rfl⟩ := exists_blank_of_dropSpace hend
    obtain ⟨before, value, hbefore, rfl, hopens⟩ := exists_opens hvalue
    obtain rfl := Except.ok.inj h
    cases hopens with
    | scalar hscalar => exact absurd hscalar readScalar_ne_object
    | emptyObject hinside =>
      refine ⟨[], [], ?_, .nil, rfl⟩
      simpa [Frame.enclose] using HasMembers.empty hbefore hinside hafter
    | object hinside hread =>
      obtain ⟨members, hne, hholds, hmore⟩ := exists_members _ hinside hread
      refine ⟨members, _, ?_, hholds, rfl⟩
      rw [hmore]
      simpa [Frame.enclose] using
        HasMembers.members hbefore hne (isMember_of_holds hholds) hafter
  · cases h

end Values

end XmlSupport.Settings
