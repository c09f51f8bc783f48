import XmlSupport.Json.Decode
import XmlSupport.Proofs.Except

/-!
# What the decoders accept

Each decoder of a plain shape accepts the values of that shape and no others.
Of a record, a field is found under its key in an object and at its index in an
array; for a field that may be left out, `null` is the same as nothing.
-/

namespace XmlSupport.Json

/-- A field of a record, under its key in an object or at its index in an array. -/
def field? (key : String) (index : Nat) : Json → Option Json
  | .object members => member? key members
  | .array items => items[index]?
  | _ => none

/-- What a field holds that may be left out. -/
def given : Option Json → Option Json
  | some .null => none
  | found => found

namespace Decode

theorem string_eq_ok_iff {v : Json} {s : String} : string v = .ok s ↔ v = .string s := by
  cases v <;> simp [string]

theorem boolean_eq_ok_iff {v : Json} {b : Bool} : boolean v = .ok b ↔ v = .bool b := by
  cases v <;> simp [boolean]

theorem unit_eq_ok_iff {v : Json} {u : Unit} : unit v = .ok u ↔ v = .null := by
  cases v <;> simp [unit]

theorem sequence_eq_ok_iff {v : Json} {items : List Json} :
    sequence v = .ok items ↔ v = .array items := by
  cases v <;> simp [sequence]

theorem int32_eq_ok_iff {v : Json} {n : Int32} : int32 v = .ok n ↔ v = .integer n.toInt := by
  constructor
  · intro h
    unfold int32 at h
    split at h
    · split at h
      · rename_i i hrange
        cases h
        rw [Int32.toInt_ofInt_of_le hrange.1 hrange.2]
        rfl
      · cases h
    · cases h
  · rintro rfl
    exact (if_pos ⟨n.le_toInt, n.toInt_lt⟩).trans (congrArg Except.ok n.ofInt_toInt)

theorem uint32_eq_ok_iff {v : Json} {n : UInt32} : uint32 v = .ok n ↔ v = .ofNat n.toNat := by
  constructor
  · intro h
    unfold uint32 at h
    split at h
    · split at h
      · rename_i i hrange
        cases h
        have hi : ((i.toNat : Nat) : Int) = i := Int.toNat_of_nonneg hrange.1
        have hlt : i.toNat < UInt32.size := by
          have : UInt32.size = 0x100000000 := rfl
          omega
        rw [UInt32.toNat_ofNat_of_lt' hlt, ofNat, hi]
      · cases h
    · cases h
  · rintro rfl
    have hlt := n.toNat_lt
    have hrange : 0 ≤ (n.toNat : Int) ∧ (n.toNat : Int) < 0x100000000 := by omega
    simp only [uint32, ofNat, if_pos hrange, Int.toNat_natCast, UInt32.ofNat_toNat]

variable {α : Type} {inner : Decoder α}

theorem listOf_eq_ok_iff {v : Json} {as : List α} :
    listOf inner v = .ok as ↔
      ∃ items, v = .array items ∧ List.Forall₂ (fun i a => inner i = .ok a) items as := by
  simp only [listOf, bind_eq_ok_iff, sequence_eq_ok_iff, mapM_eq_ok_iff]

theorem named_eq_ok_iff {variants : List (String × α)} {s : String} {a : α} :
    variant.named variants s = .ok a ↔ variants.lookup s = some a := by
  unfold variant.named
  cases variants.lookup s <;> simp

/-- One of several names stands alone or as the only key, without content. -/
theorem variant_eq_ok_iff {variants : List (String × α)} {v : Json} {a : α} :
    variant variants v = .ok a ↔
      ∃ s, variants.lookup s = some a ∧ (v = .string s ∨ v = .object [(s, .null)]) := by
  unfold variant
  split
  · rename_i s
    simp [named_eq_ok_iff]
  · rename_i s content
    simp only [bind_eq_ok_iff, named_eq_ok_iff, unit_eq_ok_iff, pure_eq_ok_iff]
    constructor
    · rintro ⟨_, hs, _, rfl, rfl⟩
      exact ⟨s, hs, .inr rfl⟩
    · rintro ⟨s', hs, h | h⟩
      · cases h
      · cases h
        exact ⟨a, hs, (), rfl, rfl⟩
  · rename_i members hnot
    refine iff_of_false nofun ?_
    rintro ⟨s, -, h | h⟩
    · cases h
    · exact hnot s .null (Json.object.inj h)
  · rename_i hstring _ hobject
    refine iff_of_false nofun ?_
    rintro ⟨s, -, h | h⟩
    · exact hstring s h
    · exact hobject _ h

/-- A decoder of an optional field stands in this relation to what the field holds. -/
def Fits (inner : Decoder α) : Option Json → Option α → Prop :=
  Option.Rel fun v a => inner v = .ok a

theorem map_some_eq_ok_iff {v : Json} {o : Option α} :
    (inner v).map some = .ok o ↔ Fits inner (some v) o := by
  rw [map_eq_ok_iff]
  constructor
  · rintro ⟨a, ha, rfl⟩
    exact .some ha
  · rintro ⟨ha⟩
    exact ⟨_, ha, rfl⟩

theorem ok_none_eq_ok_iff {o : Option α} :
    (.ok none : Except Mismatch (Option α)) = .ok o ↔ Fits inner none o := by
  constructor
  · intro h
    cases h
    exact .none
  · rintro ⟨⟩
    rfl

theorem optional_eq_ok_iff {v : Json} {o : Option α} :
    optional inner v = .ok o ↔ Fits inner (given (some v)) o := by
  cases v with
  | null => exact ok_none_eq_ok_iff
  | _ => exact map_some_eq_ok_iff

/-- Any value is an optional one that is taken as it is. -/
theorem anything_eq_optional : anything = optional .ok := by
  funext v
  cases v <;> rfl

theorem fits_ok_iff {found o : Option Json} : Fits .ok found o ↔ found = o := by
  cases found <;> cases o <;> simp [Fits]

theorem fits_sequence_iff {found : Option Json} {o : Option (List Json)} :
    Fits sequence found o ↔ found = o.map .array := by
  cases found <;> cases o <;> simp [Fits, sequence_eq_ok_iff]

theorem member_eq_ok_iff {key : String} {members : List (String × Json)} {o : Option α} :
    member key inner members = .ok o ↔ Fits inner (member? key members) o := by
  unfold member
  cases member? key members with
  | none => exact ok_none_eq_ok_iff
  | some v => exact map_some_eq_ok_iff

theorem member_eq_ok_some_iff {key : String} {members : List (String × Json)} {a : α} :
    member key inner members = .ok (some a) ↔
      ∃ v, member? key members = some v ∧ inner v = .ok a := by
  rw [member_eq_ok_iff]
  cases member? key members with
  | none => exact iff_of_false nofun nofun
  | some v => simp [Fits]

theorem member_optional_eq_ok_iff {key : String} {members : List (String × Json)} {o : Option α} :
    (∃ found, member key (optional inner) members = .ok found ∧ found.join = o) ↔
      Fits inner (given (member? key members)) o := by
  simp only [member_eq_ok_iff]
  cases member? key members with
  | none =>
    constructor
    · rintro ⟨_, ⟨⟩, rfl⟩
      exact .none
    · rintro ⟨⟩
      exact ⟨none, .none, rfl⟩
  | some v =>
    constructor
    · rintro ⟨_, ⟨h⟩, rfl⟩
      exact optional_eq_ok_iff.1 h
    · intro h
      exact ⟨some o, .some (optional_eq_ok_iff.2 h), rfl⟩

theorem required_eq_ok_iff {field : String} {o : Option α} {a : α} :
    required field o = .ok a ↔ o = some a := by
  cases o <;> simp [required]

theorem item_eq_ok_iff {name : String} {fields index : Nat} {items rest : List Json} {a : α} :
    item name fields index inner items = .ok (a, rest) ↔
      ∃ v, items = v :: rest ∧ inner v = .ok a := by
  cases items with
  | nil => exact iff_of_false nofun nofun
  | cons v items => simp [item, map_eq_ok_iff, and_comm]

theorem itemOr_optional_eq_ok_iff {items rest : List Json} {o : Option α} :
    itemOr none (optional inner) items = .ok (o, rest) ↔
      Fits inner (given items[0]?) o ∧ rest = items.tail := by
  cases items with
  | nil =>
    constructor
    · intro h
      cases h
      exact ⟨.none, rfl⟩
    · rintro ⟨⟨⟩, rfl⟩
      rfl
  | cons v items =>
    rw [itemOr, map_eq_ok_iff, List.getElem?_cons_zero, List.tail_cons, ← optional_eq_ok_iff]
    constructor
    · rintro ⟨o', ho, heq⟩
      cases heq
      exact ⟨ho, rfl⟩
    · rintro ⟨ho, rfl⟩
      exact ⟨o, ho, rfl⟩

theorem finished_eq_ok_iff {length : Nat} {rest : List Json} {u : Unit} :
    finished length rest = .ok u ↔ rest = [] := by
  cases rest <;> simp [finished]

end Decode
end XmlSupport.Json
