import XmlSupport.Document.Position
import XmlSupport.Proofs.Json.Fields

/-!
# Values that stand for a position
-/

namespace XmlSupport.Document.Position

open Json Decode

/-- A position is written as an object with both numbers, or as an array of just the two. -/
structure WrittenAs (p : Position) (v : Json) : Prop where
  line : v.field? "line" 0 = some (.ofNat p.line.toNat)
  character : v.field? "character" 1 = some (.ofNat p.character.toNat)
  complete : ∀ items, v = .array items → items.length = 2

theorem ofMembers_eq_ok_iff {members : List (String × Json)} {p : Position} :
    ofMembers members = .ok p ↔ p.WrittenAs (.object members) := by
  simp only [ofMembers, bind_eq_ok_iff, required_eq_ok_iff, pure_eq_ok_iff]
  constructor
  · rintro ⟨_, hcharacter, _, hline, line, rfl, character, rfl, rfl⟩
    obtain ⟨_, hline, hl⟩ := member_eq_ok_some_iff.1 hline
    obtain ⟨_, hcharacter, hc⟩ := member_eq_ok_some_iff.1 hcharacter
    rw [uint32_eq_ok_iff.1 hl] at hline
    rw [uint32_eq_ok_iff.1 hc] at hcharacter
    exact ⟨hline, hcharacter, nofun⟩
  · rintro ⟨hline, hcharacter, -⟩
    exact ⟨_, member_eq_ok_some_iff.2 ⟨_, hcharacter, uint32_eq_ok_iff.2 rfl⟩, _,
      member_eq_ok_some_iff.2 ⟨_, hline, uint32_eq_ok_iff.2 rfl⟩, _, rfl, _, rfl, rfl⟩

theorem ofItems_eq_ok_iff {items : List Json} {p : Position} :
    ofItems items = .ok p ↔ p.WrittenAs (.array items) := by
  simp only [ofItems, bind_eq_ok_iff, Prod.exists, item_eq_ok_iff, uint32_eq_ok_iff,
    finished_eq_ok_iff, pure_eq_ok_iff]
  constructor
  · rintro ⟨line, _, ⟨_, rfl, rfl⟩, character, _, ⟨_, rfl, rfl⟩, -, rfl, rfl⟩
    refine ⟨rfl, rfl, ?_⟩
    rintro _ ⟨⟩
    rfl
  · rintro ⟨hline, hcharacter, hcomplete⟩
    obtain ⟨v, w, rfl⟩ := List.length_eq_two.1 (hcomplete items rfl)
    cases hline
    cases hcharacter
    exact ⟨_, _, ⟨_, rfl, rfl⟩, _, _, ⟨_, rfl, rfl⟩, (), rfl, rfl⟩

theorem decode_eq_ok_iff {v : Json} {p : Position} : decode v = .ok p ↔ p.WrittenAs v := by
  cases v with
  | object members => exact ofMembers_eq_ok_iff
  | array items => exact ofItems_eq_ok_iff
  | _ => exact iff_of_false nofun fun h => nomatch h.line

end XmlSupport.Document.Position
