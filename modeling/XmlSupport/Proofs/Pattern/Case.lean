import XmlSupport.Proofs.Pattern.Ways

/-!
# Patterns that case makes no difference to

Ignoring case, a class holds a letter with each of its two cases. A class that
treats all letters alike holds no more characters for it, so that a pattern
built from such classes is found in the same texts whether or not case counts.
-/

namespace XmlSupport.Pattern

theorem isUpper_iff {c : Char} : c.isUpper = true ↔ 65 ≤ c.toNat ∧ c.toNat ≤ 90 :=
  decide_eq_true_iff.trans (and_congr UInt32.le_iff_toNat_le UInt32.le_iff_toNat_le)

theorem isLower_iff {c : Char} : c.isLower = true ↔ 97 ≤ c.toNat ∧ c.toNat ≤ 122 := by
  refine Bool.and_eq_true_iff.trans (and_congr ?_ ?_)
  · exact decide_eq_true_iff.trans UInt32.le_iff_toNat_le
  · exact decide_eq_true_iff.trans UInt32.le_iff_toNat_le

theorem isAlpha_iff {c : Char} :
    c.isAlpha = true ↔ (65 ≤ c.toNat ∧ c.toNat ≤ 90) ∨ (97 ≤ c.toNat ∧ c.toNat ≤ 122) :=
  Bool.or_eq_true_iff.trans (or_congr isUpper_iff isLower_iff)

theorem toUpper_eq_or (c : Char) :
    c.toUpper = c ∨ c.isAlpha = true ∧ c.toUpper.isAlpha = true := by
  by_cases h : 'a'.val ≤ c.val ∧ c.val ≤ 'z'.val
  · have hlower : 97 ≤ c.toNat ∧ c.toNat ≤ 122 :=
      ⟨UInt32.le_iff_toNat_le.1 h.1, UInt32.le_iff_toNat_le.1 h.2⟩
    have hval : c.toUpper.val = c.val + ('A'.val - 'a'.val) := by
      delta Char.toUpper
      rw [dif_pos h]
    have hshift : ('A'.val - 'a'.val).toNat = 2 ^ 32 - 32 := rfl
    have htoNat : c.toUpper.toNat = (c.toNat + (2 ^ 32 - 32)) % 2 ^ 32 := by
      rw [← hshift]
      exact (congrArg UInt32.toNat hval).trans (UInt32.toNat_add _ _)
    refine Or.inr ⟨isAlpha_iff.2 (Or.inr hlower), isAlpha_iff.2 (Or.inl ?_)⟩
    omega
  · exact Or.inl (dif_neg h)

theorem toLower_eq_or (c : Char) :
    c.toLower = c ∨ c.isAlpha = true ∧ c.toLower.isAlpha = true := by
  by_cases h : c.val ≥ 'A'.val ∧ c.val ≤ 'Z'.val
  · have hupper : 65 ≤ c.toNat ∧ c.toNat ≤ 90 :=
      ⟨UInt32.le_iff_toNat_le.1 h.1, UInt32.le_iff_toNat_le.1 h.2⟩
    have hval : c.toLower.val = c.val + ('a'.val - 'A'.val) := by
      delta Char.toLower
      rw [dif_pos h]
    have hshift : ('a'.val - 'A'.val).toNat = 32 := rfl
    have htoNat : c.toLower.toNat = (c.toNat + 32) % 2 ^ 32 := by
      rw [← hshift]
      exact (congrArg UInt32.toNat hval).trans (UInt32.toNat_add _ _)
    refine Or.inr ⟨isAlpha_iff.2 (Or.inl hupper), isAlpha_iff.2 (Or.inr ?_)⟩
    omega
  · exact Or.inl (dif_neg h)

namespace Member

/-- Holds all letters or none. -/
def isCaseless : Member → Bool
  | .one c => !c.isAlpha
  | .range _ _ => false
  | .word | .digit | .blank => true

theorem holds_eq_of_isAlpha {m : Member} (hm : m.isCaseless = true) :
    ∃ b, ∀ c : Char, c.isAlpha = true → m.holds c = b := by
  cases m with
  | one d =>
    refine ⟨false, fun c hc => decide_eq_false ?_⟩
    rintro rfl
    simp [isCaseless, hc] at hm
  | range first last => exact absurd hm Bool.false_ne_true
  | word =>
    refine ⟨true, fun c hc => ?_⟩
    simp only [holds, isWord, Bool.or_eq_true, Bool.and_eq_true, decide_eq_true_eq, Char.le_def,
      UInt32.le_iff_toNat_le]
    rcases isAlpha_iff.1 hc with hupper | hlower
    · exact Or.inl (Or.inl (Or.inr hupper))
    · exact Or.inl (Or.inl (Or.inl hlower))
  | digit =>
    refine ⟨false, fun c hc => ?_⟩
    cases hd : isDigit c with
    | false => exact hd
    | true =>
      simp only [isDigit, Bool.and_eq_true, decide_eq_true_eq, Char.le_def,
        UInt32.le_iff_toNat_le] at hd
      have hnine : c.toNat ≤ 57 := hd.2
      rcases isAlpha_iff.1 hc with hupper | hlower
      · omega
      · omega
  | blank =>
    refine ⟨false, fun c hc => ?_⟩
    have hblanks : Text.blanks.all (fun c => !c.isAlpha) = true := by decide
    cases hb : Text.isBlank c with
    | false => exact hb
    | true =>
      have hnot := List.all_eq_true.1 hblanks c (List.contains_iff_mem.1 hb)
      rw [hc] at hnot
      exact absurd hnot (by decide)

theorem covers_eq_holds {m : Member} (hm : m.isCaseless = true) (c : Char) :
    m.covers true c = m.holds c := by
  obtain ⟨b, hb⟩ := holds_eq_of_isAlpha hm
  have hupper : m.holds c.toUpper = m.holds c := by
    rcases toUpper_eq_or c with h | ⟨hc, h⟩
    · rw [h]
    · rw [hb _ hc, hb _ h]
  have hlower : m.holds c.toLower = m.holds c := by
    rcases toLower_eq_or c with h | ⟨hc, h⟩
    · rw [h]
    · rw [hb _ hc, hb _ h]
  simp only [covers, hupper, hlower, Bool.or_self, Bool.true_and]

end Member

def CharClass.isCaseless (k : CharClass) : Bool := k.members.all Member.isCaseless

theorem CharClass.admits_ignoringCase {k : CharClass} (hk : k.isCaseless = true) (c : Char) :
    k.admits true c = k.admits false c := by
  have hcovers : ∀ m ∈ k.members, m.covers true c = m.covers false c := by
    intro m hm
    rw [Member.covers_eq_holds (List.all_eq_true.1 hk m hm)]
    simp only [Member.covers, Bool.false_and, Bool.or_false]
  have hany : k.members.any (·.covers true c) = k.members.any (·.covers false c) := by
    rw [Bool.eq_iff_iff, List.any_eq_true, List.any_eq_true]
    exact exists_congr fun m => and_congr_right fun hm => by rw [hcovers m hm]
  simp only [admits, hany]

namespace Node

/-- A part in which all classes treat all letters alike. What a group has taken
is compared letter by letter, so that no reference may stand in it. -/
def isCaseless : Node → Bool
  | .one k | .many k => k.isCaseless
  | .group _ body | .ahead _ body => body.isCaseless
  | .reference _ => false
  | .both first second | .either first second => first.isCaseless && second.isCaseless
  | .empty | .wordBoundary | .start | .finish => true

theorem matches_ignoringCase {n : Node} (hn : n.isCaseless = true) (s : Cursor) :
    n.matches true s = n.matches false s := by
  induction n generalizing s with
  | one k => simp only [Node.matches, CharClass.admits_ignoringCase hn]
  | many k =>
    have hk : k.admits true = k.admits false := funext (CharClass.admits_ignoringCase hn)
    simp only [Node.matches, hk]
  | group index body ih => simp only [Node.matches, ih hn]
  | reference index => exact absurd hn Bool.false_ne_true
  | both first second ih₁ ih₂ =>
    obtain ⟨h₁, h₂⟩ := Bool.and_eq_true_iff.1 hn
    simp only [Node.matches, ih₁ h₁, funext (ih₂ h₂)]
  | either first second ih₁ ih₂ =>
    obtain ⟨h₁, h₂⟩ := Bool.and_eq_true_iff.1 hn
    simp only [Node.matches, ih₁ h₁, ih₂ h₂]
  | ahead expected body ih => simp only [Node.matches, ih hn]
  | empty | wordBoundary | start | finish => rfl

end Node

/-- Where case makes no difference, it does not matter whether it is ignored. -/
theorem isFoundIn_iff_of_isCaseless {p : Pattern} {n : Node} (hn : p.node? = some n)
    (hcase : n.isCaseless = true) {text : List Char} :
    p.isFoundIn text = true ↔
      ∃ front back, text = front ++ back ∧ n.LeadsTo ⟨front.reverse, back, []⟩ fun _ => True := by
  have hmatches (s : Cursor) : n.matches p.ignoresCase s = n.matches false s := by
    cases p.ignoresCase with
    | false => rfl
    | true => exact Node.matches_ignoringCase hcase s
  simp only [isFoundIn_eq_true_iff hn, hmatches, Node.not_isEmpty_matches_iff]

end XmlSupport.Pattern
