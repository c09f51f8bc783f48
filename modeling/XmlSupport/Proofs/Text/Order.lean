import Mathlib.Tactic.SplitIfs
import XmlSupport.KeyOrder
import XmlSupport.Text.Utf8

/-!
# Text is ordered like its bytes

Two characters are told apart by the first of their bytes that differ, in the
order of their numbers. So sorting text by characters or by bytes is the same.
-/

namespace XmlSupport.Utf8

theorem cons_lt_cons_of_lt {a b : UInt8} (h : a < b) (s t : Bytes) : a :: s < b :: t :=
  List.cons_lt_cons_iff.2 (.inl h)

theorem ofNat_lt_ofNat {m n : Nat} (h : m < n) (hn : n < 0x100) :
    UInt8.ofNat m < UInt8.ofNat n := by
  rw [UInt8.lt_iff_toNat_lt, UInt8.toNat_ofNat_of_lt' (Nat.lt_trans h hn),
    UInt8.toNat_ofNat_of_lt' hn]
  exact h

theorem append_lt_append {s t : Bytes} (h : s < t) (run : Bytes) : run ++ s < run ++ t := by
  induction run with
  | nil => exact h
  | cons b run ih => exact List.cons_lt_cons_iff.2 (.inr ⟨rfl, ih⟩)

/-- The last digit decides only where the digits in front of it agree. -/
theorem append_digit_lt (front : Nat → Bytes) {m n : Nat} (h : m < n)
    (hfront : m / 0x40 < n / 0x40 → ∀ s t, front (m / 0x40) ++ s < front (n / 0x40) ++ t)
    (s t : Bytes) :
    front (m / 0x40) ++ UInt8.ofNat (0x80 + m % 0x40) :: s <
      front (n / 0x40) ++ UInt8.ofNat (0x80 + n % 0x40) :: t := by
  rcases Nat.lt_or_eq_of_le (Nat.div_le_div_right (Nat.le_of_lt h) : m / 0x40 ≤ n / 0x40) with
    hlt | heq
  · exact hfront hlt _ _
  · rw [heq]
    exact append_lt_append (cons_lt_cons_of_lt (ofNat_lt_ofNat (by omega) (by omega)) s t) _

/-- The bytes of a smaller character are smaller, whatever follows the two. -/
theorem encodeChar_append_lt {c d : Char} (h : c < d) (s t : Bytes) :
    encodeChar c ++ s < encodeChar d ++ t := by
  have hlt : c.toNat < d.toNat := h
  have hvalid : d.toNat < 0x110000 := by
    rcases d.valid with h | h
    · exact Nat.lt_trans h (by decide)
    · exact h.2
  have hfirst (o m n : Nat) (hn : o + n < 0x100) (hmn : m < n) (s t : Bytes) :
      [UInt8.ofNat (o + m)] ++ s < [UInt8.ofNat (o + n)] ++ t :=
    cons_lt_cons_of_lt (ofNat_lt_ofNat (Nat.add_lt_add_left hmn o) hn) s t
  have htwo (k : Nat) : k / 0x1000 = k / 0x40 / 0x40 := (Nat.div_div_eq_div_mul k 0x40 0x40).symm
  have hthree (k : Nat) : k / 0x40000 = k / 0x40 / 0x40 / 0x40 := by
    rw [← htwo, Nat.div_div_eq_div_mul]
  unfold encodeChar
  generalize c.toNat = m at hlt
  generalize d.toNat = n at hlt hvalid
  dsimp only
  -- Characters of different widths differ in their first byte already.
  split_ifs <;> try first
    | omega
    | exact cons_lt_cons_of_lt (ofNat_lt_ofNat (by omega) (by omega)) _ _
  · exact append_digit_lt (fun q => [UInt8.ofNat (0xC0 + q)]) hlt
      (hfirst 0xC0 _ _ (by omega)) s t
  · simp only [htwo]
    exact append_digit_lt
      (fun q => [UInt8.ofNat (0xE0 + q / 0x40), UInt8.ofNat (0x80 + q % 0x40)]) hlt
      (fun hq => append_digit_lt (fun q => [UInt8.ofNat (0xE0 + q)]) hq
        (hfirst 0xE0 _ _ (by omega))) s t
  · simp only [hthree, htwo]
    exact append_digit_lt
      (fun q => [UInt8.ofNat (0xF0 + q / 0x40 / 0x40),
        UInt8.ofNat (0x80 + q / 0x40 % 0x40), UInt8.ofNat (0x80 + q % 0x40)]) hlt
      (fun hq => append_digit_lt
        (fun q => [UInt8.ofNat (0xF0 + q / 0x40), UInt8.ofNat (0x80 + q % 0x40)]) hq
        fun hq => append_digit_lt (fun q => [UInt8.ofNat (0xF0 + q)]) hq
          (hfirst 0xF0 _ _ (by omega))) s t

theorem nil_lt_encodeList_cons (c : Char) (cs : List Char) : [] < encodeList (c :: cs) := by
  rw [encodeList, List.flatMap_cons]
  unfold encodeChar
  dsimp only
  split_ifs <;> exact List.nil_lt_cons _ _

theorem encodeList_lt {cs ds : List Char} (h : cs < ds) : encodeList cs < encodeList ds := by
  induction h with
  | nil => exact nil_lt_encodeList_cons _ _
  | rel h => exact encodeChar_append_lt h _ _
  | cons _ ih => exact append_lt_append ih _

/-- Text is ordered like its bytes. -/
theorem encode_lt {s t : String} (h : s < t) : encode s < encode t := encodeList_lt h

theorem encode_lt_iff {s t : String} : encode s < encode t ↔ s < t := by
  constructor
  · intro h
    refine Decidable.byContradiction fun hst => ?_
    have hts : ¬t < s := fun hts => KeyOrder.irrefl _ (KeyOrder.trans h (encode_lt hts))
    obtain rfl := KeyOrder.eq_of_not_lt hst hts
    exact KeyOrder.irrefl _ h
  · exact encode_lt

end XmlSupport.Utf8
