import XmlSupport.Text.Utf8

/-!
# Text survives its encoding

Each form of an encoded character is cut off as that character, so a text that
is encoded and decoded again is the same text. A chunk is what its bytes are cut
to, so there is no other way to encode a text.
-/

namespace XmlSupport.Utf8

theorem toNat_continuation (n : Nat) : (UInt8.ofNat (0x80 + n % 0x40)).toNat = 0x80 + n % 0x40 :=
  UInt8.toNat_ofNat_of_lt' (show _ < 0x100 by omega)

theorem isContinuation_continuation (n : Nat) :
    isContinuation (UInt8.ofNat (0x80 + n % 0x40)) = true := by
  simp only [isContinuation, UInt8.le_iff_toNat_le, toNat_continuation]
  simp
  omega

theorem chunks_one {n : Nat} (h : n < 0x80) (rest : Bytes) :
    chunks (UInt8.ofNat n :: rest) = .whole (Char.ofNat n) :: chunks rest := by
  have hlead : (UInt8.ofNat n).toNat = n := UInt8.toNat_ofNat_of_lt' (show n < 0x100 by omega)
  have hwidth : width (UInt8.ofNat n) = 1 := by
    simp only [width, UInt8.lt_iff_toNat_lt, hlead]
    simp
    omega
  rw [chunks.eq_def]
  simp only [hwidth, hlead]

theorem chunks_two {n : Nat} (hlow : 0x80 ≤ n) (hhigh : n < 0x800) (rest : Bytes) :
    chunks (UInt8.ofNat (0xC0 + n / 0x40) :: UInt8.ofNat (0x80 + n % 0x40) :: rest) =
      .whole (Char.ofNat n) :: chunks rest := by
  have hlead : (UInt8.ofNat (0xC0 + n / 0x40)).toNat = 0xC0 + n / 0x40 :=
    UInt8.toNat_ofNat_of_lt' (show _ < 0x100 by omega)
  have hwidth : width (UInt8.ofNat (0xC0 + n / 0x40)) = 2 := by
    simp only [width, UInt8.lt_iff_toNat_lt, UInt8.le_iff_toNat_le, hlead]
    simp
    grind
  have hfollows : followsLead (UInt8.ofNat (0xC0 + n / 0x40))
      (UInt8.ofNat (0x80 + n % 0x40)) = true := by
    simp only [followsLead, ← UInt8.toNat_inj, UInt8.le_iff_toNat_le, hlead,
      isContinuation_continuation]
    simp
    grind
  have hvalue : (0xC0 + n / 0x40 - 0xC0) * 0x40 + (0x80 + n % 0x40 - 0x80) = n := by omega
  rw [chunks.eq_def]
  simp only [hwidth, hfollows, if_true, assemble, List.foldl, hlead, toNat_continuation, hvalue]

theorem chunks_three {n : Nat} (hlow : 0x800 ≤ n) (hhigh : n < 0x10000)
    (hscalar : n < 0xD800 ∨ 0xDFFF < n) (rest : Bytes) :
    chunks (UInt8.ofNat (0xE0 + n / 0x1000) :: UInt8.ofNat (0x80 + n / 0x40 % 0x40) ::
      UInt8.ofNat (0x80 + n % 0x40) :: rest) = .whole (Char.ofNat n) :: chunks rest := by
  have hlead : (UInt8.ofNat (0xE0 + n / 0x1000)).toNat = 0xE0 + n / 0x1000 :=
    UInt8.toNat_ofNat_of_lt' (show _ < 0x100 by omega)
  have hwidth : width (UInt8.ofNat (0xE0 + n / 0x1000)) = 3 := by
    simp only [width, UInt8.lt_iff_toNat_lt, UInt8.le_iff_toNat_le, hlead]
    simp
    grind
  have hfollows : followsLead (UInt8.ofNat (0xE0 + n / 0x1000))
      (UInt8.ofNat (0x80 + n / 0x40 % 0x40)) = true := by
    simp only [followsLead, ← UInt8.toNat_inj, UInt8.le_iff_toNat_le, hlead, toNat_continuation,
      isContinuation_continuation]
    simp
    grind
  have hvalue : ((0xE0 + n / 0x1000 - 0xE0) * 0x40 + (0x80 + n / 0x40 % 0x40 - 0x80)) * 0x40 +
      (0x80 + n % 0x40 - 0x80) = n := by omega
  rw [chunks.eq_def]
  simp only [hwidth, hfollows, isContinuation_continuation, if_true, assemble, List.foldl, hlead,
    toNat_continuation, hvalue]

theorem chunks_four {n : Nat} (hlow : 0x10000 ≤ n) (hhigh : n < 0x110000) (rest : Bytes) :
    chunks (UInt8.ofNat (0xF0 + n / 0x40000) :: UInt8.ofNat (0x80 + n / 0x1000 % 0x40) ::
      UInt8.ofNat (0x80 + n / 0x40 % 0x40) :: UInt8.ofNat (0x80 + n % 0x40) :: rest) =
      .whole (Char.ofNat n) :: chunks rest := by
  have hlead : (UInt8.ofNat (0xF0 + n / 0x40000)).toNat = 0xF0 + n / 0x40000 :=
    UInt8.toNat_ofNat_of_lt' (show _ < 0x100 by omega)
  have hwidth : width (UInt8.ofNat (0xF0 + n / 0x40000)) = 4 := by
    simp only [width, UInt8.lt_iff_toNat_lt, UInt8.le_iff_toNat_le, hlead]
    simp
    grind
  have hfollows : followsLead (UInt8.ofNat (0xF0 + n / 0x40000))
      (UInt8.ofNat (0x80 + n / 0x1000 % 0x40)) = true := by
    simp only [followsLead, ← UInt8.toNat_inj, UInt8.le_iff_toNat_le, hlead, toNat_continuation,
      isContinuation_continuation]
    simp
    grind
  have hvalue : (((0xF0 + n / 0x40000 - 0xF0) * 0x40 + (0x80 + n / 0x1000 % 0x40 - 0x80)) * 0x40 +
      (0x80 + n / 0x40 % 0x40 - 0x80)) * 0x40 + (0x80 + n % 0x40 - 0x80) = n := by omega
  rw [chunks.eq_def]
  simp only [hwidth, hfollows, isContinuation_continuation, if_true, assemble, List.foldl, hlead,
    toNat_continuation, hvalue]

theorem chunks_encodeChar_append (c : Char) (rest : Bytes) :
    chunks (encodeChar c ++ rest) = .whole c :: chunks rest := by
  have hscalar : c.toNat < 0xD800 ∨ 0xDFFF < c.toNat ∧ c.toNat < 0x110000 := c.valid
  conv => rhs; rw [← Char.ofNat_toNat c]
  unfold encodeChar
  dsimp only
  split
  · exact chunks_one ‹_› rest
  split
  · exact chunks_two (by omega) ‹_› rest
  split
  · exact chunks_three (by omega) ‹_› (by omega) rest
  · exact chunks_four (by omega) (by omega) rest

theorem chunks_encodeList_append (cs : List Char) (rest : Bytes) :
    chunks (encodeList cs ++ rest) = cs.map .whole ++ chunks rest := by
  induction cs with
  | nil => rfl
  | cons c cs ih =>
    rw [encodeList, List.flatMap_cons, List.append_assoc, chunks_encodeChar_append, ← encodeList,
      ih, List.map_cons, List.cons_append]

theorem chunks_encode (s : String) : chunks (encode s) = s.toList.map .whole := by
  have h := chunks_encodeList_append s.toList []
  rwa [List.append_nil, chunks, List.append_nil] at h

theorem mapM_whole? (cs : List Char) : (cs.map Chunk.whole).mapM Chunk.whole? = some cs := by
  induction cs with
  | nil => rfl
  | cons c cs ih => rw [List.map_cons, List.mapM_cons, ih]; rfl

theorem decode?_encode (s : String) : decode? (encode s) = some s := by
  rw [decode?, chunks_encode, mapM_whole?, Option.map_some, String.ofList_toList]

/-- The bytes that a chunk was cut from. -/
def Chunk.bytes : Chunk → Bytes
  | .whole c => encodeChar c
  | .broken run => run

section Pieces

variable {a b c d : UInt8}

theorem toNat_of_width (a : UInt8) :
    (width a = 1 → a.toNat < 0x80) ∧ (width a = 2 → 0xC2 ≤ a.toNat ∧ a.toNat ≤ 0xDF) ∧
      (width a = 3 → 0xE0 ≤ a.toNat ∧ a.toNat ≤ 0xEF) ∧
      (width a = 4 → 0xF0 ≤ a.toNat ∧ a.toNat ≤ 0xF4) := by
  simp only [width, UInt8.lt_iff_toNat_lt, UInt8.le_iff_toNat_le, Bool.and_eq_true,
    decide_eq_true_eq]
  grind

theorem toNat_of_isContinuation (h : isContinuation b = true) :
    0x80 ≤ b.toNat ∧ b.toNat ≤ 0xBF := by
  simpa [isContinuation, UInt8.le_iff_toNat_le] using h

theorem toNat_of_followsLead (h : followsLead a b = true) :
    0x80 ≤ b.toNat ∧ b.toNat ≤ 0xBF ∧ (a.toNat = 0xE0 → 0xA0 ≤ b.toNat) ∧
      (a.toNat = 0xED → b.toNat ≤ 0x9F) ∧ (a.toNat = 0xF0 → 0x90 ≤ b.toNat) ∧
      (a.toNat = 0xF4 → b.toNat ≤ 0x8F) := by
  simp only [followsLead, isContinuation, UInt8.le_iff_toNat_le, ← UInt8.toNat_inj] at h
  grind

theorem toNat_ofNat {n : Nat} (h : n < 0xD800 ∨ 0xDFFF < n ∧ n < 0x110000) :
    (Char.ofNat n).toNat = n := by
  rw [Char.ofNat, dif_pos h]
  rfl

theorem ofNat_eq {n : Nat} (h : n = a.toNat) : UInt8.ofNat n = a := by
  rw [h, UInt8.ofNat_toNat]

theorem encodeChar_one (h : width a = 1) : encodeChar (Char.ofNat a.toNat) = [a] := by
  have ha := (toNat_of_width a).1 h
  rw [encodeChar, toNat_ofNat (by omega), if_pos ha, ofNat_eq rfl]

theorem encodeChar_two (h : width a = 2) (hb : followsLead a b = true) :
    encodeChar (assemble (a.toNat - 0xC0) [b]) = [a, b] := by
  have ha := (toNat_of_width a).2.1 h
  have hb := toNat_of_followsLead hb
  simp only [assemble, List.foldl]
  rw [encodeChar, toNat_ofNat (by omega), if_neg (by omega), if_pos (by omega),
    ofNat_eq (a := a) (by omega), ofNat_eq (a := b) (by omega)]

theorem encodeChar_three (h : width a = 3) (hb : followsLead a b = true)
    (hc : isContinuation c = true) :
    encodeChar (assemble (a.toNat - 0xE0) [b, c]) = [a, b, c] := by
  have ha := (toNat_of_width a).2.2.1 h
  have hb := toNat_of_followsLead hb
  have hc := toNat_of_isContinuation hc
  simp only [assemble, List.foldl]
  rw [encodeChar, toNat_ofNat (by omega), if_neg (by omega), if_neg (by omega), if_pos (by omega),
    ofNat_eq (a := a) (by omega), ofNat_eq (a := b) (by omega), ofNat_eq (a := c) (by omega)]

theorem encodeChar_four (h : width a = 4) (hb : followsLead a b = true)
    (hc : isContinuation c = true) (hd : isContinuation d = true) :
    encodeChar (assemble (a.toNat - 0xF0) [b, c, d]) = [a, b, c, d] := by
  have ha := (toNat_of_width a).2.2.2 h
  have hb := toNat_of_followsLead hb
  have hc := toNat_of_isContinuation hc
  have hd := toNat_of_isContinuation hd
  simp only [assemble, List.foldl]
  rw [encodeChar, toNat_ofNat (by omega), if_neg (by omega), if_neg (by omega), if_neg (by omega),
    ofNat_eq (a := a) (by omega), ofNat_eq (a := b) (by omega), ofNat_eq (a := c) (by omega),
    ofNat_eq (a := d) (by omega)]

end Pieces

theorem flatMap_bytes_chunks (bytes : Bytes) : (chunks bytes).flatMap Chunk.bytes = bytes := by
  fun_induction chunks bytes with
  | case1 => rfl
  | _ => simp_all [Chunk.bytes, encodeChar_one, encodeChar_two, encodeChar_three, encodeChar_four]

theorem flatMap_bytes_of_mapM {cs : List Chunk} {text : List Char}
    (h : cs.mapM Chunk.whole? = some text) : cs.flatMap Chunk.bytes = encodeList text := by
  induction cs generalizing text with
  | nil =>
    obtain rfl : [] = text := by simpa using h
    rfl
  | cons chunk cs ih =>
    rw [List.mapM_cons] at h
    cases chunk with
    | broken run => simp [Chunk.whole?] at h
    | whole c =>
      cases hcs : cs.mapM Chunk.whole? with
      | none => simp [Chunk.whole?, hcs] at h
      | some more =>
        obtain rfl : c :: more = text := by simpa [Chunk.whole?, hcs] using h
        rw [List.flatMap_cons, ih hcs]
        rfl

/-- Only its own encoding is decoded to a text. -/
theorem decode?_eq_some_iff {bytes : Bytes} {s : String} :
    decode? bytes = some s ↔ bytes = encode s := by
  constructor
  · intro h
    obtain ⟨text, htext, rfl⟩ := Option.map_eq_some_iff.1 h
    rw [encode, String.toList_ofList, ← flatMap_bytes_of_mapM htext, flatMap_bytes_chunks]
  · rintro rfl
    exact decode?_encode s

theorem decodeLossy_encode (s : String) : decodeLossy (encode s) = s := by
  have hlossy (cs : List Char) : cs.map (Chunk.lossy ∘ Chunk.whole) = cs := List.map_id cs
  rw [decodeLossy, chunks_encode, List.map_map, hlossy, String.ofList_toList]

section Cuts

variable {a : UInt8}

theorem isContinuation_of_lt (h : a < 0x80) : isContinuation a = false := by
  have ha : ¬0x80 ≤ a := UInt8.not_le.2 h
  simp [isContinuation, ha]

theorem followsLead_of_lt (h : a < 0x80) (lead : UInt8) : followsLead lead a = false := by
  have hfirst : ¬0x80 ≤ a := UInt8.not_le.2 h
  have hthird : ¬0x90 ≤ a := fun hle => hfirst (UInt8.le_trans (by decide) hle)
  have hfifth : ¬0xA0 ≤ a := fun hle => hfirst (UInt8.le_trans (by decide) hle)
  simp [followsLead, isContinuation, hfirst, hthird, hfifth]

/-- No character, whole or broken, goes on across a byte that is one by itself. -/
theorem chunks_append (h : a < 0x80) (bytes rest : Bytes) :
    chunks (bytes ++ a :: rest) = chunks bytes ++ chunks (a :: rest) := by
  have hfollows := followsLead_of_lt h
  have hcontinues := isContinuation_of_lt h
  fun_induction chunks bytes with
  | case1 => rfl
  | _ =>
    rw [List.cons_append, chunks.eq_def]
    simp_all

end Cuts

/-- Replacing what is broken puts in no zero byte. -/
theorem zero_not_mem_encode_decodeLossy {bytes : Bytes} (h : 0 ∉ bytes) :
    0 ∉ encode (decodeLossy bytes) := by
  rw [encode, decodeLossy, String.toList_ofList, encodeList, List.flatMap_map]
  intro hmem
  obtain ⟨chunk, hchunk, hzero⟩ := List.mem_flatMap.1 hmem
  cases chunk with
  | broken run =>
    have hreplacement : 0 ∉ encodeChar '\ufffd' := by decide
    exact hreplacement hzero
  | whole c =>
    rw [← flatMap_bytes_chunks bytes] at h
    exact h (List.mem_flatMap.2 ⟨.whole c, hchunk, hzero⟩)

/-- Byte strings that are text. -/
def IsText (bytes : Bytes) : Prop := ∃ text : String, bytes = encode text

theorem isText_iff {bytes : Bytes} :
    IsText bytes ↔ ((chunks bytes).mapM Chunk.whole?).isSome := by
  simp only [IsText, ← decode?_eq_some_iff, ← Option.isSome_iff_exists, decode?, Option.isSome_map]

/-- A text that begins with a character of one byte can be cut off. -/
theorem isText_append_iff {bytes : Bytes} {tail : String} {a : UInt8}
    (hhead : (encode tail).head? = some a) (ha : a < 0x80) :
    IsText (bytes ++ encode tail) ↔ IsText bytes := by
  obtain ⟨rest, htail⟩ := List.head?_eq_some_iff.1 hhead
  have hwhole : (chunks (a :: rest)).mapM Chunk.whole? = some tail.toList := by
    rw [← htail, chunks_encode, mapM_whole?]
  rw [isText_iff, isText_iff, htail, chunks_append ha, List.mapM_append, hwhole]
  cases (chunks bytes).mapM Chunk.whole? <;> rfl

/-- Nothing is replaced just when there is nothing to replace. -/
theorem encode_decodeLossy_eq_iff {bytes : Bytes} :
    encode (decodeLossy bytes) = bytes ↔ IsText bytes := by
  constructor
  · intro h
    exact ⟨_, h.symm⟩
  · rintro ⟨text, rfl⟩
    rw [decodeLossy_encode]

end XmlSupport.Utf8
