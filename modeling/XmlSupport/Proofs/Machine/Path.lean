import XmlSupport.Machine.Path

/-!
# Joined paths

A name is joined to a path behind one slash, which is put in where the path does
not end with one. Two paths lead to the same joined path only if they differ in
no more than this slash.
-/

namespace XmlSupport.Machine.Path

variable {base path : Bytes} {name : String} {b : UInt8}

/-- A path as it stands in front of the names in it. -/
def asDirectory (base : Bytes) : Bytes :=
  if base = [] ∨ base.getLast? = some slash then base else base ++ [slash]

theorem not_nil_or_slash (h : base.getLast? = some b) (hb : b ≠ slash) :
    ¬(base = [] ∨ base.getLast? = some slash) := by
  rintro (rfl | hslash)
  · cases h
  · rw [h] at hslash
    exact hb (Option.some.inj hslash)

theorem joinName_eq (hname : isAbsolute (Utf8.encode name) = false) (base : Bytes) :
    joinName base name = asDirectory base ++ Utf8.encode name := by
  rw [joinName, join, hname, if_neg Bool.false_ne_true, asDirectory]
  by_cases h : base = [] ∨ base.getLast? = some slash
  · have hends : (base.isEmpty || base.getLast? == some slash) = true := by simpa using h
    rw [if_pos hends, if_pos h]
  · have hends : ¬(base.isEmpty || base.getLast? == some slash) = true := by simpa using h
    rw [if_neg hends, if_neg h, List.append_assoc]
    rfl

theorem getLast?_joinName (hname : isAbsolute (Utf8.encode name) = false)
    (hlast : (Utf8.encode name).getLast? = some b) (base : Bytes) :
    (joinName base name).getLast? = some b := by
  rw [joinName_eq hname, List.getLast?_append, hlast]
  rfl

theorem asDirectory_of_getLast? (h : base.getLast? = some b) (hb : b ≠ slash) :
    asDirectory base = base ++ [slash] := by
  rw [asDirectory, if_neg (not_nil_or_slash h hb)]

/-- A path that ends with no slash is the same place as itself with one, and as no other path. -/
theorem joinName_eq_joinName_iff (hname : isAbsolute (Utf8.encode name) = false)
    (h : base.getLast? = some b) (hb : b ≠ slash) :
    joinName path name = joinName base name ↔ path = base ∨ path = base ++ [slash] := by
  rw [joinName_eq hname, joinName_eq hname, List.append_left_inj, asDirectory_of_getLast? h hb]
  unfold asDirectory
  split
  case isTrue hends =>
    have hne : path ≠ base := by
      rintro rfl
      exact not_nil_or_slash h hb hends
    simp [hne]
  case isFalse hends =>
    have hne : path ≠ base ++ [slash] := by
      rintro rfl
      exact hends (.inr (by simp))
    simp [hne]

end XmlSupport.Machine.Path
