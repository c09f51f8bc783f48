import XmlSupport.Proofs.Launch.Views
import XmlSupport.Proofs.Machine.Path

/-!
# Which bundled server is started

Without a configured server path the bundled server stands behind the class path
flag. Its path is turned into text on the way, so it arrives as it is just when the
directory of the extension is text. What is no text is replaced, and then two
directories may lead to one argument.
-/

namespace XmlSupport.Launch

open Machine Utf8

/-- The argument behind the first class path flag. -/
def Child.classpath (c : Child) : Option Bytes :=
  (c.args.dropWhile (· != Utf8.encode classpathFlag))[1]?

/-- Where the bundled server lies in the directory of the extension. -/
def bundledName : String := "server/org.eclipse.lemminx-uber.jar"

variable {extension : Bytes}

theorem bundledServer_eq (extension : Bytes) :
    bundledServer extension = Path.asDirectory extension ++ Utf8.encode bundledName := by
  have hserver : Path.isAbsolute (Utf8.encode "server") = false := by decide
  have hjar : Path.isAbsolute (Utf8.encode "org.eclipse.lemminx-uber.jar") = false := by decide
  -- The name of the inner directory ends in a letter, so a slash always follows it.
  have hlast := Path.getLast?_joinName hserver (b := 114) (by decide) extension
  rw [bundledServer, Path.joinName_eq hjar, Path.asDirectory_of_getLast? hlast (by decide),
    Path.joinName_eq hserver, List.append_assoc, List.append_assoc]
  rfl

theorem isText_bundledServer_iff : IsText (bundledServer extension) ↔ IsText extension := by
  rw [bundledServer_eq, Path.asDirectory]
  split
  · exact isText_append_iff (a := 115) (by decide) (by decide)
  · have hname : [Path.slash] ++ Utf8.encode bundledName = Utf8.encode ("/" ++ bundledName) := rfl
    rw [List.append_assoc, hname]
    exact isText_append_iff (a := Path.slash) (by decide) (by decide)

theorem zero_not_mem_bundledServer (h : 0 ∉ extension) : 0 ∉ bundledServer extension := by
  have hname : 0 ∉ Utf8.encode bundledName := by decide
  have hslash : 0 ≠ Path.slash := by decide
  rw [bundledServer_eq, Path.asDirectory]
  split
  · simp [h, hname]
  · simp [h, hname, hslash]

/-- Without a configured path the text of the bundled server stands behind the flag. -/
theorem classpath_child_bundled (h : 0 ∉ extension) (env : Environment) :
    (Descriptor.build extension none env).invocation.child.classpath =
      some (Utf8.encode (decodeLossy (bundledServer extension))) := by
  have hkept := kept_eq (zero_not_mem_encode_decodeLossy (zero_not_mem_bundledServer h))
  rw [← hkept]
  rfl

/-- The bundled server is named as it is just when the directory of the extension is text; then
different servers have different names. -/
theorem classpath_eq_bundledServer_iff (h : 0 ∉ extension) (env : Environment) :
    let child := (Descriptor.build extension none env).invocation.child
    child.classpath = some (Utf8.encode (decodeLossy (bundledServer extension))) ∧
    (child.classpath = some (bundledServer extension) ↔ IsText extension) ∧
    ∀ extension' env', 0 ∉ extension' → IsText extension → IsText extension' →
      bundledServer extension' ≠ bundledServer extension →
        (Descriptor.build extension' none env').invocation.child.classpath ≠ child.classpath := by
  intro child
  have hself : child.classpath = some (bundledServer extension) ↔ IsText extension := by
    rw [classpath_child_bundled h env, Option.some_inj, ← isText_bundledServer_iff]
    exact encode_decodeLossy_eq_iff
  refine ⟨classpath_child_bundled h env, hself, ?_⟩
  intro extension' env' h' htext htext' hne hsame
  have hself' : (Descriptor.build extension' none env').invocation.child.classpath =
      some (bundledServer extension') := by
    rw [classpath_child_bundled h' env', encode_decodeLossy_eq_iff.2]
    exact isText_bundledServer_iff.2 htext'
  rw [hself', hself.2 htext, Option.some_inj] at hsame
  exact hne hsame

theorem classpath_eq_bundledServer_iff_accented :
    let accented := Utf8.encode "/\u00e9/"
    let plain := Utf8.encode "/e"
    let child := (Descriptor.build accented none SortedMap.empty).invocation.child
    let other := (Descriptor.build plain none SortedMap.empty).invocation.child
    0 ∉ accented ∧ 0 ∉ plain ∧ bundledServer plain ≠ bundledServer accented ∧
      child.classpath = some (bundledServer accented) ∧ other.classpath ≠ child.classpath := by
  intro accented plain child other
  have haccented : 0 ∉ accented := by decide
  have hplain : 0 ∉ plain := by decide
  have hne : bundledServer plain ≠ bundledServer accented := by decide
  have htext : IsText accented := ⟨_, rfl⟩
  obtain ⟨-, hself, hother⟩ := classpath_eq_bundledServer_iff haccented SortedMap.empty
  exact ⟨haccented, hplain, hne, hself.2 htext, hother _ _ hplain htext ⟨_, rfl⟩ hne⟩

/-- Two directories whose names end in different bytes that are no text. Neither server is named,
and both children are given one argument. -/
theorem classpath_ne_bundledServer :
    let first : Bytes := [Path.slash, 0xFF]
    let second : Bytes := [Path.slash, 0xFE]
    let child (extension : Bytes) :=
      (Descriptor.build extension none SortedMap.empty).invocation.child
    (0 ∉ first ∧ 0 ∉ second ∧ bundledServer first ≠ bundledServer second) ∧
      (child first).classpath ≠ some (bundledServer first) ∧
      (child first).classpath = (child second).classpath := by
  decide +kernel

end XmlSupport.Launch
