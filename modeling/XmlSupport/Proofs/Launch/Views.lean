import XmlSupport.Proofs.Launch.Document
import XmlSupport.Relay.Server

/-!
# The two views of a descriptor

The child has all that the descriptor has, unless a zero byte stands in it, and
then no machine is asked to start it. The document has all of it that is text, and it is
refused when the directory is none. So what a document leaves open of its child are only
the entries of the environment that are no text.
-/

namespace XmlSupport.Launch

open Machine

theorem kept_eq {bytes : Bytes} (h : 0 ∉ bytes) : kept bytes = bytes := by
  rw [kept, if_neg]
  simpa using h

/-- Nothing of the command line holds a zero byte, and neither does the directory. -/
structure Descriptor.IsZeroFree (d : Descriptor) : Prop where
  command : 0 ∉ Utf8.encode d.command
  args : ∀ arg ∈ d.args, 0 ∉ Utf8.encode arg
  cwd : ∀ path ∈ d.cwd, 0 ∉ path

/-- What a document shows of a descriptor, in whatever order its keys are. -/
structure Shows (v : Json) (d : Descriptor) : Prop where
  command : v.get? "command" = some (.string d.command)
  args : v.get? "args" = some (.array (d.args.map .string))
  options : ∃ (options : Json) (cwd : Option String) (env : List (String × Json)),
    v.get? "options" = some options ∧
    options.get? "cwd" = cwd.map .string ∧ d.cwd = cwd.map Utf8.encode ∧
    options.get? "env" = some (.object env) ∧ Entries.Ascending env ∧
    ∀ key value, (key, value) ∈ env ↔
      ∃ text, value = .string text ∧ (Utf8.encode key, Utf8.encode text) ∈ d.env.entries

section Children

variable {d : Descriptor}

theorem child_eq_of_isZeroFree (h : d.IsZeroFree) :
    d.invocation.child =
      ⟨Utf8.encode d.command, d.args.map Utf8.encode, d.env.entries, d.cwd, true⟩ := by
  have hargs : (d.args.map fun arg => kept (Utf8.encode arg)) = d.args.map Utf8.encode :=
    List.map_congr_left fun arg harg => kept_eq (h.args arg harg)
  have hcwd : d.cwd.map kept = d.cwd := by
    cases hpath : d.cwd with
    | none => rfl
    | some path => exact congrArg some (kept_eq (h.cwd path hpath))
  show Child.mk (kept (Utf8.encode d.command)) (d.args.map fun arg => kept (Utf8.encode arg))
    d.env.entries (d.cwd.map kept) true = _
  rw [kept_eq h.command, hargs, hcwd]

/-- Just what holds a zero byte is refused, wherever the byte stands. -/
theorem refusal?_eq_none_iff : d.invocation.refusal? = none ↔
    d.IsZeroFree ∧ ∀ entry ∈ d.env.entries, 0 ∉ entry.1 ∧ 0 ∉ entry.2 := by
  have hparts : d.invocation.refusal? = none ↔ ∀ part ∈ d.invocation.parts, 0 ∉ part := by
    simp [Invocation.refusal?]
  have hmem (part : Bytes) : part ∈ d.invocation.parts ↔
      part = Utf8.encode d.command ∨ (∃ arg ∈ d.args, Utf8.encode arg = part) ∨
        (∃ entry ∈ d.env.entries, part = entry.1 ∨ part = entry.2) ∨ part ∈ d.cwd := by
    simp [Invocation.parts, Descriptor.invocation]
  simp only [hparts, hmem]
  constructor
  · intro h
    refine ⟨⟨h _ (.inl rfl), fun arg harg => h _ (.inr (.inl ⟨arg, harg, rfl⟩)),
      fun path hpath => h _ (.inr (.inr (.inr hpath)))⟩, fun entry hentry => ⟨?_, ?_⟩⟩
    · exact h _ (.inr (.inr (.inl ⟨entry, hentry, .inl rfl⟩)))
    · exact h _ (.inr (.inr (.inl ⟨entry, hentry, .inr rfl⟩)))
  · rintro ⟨hfree, henv⟩ part (rfl | ⟨arg, harg, rfl⟩ | ⟨entry, hentry, rfl | rfl⟩ | hpath)
    · exact hfree.command
    · exact hfree.args arg harg
    · exact (henv entry hentry).1
    · exact (henv entry hentry).2
    · exact hfree.cwd part hpath

theorem refusal?_eq (i : Invocation) : i.refusal? = none ∨ i.refusal? = some .zeroInCommand := by
  unfold Invocation.refusal?
  split
  · exact .inr rfl
  · exact .inl rfl

/-- Where something has been replaced, there is no process on any machine. -/
theorem spawn_of_not_isZeroFree (h : ¬d.IsZeroFree) (start : Relay.Starter) :
    start.spawn d.invocation = .error .zeroInCommand := by
  rcases refusal?_eq d.invocation with hnone | hrefused
  · exact absurd (refusal?_eq_none_iff.1 hnone).1 h
  · rw [Relay.Starter.spawn, hrefused]

end Children

section Documents

variable {d d' : Descriptor} {v : Json}

theorem document_eq_ok_iff :
    d.document = .ok v ↔ ∃ cwd, d.cwd = cwd.map Utf8.encode ∧ v = d.documentWith cwd := by
  constructor
  · intro h
    unfold Descriptor.document at h
    split at h
    case h_1 hcwd => exact ⟨none, hcwd, (Except.ok.inj h).symm⟩
    case h_2 path hcwd =>
      split at h
      case h_1 text htext =>
        obtain rfl := Utf8.decode?_eq_some_iff.1 htext
        exact ⟨some text, hcwd, (Except.ok.inj h).symm⟩
      case h_2 => cases h
  · rintro ⟨cwd, hcwd, rfl⟩
    cases cwd with
    | none => simp [Descriptor.document, hcwd]
    | some text => simp [Descriptor.document, hcwd, Utf8.decode?_encode]

/-- There is no document just when the directory is no text. -/
theorem exists_document_eq_error_iff :
    (∃ e, d.document = .error e) ↔ ∃ path, d.cwd = some path ∧ ¬Utf8.IsText path := by
  constructor
  · rintro ⟨e, he⟩
    have hnone (v : Json) : d.document ≠ .ok v := by
      rw [he]
      nofun
    cases hcwd : d.cwd with
    | none => exact absurd (document_eq_ok_iff.2 ⟨none, hcwd, rfl⟩) (hnone _)
    | some path =>
      refine ⟨path, rfl, ?_⟩
      rintro ⟨text, rfl⟩
      exact hnone _ (document_eq_ok_iff.2 ⟨some text, hcwd, rfl⟩)
  · rintro ⟨path, hcwd, hpath⟩
    cases hd : d.document with
    | error e => exact ⟨e, rfl⟩
    | ok v =>
      obtain ⟨cwd, htext, -⟩ := document_eq_ok_iff.1 hd
      obtain ⟨text, -, rfl⟩ := Option.map_eq_some_iff.1 (htext.symm.trans hcwd)
      exact absurd ⟨text, rfl⟩ hpath

theorem shows_of_document (h : d.document = .ok v) : Shows v d := by
  obtain ⟨cwd, hcwd, rfl⟩ := document_eq_ok_iff.1 h
  refine ⟨rfl, rfl, _, cwd, _, rfl, ?_, hcwd, rfl, ascending_environmentMembers d.env,
    fun _ _ => mem_environmentMembers_iff⟩
  cases cwd <;> rfl

theorem exists_parse_document (h : d.document = .ok v) :
    ∃ shown, Json.parse v.pretty.toList = .ok shown ∧ Shows shown d := by
  obtain ⟨cwd, hcwd, rfl⟩ := document_eq_ok_iff.1 h
  refine ⟨_, Json.parse_pretty (d.isNumberless_documentWith cwd), ?_⟩
  rw [d.ordered_documentWith cwd]
  refine ⟨rfl, rfl, _, cwd, environmentMembers d.env, rfl, ?_, hcwd, ?_,
    ascending_environmentMembers d.env, fun _ _ => mem_environmentMembers_iff⟩
  · cases cwd <;> rfl
  · cases cwd <;> rfl

/-- A document leaves only those entries of the environment open that are no text. -/
theorem Shows.unique (h : Shows v d) (h' : Shows v d') :
    d.command = d'.command ∧ d.args = d'.args ∧ d.cwd = d'.cwd ∧
      ∀ key value : String, (Utf8.encode key, Utf8.encode value) ∈ d.env.entries ↔
        (Utf8.encode key, Utf8.encode value) ∈ d'.env.entries := by
  have hstring : Function.Injective Json.string := fun _ _ => Json.string.inj
  obtain ⟨options, cwd, env, hoptions, hcwd, hpath, henv, -, hmem⟩ := h.options
  obtain ⟨options', cwd', env', hoptions', hcwd', hpath', henv', -, hmem'⟩ := h'.options
  obtain rfl : options = options' := Option.some.inj (hoptions.symm.trans hoptions')
  obtain rfl : cwd = cwd' := Option.map_injective hstring (hcwd.symm.trans hcwd')
  obtain rfl : env = env' := Json.object.inj (Option.some.inj (henv.symm.trans henv'))
  have hcommand : d.command = d'.command :=
    hstring (Option.some.inj (h.command.symm.trans h'.command))
  have hargs : d.args = d'.args :=
    (List.map_inj_right fun _ _ => Json.string.inj).1
      (Json.array.inj (Option.some.inj (h.args.symm.trans h'.args)))
  refine ⟨hcommand, hargs, hpath.trans hpath'.symm, ?_⟩
  intro key value
  have hshown (entries : List (Bytes × Bytes)) :
      (∃ text, Json.string value = .string text ∧
        (Utf8.encode key, Utf8.encode text) ∈ entries) ↔
        (Utf8.encode key, Utf8.encode value) ∈ entries := by
    simp
  rw [← hshown, ← hshown, ← hmem, ← hmem']

end Documents

/-- The child has just what the descriptor has, and the document just what of it is text. -/
theorem views_agree (d : Descriptor) :
    let child := d.invocation.child
    child = ⟨kept (Utf8.encode d.command), d.args.map fun arg => kept (Utf8.encode arg),
      d.env.entries, d.cwd.map kept, true⟩ ∧
    (d.IsZeroFree → child =
      ⟨Utf8.encode d.command, d.args.map Utf8.encode, d.env.entries, d.cwd, true⟩) ∧
    (d.invocation.refusal? = none ↔
      d.IsZeroFree ∧ ∀ entry ∈ d.env.entries, 0 ∉ entry.1 ∧ 0 ∉ entry.2) ∧
    (¬d.IsZeroFree → ∀ start : Relay.Starter,
      start.spawn d.invocation = .error .zeroInCommand) ∧
    ((∃ e, d.document = .error e) ↔ ∃ path, d.cwd = some path ∧ ¬Utf8.IsText path) ∧
    (∀ v, d.document = .ok v →
      Shows v d ∧ ∃ shown, Json.parse v.pretty.toList = .ok shown ∧ Shows shown d) ∧
    ∀ (d' : Descriptor) (v v' : Json), d.document = .ok v → d'.document = .ok v' →
      Json.parse v.pretty.toList = Json.parse v'.pretty.toList →
        let child' := d'.invocation.child
        child.program = child'.program ∧ child.args = child'.args ∧ child.cwd = child'.cwd ∧
          ∀ key value, Utf8.IsText key → Utf8.IsText value →
            ((key, value) ∈ child.env ↔ (key, value) ∈ child'.env) := by
  intro child
  refine ⟨rfl, child_eq_of_isZeroFree, refusal?_eq_none_iff, spawn_of_not_isZeroFree,
    exists_document_eq_error_iff, fun v hv => ⟨shows_of_document hv, exists_parse_document hv⟩, ?_⟩
  intro d' v v' hv hv' hsame child'
  obtain ⟨shown, hparse, hshows⟩ := exists_parse_document hv
  obtain ⟨shown', hparse', hshows'⟩ := exists_parse_document hv'
  obtain rfl : shown = shown' := by
    rw [hparse, hparse'] at hsame
    exact Except.ok.inj hsame
  obtain ⟨hcommand, hargs, hcwd, henv⟩ := hshows.unique hshows'
  refine ⟨congrArg (fun text => kept (Utf8.encode text)) hcommand,
    congrArg (List.map fun arg => kept (Utf8.encode arg)) hargs,
    congrArg (Option.map kept) hcwd, ?_⟩
  rintro _ _ ⟨key, rfl⟩ ⟨value, rfl⟩
  exact henv key value

/-- The directory and one entry of the environment are accented text, another entry is no text. -/
def accentedDescriptor : Descriptor where
  command := runtime
  args := [classpathFlag, "\u00e9.jar", mainClass]
  env := .ofList [(Utf8.encode "\u00e9", Utf8.encode "1"), (Utf8.encode "A", [0xFF])]
  cwd := some (Utf8.encode "/\u00e9")

theorem views_agree_accented :
    let d := accentedDescriptor
    let other : Descriptor := { d with env := .ofList [(Utf8.encode "\u00e9", Utf8.encode "1")] }
    d.IsZeroFree ∧ other.document = d.document ∧
      d.invocation.child.env =
        [(Utf8.encode "A", [0xFF]), (Utf8.encode "\u00e9", Utf8.encode "1")] ∧
      other.invocation.child.env = [(Utf8.encode "\u00e9", Utf8.encode "1")] ∧
      d.invocation.child.args = other.invocation.child.args ∧
      ∃ v, d.document = .ok v ∧ Shows v d ∧
        (v.get? "options").bind (Json.get? · "env") =
          some (.object [("\u00e9", .string "1")]) := by
  intro d other
  have hfree : d.IsZeroFree := ⟨by decide, by decide, by decide⟩
  obtain ⟨-, hchild, -, -, -, hshows, hsame⟩ := views_agree d
  obtain ⟨-, hargs, -, -⟩ := hsame other _ _ rfl rfl rfl
  refine ⟨hfree, rfl, ?_, rfl, hargs, _, rfl, (hshows _ rfl).1, rfl⟩
  rw [hchild hfree]
  rfl

/-- A zero byte stands in an argument and in the directory: the child has the placeholder. -/
theorem child_ne_of_zero :
    let d : Descriptor := ⟨runtime, ["\x00"], .empty, some [0]⟩
    (∃ v, d.document = .ok v) ∧ d.invocation.child.args ≠ d.args.map Utf8.encode ∧
      d.invocation.child.cwd ≠ d.cwd := by
  exact ⟨⟨_, rfl⟩, by decide, by decide⟩

end XmlSupport.Launch
