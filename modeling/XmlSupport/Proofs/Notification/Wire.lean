import XmlSupport.Notification.Scope
import XmlSupport.Proofs.Notification.Handling

/-!
# The wire form of messages and scopes

A message, each of its commands and a scope are read from the values of one
shape and from no others. Whatever the shape, they are written in one normal
form: an object of the fields that hold anything, each with its own value. So
what is read is not changed by writing it and reading it again.
-/

namespace XmlSupport.Json

/-- The object of the fields that hold anything. -/
def objectOf (fields : List (String × Option Json)) : Json :=
  .object (fields.filterMap fun (key, found) => found.map (key, ·))

/-- An array with each item put into another form. -/
def mapItems (f : Json → Json) : Json → Json
  | .array items => .array (items.map f)
  | v => v

theorem given_ne_null (found : Option Json) : given found ≠ some .null := by
  unfold given
  split
  · exact nofun
  · assumption

theorem given_some_of_ne_null {v : Json} (h : v ≠ .null) : given (some v) = some v := by
  unfold given
  split
  · rename_i heq
    exact absurd (Option.some.inj heq) h
  · rfl

theorem given_eq_self_iff {found : Option Json} : given found = found ↔ found ≠ some .null := by
  constructor
  · rintro h rfl
    cases h
  · intro h
    cases found with
    | none => rfl
    | some v => exact given_some_of_ne_null fun hv => h (congrArg some hv)

variable {α : Type}

/-- Items can be related to others one by one when each can be related to one. -/
theorem exists_forall₂_iff {R : Json → α → Prop} {items : List Json} :
    (∃ as, List.Forall₂ R items as) ↔ ∀ i ∈ items, ∃ a, R i a := by
  induction items with
  | nil => exact iff_of_true ⟨[], .nil⟩ (List.forall_mem_nil _)
  | cons i items ih =>
    rw [List.forall_mem_cons, ← ih]
    constructor
    · rintro ⟨related, h⟩
      cases h with
      | cons ha has => exact ⟨⟨_, ha⟩, _, has⟩
    · rintro ⟨⟨a, ha⟩, as, has⟩
      exact ⟨a :: as, .cons ha has⟩

/-- The values of a type are read from just the values of a shape and are written
in a normal form, from which they are read again. -/
structure WireForm (decode : Decoder α) (encode : α → Json) (HasShape : Json → Prop)
    (normal : Json → Json) (v : Json) : Prop where
  decodes_iff : (∃ a, decode v = .ok a) ↔ HasShape v
  encode_eq : ∀ a, decode v = .ok a → encode a = normal v
  decode_encode : ∀ a, decode v = .ok a → decode (encode a) = .ok a
  idempotent : ∀ w, (decode v).map encode = .ok w → (decode w).map encode = .ok w

/-- It is enough to know what a value stands for, and that it stands for what is written. -/
theorem WireForm.of_writtenAs {decode : Decoder α} {encode : α → Json} {HasShape : Json → Prop}
    {normal : Json → Json} {WrittenAs : α → Json → Prop}
    (hdecode : ∀ v a, decode v = .ok a ↔ WrittenAs a v)
    (hshape : ∀ v, (∃ a, WrittenAs a v) ↔ HasShape v)
    (hnormal : ∀ a v, WrittenAs a v → encode a = normal v)
    (hencode : ∀ a v, WrittenAs a v → WrittenAs a (encode a)) (v : Json) :
    WireForm decode encode HasShape normal v where
  decodes_iff := by simp only [hdecode, hshape]
  encode_eq a h := hnormal a v ((hdecode v a).1 h)
  decode_encode a h := (hdecode _ a).2 (hencode a v ((hdecode v a).1 h))
  idempotent w h := by
    obtain ⟨a, ha, rfl⟩ := map_eq_ok_iff.1 h
    have hagain := (hdecode _ a).2 (hencode a v ((hdecode v a).1 ha))
    exact map_eq_ok_iff.2 ⟨a, hagain, rfl⟩

end XmlSupport.Json

namespace XmlSupport.Notification

open Json Decode

namespace Command

/-- An object, or an array of all three fields; other keys of an object do not matter. -/
structure HasShape (v : Json) : Prop where
  title : ∃ s, v.field? "title" 0 = some (.string s)
  command : ∃ s, v.field? "command" 1 = some (.string s)
  arguments : ∀ w, given (v.field? "arguments" 2) = some w → ∃ items, w = .array items
  complete : ∀ items, v = .array items → items.length = 3

def normal (v : Json) : Json :=
  objectOf [("arguments", given (v.field? "arguments" 2)), ("command", v.field? "command" 1),
    ("title", v.field? "title" 0)]

theorem exists_writtenAs_iff {v : Json} : (∃ c : Command, c.WrittenAs v) ↔ HasShape v := by
  constructor
  · rintro ⟨c, htitle, hcommand, harguments, hcomplete⟩
    refine ⟨⟨_, htitle⟩, ⟨_, hcommand⟩, fun w hw => ?_, hcomplete⟩
    rw [harguments] at hw
    obtain ⟨items, -, rfl⟩ := Option.map_eq_some_iff.1 hw
    exact ⟨items, rfl⟩
  · rintro ⟨⟨title, htitle⟩, ⟨command, hcommand⟩, harguments, hcomplete⟩
    cases hgiven : given (v.field? "arguments" 2) with
    | none => exact ⟨⟨title, command, none⟩, htitle, hcommand, hgiven, hcomplete⟩
    | some w =>
      obtain ⟨items, rfl⟩ := harguments w hgiven
      exact ⟨⟨title, command, some items⟩, htitle, hcommand, hgiven, hcomplete⟩

variable {c : Command} {v : Json}

theorem WrittenAs.encode_eq (h : c.WrittenAs v) : c.encode = normal v := by
  obtain ⟨title, command, arguments⟩ := c
  rw [normal, h.title, h.command, h.arguments]
  cases arguments <;> rfl

theorem writtenAs_encode (c : Command) : c.WrittenAs c.encode := by
  obtain ⟨title, command, arguments⟩ := c
  cases arguments <;> exact ⟨rfl, rfl, rfl, nofun⟩

end Command

namespace Message

/-- An object, or an array in which the last two fields may be left out; other
keys of an object do not matter. -/
structure HasShape (v : Json) : Prop where
  severity : ∃ n : Int, v.field? "severity" 0 = some (.integer n) ∧
    -0x80000000 ≤ n ∧ n < 0x80000000
  message : ∃ s, v.field? "message" 1 = some (.string s)
  commands : ∀ w, given (v.field? "commands" 3) = some w →
    ∃ items, w = .array items ∧ ∀ i ∈ items, Command.HasShape i
  complete : ∀ items, v = .array items → items.length ≤ 4

def normal (v : Json) : Json :=
  objectOf [("commands", (given (v.field? "commands" 3)).map (mapItems Command.normal)),
    ("data", given (v.field? "data" 2)), ("message", v.field? "message" 1),
    ("severity", v.field? "severity" 0)]

/-- Values that stand for commands, one by one. -/
def CommandsWritten (w : Json) (cs : List Command) : Prop :=
  ∃ items, w = .array items ∧ List.Forall₂ (fun i c => c.WrittenAs i) items cs

theorem exists_commandsWritten_iff {w : Json} :
    (∃ cs, CommandsWritten w cs) ↔ ∃ items, w = .array items ∧ ∀ i ∈ items, Command.HasShape i := by
  simp only [CommandsWritten, exists_comm (α := List Command), exists_and_left, exists_forall₂_iff,
    Command.exists_writtenAs_iff]

variable {m : Message} {v w : Json} {cs : List Command}

theorem exists_writtenAs_iff : (∃ m : Message, m.WrittenAs v) ↔ HasShape v := by
  constructor
  · rintro ⟨m, hseverity, hmessage, -, hcommands, hcomplete⟩
    refine ⟨⟨_, hseverity, m.severity.le_toInt, m.severity.toInt_lt⟩, ⟨_, hmessage⟩,
      fun w hw => exists_commandsWritten_iff.1 ?_, hcomplete⟩
    rw [hw] at hcommands
    generalize m.commands = commands at hcommands
    cases hcommands with
    | some hcs => exact ⟨_, hcs⟩
  · rintro ⟨⟨n, hseverity, hlow, hhigh⟩, ⟨s, hmessage⟩, hcommands, hcomplete⟩
    have hn : (Int32.ofInt n).toInt = n := Int32.toInt_ofInt_of_le hlow hhigh
    obtain ⟨commands, hwritten⟩ : ∃ commands,
        Option.Rel CommandsWritten (given (v.field? "commands" 3)) commands := by
      cases hgiven : given (v.field? "commands" 3) with
      | none => exact ⟨none, .none⟩
      | some w =>
        obtain ⟨cs, hcs⟩ := exists_commandsWritten_iff.2 (hcommands w hgiven)
        exact ⟨some cs, .some hcs⟩
    exact ⟨⟨.ofInt n, s, given (v.field? "data" 2), commands⟩, hn.symm ▸ hseverity, hmessage, rfl,
      hwritten, hcomplete⟩

theorem CommandsWritten.eq_mapItems (h : CommandsWritten w cs) :
    Json.array (cs.map Command.encode) = mapItems Command.normal w := by
  obtain ⟨items, rfl, hitems⟩ := h
  refine congrArg Json.array ?_
  induction hitems with
  | nil => rfl
  | cons hc _ ih => rw [List.map_cons, List.map_cons, hc.encode_eq, ih]

theorem commandsWritten_encode (cs : List Command) :
    CommandsWritten (.array (cs.map Command.encode)) cs :=
  ⟨_, rfl, List.forall₂_map_left_iff.2 (List.forall₂_same.2 fun c _ => c.writtenAs_encode)⟩

theorem WrittenAs.encode_eq (h : m.WrittenAs v) : m.encode = normal v := by
  obtain ⟨severity, message, data, commands⟩ := m
  have hcommands : (given (v.field? "commands" 3)).map (mapItems Command.normal) =
      commands.map fun cs => .array (cs.map Command.encode) := by
    have hwritten := h.commands
    generalize given (v.field? "commands" 3) = found at hwritten
    cases hwritten with
    | none => rfl
    | some hcs => exact congrArg some (CommandsWritten.eq_mapItems hcs).symm
  rw [normal, h.severity, h.message, h.data, hcommands]
  cases data <;> cases commands <;> rfl

/-- What is written stands for the message, unless its data is a null that would be lost. -/
theorem writtenAs_encode_iff : m.WrittenAs m.encode ↔ m.data ≠ some .null := by
  obtain ⟨severity, message, data, commands⟩ := m
  have hdata : (encode ⟨severity, message, data, commands⟩).field? "data" 2 = data := by
    cases data <;> cases commands <;> rfl
  constructor
  · intro h
    exact given_eq_self_iff.1 ((congrArg given hdata).symm.trans h.data)
  · intro h
    refine ⟨?_, ?_, (congrArg given hdata).trans (given_eq_self_iff.2 h), ?_, nofun⟩
    · cases data <;> cases commands <;> rfl
    · cases data <;> cases commands <;> rfl
    · cases commands with
      | none => cases data <;> exact .none
      | some cs => exact .some (commandsWritten_encode cs)

theorem WrittenAs.encode (h : m.WrittenAs v) : m.WrittenAs m.encode :=
  writtenAs_encode_iff.2 (h.data ▸ given_ne_null _)

end Message

namespace Scope

/-- A value names a scope by a string, or by the only key of an object that holds nothing under
it. -/
def NamedBy (s : Scope) (v : Json) : Prop := v = .string s.name ∨ v = .object [(s.name, .null)]

def normal : Json → Json
  | .object [(name, _)] => .string name
  | v => v

theorem lookup_eq_some_iff {name : String} {s : Scope} :
    (all.map fun s => (s.name, s)).lookup name = some s ↔ name = s.name := by
  constructor
  · intro h
    obtain ⟨before, after, hsplit, -⟩ := List.lookup_eq_some_iff.1 h
    have hmem : (name, s) ∈ all.map fun s => (s.name, s) := by
      rw [hsplit]
      exact List.mem_append_right before List.mem_cons_self
    obtain ⟨s', -, heq⟩ := List.mem_map.1 hmem
    cases heq
    rfl
  · rintro rfl
    cases s <;> rfl

theorem decode_eq_ok_iff {s : Scope} {v : Json} : decode v = .ok s ↔ s.NamedBy v := by
  simp only [decode, variant_eq_ok_iff, lookup_eq_some_iff, exists_eq_left, NamedBy]

theorem NamedBy.encode_eq {s : Scope} {v : Json} (h : s.NamedBy v) : s.encode = normal v := by
  obtain rfl | rfl := h <;> rfl

end Scope

namespace ScopeInfo

/-- An object, or an array of both fields; other keys of an object do not matter. -/
structure HasShape (v : Json) : Prop where
  scope : ∃ name ∈ ["default", "global", "workspace", "folder"], ∃ w,
    v.field? "scope" 0 = some w ∧ (w = .string name ∨ w = .object [(name, .null)])
  target : ∃ b, v.field? "configurationTarget" 1 = some (.bool b)
  complete : ∀ items, v = .array items → items.length = 2

structure WrittenAs (s : ScopeInfo) (v : Json) : Prop where
  scope : ∃ w, v.field? "scope" 0 = some w ∧ s.scope.NamedBy w
  target : v.field? "configurationTarget" 1 = some (.bool s.configurationTarget)
  complete : ∀ items, v = .array items → items.length = 2

def normal (v : Json) : Json :=
  objectOf [("configurationTarget", v.field? "configurationTarget" 1),
    ("scope", (v.field? "scope" 0).map Scope.normal)]

theorem ofMembers_eq_ok_iff {members : List (String × Json)} {s : ScopeInfo} :
    ofMembers members = .ok s ↔ s.WrittenAs (.object members) := by
  simp only [ofMembers, bind_eq_ok_iff, required_eq_ok_iff, pure_eq_ok_iff]
  constructor
  · rintro ⟨_, htarget, _, hscope, scope, rfl, target, rfl, rfl⟩
    obtain ⟨_, htarget, ht⟩ := member_eq_ok_some_iff.1 htarget
    obtain ⟨w, hscope, hs⟩ := member_eq_ok_some_iff.1 hscope
    rw [boolean_eq_ok_iff.1 ht] at htarget
    exact ⟨⟨w, hscope, Scope.decode_eq_ok_iff.1 hs⟩, htarget, nofun⟩
  · rintro ⟨⟨w, hscope, hs⟩, htarget, -⟩
    exact ⟨_, member_eq_ok_some_iff.2 ⟨_, htarget, rfl⟩, _,
      member_eq_ok_some_iff.2 ⟨w, hscope, Scope.decode_eq_ok_iff.2 hs⟩, _, rfl, _, rfl, rfl⟩

theorem ofItems_eq_ok_iff {items : List Json} {s : ScopeInfo} :
    ofItems items = .ok s ↔ s.WrittenAs (.array items) := by
  simp only [ofItems, bind_eq_ok_iff, Prod.exists, item_eq_ok_iff, Scope.decode_eq_ok_iff,
    boolean_eq_ok_iff, finished_eq_ok_iff, pure_eq_ok_iff]
  constructor
  · rintro ⟨scope, _, ⟨w, rfl, hs⟩, target, _, ⟨_, rfl, rfl⟩, -, rfl, rfl⟩
    refine ⟨⟨w, rfl, hs⟩, rfl, ?_⟩
    rintro _ ⟨⟩
    rfl
  · rintro ⟨⟨w, hscope, hs⟩, htarget, hcomplete⟩
    obtain ⟨first, second, rfl⟩ := List.length_eq_two.1 (hcomplete items rfl)
    cases hscope
    cases htarget
    exact ⟨_, _, ⟨_, rfl, hs⟩, _, _, ⟨_, rfl, rfl⟩, (), rfl, rfl⟩

theorem decode_eq_ok_iff {v : Json} {s : ScopeInfo} : decode v = .ok s ↔ s.WrittenAs v := by
  cases v with
  | object members => exact ofMembers_eq_ok_iff
  | array items => exact ofItems_eq_ok_iff
  | _ => exact iff_of_false nofun fun h => nomatch h.target

theorem exists_writtenAs_iff {v : Json} : (∃ s : ScopeInfo, s.WrittenAs v) ↔ HasShape v := by
  constructor
  · rintro ⟨s, ⟨w, hscope, hs⟩, htarget, hcomplete⟩
    refine ⟨⟨s.scope.name, ?_, w, hscope, hs⟩, ⟨_, htarget⟩, hcomplete⟩
    cases s.scope <;> decide
  · rintro ⟨⟨name, hname, w, hscope, hw⟩, ⟨b, htarget⟩, hcomplete⟩
    obtain ⟨s, -, rfl⟩ : ∃ s ∈ Scope.all, s.name = name := List.mem_map.1 hname
    exact ⟨⟨s, b⟩, ⟨w, hscope, hw⟩, htarget, hcomplete⟩

variable {s : ScopeInfo} {v : Json}

theorem WrittenAs.encode_eq (h : s.WrittenAs v) : s.encode = normal v := by
  obtain ⟨w, hscope, hs⟩ := h.scope
  rw [normal, h.target, hscope, Option.map_some, ← hs.encode_eq]
  rfl

theorem writtenAs_encode (s : ScopeInfo) : s.WrittenAs s.encode :=
  ⟨⟨_, rfl, .inl rfl⟩, rfl, nofun⟩

end ScopeInfo

/-- Commands, messages and scopes are read from the values of their shapes alone.
What is read is written with the fields that hold anything, each with the value that
it had, and reading that gives the same again. A notification with other parameters
is refused. -/
theorem wire_forms (v : Json) :
    WireForm Command.decode Command.encode Command.HasShape Command.normal v ∧
    WireForm Message.decode Message.encode Message.HasShape Message.normal v ∧
    WireForm ScopeInfo.decode ScopeInfo.encode ScopeInfo.HasShape ScopeInfo.normal v ∧
    (¬Message.HasShape v →
      ∃ mismatch, handle method v = .failed (.invalidNotification method mismatch)) := by
  refine ⟨?_, ?_, ?_, fun h => handle_of_not_written fun m hm => ?_⟩
  · exact .of_writtenAs (fun _ _ => Command.decode_eq_ok_iff)
      (fun _ => Command.exists_writtenAs_iff) (fun _ _ => Command.WrittenAs.encode_eq)
      (fun c _ _ => c.writtenAs_encode) v
  · exact .of_writtenAs (fun _ _ => Message.decode_eq_ok_iff)
      (fun _ => Message.exists_writtenAs_iff) (fun _ _ => Message.WrittenAs.encode_eq)
      (fun _ _ => Message.WrittenAs.encode) v
  · exact .of_writtenAs (fun _ _ => ScopeInfo.decode_eq_ok_iff)
      (fun _ => ScopeInfo.exists_writtenAs_iff) (fun _ _ => ScopeInfo.WrittenAs.encode_eq)
      (fun s _ _ => s.writtenAs_encode) v
  · exact h (Message.exists_writtenAs_iff.1 ⟨m, hm⟩)

example : Message.normal (.array [.integer 2, .string "m", .null,
      .array [.array [.string "t", .string "c", .null]]]) =
    .object [("commands", .array [.object [("command", .string "c"), ("title", .string "t")]]),
      ("message", .string "m"), ("severity", .integer 2)] := rfl

end XmlSupport.Notification
