import XmlSupport.Notification.Message
import XmlSupport.Proofs.Json.Fields

/-!
# Values that stand for an actionable message

A message and each of its commands are written as an object or as an array of
the fields in order. In an object other keys do not matter. The last two fields
of a message may be left out of an array; a command's array is always whole.
-/

namespace XmlSupport.Notification

open Json Decode

namespace Command

structure WrittenAs (c : Command) (v : Json) : Prop where
  title : v.field? "title" 0 = some (.string c.title)
  command : v.field? "command" 1 = some (.string c.command)
  arguments : given (v.field? "arguments" 2) = c.arguments.map .array
  complete : ∀ items, v = .array items → items.length = 3

theorem ofMembers_eq_ok_iff {members : List (String × Json)} {c : Command} :
    ofMembers members = .ok c ↔ c.WrittenAs (.object members) := by
  simp only [ofMembers, bind_eq_ok_iff, required_eq_ok_iff, pure_eq_ok_iff]
  constructor
  · rintro ⟨arguments, harguments, _, hcommand, _, htitle, title, rfl, command, rfl, rfl⟩
    obtain ⟨_, htitle, ht⟩ := member_eq_ok_some_iff.1 htitle
    obtain ⟨_, hcommand, hc⟩ := member_eq_ok_some_iff.1 hcommand
    rw [string_eq_ok_iff.1 ht] at htitle
    rw [string_eq_ok_iff.1 hc] at hcommand
    have hfits := member_optional_eq_ok_iff.1 ⟨arguments, harguments, rfl⟩
    exact ⟨htitle, hcommand, fits_sequence_iff.1 hfits, nofun⟩
  · rintro ⟨htitle, hcommand, harguments, -⟩
    obtain ⟨arguments, hfound, hjoin⟩ :=
      member_optional_eq_ok_iff.2 (fits_sequence_iff.2 harguments)
    refine ⟨arguments, hfound, _, member_eq_ok_some_iff.2 ⟨_, hcommand, rfl⟩, _,
      member_eq_ok_some_iff.2 ⟨_, htitle, rfl⟩, _, rfl, _, rfl, ?_⟩
    rw [hjoin]

theorem ofItems_eq_ok_iff {items : List Json} {c : Command} :
    ofItems items = .ok c ↔ c.WrittenAs (.array items) := by
  simp only [ofItems, bind_eq_ok_iff, Prod.exists, item_eq_ok_iff, string_eq_ok_iff,
    optional_eq_ok_iff, fits_sequence_iff, finished_eq_ok_iff, pure_eq_ok_iff]
  constructor
  · rintro ⟨title, _, ⟨_, rfl, rfl⟩, command, _, ⟨_, rfl, rfl⟩, arguments, _,
      ⟨v, rfl, harguments⟩, -, rfl, rfl⟩
    refine ⟨rfl, rfl, harguments, ?_⟩
    rintro _ ⟨⟩
    rfl
  · rintro ⟨htitle, hcommand, harguments, hcomplete⟩
    obtain ⟨t, k, v, rfl⟩ := List.length_eq_three.1 (hcomplete items rfl)
    cases htitle
    cases hcommand
    exact ⟨_, _, ⟨_, rfl, rfl⟩, _, _, ⟨_, rfl, rfl⟩, _, _, ⟨_, rfl, harguments⟩, (), rfl, rfl⟩

theorem decode_eq_ok_iff {v : Json} {c : Command} : decode v = .ok c ↔ c.WrittenAs v := by
  cases v with
  | object members => exact ofMembers_eq_ok_iff
  | array items => exact ofItems_eq_ok_iff
  | _ => exact iff_of_false nofun fun h => nomatch h.title

end Command

namespace Message

structure WrittenAs (m : Message) (v : Json) : Prop where
  severity : v.field? "severity" 0 = some (.integer m.severity.toInt)
  message : v.field? "message" 1 = some (.string m.message)
  data : given (v.field? "data" 2) = m.data
  commands : Option.Rel
    (fun w cs => ∃ items, w = .array items ∧ List.Forall₂ (fun i c => c.WrittenAs i) items cs)
    (given (v.field? "commands" 3)) m.commands
  complete : ∀ items, v = .array items → items.length ≤ 4

theorem fits_listOf_command_iff {found : Option Json} {o : Option (List Command)} :
    Fits (listOf Command.decode) found o ↔ Option.Rel
      (fun w cs => ∃ items, w = .array items ∧ List.Forall₂ (fun i c => c.WrittenAs i) items cs)
      found o := by
  simp only [Fits, listOf_eq_ok_iff, Command.decode_eq_ok_iff]

theorem ofMembers_eq_ok_iff {members : List (String × Json)} {m : Message} :
    ofMembers members = .ok m ↔ m.WrittenAs (.object members) := by
  simp only [ofMembers, bind_eq_ok_iff, required_eq_ok_iff, pure_eq_ok_iff, anything_eq_optional]
  constructor
  · rintro ⟨commands, hcommands, data, hdata, _, hmessage, _, hseverity, severity, rfl, message,
      rfl, rfl⟩
    obtain ⟨_, hseverity, hs⟩ := member_eq_ok_some_iff.1 hseverity
    obtain ⟨_, hmessage, hm⟩ := member_eq_ok_some_iff.1 hmessage
    rw [int32_eq_ok_iff.1 hs] at hseverity
    rw [string_eq_ok_iff.1 hm] at hmessage
    have hdata := fits_ok_iff.1 (member_optional_eq_ok_iff.1 ⟨data, hdata, rfl⟩)
    have hcommands := member_optional_eq_ok_iff.1 ⟨commands, hcommands, rfl⟩
    exact ⟨hseverity, hmessage, hdata, fits_listOf_command_iff.1 hcommands, nofun⟩
  · rintro ⟨hseverity, hmessage, hdata, hcommands, -⟩
    obtain ⟨commands, hcommands, hcs⟩ :=
      member_optional_eq_ok_iff.2 (fits_listOf_command_iff.2 hcommands)
    obtain ⟨data, hdata, hd⟩ := member_optional_eq_ok_iff.2 (fits_ok_iff.2 hdata)
    refine ⟨commands, hcommands, data, hdata, _, member_eq_ok_some_iff.2 ⟨_, hmessage, rfl⟩, _,
      member_eq_ok_some_iff.2 ⟨_, hseverity, int32_eq_ok_iff.2 rfl⟩, _, rfl, _, rfl, ?_⟩
    rw [hd, hcs]

theorem ofItems_eq_ok_iff {items : List Json} {m : Message} :
    ofItems items = .ok m ↔ m.WrittenAs (.array items) := by
  simp only [ofItems, bind_eq_ok_iff, Prod.exists, item_eq_ok_iff, int32_eq_ok_iff,
    string_eq_ok_iff, anything_eq_optional, decodeCommands, itemOr_optional_eq_ok_iff, fits_ok_iff,
    fits_listOf_command_iff, finished_eq_ok_iff, pure_eq_ok_iff]
  constructor
  · rintro ⟨severity, _, ⟨_, rfl, rfl⟩, message, rest, ⟨_, rfl, rfl⟩, data, _, ⟨hdata, rfl⟩,
      commands, _, ⟨hcommands, rfl⟩, -, hrest, rfl⟩
    refine ⟨rfl, rfl, by simpa [field?] using hdata, by simpa [field?] using hcommands, ?_⟩
    rintro _ ⟨⟩
    have := congrArg List.length hrest
    simp only [List.length_tail, List.length_nil, List.length_cons] at this ⊢
    omega
  · rintro ⟨hseverity, hmessage, hdata, hcommands, hcomplete⟩
    match items, hseverity, hmessage, hcomplete items rfl with
    | _ :: _ :: rest, hseverity, hmessage, hlength =>
      cases hseverity
      cases hmessage
      refine ⟨_, _, ⟨_, rfl, rfl⟩, _, _, ⟨_, rfl, rfl⟩, _, _, ⟨by simpa [field?] using hdata, rfl⟩,
        _, _, ⟨by simpa [field?] using hcommands, rfl⟩, (), ?_, rfl⟩
      apply List.eq_nil_of_length_eq_zero
      simp only [List.length_tail, List.length_cons] at hlength ⊢
      omega

theorem decode_eq_ok_iff {v : Json} {m : Message} : decode v = .ok m ↔ m.WrittenAs v := by
  cases v with
  | object members => exact ofMembers_eq_ok_iff
  | array items => exact ofItems_eq_ok_iff
  | _ => exact iff_of_false nofun fun h => nomatch h.severity

end Message
end XmlSupport.Notification
