import XmlSupport.Proofs.Commands.ShowReferences
import XmlSupport.Proofs.Notification.Wire

/-!
# Severities without a channel

A message of another severity than the first three comes to nothing, whatever it
offers. Severities are 32-bit numbers: a payload with any other number in place of
one is no message, and is refused.
-/

namespace XmlSupport.Notification

open Json Session

/-- Why a number that is no 32-bit integer is no severity. -/
def unfitSeverity : Number → Mismatch
  | .integer n => .outOfRange n .int32
  | .float x => .wrongType (.number (.float x)) .int32

/-- The other fields of a message in an object: its text, and commands or none. -/
structure HasContent (members : List (String × Json)) : Prop where
  message : ∃ s, member? "message" members = some (.string s)
  commands : ∀ w, given (member? "commands" members) = some w →
    ∃ items, w = .array items ∧ ∀ i ∈ items, Command.HasShape i

variable {members : List (String × Json)} {severity : Number} {n : Int}

theorem HasContent.exists_writtenAs (h : HasContent members)
    (hseverity : member? "severity" members = some (.integer n)) (hlow : -0x80000000 ≤ n)
    (hhigh : n < 0x80000000) :
    ∃ m : Message, m.WrittenAs (.object members) ∧ m.severity.toInt = n := by
  have hshape : Message.HasShape (.object members) :=
    ⟨⟨n, hseverity, hlow, hhigh⟩, h.message, h.commands, nofun⟩
  obtain ⟨m, hm⟩ := Message.exists_writtenAs_iff.2 hshape
  have hfield : member? "severity" members = some (.integer m.severity.toInt) := hm.severity
  have heq : Json.integer n = .integer m.severity.toInt :=
    Option.some.inj (hseverity.symm.trans hfield)
  exact ⟨m, hm, (Number.integer.inj (Json.number.inj heq)).symm⟩

theorem HasContent.exists_commands (h : HasContent members) :
    ∃ found, Decode.member "commands" Message.decodeCommands members = .ok found := by
  have hfits : ∃ o, Decode.Fits (Decode.listOf Command.decode)
      (given (member? "commands" members)) o := by
    cases hgiven : given (member? "commands" members) with
    | none => exact ⟨none, .none⟩
    | some w =>
      obtain ⟨cs, hcs⟩ := Message.exists_commandsWritten_iff.2 (h.commands w hgiven)
      exact ⟨some cs, Message.fits_listOf_command_iff.2 (.some hcs)⟩
  obtain ⟨o, ho⟩ := hfits
  obtain ⟨found, hfound, -⟩ := Decode.member_optional_eq_ok_iff.2 ho
  exact ⟨found, hfound⟩

theorem exists_member_anything (key : String) (members : List (String × Json)) :
    ∃ found, Decode.member key Decode.anything members = .ok found := by
  rw [Decode.anything_eq_optional]
  obtain ⟨found, hfound, -⟩ := Decode.member_optional_eq_ok_iff.2
    (Decode.fits_ok_iff.2 (rfl : given (member? key members) = _))
  exact ⟨found, hfound⟩

theorem int32_eq_error (h : ∀ n, severity = .integer n → n < -0x80000000 ∨ 0x80000000 ≤ n) :
    Decode.int32 (.number severity) = .error (unfitSeverity severity) := by
  cases severity with
  | float x => rfl
  | integer n =>
    have hrange : ¬ (-0x80000000 ≤ n ∧ n < 0x80000000) := by
      have hn := h n rfl
      omega
    exact if_neg hrange

/-- The severity is looked at last, so that the fault is its own. -/
theorem HasContent.decode_eq_error (h : HasContent members)
    (hseverity : member? "severity" members = some (.number severity))
    (hunfit : ∀ n, severity = .integer n → n < -0x80000000 ∨ 0x80000000 ≤ n) :
    Message.decode (.object members) = .error (unfitSeverity severity) := by
  obtain ⟨s, hs⟩ := h.message
  obtain ⟨commands, hcommands⟩ := h.exists_commands
  obtain ⟨data, hdata⟩ := exists_member_anything "data" members
  have hmessage : Decode.member "message" Decode.string members = .ok (some s) :=
    Decode.member_eq_ok_some_iff.2 ⟨_, hs, rfl⟩
  have hfault : Decode.member "severity" Decode.int32 members =
      .error (unfitSeverity severity) := by
    rw [Decode.member, hseverity]
    show (Decode.int32 (.number severity)).map some = _
    rw [int32_eq_error hunfit]
    rfl
  show Message.ofMembers members = _
  simp only [Message.ofMembers, hcommands, hdata, hmessage, hfault, bind, Except.bind]

/-- A severity beside the first three is passed over without a trace as long as it
is a 32-bit number, and any other number is refused with the payload. -/
theorem perform_notify_of_severity (e : Extension) (answers : Answers) (h : HasContent members)
    (hseverity : member? "severity" members = some (.number severity)) :
    let o := (e.perform (.notify "xml/actionableNotification" (.object members))).run answers
    (∀ n, severity = .integer n → n ∉ [1, 2, 3] → -0x80000000 ≤ n → n < 0x80000000 →
      o = ⟨[], [], .ok (.value none)⟩) ∧
    ((∀ n, severity = .integer n → n < -0x80000000 ∨ 0x80000000 ≤ n) →
      o = ⟨[], [],
        .error (.invalidNotification "xml/actionableNotification" (unfitSeverity severity))⟩) := by
  intro o
  have ho : o = _ := run_perform_notify answers e method (.object members)
  refine ⟨fun n hn hother hlow hhigh => ?_, fun hunfit => ?_⟩
  · subst hn
    obtain ⟨m, hm, rfl⟩ := h.exists_writtenAs hseverity hlow hhigh
    have hnone : Channel.ofSeverity m.severity = none := by
      refine Channel.ofSeverity_eq_none_iff.2 fun hmem => hother ?_
      simp only [List.mem_cons, List.not_mem_nil, or_false] at hmem ⊢
      rcases hmem with heq | heq | heq
      · exact .inl (by rw [heq]; rfl)
      · exact .inr (.inl (by rw [heq]; rfl))
      · exact .inr (.inr (by rw [heq]; rfl))
    rw [ho, run_handle_of_no_channel answers hm hnone]
    rfl
  · have hfailed : handle method (.object members) =
        .failed (.invalidNotification method (unfitSeverity severity)) := by
      simp only [handle, decodeParams, h.decode_eq_error hseverity hunfit]
      rfl
    rw [ho, hfailed]
    rfl

/-- The least 32-bit number is passed over, and the first past the greatest is refused. -/
theorem perform_notify_of_severity_atBounds :
    let members (n : Int) : List (String × Json) :=
      [("commands", .array [.array [.string "Retry", .string "a", .null]]), ("data", .null),
        ("message", .string "m"), ("severity", .integer n)]
    let outcome (n : Int) := ((⟨.empty⟩ : Extension).perform
      (.notify "xml/actionableNotification" (.object (members n)))).run Commands.viewlessReplies
    (∀ n, HasContent (members n) ∧ member? "severity" (members n) = some (.integer n)) ∧
      outcome (-0x80000000) = ⟨[], [], .ok (.value none)⟩ ∧
      outcome 0x80000000 = ⟨[], [], .error (.invalidNotification "xml/actionableNotification"
        (.outOfRange 0x80000000 .int32))⟩ := by
  intro members outcome
  have hcommand : Command.HasShape (.array [.string "Retry", .string "a", .null]) :=
    ⟨⟨_, rfl⟩, ⟨_, rfl⟩, nofun, by rintro _ ⟨⟩; rfl⟩
  have hcontent (n : Int) : HasContent (members n) := by
    refine ⟨⟨"m", rfl⟩, ?_⟩
    rintro _ ⟨⟩
    exact ⟨_, rfl, List.forall_mem_singleton.2 hcommand⟩
  have hseverity (n : Int) : member? "severity" (members n) = some (.integer n) := rfl
  refine ⟨fun n => ⟨hcontent n, hseverity n⟩, ?_, ?_⟩
  · exact (perform_notify_of_severity _ _ (hcontent _) (hseverity _)).1 _ rfl (by decide)
      (by decide) (by decide)
  · refine (perform_notify_of_severity _ _ (hcontent _) (hseverity _)).2 fun n hn => .inr ?_
    exact Int.le_of_eq (Number.integer.inj hn)

/-- Not every other severity is passed over. -/
theorem perform_notify_refuses_wideSeverity :
    ¬ ∀ (e : Extension) (answers : Answers) (members : List (String × Json)) (n : Int),
      HasContent members → member? "severity" members = some (.integer n) → n ∉ [1, 2, 3] →
        (e.perform (.notify "xml/actionableNotification" (.object members))).run answers =
          ⟨[], [], .ok (.value none)⟩ := by
  intro hall
  have hcontent : HasContent [("message", .string "m"), ("severity", .integer 0x80000000)] :=
    ⟨⟨"m", rfl⟩, fun w hw => nomatch hw⟩
  have houtcome := hall ⟨.empty⟩ Commands.viewlessReplies _ 0x80000000 hcontent rfl (by decide)
  have hresult := congrArg Outcome.result houtcome
  cases hresult

end XmlSupport.Notification
