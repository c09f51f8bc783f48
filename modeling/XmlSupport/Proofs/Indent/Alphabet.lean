import XmlSupport.Indent.Rules
import XmlSupport.Proofs.Indent.Marks
import XmlSupport.Proofs.Pattern.Sequence

/-!
# Which characters the line rules tell apart

The rules know the ASCII characters and white space. All other characters are
alike to them, and so are all blanks. Main statement: a line may be written with
spaces and one foreign letter in their place. The editor's own white space is
another class, by two characters, and with it this fails.
-/

namespace XmlSupport.Indent

open Pattern (lineEnds)

/-- The ASCII characters that are no white space. -/
def isGraphic (c : Char) : Bool := c.toNat < 0x80 && !Text.isBlank c

/-- A change of characters that keeps blanks blank and the graphic ones as they are. -/
structure Recodes (f : Char → Char) : Prop where
  isBlank_eq : ∀ c, Text.isBlank (f c) = Text.isBlank c
  eq_iff : ∀ c mark, isGraphic mark = true → (f c = mark ↔ c = mark)

theorem isGraphic_of_isQualifiedChar {c : Char} (h : isQualifiedChar c = true) :
    isGraphic c = true := by
  have hblank : Text.isBlank c = false := by
    cases hc : Text.isBlank c with
    | false => rfl
    | true => exact absurd h (by rw [isQualifiedChar_eq_false_of_isBlank hc]; decide)
  have hascii : c.toNat < 0x80 := by
    simp only [isQualifiedChar, isNameChar, isWordChar, isAsciiLetter, isAsciiDigit,
      Bool.or_eq_true, Bool.and_eq_true, decide_eq_true_eq, Char.le_def,
      UInt32.le_iff_toNat_le] at h
    rcases h with (((((h | h) | h) | rfl) | rfl) | rfl) | rfl
    · exact Nat.lt_of_le_of_lt h.2 (by decide)
    · exact Nat.lt_of_le_of_lt h.2 (by decide)
    · exact Nat.lt_of_le_of_lt h.2 (by decide)
    all_goals decide
  simp [isGraphic, hascii, hblank]

theorem isGraphic_of_isNameChar {c : Char} (h : isNameChar c = true) : isGraphic c = true :=
  isGraphic_of_isQualifiedChar (by simp [isQualifiedChar, h])

theorem isGraphic_of_isWordChar {c : Char} (h : isWordChar c = true) : isGraphic c = true :=
  isGraphic_of_isNameChar (isNameChar_of_isWordChar h)

theorem isGraphic_of_isQualifiedStart {c : Char} (h : isQualifiedStart c = true) :
    isGraphic c = true := by
  rcases Bool.or_eq_true_iff.1 h with h | h
  · exact isGraphic_of_isWordChar h
  · exact isGraphic_of_isQualifiedChar (by simp [isQualifiedChar, h])

theorem opensTagHere_cons (c : Char) (rest : List Char) :
    opensTagHere (c :: rest) = (c == '<' && leavesTagOpen rest) := by
  by_cases hc : c = '<'
  · subst hc
    rfl
  · rw [beq_eq_false_iff_ne.2 hc, Bool.false_and]
    unfold opensTagHere
    split
    · rename_i heq
      exact absurd (List.cons.inj heq).1 hc
    · rfl

theorem opensBraceHere_cons (c : Char) (rest : List Char) :
    opensBraceHere (c :: rest) =
      (c == '\x7b' && rest.all fun c => c != '\x7d' && c != '"' && c != '\'') := by
  by_cases hc : c = '\x7b'
  · subst hc
    rfl
  · simp [opensBraceHere, hc]

namespace Recodes

variable {f : Char → Char} {p : Char → Bool} {cs : List Char}

theorem apply_eq_self (h : Recodes f) {c : Char} (hc : isGraphic c = true) : f c = c :=
  (h.eq_iff c c hc).2 rfl

/-- A class of graphic characters is the same before and after. -/
theorem class_eq (h : Recodes f) (hp : ∀ c, p c = true → isGraphic c = true) (c : Char) :
    p (f c) = p c := by
  rw [Bool.eq_iff_iff]
  constructor
  · intro hc
    rwa [← (h.eq_iff c (f c) (hp _ hc)).1 rfl] at hc
  · intro hc
    rwa [h.apply_eq_self (hp c hc)]

theorem class_comp (h : Recodes f) (hp : ∀ c, p c = true → isGraphic c = true) : p ∘ f = p :=
  funext (h.class_eq hp)

theorem isBlank_comp (h : Recodes f) : Text.isBlank ∘ f = Text.isBlank := funext h.isBlank_eq

theorem map_eq_self (h : Recodes f) (hcs : ∀ c ∈ cs, isGraphic c = true) : cs.map f = cs := by
  rw [List.map_congr_left fun c hc => h.apply_eq_self (hcs c hc), List.map_id']

theorem beq_eq (h : Recodes f) (mark : Char) (hmark : isGraphic mark = true) (c : Char) :
    (f c == mark) = (c == mark) := by
  rw [Bool.eq_iff_iff, beq_iff_eq, beq_iff_eq, h.eq_iff c mark hmark]

theorem beq_some_eq (h : Recodes f) (mark : Char) (hmark : isGraphic mark = true)
    (o : Option Char) :
    (o.map f == some mark) = (o == some mark) := by
  cases o with
  | none => rfl
  | some c => exact h.beq_eq mark hmark c

theorem contains_map (h : Recodes f) (mark : Char) (hmark : isGraphic mark = true) :
    (cs.map f).contains mark = cs.contains mark := by
  rw [Bool.eq_iff_iff, List.contains_iff_mem, List.contains_iff_mem, List.mem_map]
  constructor
  · rintro ⟨c, hc, hfc⟩
    rwa [← (h.eq_iff c mark hmark).1 hfc]
  · intro hmem
    exact ⟨mark, hmem, h.apply_eq_self hmark⟩

theorem anywhere_map {p : List Char → Bool} (hp : ∀ cs, p (cs.map f) = p cs) (cs : List Char) :
    anywhere p (cs.map f) = anywhere p cs := by
  induction cs with
  | nil => rfl
  | cons c cs ih =>
    have hc : p (f c :: cs.map f) = p (c :: cs) := hp (c :: cs)
    simp only [List.map_cons, anywhere, hc, ih]

theorem after?_map (h : Recodes f) (lead : List Char) (hlead : lead.all isGraphic = true)
    (cs : List Char) : after? lead (cs.map f) = (after? lead cs).map (List.map f) := by
  induction lead generalizing cs with
  | nil => rfl
  | cons l lead ih =>
    obtain ⟨hl, hlead⟩ := Bool.and_eq_true_iff.1 hlead
    cases cs with
    | nil => rfl
    | cons c cs =>
      simp only [List.map_cons, after?, h.eq_iff c l hl, ih hlead cs]
      split
      · rfl
      · rfl

theorem isPrefixOf_map (h : Recodes f) {part : List Char} (hpart : part.all isGraphic = true)
    (cs : List Char) : part.isPrefixOf (cs.map f) = part.isPrefixOf cs := by
  induction part generalizing cs with
  | nil => rfl
  | cons l part ih =>
    obtain ⟨hl, hpart⟩ := Bool.and_eq_true_iff.1 hpart
    cases cs with
    | nil => rfl
    | cons c cs =>
      have hbeq : (l == f c) = (l == c) := by
        rw [Bool.beq_comm, h.beq_eq l hl, Bool.beq_comm]
      simp only [List.map_cons, List.isPrefixOf, hbeq, ih hpart cs]

theorem occurs_map (h : Recodes f) {part : List Char} (hpart : part.all isGraphic = true)
    (cs : List Char) : occurs part (cs.map f) = occurs part cs :=
  anywhere_map (h.isPrefixOf_map hpart) cs

theorem cut?_map (h : Recodes f) (mark : Char) (hmark : isGraphic mark = true) (cs : List Char) :
    cut? mark (cs.map f) =
      (cut? mark cs).map fun (front, back) => (front.map f, back.map f) := by
  induction cs with
  | nil => rfl
  | cons c cs ih =>
    simp only [List.map_cons, cut?, h.eq_iff c mark hmark, ih]
    split
    · rfl
    · cases cut? mark cs with
      | none => rfl
      | some parts => rfl

theorem endsName_map (h : Recodes f) (cs : List Char) : endsName (cs.map f) = endsName cs := by
  cases cs with
  | nil => rfl
  | cons c cs => simp only [List.map_cons, endsName, h.eq_iff c '>' rfl, h.isBlank_eq]

/-- The name of a tag is graphic, so it is the same before and after. -/
theorem leavesTagOpen_map (h : Recodes f) (rest : List Char) :
    leavesTagOpen (rest.map f) = leavesTagOpen rest := by
  have hname : (rest.map f).takeWhile isNameChar = rest.takeWhile isNameChar := by
    rw [List.takeWhile_map, h.class_comp fun _ => isGraphic_of_isNameChar]
    exact h.map_eq_self fun c hc => isGraphic_of_isNameChar (List.mem_takeWhile_imp hc)
  have hbehind : (rest.map f).dropWhile isNameChar = (rest.dropWhile isNameChar).map f := by
    rw [List.dropWhile_map, h.class_comp fun _ => isGraphic_of_isNameChar]
  have hclosing : (closingTag (rest.takeWhile isNameChar)).all isGraphic = true := by
    refine List.all_eq_true.2 fun c hc => ?_
    simp only [closingTag, List.mem_append, List.mem_cons, List.not_mem_nil, or_false] at hc
    rcases hc with ((rfl | rfl) | hc) | rfl
    · rfl
    · rfl
    · exact isGraphic_of_isNameChar (List.mem_takeWhile_imp hc)
    · rfl
  simp only [leavesTagOpen, h.cut?_map '>' rfl]
  cases cut? '>' rest with
  | none => rfl
  | some parts =>
    obtain ⟨inside, behind⟩ := parts
    simp only [Option.map_some, hname, hbehind, h.endsName_map, h.occurs_map hclosing,
      List.head?_map, List.getLast?_map, bne, h.beq_some_eq '?' rfl,
      h.beq_some_eq '/' rfl]

theorem opensTagHere_map (h : Recodes f) (cs : List Char) :
    opensTagHere (cs.map f) = opensTagHere cs := by
  cases cs with
  | nil => rfl
  | cons c rest =>
    rw [List.map_cons, opensTagHere_cons, opensTagHere_cons, h.beq_eq '<' rfl, h.leavesTagOpen_map]

theorem opensCommentHere_map (h : Recodes f) (cs : List Char) :
    opensCommentHere (cs.map f) = opensCommentHere cs := by
  rw [opensCommentHere, opensCommentHere, h.after?_map _ rfl]
  cases after? "<!--".toList cs with
  | none => rfl
  | some rest => exact congrArg not (h.occurs_map rfl rest)

theorem opensBraceHere_map (h : Recodes f) (cs : List Char) :
    opensBraceHere (cs.map f) = opensBraceHere cs := by
  cases cs with
  | nil => rfl
  | cons c rest =>
    have hstops : (fun c => c != '\x7d' && c != '"' && c != '\'') ∘ f =
        fun c => c != '\x7d' && c != '"' && c != '\'' := by
      funext c
      simp only [Function.comp_apply, bne, h.beq_eq '\x7d' rfl,
        h.beq_eq '"' rfl, h.beq_eq '\'' rfl]
    rw [List.map_cons, opensBraceHere_cons, opensBraceHere_cons, h.beq_eq '\x7b' rfl, List.all_map,
      hstops]

theorem increases_map (h : Recodes f) (line : List Char) :
    increases (line.map f) = increases line := by
  simp only [increases, anywhere_map h.opensTagHere_map, anywhere_map h.opensCommentHere_map,
    anywhere_map h.opensBraceHere_map]

theorem closesTagHere_map (h : Recodes f) (cs : List Char) :
    closesTagHere (cs.map f) = closesTagHere cs := by
  rw [closesTagHere, closesTagHere, h.after?_map _ rfl]
  cases after? ['<', '/'] cs with
  | none => rfl
  | some rest =>
    have hmarks : (fun c => decide (c = '-') || decide (c = '.')) ∘ f =
        fun c => decide (c = '-') || decide (c = '.') := by
      funext c
      simp only [Function.comp_apply, h.eq_iff c '-' rfl, h.eq_iff c '.' rfl]
    simp only [Option.map_some, List.dropWhile_map, hmarks]
    cases rest.dropWhile fun c => decide (c = '-') || decide (c = '.') with
    | nil => rfl
    | cons c rest =>
      simp only [List.map_cons, h.class_eq fun _ => isGraphic_of_isWordChar,
        h.contains_map '>' rfl]

theorem decreases_map (h : Recodes f) (line : List Char) :
    decreases (line.map f) = decreases line := by
  simp only [decreases, List.dropWhile_map, h.isBlank_comp, h.closesTagHere_map,
    h.after?_map "-->".toList rfl, h.after?_map ['\x7d'] rfl,
    Option.isSome_map]

theorem endsInTagHere_map (h : Recodes f) {start : Char → Bool}
    (hstart : ∀ c, start c = true → isGraphic c = true) (cs : List Char) :
    endsInTagHere start (cs.map f) = endsInTagHere start cs := by
  have hinside : (fun d => d != '/' && d != '>') ∘ f = fun d => d != '/' && d != '>' := by
    funext d
    simp only [Function.comp_apply, bne, h.beq_eq '/' rfl, h.beq_eq '>' rfl]
  rcases cs with _ | ⟨c, _ | ⟨d, rest⟩⟩
  · rfl
  · simp [endsInTagHere]
  · by_cases hc : c = '<'
    · subst hc
      simp only [List.map_cons, h.apply_eq_self (c := '<') rfl, endsInTagHere, h.class_eq hstart,
        List.dropWhile_map, hinside]
      rcases rest.dropWhile fun d => d != '/' && d != '>' with _ | ⟨e, behind⟩
      · rfl
      · by_cases he : e = '>'
        · subst he
          simp only [List.map_cons, h.apply_eq_self (c := '>') rfl,
            h.contains_map '<' rfl]
        · have hfe : f e ≠ '>' := mt (h.eq_iff e '>' rfl).1 he
          simp [he, hfe]
    · have hfc : f c ≠ '<' := mt (h.eq_iff c '<' rfl).1 hc
      simp [endsInTagHere, hc, hfc]

theorem endsInTag_map (h : Recodes f) {start : Char → Bool}
    (hstart : ∀ c, start c = true → isGraphic c = true) (before : List Char) :
    endsInTag start (before.map f) = endsInTag start before :=
  anywhere_map (h.endsInTagHere_map hstart) before

theorem startsWithClosingTag_map (h : Recodes f) (after : List Char) :
    startsWithClosingTag (after.map f) = startsWithClosingTag after := by
  rw [startsWithClosingTag, startsWithClosingTag, h.after?_map _ rfl]
  cases after? ['<', '/'] after with
  | none => rfl
  | some cs =>
    cases cs with
    | nil => rfl
    | cons c rest =>
      simp only [Option.map_some, List.map_cons, List.dropWhile_map,
        h.class_eq fun _ => isGraphic_of_isQualifiedStart,
        h.class_comp fun _ => isGraphic_of_isQualifiedChar, h.isBlank_comp, List.head?_map,
        h.beq_some_eq '>' rfl]

theorem onEnter_map (h : Recodes f) (before after : List Char) :
    onEnter (before.map f) (after.map f) = onEnter before after := by
  simp only [onEnter, h.startsWithClosingTag_map,
    h.endsInTag_map fun _ => isGraphic_of_isQualifiedStart,
    h.endsInTag_map fun _ => isGraphic_of_isWordChar]

end Recodes

/-- The foreign letter that stands for all others. -/
def foreignLetter : Char := 'é'

/-- A character as a reader takes it for whom `isSpace` is the white space:
a space for a blank that ends no line, and one letter for all that is not ASCII. -/
def reduced (isSpace : Char → Bool) (c : Char) : Char :=
  if c ∈ lineEnds then c
  else if isSpace c then ' '
  else if c.toNat < 0x80 then c
  else foreignLetter

/-- The white space of the editor's pattern language, line ends among it. -/
def editorBlanks : List Char :=
  ['\t', '\n', '\x0b', '\x0c', '\r', ' ', '\xa0', '\u1680',
   '\u2000', '\u2001', '\u2002', '\u2003', '\u2004', '\u2005', '\u2006',
   '\u2007', '\u2008', '\u2009', '\u200a', '\u2028', '\u2029', '\u202f',
   '\u205f', '\u3000', '\ufeff']

def isEditorBlank (c : Char) : Bool := editorBlanks.contains c

theorem reduced_eq_self {isSpace : Char → Bool} {c : Char} (hc : c.toNat < 0x80)
    (hspace : isSpace c = false) : reduced isSpace c = c := by
  simp [reduced, hc, hspace]

/-- Only the white space of the rules is theirs to take for a space. -/
theorem recodes_reduced : Recodes (reduced Text.isBlank) where
  isBlank_eq c := by
    unfold reduced
    split_ifs with hend hblank hascii
    · rfl
    · rw [hblank]
      rfl
    · rfl
    · rw [Bool.not_eq_true] at hblank
      rw [hblank]
      rfl
  eq_iff c mark hmark := by
    obtain ⟨hascii, hblank⟩ : mark.toNat < 0x80 ∧ Text.isBlank mark = false := by
      simpa [isGraphic] using hmark
    constructor
    · rintro rfl
      unfold reduced at hascii hblank ⊢
      split_ifs at hascii hblank ⊢
      · rfl
      · exact absurd hblank (by decide)
      · rfl
      · exact absurd hascii (by decide)
    · rintro rfl
      exact reduced_eq_self hascii hblank

theorem isEditorBlank_eq {c : Char} (hnext : c ≠ '\x85') (hmark : c ≠ '\ufeff') :
    isEditorBlank c = Text.isBlank c := by
  simp [isEditorBlank, editorBlanks, Text.isBlank, Text.blanks, hnext, hmark]

/-- The two classes of white space differ in the next line control, which is
blank to the rules alone, and in the byte order mark, which is so to the editor. -/
theorem reduced_eq_iff (c : Char) :
    reduced Text.isBlank c = reduced isEditorBlank c ↔ c ≠ '\x85' ∧ c ≠ '\ufeff' := by
  constructor
  · intro h
    constructor
    · rintro rfl
      exact absurd h (by decide)
    · rintro rfl
      exact absurd h (by decide)
  · rintro ⟨hnext, hmark⟩
    rw [reduced, reduced, isEditorBlank_eq hnext hmark]

theorem map_reduced_eq {cs : List Char} (hcs : ∀ c ∈ cs, c ≠ '\x85' ∧ c ≠ '\ufeff') :
    cs.map (reduced isEditorBlank) = cs.map (reduced Text.isBlank) :=
  List.map_congr_left fun c hc => ((reduced_eq_iff c).2 (hcs c hc)).symm

/-- The rules say the same of a text as the editor's white space reduces it,
unless it holds one of the two characters that they take otherwise. -/
theorem rules_reduced {line before after : List Char}
    (h : ∀ c ∈ line ++ before ++ after, c ≠ '\x85' ∧ c ≠ '\ufeff') :
    increases (line.map (reduced isEditorBlank)) = increases line ∧
      decreases (line.map (reduced isEditorBlank)) = decreases line ∧
      onEnter (before.map (reduced isEditorBlank)) (after.map (reduced isEditorBlank)) =
        onEnter before after := by
  simp only [List.forall_mem_append] at h
  obtain ⟨⟨hline, hbefore⟩, hafter⟩ := h
  rw [map_reduced_eq hline, map_reduced_eq hbefore, map_reduced_eq hafter]
  exact ⟨recodes_reduced.increases_map line, recodes_reduced.decreases_map line,
    recodes_reduced.onEnter_map before after⟩

/-- No-break spaces and letters of other alphabets. -/
theorem rules_reduced_noBreak :
    (∀ c ∈ "<a\xa0ß>".toList ++ "<a ж>".toList ++ "</a\u3000>ß".toList,
      c ≠ '\x85' ∧ c ≠ '\ufeff') ∧
      increases ("<a\xa0ß>".toList.map (reduced isEditorBlank)) = true ∧
      decreases ("<a\xa0ß>".toList.map (reduced isEditorBlank)) = false ∧
      onEnter ("<a ж>".toList.map (reduced isEditorBlank))
        ("</a\u3000>ß".toList.map (reduced isEditorBlank)) = some .indentOutdent := by
  have h : ∀ c ∈ "<a\xa0ß>".toList ++ "<a ж>".toList ++ "</a\u3000>ß".toList,
      c ≠ '\x85' ∧ c ≠ '\ufeff' := by simp
  obtain ⟨hincreases, hdecreases, honEnter⟩ := rules_reduced h
  refine ⟨h, hincreases.trans ?_, hdecreases.trans ?_, honEnter.trans ?_⟩
  all_goals decide

/-- To the editor a byte order mark ends the name of a tag and a next line
control does not; to each of the rules it is the other way round. -/
theorem rules_ne_reduced :
    (∀ c ∈ "<a\ufeffb>\x85</a>".toList, c ∉ lineEnds) ∧
      increases ("<a\ufeffb>".toList.map (reduced isEditorBlank)) = true ∧
      increases "<a\ufeffb>".toList = false ∧
      increases ("<a\x85b>".toList.map (reduced isEditorBlank)) = false ∧
      increases "<a\x85b>".toList = true ∧
      decreases ("\ufeff</a>".toList.map (reduced isEditorBlank)) = true ∧
      decreases "\ufeff</a>".toList = false ∧
      onEnter ("<a>".toList.map (reduced isEditorBlank))
        ("</a\ufeff>".toList.map (reduced isEditorBlank)) = some .indentOutdent ∧
      onEnter "<a>".toList "</a\ufeff>".toList = some .indent := by
  have hall : "<a\ufeffb>\x85</a>".toList.all (fun c => decide (c ∉ lineEnds)) = true := by decide
  refine ⟨fun c hc => of_decide_eq_true (List.all_eq_true.1 hall c hc), ?_⟩
  decide

end XmlSupport.Indent
