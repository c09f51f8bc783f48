import XmlSupport.Json.Skip
import XmlSupport.Proofs.Json.Spelling
import XmlSupport.Proofs.Text.Runs

/-!
# The grammar of values

The texts of values as the grammar puts them together, without a reader. Numbers
may be of any size, strings may hold lone surrogates, and arrays and objects may
nest to any depth. Such a text is passed over as a whole.
-/

namespace XmlSupport.Json

/-- White space between tokens. -/
def IsBlank (cs : List Char) : Prop := ∀ c ∈ cs, c ∈ [' ', '\t', '\n', '\r']

def AreDigits (cs : List Char) : Prop := cs ≠ [] ∧ ∀ c ∈ cs, c.isDigit = true

/-- An integer has no leading zeros. -/
inductive IsInteger : List Char → Prop where
  | zero : IsInteger ['0']
  | digits {d : Char} {ds : List Char} (hne : d ≠ '0') (hd : d.isDigit = true)
      (hds : ∀ c ∈ ds, c.isDigit = true) : IsInteger (d :: ds)

inductive IsFraction : List Char → Prop where
  | none : IsFraction []
  | some {ds : List Char} (h : AreDigits ds) : IsFraction ('.' :: ds)

inductive IsExponent : List Char → Prop where
  | none : IsExponent []
  | some {e : Char} {sign ds : List Char} (he : e ∈ ['e', 'E']) (hsign : sign ∈ [[], ['+'], ['-']])
      (h : AreDigits ds) : IsExponent (e :: (sign ++ ds))

inductive IsNumber : List Char → Prop where
  | mk {sign integer fraction exponent : List Char} (hsign : sign ∈ [[], ['-']])
      (hinteger : IsInteger integer) (hfraction : IsFraction fraction)
      (hexponent : IsExponent exponent) : IsNumber (sign ++ (integer ++ (fraction ++ exponent)))

/-- What stands in front of a value in an array or an object. -/
inductive IsLabel : Frame → List Char → Prop where
  | list : IsLabel .list []
  | object {before key behind : List Char} (hbefore : IsBlank before) (hkey : IsQuotable key)
      (hbehind : IsBlank behind) : IsLabel .object (before ++ (quoted key ++ (behind ++ [':'])))

/-- A value in an array or an object, with its label and the white space around it. -/
structure Part where
  label : List Char
  before : List Char
  text : List Char
  after : List Char

def Part.written (p : Part) : List Char := p.label ++ (p.before ++ (p.text ++ p.after))

structure Part.IsFramed (frame : Frame) (p : Part) : Prop where
  label : IsLabel frame p.label
  before : IsBlank p.before
  after : IsBlank p.after

/-- The parts of an array or an object between its brackets, divided by commas. -/
def Frame.enclose : Frame → List (List Char) → List Char
  | .list, parts => '[' :: ([','].intercalate parts ++ [']'])
  | .object, parts => '\x7b' :: ([','].intercalate parts ++ ['\x7d'])

/-- The texts of values that are no arrays and no objects. -/
inductive IsScalar : List Char → Prop where
  | word {w : String} (h : w ∈ ["null", "true", "false"]) : IsScalar w.toList
  | number {text : List Char} (h : IsNumber text) : IsScalar text
  | string {written : List Char} (h : IsQuotable written) : IsScalar (quoted written)

/-- The texts of values. -/
inductive IsValue : List Char → Prop where
  | scalar {text : List Char} (h : IsScalar text) : IsValue text
  | empty (frame : Frame) {blank : List Char} (h : IsBlank blank) : IsValue (frame.enclose [blank])
  | compound (frame : Frame) {parts : List Part} (hne : parts ≠ [])
      (hframed : ∀ p ∈ parts, p.IsFramed frame) (h : ∀ p ∈ parts, IsValue p.text) :
    IsValue (frame.enclose (parts.map Part.written))

section Numbers

variable {c : Char} {ds sign integer fraction exponent rest : List Char}

/-- A number would go on with this character. -/
def continuesNumber (c : Char) : Bool := isDigit c || c ∈ ['.', 'e', 'E']

/-- A number ends in front of this text. -/
def EndsNumber (rest : List Char) : Prop := rest.head?.any continuesNumber = false

theorem EndsNumber.head?_any_isDigit (h : EndsNumber rest) : rest.head?.any isDigit = false := by
  cases rest with
  | nil => rfl
  | cons c rest => exact (Bool.or_eq_false_iff.1 h).1

theorem EndsNumber.head?_ne {mark : Char} (h : EndsNumber (c :: rest))
    (hmark : continuesNumber mark = true) : c ≠ mark := by
  rintro rfl
  exact absurd hmark (Bool.eq_false_iff.1 h)

theorem head?_any_isDigit_exponent (h : IsExponent exponent) (hrest : EndsNumber rest) :
    (exponent ++ rest).head?.any isDigit = false := by
  cases h with
  | none => exact hrest.head?_any_isDigit
  | some he =>
    simp only [List.mem_cons, List.not_mem_nil, or_false] at he
    rcases he with rfl | rfl <;> rfl

theorem head?_any_isDigit_fraction (h : IsFraction fraction) (hexponent : IsExponent exponent)
    (hrest : EndsNumber rest) : (fraction ++ (exponent ++ rest)).head?.any isDigit = false := by
  have hhead := head?_any_isDigit_exponent hexponent hrest
  cases h with
  | none => exact hhead
  | some _ => rfl

theorem AreDigits.exists_cons (h : AreDigits ds) :
    ∃ d more, ds = d :: more ∧ isDigit d = true ∧ ∀ c ∈ more, isDigit c = true := by
  obtain ⟨hne, hall⟩ := h
  obtain ⟨d, more, rfl⟩ := List.exists_cons_of_ne_nil hne
  exact ⟨d, more, rfl, List.forall_mem_cons.1 hall⟩

theorem dropDigits_append (hds : ∀ c ∈ ds, isDigit c = true)
    (hrest : rest.head?.any isDigit = false) : dropDigits (ds ++ rest) = rest :=
  dropWhile_append_of_head hds hrest

theorem skipExponent_append (hsign : sign ∈ [[], ['+'], ['-']]) (hds : AreDigits ds)
    (hrest : EndsNumber rest) : skipExponent (sign ++ (ds ++ rest)) = .ok rest := by
  obtain ⟨d, ds, rfl, hd, hmore⟩ := hds.exists_cons
  have hdrop := dropDigits_append hmore hrest.head?_any_isDigit
  have hplus : d ≠ '+' := by rintro rfl; cases hd
  have hminus : d ≠ '-' := by rintro rfl; cases hd
  simp only [List.mem_cons, List.not_mem_nil, or_false] at hsign
  rcases hsign with rfl | rfl | rfl
  all_goals simp [skipExponent, hplus, hminus, hd, hdrop]

theorem skipFraction_append (hds : AreDigits ds) (h : IsExponent exponent)
    (hrest : EndsNumber rest) : skipFraction (ds ++ (exponent ++ rest)) = .ok rest := by
  obtain ⟨d, ds, rfl, hd, hmore⟩ := hds.exists_cons
  have hdrop := dropDigits_append hmore (head?_any_isDigit_exponent h hrest)
  simp only [skipFraction, List.cons_append, hd, if_true, hdrop]
  cases h with
  | none =>
    cases rest with
    | nil => rfl
    | cons c rest =>
      have he : c ≠ 'e' := hrest.head?_ne rfl
      have hE : c ≠ 'E' := hrest.head?_ne rfl
      simp [he, hE]
  | some he hsign hds =>
    have hskip := skipExponent_append hsign hds hrest
    simp only [List.mem_cons, List.not_mem_nil, or_false] at he
    rcases he with rfl | rfl <;> simpa using hskip

theorem skipNumberTail_append (hfraction : IsFraction fraction) (h : IsExponent exponent)
    (hrest : EndsNumber rest) : skipNumberTail (fraction ++ (exponent ++ rest)) = .ok rest := by
  cases hfraction with
  | some hds => exact skipFraction_append hds h hrest
  | none =>
    cases h with
    | some he hsign hds =>
      have hskip := skipExponent_append hsign hds hrest
      simp only [List.mem_cons, List.not_mem_nil, or_false] at he
      rcases he with rfl | rfl <;> simpa [skipNumberTail] using hskip
    | none =>
      cases rest with
      | nil => rfl
      | cons c rest =>
        have hdot : c ≠ '.' := hrest.head?_ne rfl
        have he : c ≠ 'e' := hrest.head?_ne rfl
        have hE : c ≠ 'E' := hrest.head?_ne rfl
        simp [skipNumberTail, hdot, he, hE]

theorem skipNumber_append (hinteger : IsInteger integer) (hfraction : IsFraction fraction)
    (h : IsExponent exponent) (hrest : EndsNumber rest) :
    skipNumber (integer ++ (fraction ++ (exponent ++ rest))) = .ok rest := by
  have htail := skipNumberTail_append hfraction h hrest
  have hhead := head?_any_isDigit_fraction hfraction h hrest
  cases hinteger with
  | zero =>
    generalize fraction ++ (exponent ++ rest) = tail at htail hhead
    cases tail with
    | nil => simpa [skipNumber, skipNumberTail] using htail
    | cons d tail =>
      have hd : isDigit d = false := hhead
      simp [skipNumber, hd, htail]
  | @digits d ds hne hd hds =>
    have hd : isDigit d = true := hd
    simp [skipNumber, hne, hd, dropDigits_append hds hhead, htail]

end Numbers

section Scalars

variable {c : Char} {text rest : List Char}

/-- Characters that a value other than an array or an object can begin with. -/
def startsScalar (c : Char) : Bool := isDigit c || c ∈ ['"', '-', 'n', 't', 'f']

theorem ne_of_startsScalar {mark : Char} (h : startsScalar c = true)
    (hmark : startsScalar mark = false) : c ≠ mark := by
  rintro rfl
  exact absurd h (Bool.eq_false_iff.1 hmark)

theorem isSpace_of_startsScalar (h : startsScalar c = true) : isSpace c = false := by
  have hspace : c ≠ ' ' := ne_of_startsScalar h rfl
  have hnewline : c ≠ '\n' := ne_of_startsScalar h rfl
  have htab : c ≠ '\t' := ne_of_startsScalar h rfl
  have hreturn : c ≠ '\r' := ne_of_startsScalar h rfl
  simp [isSpace, hspace, hnewline, htab, hreturn]

theorem skipScalar_digit (h : isDigit c = true) (rest : List Char) :
    skipScalar c rest = skipNumber (c :: rest) := by
  have hquote : c ≠ '"' := by rintro rfl; cases h
  have hminus : c ≠ '-' := by rintro rfl; cases h
  simp [skipScalar, hquote, hminus, h]

theorem IsInteger.exists_cons {integer : List Char} (h : IsInteger integer) :
    ∃ c more, integer = c :: more ∧ isDigit c = true := by
  cases h with
  | zero => exact ⟨_, _, rfl, rfl⟩
  | digits _ hd _ => exact ⟨_, _, rfl, hd⟩

/-- A scalar is passed over up to what does not go on with a number. -/
theorem IsScalar.exists_skipScalar (h : IsScalar text) :
    ∃ c more, text = c :: more ∧ startsScalar c = true ∧
      ∀ rest, EndsNumber rest → skipScalar c (more ++ rest) = .ok rest := by
  cases h with
  | word h =>
    simp only [List.mem_cons, List.not_mem_nil, or_false] at h
    rcases h with rfl | rfl | rfl
    all_goals exact ⟨_, _, rfl, rfl, fun _ _ => rfl⟩
  | string h =>
    refine ⟨_, _, rfl, rfl, fun rest _ => ?_⟩
    simpa [skipScalar] using h.skipString_append rest
  | number h =>
    cases h with
    | mk hsign hinteger hfraction hexponent =>
      simp only [List.mem_cons, List.not_mem_nil, or_false] at hsign
      rcases hsign with rfl | rfl
      · obtain ⟨c, more, rfl, hc⟩ := hinteger.exists_cons
        refine ⟨c, _, rfl, by simp [startsScalar, hc], fun rest hrest => ?_⟩
        simpa [skipScalar_digit hc] using skipNumber_append hinteger hfraction hexponent hrest
      · refine ⟨'-', _, rfl, rfl, fun rest hrest => ?_⟩
        simpa [skipScalar] using skipNumber_append hinteger hfraction hexponent hrest

end Scalars

end XmlSupport.Json
