import XmlSupport.DataDirectory
import XmlSupport.Proofs.Machine.Path
import XmlSupport.Proofs.Text.Utf8

/-!
# Which directory the environment names for data

The data variable is read as text and the home variable as a path. So a data
variable that is no text is passed over, and the home directory decides as if
the variable were not set; without a home variable the user's account decides.
Main statement: the data directory is where the environment says, byte for byte,
for every data variable that is text and for no other, unless it names the place
that the home directory leads to anyway.
-/

namespace XmlSupport.DataDirectory

open Machine Utf8

variable {env : Environment} {account : Option Bytes} {directory home : Bytes} {name : String}

/-- Where programs keep data of a user with this home directory. -/
def share (home : Bytes) : Bytes := Path.joinName home ".local/share"

theorem text?_eq_some_iff {text : String} :
    env.text? name = some text ↔ env.get? name = some (Utf8.encode text) := by
  simp only [Environment.text?, Option.bind_eq_some_iff, decode?_eq_some_iff]
  constructor
  · rintro ⟨value, hvalue, rfl⟩
    exact hvalue
  · intro hvalue
    exact ⟨_, hvalue, rfl⟩

theorem text?_eq_none_iff :
    env.text? name = none ↔ ∀ value, env.get? name = some value → ¬ IsText value := by
  constructor
  · rintro hnone value hvalue ⟨text, rfl⟩
    rw [text?_eq_some_iff.2 hvalue] at hnone
    cases hnone
  · intro h
    cases htext : env.text? name with
    | none => rfl
    | some text => exact absurd ⟨text, rfl⟩ (h _ (text?_eq_some_iff.1 htext))

theorem path_of_isText (hset : env.get? "XDG_DATA_HOME" = some directory)
    (htext : IsText directory) : path account env = Path.joinName directory ownName := by
  obtain ⟨text, rfl⟩ := htext
  rw [path, base, text?_eq_some_iff.2 hset]

theorem path_of_home?
    (hunset : ∀ directory, env.get? "XDG_DATA_HOME" = some directory → ¬ IsText directory) :
    path account env = Path.joinName ((home? account env).elim Path.dot share) ownName := by
  rw [path, base, text?_eq_none_iff.2 hunset]
  cases home? account env with
  | none => rfl
  | some home => rfl

theorem home?_of_ne_nil (hhome : env.get? "HOME" = some home) (hne : home ≠ []) :
    home? account env = some home := by
  have hkept : (!home.isEmpty) = true := by simpa using hne
  rw [home?, hhome, Option.filter_some, if_pos hkept, Option.some_or]

theorem home?_of_no_variable (hhome : ∀ home, env.get? "HOME" = some home → home = []) :
    home? account env = account := by
  rw [home?]
  cases hvalue : env.get? "HOME" with
  | none => rfl
  | some home =>
    obtain rfl := hhome home hvalue
    rfl

theorem path_of_home
    (hunset : ∀ directory, env.get? "XDG_DATA_HOME" = some directory → ¬ IsText directory)
    (hhome : env.get? "HOME" = some home) (hne : home ≠ []) :
    path account env = Path.joinName (share home) ownName := by
  rw [path_of_home? hunset, home?_of_ne_nil hhome hne, Option.elim_some]

theorem path_eq_iff_of_home (hset : env.get? "XDG_DATA_HOME" = some directory)
    (hhome : env.get? "HOME" = some home) (hne : home ≠ []) :
    path account env = Path.joinName directory ownName ↔
      IsText directory ∨ directory = share home ∨ directory = share home ++ [Path.slash] := by
  by_cases htext : IsText directory
  · simp only [htext, true_or, iff_true]
    exact path_of_isText hset htext
  · have hunset : ∀ value, env.get? "XDG_DATA_HOME" = some value → ¬ IsText value := by
      intro value hvalue
      rw [hset, Option.some_inj] at hvalue
      rwa [← hvalue]
    have hlast : (share home).getLast? = some 101 :=
      Path.getLast?_joinName (by decide) (by decide) home
    rw [path_of_home hunset hhome hne, eq_comm,
      Path.joinName_eq_joinName_iff (by decide) hlast (by decide)]
    simp only [htext, false_or]

/-- A data variable that is text decides, whatever the home directory is. Any other counts as not
set, and then the home directory decides; that other is followed only where both name one place.
Without a home variable the account decides, and without either the current directory. -/
theorem path_follows_environment (account : Option Bytes) (env : Environment) :
    (∀ directory, env.get? "XDG_DATA_HOME" = some directory → IsText directory →
      path account env = Path.joinName directory ownName) ∧
    (∀ home, env.get? "HOME" = some home → home ≠ [] →
      ((∀ directory, env.get? "XDG_DATA_HOME" = some directory → ¬ IsText directory) →
        path account env = Path.joinName (share home) ownName) ∧
      ∀ directory, env.get? "XDG_DATA_HOME" = some directory →
        (path account env = Path.joinName directory ownName ↔
          IsText directory ∨ directory = share home ∨ directory = share home ++ [Path.slash])) ∧
    ((∀ directory, env.get? "XDG_DATA_HOME" = some directory → ¬ IsText directory) →
      (∀ home, env.get? "HOME" = some home → home = []) →
        path account env = Path.joinName (account.elim Path.dot share) ownName) ∧
    logPath account env = Path.joinName (path account env) logName := by
  refine ⟨fun directory hset htext => path_of_isText hset htext, ?_, ?_, rfl⟩
  · intro home hhome hne
    refine ⟨fun hunset => path_of_home hunset hhome hne, ?_⟩
    intro directory hset
    exact path_eq_iff_of_home hset hhome hne
  · intro hunset hhome
    rw [path_of_home? hunset, home?_of_no_variable hhome]

/-- A home directory that is no text is kept as it is, and so is a data directory that is text and
ends with a slash. An account is asked for a home only if the variable is empty. -/
theorem path_follows_environment_accented :
    let home : Bytes := [Path.slash, 0xFF]
    let atHome : Environment := SortedMap.ofList [(Utf8.encode "HOME", home)]
    let homeless : Environment := SortedMap.ofList [(Utf8.encode "HOME", [])]
    let accented : Environment :=
      SortedMap.ofList [(Utf8.encode "HOME", home),
        (Utf8.encode "XDG_DATA_HOME", Utf8.encode "\u00e9/")]
    let account := some (Utf8.encode "/u")
    path account atHome = home ++ Utf8.encode "/.local/share/xml-client" ∧
      path account homeless = Utf8.encode "/u/.local/share/xml-client" ∧
      path none homeless = Utf8.encode "./xml-client" ∧
      path account accented = Utf8.encode "\u00e9/xml-client" ∧
      logPath account accented = Utf8.encode "\u00e9/xml-client/xml-client.log" := by
  intro home atHome homeless accented account
  have hunset : ∀ env : Environment, env.get? "XDG_DATA_HOME" = none →
      ∀ directory, env.get? "XDG_DATA_HOME" = some directory → ¬ IsText directory := by
    intro env hnone directory hset
    rw [hnone] at hset
    cases hset
  have hempty : ∀ home, homeless.get? "HOME" = some home → home = [] := by
    rintro home ⟨⟩
    rfl
  obtain ⟨-, hhome, -, -⟩ := path_follows_environment account atHome
  obtain ⟨-, -, haccount, -⟩ := path_follows_environment account homeless
  obtain ⟨-, -, hnobody, -⟩ := path_follows_environment none homeless
  obtain ⟨htext, -, -, hlog⟩ := path_follows_environment account accented
  have haccented : path account accented = Utf8.encode "\u00e9/xml-client" :=
    (htext (Utf8.encode "\u00e9/") (by decide) ⟨_, rfl⟩).trans (by decide)
  refine ⟨?_, ?_, ?_, haccented, ?_⟩
  · exact ((hhome home (by decide) (by decide)).1 (hunset atHome (by decide))).trans (by decide)
  · exact (haccount (hunset homeless (by decide)) hempty).trans (by decide)
  · exact (hnobody (hunset homeless (by decide)) hempty).trans (by decide)
  · rw [hlog, haccented]
    decide

/-- A data directory that is no text is not used, though the variable is set. -/
theorem path_ne_of_not_text :
    let directory : Bytes := [Path.slash, 0xFF]
    let env : Environment :=
      SortedMap.ofList [(Utf8.encode "HOME", Utf8.encode "/h"),
        (Utf8.encode "XDG_DATA_HOME", directory)]
    env.get? "XDG_DATA_HOME" = some directory ∧
      path none env ≠ Path.joinName directory ownName ∧
      path none env = Utf8.encode "/h/.local/share/xml-client" := by
  decide +kernel

end XmlSupport.DataDirectory
