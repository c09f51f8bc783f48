import Mathlib.Tactic.SplitIfs
import XmlSupport.Machine.Files
import XmlSupport.Proofs.Except

/-!
# What stays when files are added

A directory is created and a file is opened at places where nothing was, so
whatever could be found before is found there still. Only a file that is written
to changes, and only in its content: every walk that passed goes on passing.
-/

namespace XmlSupport.Machine

/-- What a walk notices of a node: not what a file holds. -/
def Node.shape : Node → Node
  | .file _ _ => .file [] false
  | node => node

theorem Node.shape_eq_directory {node : Node} {isSealed : Bool} :
    node.shape = .directory isSealed ↔ node = .directory isSealed := by
  cases node <;> simp [shape]

theorem Node.shape_eq_link {node : Node} {target : Place} :
    node.shape = .link target ↔ node = .link target := by
  cases node <;> simp [shape]

namespace Files

variable {a b c : Files} {current place : Place} {path content : Bytes} {node : Node}
  {changed : Place → Prop}

/-- Every node is kept, but for what the files at some places hold. -/
structure Keeps (changed : Place → Prop) (a b : Files) : Prop where
  shape : ∀ place node, a.node? place = some node →
    ∃ node', b.node? place = some node' ∧ node'.shape = node.shape
  node : ∀ place node, ¬changed place → a.node? place = some node → b.node? place = some node

theorem Keeps.refl (changed : Place → Prop) (files : Files) : Keeps changed files files :=
  ⟨fun _ node h => ⟨node, h, rfl⟩, fun _ _ _ h => h⟩

theorem Keeps.trans (hab : Keeps changed a b) (hbc : Keeps changed b c) : Keeps changed a c where
  shape place node h := by
    obtain ⟨node', h', heq⟩ := hab.shape place node h
    obtain ⟨node'', h'', heq'⟩ := hbc.shape place node' h'
    exact ⟨node'', h'', heq'.trans heq⟩
  node place node hplace h := hbc.node place node hplace (hab.node place node hplace h)

theorem resolve_eq_ok_iff : a.resolve current path = .ok place ↔
    checkPath path = .ok () ∧
      (Path.components path).foldlM a.descend (origin current path) = .ok place ∧
      ∀ content executable, a.node? place = some (.file content executable) →
        Path.namesDirectory path = false := by
  rw [resolve, bind_eq_ok_iff]
  constructor
  · rintro ⟨⟨⟩, hcheck, hrest⟩
    obtain ⟨found, hwalk, hfound⟩ := bind_eq_ok_iff.1 hrest
    refine ⟨hcheck, ?_⟩
    split at hfound
    · split_ifs at hfound with hdir
      obtain rfl := pure_eq_ok_iff.1 hfound
      exact ⟨hwalk, fun _ _ _ => Bool.eq_false_iff.2 hdir⟩
    · rename_i hfile
      obtain rfl := pure_eq_ok_iff.1 hfound
      exact ⟨hwalk, fun content executable h => absurd h (hfile content executable)⟩
  · rintro ⟨hcheck, hwalk, hnames⟩
    refine ⟨(), hcheck, bind_eq_ok_iff.2 ⟨place, hwalk, ?_⟩⟩
    split
    · rename_i content executable hfile
      rw [hnames content executable hfile]
      rfl
    · rfl

theorem lookUp_eq_ok_iff : a.lookUp current path = .ok node ↔
    ∃ place, a.resolve current path = .ok place ∧ a.node? place = some node := by
  rw [lookUp, bind_eq_ok_iff]
  refine exists_congr fun place => and_congr_right fun _ => ?_
  cases a.node? place with
  | none => exact iff_of_false nofun nofun
  | some found => simp [pure_eq_ok_iff]

theorem read_eq_ok_iff : a.read current path = .ok content ↔
    ∃ executable, a.lookUp current path = .ok (.file content executable) := by
  rw [read, bind_eq_ok_iff]
  constructor
  · rintro ⟨node, hnode, hcontent⟩
    cases node with
    | directory isSealed => exact absurd hcontent nofun
    | link target => exact absurd hcontent nofun
    | file held executable =>
      obtain rfl := pure_eq_ok_iff.1 hcontent
      exact ⟨executable, hnode⟩
  · rintro ⟨executable, hnode⟩
    exact ⟨_, hnode, rfl⟩

theorem readText_eq_ok_iff {text : String} : a.readText current path = .ok text ↔
    ∃ content, a.read current path = .ok content ∧ Utf8.decode? content = some text := by
  rw [readText, bind_eq_ok_iff]
  refine exists_congr fun content => and_congr_right fun _ => ?_
  cases Utf8.decode? content with
  | none => exact iff_of_false nofun nofun
  | some found => simp [pure_eq_ok_iff]

section Walks

variable (h : Keeps changed a b)
include h

theorem Keeps.directory {isSealed : Bool} (hdir : a.node? place = some (.directory isSealed)) :
    b.node? place = some (.directory isSealed) := by
  obtain ⟨node, hnode, hshape⟩ := h.shape place _ hdir
  rw [hnode, Node.shape_eq_directory.1 hshape]

theorem Keeps.descend {component : Bytes} {next : Place}
    (hstep : a.descend place component = .ok next) : b.descend place component = .ok next := by
  unfold Files.descend at hstep ⊢
  split at hstep
  · rename_i hdir
    rw [h.directory hdir]
    dsimp only at hstep ⊢
    split_ifs at hstep ⊢
    · exact hstep
    · exact hstep
    · cases hentry : a.node? (place ++ [component]) with
      | none => simp [hentry] at hstep
      | some node =>
        obtain ⟨node', hnode', hshape⟩ := h.shape _ _ hentry
        rw [hentry] at hstep
        rw [hnode']
        cases node with
        | link target => rwa [Node.shape_eq_link.1 hshape]
        | directory isSealed => rwa [Node.shape_eq_directory.1 hshape]
        | file content executable =>
          cases node' with
          | file content' executable' => exact hstep
          | directory isSealed => exact absurd hshape nofun
          | link target => exact absurd hshape nofun
  · exact absurd hstep nofun
  · exact absurd hstep nofun

theorem Keeps.walk {components : List Bytes} {next : Place}
    (hwalk : components.foldlM a.descend place = .ok next) :
    components.foldlM b.descend place = .ok next := by
  induction components generalizing place with
  | nil => exact hwalk
  | cons component components ih =>
    obtain ⟨middle, hstep, hrest⟩ := foldlM_cons_eq_ok_iff.1 hwalk
    exact foldlM_cons_eq_ok_iff.2 ⟨middle, h.descend hstep, ih hrest⟩

theorem Keeps.resolve (hresolve : a.resolve current path = .ok place)
    (hnode : a.node? place = some node) : b.resolve current path = .ok place := by
  obtain ⟨hcheck, hwalk, hnames⟩ := resolve_eq_ok_iff.1 hresolve
  refine resolve_eq_ok_iff.2 ⟨hcheck, h.walk hwalk, fun content executable hfile => ?_⟩
  obtain ⟨node', hnode', hshape⟩ := h.shape place node hnode
  rw [hfile, Option.some.injEq] at hnode'
  subst hnode'
  cases node with
  | file content' executable' => exact hnames content' executable' hnode
  | directory isSealed => exact absurd hshape nofun
  | link target => exact absurd hshape nofun

/-- What could be read is read again, unless its file was written to. -/
theorem Keeps.readText {text : String} (hresolve : a.resolve current path = .ok place)
    (hplace : ¬changed place) (hread : a.readText current path = .ok text) :
    b.readText current path = .ok text := by
  obtain ⟨content, hcontent, htext⟩ := readText_eq_ok_iff.1 hread
  obtain ⟨executable, hfound⟩ := read_eq_ok_iff.1 hcontent
  obtain ⟨found, hfound, hfile⟩ := lookUp_eq_ok_iff.1 hfound
  obtain rfl : place = found := Except.ok.inj (hresolve.symm.trans hfound)
  have hagain : b.read current path = .ok content :=
    read_eq_ok_iff.2 ⟨executable, lookUp_eq_ok_iff.2
      ⟨place, h.resolve hresolve hfile, h.node place _ hplace hfile⟩⟩
  exact readText_eq_ok_iff.2 ⟨content, hagain, htext⟩

end Walks

section Changes

theorem node?_set (files : Files) {place : Place} (hplace : place ≠ []) (node : Node)
    (other : Place) :
    (files.set place node).node? other =
      if other = place then some node else files.node? other := by
  by_cases hother : other = []
  · subst hother
    simp [node?, hplace.symm]
  · simp [node?, set, hother, SortedMap.find?_insert]

/-- Something new takes the place of nothing. -/
theorem keeps_set_of_none (hplace : place ≠ []) (hnone : a.node? place = none) (node : Node) :
    Keeps changed a (a.set place node) := by
  have hnode : ∀ other node', a.node? other = some node' →
      (a.set place node).node? other = some node' := by
    intro other node' h
    have hne : other ≠ place := by
      rintro rfl
      rw [hnone] at h
      exact absurd h nofun
    rw [node?_set a hplace, if_neg hne, h]
  exact ⟨fun other node' h => ⟨node', hnode other node' h, rfl⟩,
    fun other node' _ h => hnode other node' h⟩

/-- A file is written to. It stays as it is if it is to hold what it held. -/
theorem keeps_set_file {before after : Bytes} {executable : Bool}
    (hchanged : after ≠ before → changed place)
    (hfile : a.node? place = some (.file before executable)) :
    Keeps changed a (a.set place (.file after executable)) := by
  have hne : place ≠ [] := by
    rintro rfl
    exact absurd hfile nofun
  constructor
  · intro other node h
    rw [node?_set a hne]
    split_ifs with hother
    · rw [hother, hfile, Option.some.injEq] at h
      exact ⟨_, rfl, h ▸ rfl⟩
    · exact ⟨node, h, rfl⟩
  · intro other node hother h
    rw [node?_set a hne]
    split_ifs with heq
    · subst heq
      have hsame : after = before := by_contra fun hafter => hother (hchanged hafter)
      rw [hsame, ← hfile, h]
    · exact h

theorem keeps_makeDirectory (h : a.makeDirectory current path = .ok b) : Keeps changed a b := by
  obtain ⟨⟨parent, name⟩, -, hmade⟩ := bind_eq_ok_iff.1 h
  dsimp only at hmade
  split_ifs at hmade with hthere hsealed
  obtain rfl := pure_eq_ok_iff.1 hmade
  exact keeps_set_of_none (by simp) (by simpa using hthere) _

theorem keeps_makeDirectories {absolute : Bool} {fuel : Nat} {components : List Bytes}
    (h : a.makeDirectories current absolute fuel components = .ok b) : Keeps changed a b := by
  induction fuel generalizing components b with
  | zero =>
    obtain rfl := Except.ok.inj h
    exact .refl changed a
  | succ fuel ih =>
    simp only [makeDirectories, bind, Except.bind, pure, Except.pure] at h
    generalize (if absolute then [Path.slash] else []) ++ [Path.slash].intercalate components =
      path at h
    split at h
    · obtain rfl := Except.ok.inj h
      exact .refl changed a
    split at h
    · rename_i made hmade
      obtain rfl := Except.ok.inj h
      exact keeps_makeDirectory hmade
    · -- The directories around it are created first.
      split at h
      · exact absurd h nofun
      · rename_i around haround
        refine (ih haround).trans ?_
        split at h
        · rename_i made hmade
          obtain rfl := Except.ok.inj h
          exact keeps_makeDirectory hmade
        · split_ifs at h
          obtain rfl := Except.ok.inj h
          exact .refl changed around
    · split_ifs at h
      obtain rfl := Except.ok.inj h
      exact .refl changed a

theorem keeps_ensureDirectory (h : a.ensureDirectory current path = .ok b) : Keeps changed a b := by
  unfold ensureDirectory at h
  split_ifs at h with hzero
  · exact absurd h nofun
  · exact keeps_makeDirectories h

/-- A file is created in the directory that stands there, at a place where nothing is. -/
theorem exists_of_create (h : a.create current path content = .ok b) :
    Path.namesDirectory path = false ∧ ∃ parent name,
      a.parentOf current path = .ok (parent, name) ∧ a.node? (parent ++ [name]) = none ∧
        b = a.set (parent ++ [name]) (.file content false) := by
  unfold create at h
  split_ifs at h with hnames
  · exact absurd h nofun
  obtain ⟨⟨parent, name⟩, hparent, hmade⟩ := bind_eq_ok_iff.1 h
  dsimp only at hmade
  split_ifs at hmade with hthere hsealed
  exact ⟨by simpa using hnames, parent, name, hparent, by simpa using hthere,
    (pure_eq_ok_iff.1 hmade).symm⟩

theorem keeps_create (h : a.create current path content = .ok b) : Keeps changed a b := by
  obtain ⟨-, parent, name, -, hthere, rfl⟩ := exists_of_create h
  exact keeps_set_of_none (by simp) hthere _

/-- What is written goes behind what a file holds that is found, or into a file that is created. -/
theorem append_cases (h : a.append current path content = .ok b) :
    (∃ place before executable, a.resolve current path = .ok place ∧
      a.node? place = some (.file before executable) ∧
        b = a.set place (.file (before ++ content) executable)) ∨
      a.create current path content = .ok b := by
  unfold append at h
  split at h
  · rename_i before executable hfile
    obtain ⟨place, hplace, hnode⟩ := lookUp_eq_ok_iff.1 hfile
    obtain ⟨found, hfound, hset⟩ := bind_eq_ok_iff.1 h
    obtain rfl : place = found := Except.ok.inj (hplace.symm.trans hfound)
    exact .inl ⟨place, before, executable, hplace, hnode, (pure_eq_ok_iff.1 hset).symm⟩
  · exact .inr h

/-- Only the file that is named is written to, and only if there is something to write. -/
theorem keeps_append
    (hchanged : content ≠ [] → ∀ place, a.resolve current path = .ok place → changed place)
    (h : a.append current path content = .ok b) : Keeps changed a b := by
  rcases append_cases h with ⟨place, before, executable, hplace, hnode, rfl⟩ | hcreate
  · refine keeps_set_file (fun hafter => hchanged (fun hnil => hafter ?_) place hplace) hnode
    rw [hnil, List.append_nil]
  · exact keeps_create hcreate

end Changes

section Appended

variable {parent : Place} {name : Bytes}

/-- The last component of a path stands in a directory that the others lead to. -/
theorem exists_walk_of_parentOf (h : a.parentOf current path = .ok (parent, name)) :
    checkPath path = .ok () ∧
      (∃ front, Path.components path = front ++ [name] ∧
        front.foldlM a.descend (origin current path) = .ok parent) ∧
      (∃ isSealed, a.node? parent = some (.directory isSealed)) ∧
      name ≠ Path.dot ∧ name ≠ Path.dotDot ∧ name.length ≤ maxNameLength := by
  obtain ⟨⟨⟩, hcheck, hrest⟩ := bind_eq_ok_iff.1 h
  dsimp only at hrest
  split at hrest
  · exact absurd hrest nofun
  rename_i last hlast
  obtain ⟨found, hwalk, hfound⟩ := bind_eq_ok_iff.1 hrest
  split at hfound
  · rename_i isSealed hdir
    split_ifs at hfound with hdots hlong
    obtain ⟨rfl, rfl⟩ := Prod.mk.inj (pure_eq_ok_iff.1 hfound)
    have hnames : last ≠ Path.dot ∧ last ≠ Path.dotDot := by simpa using hdots
    exact ⟨hcheck, ⟨_, (List.dropLast_append_getLast? last hlast).symm, hwalk⟩, ⟨isSealed, hdir⟩,
      hnames.1, hnames.2, Nat.le_of_not_lt hlong⟩
  · exact absurd hfound nofun
  · exact absurd hfound nofun

theorem node?_of_create (h : a.create current path content = .ok b) :
    ∃ place, b.resolve current path = .ok place ∧ b.node? place = some (.file content false) := by
  have hkeeps : Keeps (fun _ => True) a b := keeps_create h
  obtain ⟨hnames, parent, name, hparent, -, rfl⟩ := exists_of_create h
  obtain ⟨hcheck, ⟨front, hcomponents, hwalk⟩, ⟨isSealed, hdir⟩, hdot, hdotDot, hlength⟩ :=
    exists_walk_of_parentOf hparent
  have hnode : (a.set (parent ++ [name]) (.file content false)).node? (parent ++ [name]) =
      some (.file content false) := by
    rw [node?_set a (by simp), if_pos rfl]
  refine ⟨parent ++ [name], resolve_eq_ok_iff.2 ⟨hcheck, ?_, ?_⟩, hnode⟩
  · have hstep : (a.set (parent ++ [name]) (.file content false)).descend parent name =
        .ok (parent ++ [name]) := by
      rw [descend, hkeeps.directory hdir]
      simp only [hdot, hdotDot, if_false, Nat.not_lt.2 hlength, hnode]
    rw [hcomponents, List.foldlM_append]
    exact bind_eq_ok_iff.2 ⟨parent, hkeeps.walk hwalk,
      foldlM_cons_eq_ok_iff.2 ⟨_, hstep, rfl⟩⟩
  · intro _ _ _
    exact hnames

/-- What is written to a file that is there stands behind what it held, under the same path. -/
theorem append_file {before : Bytes} {executable : Bool}
    (hplace : a.resolve current path = .ok place)
    (hnode : a.node? place = some (.file before executable)) (content : Bytes) :
    ∃ b, a.append current path content = .ok b ∧ b.resolve current path = .ok place ∧
      b.node? place = some (.file (before ++ content) executable) := by
  have hfile : a.lookUp current path = .ok (.file before executable) :=
    lookUp_eq_ok_iff.2 ⟨place, hplace, hnode⟩
  have happend : a.append current path content =
      .ok (a.set place (.file (before ++ content) executable)) := by
    rw [append, hfile]
    exact bind_eq_ok_iff.2 ⟨place, hplace, rfl⟩
  have hkeeps : Keeps (fun _ => True) a _ := keeps_append (fun _ _ _ => trivial) happend
  have hne : place ≠ [] := by
    rintro rfl
    exact absurd hnode nofun
  refine ⟨_, happend, hkeeps.resolve hplace hnode, ?_⟩
  rw [node?_set a hne, if_pos rfl]

/-- A file that was written to is found under its path, and ends with what was written. -/
theorem node?_of_append (h : a.append current path content = .ok b) :
    ∃ place before executable, b.resolve current path = .ok place ∧
      b.node? place = some (.file (before ++ content) executable) := by
  rcases append_cases h with ⟨place, before, executable, hplace, hnode, -⟩ | hcreate
  · obtain ⟨b', happend, hplace', hnode'⟩ := append_file hplace hnode content
    obtain rfl : b' = b := Except.ok.inj (happend.symm.trans h)
    exact ⟨place, before, executable, hplace', hnode'⟩
  · obtain ⟨place, hplace, hnode⟩ := node?_of_create hcreate
    exact ⟨place, [], false, hplace, hnode⟩

end Appended

end Files
end XmlSupport.Machine
