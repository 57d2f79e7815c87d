/-
# Paths by their components

`std::path` on Unix, on the characters of a path.  `components` reads a path as
the source language does: a leading separator is the root, a leading `.` the
current directory, and elsewhere empty segments and `.` are skipped.  `join` is
`Path::join`, `locate` walks the components from a working directory to the names
that lead to the file, links left out.  A path of names only, joined to a root,
lies below the root (`locate_join`), and two such paths lead to one file exactly
when their names agree (`locate_join_eq_iff`), which says nothing about how
separators were written; a path is told by its names when it is `Plain`.
-/

import Mathlib.Tactic

namespace Machine

/-- A component of a path. -/
inductive PathComponent where
  | rootDir
  | curDir
  | parentDir
  | normal (name : List Char)
  deriving DecidableEq, Repr

/-- `matches!(component, Component::Normal(_))`. -/
def PathComponent.isNormal : PathComponent → Bool
  | .normal _ => true
  | _ => false

namespace UnixPath

/-- What a segment between separators counts as, past the first one. -/
def component? (segment : List Char) : Option PathComponent :=
  if segment = [] ∨ segment = ['.'] then none
  else if segment = ['.', '.'] then some .parentDir
  else some (.normal segment)

/-- `Path::components`. -/
def components (path : List Char) : List PathComponent :=
  match path.splitOn '/' with
  | [] => []
  | first :: rest =>
    (if first = [] ∧ rest ≠ [] then [.rootDir] else
      if first = ['.'] then [.curDir] else (component? first).toList)
      ++ rest.filterMap component?

/-- `Path::is_absolute`. -/
def isAbsolute (path : List Char) : Bool := path.head? = some '/'

/-- `Path::join`. -/
def join (root path : List Char) : List Char :=
  if isAbsolute path then path
  else if root = [] ∨ root.getLast? = some '/' then root ++ path
  else root ++ '/' :: path

/-- The names that a walk over the components leads to, from a working directory. -/
def locate (cwd : List (List Char)) (cs : List PathComponent) : List (List Char) :=
  cs.foldl
    (fun dir c => match c with
      | .rootDir => []
      | .curDir => dir
      | .parentDir => dir.dropLast
      | .normal name => dir ++ [name]) cwd

/-- A path of names only. -/
def NamesOnly (path : List Char) (names : List (List Char)) : Prop :=
  components path = names.map .normal

/-- A path whose components are all names is a path of names only. -/
theorem exists_namesOnly {path : List Char} (h : ∀ c ∈ components path, c.isNormal = true) :
    ∃ names, NamesOnly path names := by
  have hall : ∀ cs : List PathComponent, (∀ c ∈ cs, c.isNormal = true) →
      ∃ names : List (List Char), cs = names.map .normal := by
    intro cs
    induction cs with
    | nil => exact fun _ => ⟨[], rfl⟩
    | cons c cs ih =>
      intro hcs
      rw [List.forall_mem_cons] at hcs
      obtain ⟨names, rfl⟩ := ih hcs.2
      cases c with
      | normal name => exact ⟨name :: names, rfl⟩
      | rootDir => exact absurd hcs.1 (by decide)
      | curDir => exact absurd hcs.1 (by decide)
      | parentDir => exact absurd hcs.1 (by decide)
  exact hall _ h

/-- No segment is empty or `.`. -/
def Plain (path : List Char) : Prop := ∀ s ∈ path.splitOn '/', s ≠ [] ∧ s ≠ ['.']

example : components "a//b/./c/".toList = components "a/b/c".toList := by decide +kernel

/-- The segments of a path of names: no root and no leading `.`, and what is not
skipped is the names. -/
theorem NamesOnly.segments {path : List Char} {names : List (List Char)} (h : NamesOnly path names) :
    ∃ first rest, path.splitOn '/' = first :: rest ∧ ¬(first = [] ∧ rest ≠ []) ∧ first ≠ ['.']
      ∧ (path.splitOn '/').filterMap component? = names.map .normal := by
  unfold NamesOnly components at h
  cases hsplit : path.splitOn '/' with
  | nil => exact absurd hsplit (List.splitOn_ne_nil _ _)
  | cons first rest =>
    rw [hsplit] at h
    dsimp only at h
    split_ifs at h with hroot hdot
    · cases names <;> simp at h
    · cases names <;> simp at h
    · refine ⟨first, rest, rfl, hroot, hdot, ?_⟩
      rw [← h, List.filterMap_cons]
      cases component? first <;> rfl

theorem NamesOnly.not_isAbsolute {path : List Char} {names : List (List Char)}
    (h : NamesOnly path names) : isAbsolute path = false := by
  obtain ⟨first, rest, hsplit, hroot, -, -⟩ := h.segments
  cases path with
  | nil => rfl
  | cons c cs =>
    by_cases hc : c = '/'
    · subst hc
      rw [show '/' :: cs = [] ++ '/' :: cs from rfl, List.splitOn_append_cons_self,
        List.splitOn_nil] at hsplit
      obtain ⟨rfl, rfl⟩ := List.cons.inj hsplit
      exact absurd ⟨rfl, List.splitOn_ne_nil _ _⟩ hroot
    · simp [isAbsolute, hc]

/-- Only the empty path has no components. -/
theorem components_ne_nil {path : List Char} (h : path ≠ []) : components path ≠ [] := by
  unfold components
  cases hsplit : path.splitOn '/' with
  | nil => exact absurd hsplit (List.splitOn_ne_nil _ _)
  | cons first rest =>
    dsimp only
    split_ifs with hroot hdot
    · simp
    · simp
    · by_cases hfirst : first = []
      · have hrest : rest = [] := by
          by_contra hrest
          exact hroot ⟨hfirst, hrest⟩
        have hjoined : ['/'].intercalate (path.splitOn '/') = path := List.intercalate_splitOn '/'
        rw [hsplit, hfirst, hrest] at hjoined
        exact absurd (by simpa using hjoined.symm) h
      · by_cases hparent : first = ['.', '.']
        · simp [component?, hparent]
        · simp [component?, hfirst, hdot, hparent]

/-- What follows a leading separator is read past the root. -/
theorem components_root (tail : List Char) :
    components ('/' :: tail) = .rootDir :: (tail.splitOn '/').filterMap component? := by
  unfold components
  rw [show '/' :: tail = [] ++ '/' :: tail from rfl, List.splitOn_append_cons_self,
    List.splitOn_nil]
  simp [List.splitOn_ne_nil]

/-- What follows a separator further on is read behind what comes before it. -/
theorem components_append {root : List Char} (hroot : root ≠ []) (tail : List Char) :
    components (root ++ '/' :: tail) =
      components root ++ (tail.splitOn '/').filterMap component? := by
  unfold components
  rw [List.splitOn_append_cons_self]
  cases hsplit : root.splitOn '/' with
  | nil => exact absurd hsplit (List.splitOn_ne_nil _ _)
  | cons first rest =>
    have hfirst : first = [] → rest ≠ [] := by
      rintro rfl rfl
      have hjoined : ['/'].intercalate (root.splitOn '/') = root := List.intercalate_splitOn '/'
      rw [hsplit] at hjoined
      exact hroot (by simpa using hjoined.symm)
    have hcond : (first = [] ∧ rest ++ tail.splitOn '/' ≠ []) ↔ (first = [] ∧ rest ≠ []) := by
      constructor
      · exact fun h => ⟨h.1, hfirst h.1⟩
      · exact fun h => ⟨h.1, by simp [h.2]⟩
    simp only [List.cons_append, hcond, List.filterMap_append, List.append_assoc]

/-- Joining a path of names to a root appends its components. -/
theorem components_join {root path : List Char} {names : List (List Char)}
    (h : NamesOnly path names) :
    components (join root path) = components root ++ names.map .normal := by
  obtain ⟨-, -, -, -, -, hnames⟩ := h.segments
  have hempty : (([] : List Char).splitOn '/').filterMap component? = [] := by
    rw [List.splitOn_nil]
    rfl
  unfold join
  rw [h.not_isAbsolute]
  simp only [Bool.false_eq_true, if_false]
  split_ifs with hend
  · obtain rfl | hlast := hend
    · rw [List.nil_append, h]
      rfl
    · obtain ⟨r, rfl⟩ := List.getLast?_eq_some_iff.1 hlast
      rw [List.append_assoc, List.singleton_append]
      by_cases hr : r = []
      · subst hr
        rw [List.nil_append, List.nil_append, components_root, components_root, hnames, hempty]
        rfl
      · rw [components_append hr, components_append hr, hnames, hempty, List.append_nil]
  · rw [components_append (fun hroot => hend (.inl hroot)), hnames]

/-- A walk over names goes down them. -/
theorem locate_names (cwd : List (List Char)) (names : List (List Char)) :
    locate cwd (names.map .normal) = cwd ++ names := by
  induction names generalizing cwd with
  | nil => simp [locate]
  | cons name names ih =>
    have hstep : locate cwd ((name :: names).map .normal)
        = locate (cwd ++ [name]) (names.map .normal) := rfl
    rw [hstep, ih, List.append_assoc, List.singleton_append]

/-- **A path of names joined to a root leads below the root.** -/
theorem locate_join {root path : List Char} {names : List (List Char)} (h : NamesOnly path names)
    (cwd : List (List Char)) :
    locate cwd (components (join root path)) = locate cwd (components root) ++ names := by
  rw [components_join h]
  exact (List.foldl_append ..).trans (locate_names _ _)

/-- **Two paths of names lead to one file exactly when the names agree.** -/
theorem locate_join_eq_iff {root path path' : List Char} {names names' : List (List Char)}
    (h : NamesOnly path names) (h' : NamesOnly path' names') (cwd : List (List Char)) :
    locate cwd (components (join root path)) = locate cwd (components (join root path')) ↔
      components path = components path' := by
  rw [locate_join h, locate_join h', List.append_cancel_left_eq, h, h']
  exact ⟨fun heq => by rw [heq], fun heq => List.map_injective_iff.2
    (fun a b hab => by cases hab; rfl) heq⟩

/-- A plain path of names is told by its names. -/
theorem Plain.eq {path path' : List Char} {names : List (List Char)} (hplain : Plain path)
    (hplain' : Plain path') (h : NamesOnly path names) (h' : NamesOnly path' names) :
    path = path' := by
  have hall : ∀ (segments : List (List Char)), (∀ s ∈ segments, s ≠ [] ∧ s ≠ ['.']) →
      ∀ names : List (List Char), segments.filterMap component? = names.map .normal →
        segments = names := by
    intro segments
    induction segments with
    | nil => intro _ names hn; cases names <;> simp_all
    | cons s segments ih =>
      intro hs names hn
      rw [List.forall_mem_cons] at hs
      cases names with
      | nil =>
        simp only [List.filterMap_cons, component?, hs.1, or_self, if_false] at hn
        split_ifs at hn <;> simp at hn
      | cons name names =>
        simp only [List.filterMap_cons, component?, hs.1, or_self, if_false, List.map_cons] at hn
        split_ifs at hn
        · simp at hn
        · simp only [List.cons.injEq, PathComponent.normal.injEq] at hn
          rw [hn.1, ih hs.2 names hn.2]
  obtain ⟨-, -, -, -, -, hseg⟩ := h.segments
  obtain ⟨-, -, -, -, -, hseg'⟩ := h'.segments
  have hpath : ['/'].intercalate (path.splitOn '/') = path := List.intercalate_splitOn '/'
  have hpath' : ['/'].intercalate (path'.splitOn '/') = path' := List.intercalate_splitOn '/'
  rw [← hpath, ← hpath', hall _ hplain names hseg, hall _ hplain' names hseg']

end UnixPath

end Machine
