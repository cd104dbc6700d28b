import IntegrationPlatform.Texts.DotSegments

/-!
# POSIX paths

`pathlib.PurePosixPath` and `os.path.normpath`. A path is a root and names; `collapse` takes a name together
with the `..` behind it away. What it leaves has `..` in front only, and never behind a root, and a beginning
of such a path is such a path.
-/

namespace IntegrationPlatform

namespace PosixPath

/-! ## Names and the parent -/

section Collapse

variable {α : Type} (up : α) (rooted : Bool)

/-- The loop of `normpath`, with what it keeps from the last name to the first. Behind a root, the parent is
the root itself. -/
def collapse [DecidableEq α] : List α → List α → List α
  | kept, [] => kept.reverse
  | kept, name :: names =>
      if name ≠ up ∨ (rooted = false ∧ kept = []) ∨ kept.head? = some up then
        collapse (name :: kept) names
      else collapse kept.tail names

/-- The parent stands behind nothing but the parent, and never behind a root. -/
def Settled (names : List α) : Prop :=
  ∀ before after, names = before ++ up :: after → rooted = false ∧ ∀ name ∈ before, name = up

variable {up rooted} {names more kept : List α} {name : α}

theorem Settled.left (h : Settled up rooted (names ++ more)) : Settled up rooted names := by
  rintro before after rfl
  exact h before (after ++ more) (by simp)

theorem Settled.concat (h : Settled up rooted names) (hname : name ≠ up) :
    Settled up rooted (names ++ [name]) := by
  intro before after hnames
  rcases List.eq_nil_or_concat after with rfl | ⟨after, last, rfl⟩
  · exact absurd (List.append_inj' hnames rfl).2 (by simpa using hname)
  · have heq : names ++ [name] = (before ++ up :: after) ++ [last] := by simpa using hnames
    exact h before after (List.append_inj' heq rfl).1

theorem settled_up (hrooted : rooted = false) (h : ∀ name ∈ names, name = up) :
    Settled up rooted (names ++ [up]) := by
  intro before after hnames
  refine ⟨hrooted, fun name hname => ?_⟩
  have hmem : name ∈ names ++ [up] := hnames ▸ List.mem_append_left _ hname
  rcases List.mem_append.mp hmem with hold | hnew
  · exact h name hold
  · exact List.mem_singleton.mp hnew

variable [DecidableEq α]

theorem collapse_of_settled (h : Settled up rooted (kept.reverse ++ names)) :
    collapse up rooted kept names = kept.reverse ++ names := by
  induction names generalizing kept with
  | nil => rw [collapse, List.append_nil]
  | cons name names ih =>
      have hkept : name ≠ up ∨ (rooted = false ∧ kept = []) ∨ kept.head? = some up := by
        by_cases hname : name = up
        · subst hname
          obtain ⟨hrooted, hall⟩ := h kept.reverse names rfl
          cases kept with
          | nil => exact .inr (.inl ⟨hrooted, rfl⟩)
          | cons last kept =>
              have hlast := hall last (by simp)
              exact .inr (.inr (congrArg some hlast))
        · exact .inl hname
      rw [collapse, if_pos hkept, ih]
      · simp
      · simpa using h

theorem settled_collapse (h : Settled up rooted kept.reverse) :
    Settled up rooted (collapse up rooted kept names) := by
  induction names generalizing kept with
  | nil => rwa [collapse]
  | cons name names ih =>
      rw [collapse]
      split
      · next hkept =>
        refine ih ?_
        rw [List.reverse_cons]
        by_cases hname : name = up
        · subst hname
          rcases hkept with hne | ⟨hrooted, rfl⟩ | hhead
          · exact absurd rfl hne
          · exact settled_up hrooted fun other hother => absurd hother List.not_mem_nil
          · obtain ⟨kept, rfl⟩ := List.head?_eq_some_iff.mp hhead
            rw [List.reverse_cons] at h ⊢
            obtain ⟨hrooted, hall⟩ := h kept.reverse [] rfl
            refine settled_up hrooted fun other hother => ?_
            rcases List.mem_append.mp hother with hold | hnew
            · exact hall other hold
            · exact List.mem_singleton.mp hnew
        · exact h.concat hname
      · refine ih ?_
        cases kept with
        | nil => exact h
        | cons last kept =>
            rw [List.reverse_cons] at h
            exact h.left

theorem mem_of_mem_collapse (h : name ∈ collapse up rooted kept names) : name ∈ kept ∨ name ∈ names := by
  induction names generalizing kept with
  | nil => exact .inl (List.mem_reverse.mp h)
  | cons first names ih =>
      rw [collapse] at h
      split at h
      · rcases ih h with hkept | hnames
        · rcases List.mem_cons.mp hkept with rfl | hold
          · exact .inr List.mem_cons_self
          · exact .inl hold
        · exact .inr (List.mem_cons_of_mem _ hnames)
      · rcases ih h with hkept | hnames
        · exact .inl (List.mem_of_mem_tail hkept)
        · exact .inr (List.mem_cons_of_mem _ hnames)

end Collapse

/-! ## Paths -/

/-- The root of a path: none, one slash, or exactly two. -/
inductive Root where
  | relative
  | single
  | double
  deriving DecidableEq

/-- What stands between slashes of a path and names something: neither empty nor a dot. -/
def Part (name : List Char) : Prop :=
  name ≠ [] ∧ name ≠ ['.'] ∧ '/' ∉ name

instance (name : List Char) : Decidable (Part name) :=
  inferInstanceAs (Decidable (_ ∧ _))

/-- `PurePosixPath`. -/
structure PurePath where
  root : Root
  parts : List (List Char)
  named : ∀ part ∈ parts, Part part

/-- `..`. -/
def dotdot : List Char :=
  ['.', '.']

/-- The slashes in front of a text. -/
def rootOf : List Char → Root
  | '/' :: '/' :: '/' :: _ => .single
  | '/' :: '/' :: _ => .double
  | '/' :: _ => .single
  | _ => .relative

/-- The slashes of a root. -/
def Root.slashes : Root → List Char
  | .relative => []
  | .single => ['/']
  | .double => ['/', '/']

/-- There is a root. -/
def Root.rooted (root : Root) : Bool :=
  root ≠ .relative

/-- The names between the slashes of a text. -/
def partsOf (text : List Char) : List (List Char) :=
  (text.splitOn '/').filter fun part => part ≠ [] ∧ part ≠ ['.']

/-- The text of a root and names behind it. -/
def render (root : Root) (parts : List (List Char)) : List Char :=
  if root.slashes ++ ['/'].intercalate parts = [] then ['.']
  else root.slashes ++ ['/'].intercalate parts

def normpath (text : List Char) : List Char :=
  render (rootOf text) (collapse dotdot (rootOf text).rooted [] (partsOf text))

theorem slash_not_mem_splitOn {text piece : List Char} (h : piece ∈ text.splitOn '/') : '/' ∉ piece := by
  induction text generalizing piece with
  | nil =>
      obtain rfl : piece = [] := by simpa using h
      exact List.not_mem_nil
  | cons letter text ih =>
      rw [List.splitOn_cons_eq_if_modifyHead] at h
      split at h
      · rcases List.mem_cons.mp h with rfl | hpiece
        · exact List.not_mem_nil
        · exact ih hpiece
      · next hletter =>
        obtain ⟨first, rest, hsplit⟩ := List.exists_cons_of_ne_nil (List.splitOn_ne_nil '/' text)
        rw [hsplit, List.modifyHead_cons] at h
        rw [hsplit] at ih
        rcases List.mem_cons.mp h with rfl | hpiece
        · intro hmem
          rcases List.mem_cons.mp hmem with heq | hfirst
          · exact hletter (by simp [← heq])
          · exact ih List.mem_cons_self hfirst
        · exact ih (List.mem_cons_of_mem _ hpiece)

theorem part_of_mem_partsOf {text part : List Char} (h : part ∈ partsOf text) : Part part := by
  obtain ⟨hpiece, hpart⟩ := List.mem_filter.mp h
  have hne := of_decide_eq_true hpart
  exact ⟨hne.1, hne.2, slash_not_mem_splitOn hpiece⟩

namespace PurePath

/-- `PurePosixPath(text)`. -/
def parse (text : List Char) : PurePath :=
  ⟨rootOf text, partsOf text, fun _ => part_of_mem_partsOf⟩

/-- `str(path)`. -/
def str (path : PurePath) : List Char :=
  render path.root path.parts

/-- `path / other`: a path with a root replaces the one before it. -/
def join (path other : PurePath) : PurePath :=
  match other.root with
  | .relative =>
      ⟨path.root, path.parts ++ other.parts, fun part hpart =>
        (List.mem_append.mp hpart).elim (path.named part) (other.named part)⟩
  | _ => other

/-- `path.parent`: the parent of a root is the root. -/
def parent (path : PurePath) : PurePath :=
  ⟨path.root, path.parts.dropLast, fun part hpart => path.named part (List.dropLast_subset _ hpart)⟩

/-- `path.is_relative_to(other)`: the other path, or one of those below it. -/
def isRelativeTo (path other : PurePath) : Bool :=
  path.root = other.root && other.parts.isPrefixOf path.parts

/-- The lexical normal form of a path. -/
def normal (path : PurePath) : PurePath :=
  ⟨path.root, collapse dotdot path.root.rooted [] path.parts, fun part hpart =>
    (mem_of_mem_collapse hpart).elim (fun hnil => absurd hnil List.not_mem_nil) (path.named part)⟩

/-- The path is spelled in its normal form. -/
def Normal (path : PurePath) : Prop :=
  Settled dotdot path.root.rooted path.parts

/-- The path is the other one, or below it: behind the other one come names only. -/
def Below (path other : PurePath) : Prop :=
  path.root = other.root ∧ ∃ names, path.parts = other.parts ++ names ∧ dotdot ∉ names

/-- The path leads above the other one: behind the other one comes the parent. -/
def Climbs (path other : PurePath) : Prop :=
  path.root = other.root ∧ other.parts ++ [dotdot] <+: path.parts

variable {path other : PurePath}

theorem ext (hroot : path.root = other.root) (hparts : path.parts = other.parts) :
    path = other := by
  cases path
  cases other
  subst hroot hparts
  rfl

/-! ### Texts of paths -/

theorem partsOf_intercalate {parts : List (List Char)} (h : ∀ part ∈ parts, Part part) :
    partsOf (['/'].intercalate parts) = parts := by
  unfold partsOf
  by_cases hparts : parts = []
  · subst hparts
    rfl
  · rw [List.splitOn_intercalate '/' (fun part hpart => (h part hpart).2.2) hparts, List.filter_eq_self]
    intro part hpart
    exact decide_eq_true ⟨(h part hpart).1, (h part hpart).2.1⟩

theorem partsOf_slash (text : List Char) : partsOf ('/' :: text) = partsOf text := by
  unfold partsOf
  rw [List.splitOn_cons_eq_if_modifyHead]
  simp

theorem intercalate_head {parts : List (List Char)} (h : ∀ part ∈ parts, Part part) :
    (['/'].intercalate parts).head? ≠ some '/' := by
  cases parts with
  | nil => simp
  | cons part parts =>
      obtain ⟨hne, -, hslash⟩ := h part List.mem_cons_self
      obtain ⟨letter, rest, rfl⟩ := List.exists_cons_of_ne_nil hne
      have hletter : letter ≠ '/' := fun heq => hslash (heq ▸ List.mem_cons_self)
      cases parts with
      | nil => simpa using hletter
      | cons next parts => simpa [List.intercalate_cons_cons] using hletter

theorem rootOf_slashes (root : Root) {text : List Char} (h : text.head? ≠ some '/') :
    rootOf (root.slashes ++ text) = root := by
  cases text with
  | nil => cases root <;> rfl
  | cons letter text =>
      have hletter : letter ≠ '/' := fun heq => h (congrArg some heq)
      cases root <;> simp [Root.slashes, rootOf, hletter]

/-- **A path is read back from its text.** -/
theorem parse_str (path : PurePath) : parse path.str = path := by
  have hhead := intercalate_head path.named
  have hparts := partsOf_intercalate path.named
  unfold str render
  split
  · next hempty =>
    obtain ⟨hslashes, htext⟩ := List.append_eq_nil_iff.mp hempty
    rw [htext] at hparts
    refine ext ?_ ?_
    · show Root.relative = path.root
      revert hslashes
      cases path.root <;> simp [Root.slashes]
    · exact hparts
  · refine ext (rootOf_slashes path.root hhead) ?_
    show partsOf _ = path.parts
    cases path.root with
    | relative => exact hparts
    | single => exact (partsOf_slash _).trans hparts
    | double => exact ((partsOf_slash _).trans (partsOf_slash _)).trans hparts

theorem normpath_eq (text : List Char) : normpath text = (parse text).normal.str := rfl

/-! ### Normal forms -/

theorem normal_normal (path : PurePath) : path.normal.Normal :=
  settled_collapse fun before after h => by simp at h

theorem Normal.eq {path : PurePath} (h : path.Normal) : path.normal = path :=
  ext rfl (collapse_of_settled h)

theorem isRelativeTo_iff :
    path.isRelativeTo other = true ↔ path.root = other.root ∧ other.parts <+: path.parts := by
  simp [isRelativeTo]

theorem Below.isRelativeTo (h : path.Below other) :
    path.isRelativeTo other = true := by
  obtain ⟨hroot, names, hparts, -⟩ := h
  exact isRelativeTo_iff.mpr ⟨hroot, names, hparts.symm⟩

theorem Normal.of_isRelativeTo (h : path.Normal)
    (hother : path.isRelativeTo other = true) : other.Normal := by
  obtain ⟨hroot, names, hparts⟩ := isRelativeTo_iff.mp hother
  rw [Normal, ← hparts, hroot] at h
  exact h.left

theorem Normal.below_iff (h : path.Normal)
    (hother : path.isRelativeTo other = true) : path.Below other ↔ ¬path.Climbs other := by
  obtain ⟨hroot, names, hparts⟩ := isRelativeTo_iff.mp hother
  constructor
  · rintro ⟨-, names', hparts', hdotdot⟩ ⟨-, more, hmore⟩
    rw [hparts', List.append_assoc, List.append_cancel_left_eq] at hmore
    exact hdotdot (hmore ▸ List.mem_cons_self)
  · intro hclimbs
    refine ⟨hroot, names, hparts.symm, fun hdotdot => hclimbs ⟨hroot, ?_⟩⟩
    -- The first parent behind the other path has nothing but parents before it, so it comes first.
    obtain ⟨before, after, rfl⟩ := List.append_of_mem hdotdot
    rw [Normal, ← hparts] at h
    obtain ⟨-, hbefore⟩ := h (other.parts ++ before) after (by simp)
    cases before with
    | nil => exact ⟨after, by simpa using hparts⟩
    | cons first before =>
        obtain rfl : first = dotdot := hbefore first (by simp)
        exact ⟨before ++ dotdot :: after, by simpa using hparts⟩

theorem Below.parent (h : path.Below other) :
    path = other ∨ path.parent.Below other := by
  obtain ⟨hroot, names, hparts, hdotdot⟩ := h
  rcases List.eq_nil_or_concat names with rfl | ⟨names, last, rfl⟩
  · exact .inl (ext hroot (by rw [hparts, List.append_nil]))
  · rw [List.concat_eq_append] at hparts hdotdot
    refine .inr ⟨hroot, names, ?_, fun hmem => hdotdot (List.mem_append_left _ hmem)⟩
    show path.parts.dropLast = _
    rw [hparts, ← List.append_assoc, List.dropLast_concat]

theorem Normal.parent {path : PurePath} (h : path.Normal) : path.parent.Normal := by
  obtain ⟨last, hlast⟩ := List.dropLast_prefix path.parts
  rw [Normal, ← hlast] at h
  exact h.left

theorem Normal.not_climbs (h : path.Normal)
    (hother : other.root.rooted = true ∨ ∃ part ∈ other.parts, part ≠ dotdot) : ¬path.Climbs other := by
  rintro ⟨hroot, more, hmore⟩
  rw [Normal, ← hmore] at h
  obtain ⟨hrooted, hall⟩ := h other.parts more (by simp)
  rcases hother with hother | ⟨part, hpart, hne⟩
  · rw [hroot, hother] at hrooted
    cases hrooted
  · exact hne (hall part hpart)

end PurePath

end PosixPath

end IntegrationPlatform
