import Scss.Disk.Basic
import Scss.Proofs.Bytes
import Scss.Proofs.Components
import Scss.Proofs.Tree

/-!
# Walking a tree

In a tree whose names can stand in folders and where no folder has two entries of one name
(`Folder.Proper`), every entry has one place. A walk in pre-order comes to the path of each place once,
whoever does it: that the siblings are sorted and that a folder comes right before what is inside it
(`Folder.Walks`) is enough for it to find all entries and nothing else (`Walks.mem_iff`), and for its
paths to be ascending in the order of components (`Walks.pairwise`). The order holds at every level at
once, since what was found below an entry has the name of the entry for its next component, and so
comes as a whole before or after what was found below another (`LiesAt.lt`).

* `Folder.walks_walk`: the walk of a folder is such a walk.
-/

namespace Scss

namespace Path

/-- What kind of step comes first in the order of paths. -/
def Component.rank {α : Type} : Component α → Nat
  | root => 0
  | here => 1
  | up => 2
  | normal _ => 3

/-- Steps are compared by their kinds, and names by their bytes. -/
instance : LT (Component UInt8) where
  lt a b := a.rank < b.rank ∨ ∃ m n, a = .normal m ∧ b = .normal n ∧ m < n

theorem Component.normal_lt {m n : Raw} (h : m < n) : Component.normal m < .normal n :=
  .inr ⟨m, n, rfl, rfl, h⟩

instance : Std.Asymm fun a b : Component UInt8 => a < b where
  asymm := by
    rintro a b (hrank | ⟨m, n, rfl, rfl, hlt⟩) (hrank' | ⟨m', n', hb, ha, hlt'⟩)
    · omega
    · subst hb ha
      exact Nat.lt_irrefl _ hrank
    · exact Nat.lt_irrefl _ hrank'
    · cases hb
      cases ha
      exact List.lt_asymm hlt hlt'

variable {α : Type} [DecidableEq α] [PathUnit α]

/-- The path that leads down from a folder by these names. -/
def below (base : List α) (names : List (List α)) : List α :=
  names.foldl join base

theorem components_below {names : List (List α)} (base : List α)
    (h : ∀ name ∈ names, IsFileName name) :
    components (below base names) = components base ++ names.map .normal := by
  induction names generalizing base with
  | nil => simp [below]
  | cons name names ih =>
    have hname := h name List.mem_cons_self
    have hnames := ih (join base name) fun n hn => h n (List.mem_cons_of_mem name hn)
    rw [components_join base hname, List.append_assoc, List.singleton_append] at hnames
    exact hnames

end Path

/-- A name that an entry can have: no dots that lead elsewhere, without slash and NUL, and not too
long. -/
def Folder.IsName (name : Raw) : Prop :=
  Path.IsFileName name ∧ 0 ∉ name ∧ name.length ≤ Disk.longestName

instance (name : Raw) : Decidable (Folder.IsName name) :=
  inferInstanceAs (Decidable (Path.IsFileName name ∧ 0 ∉ name ∧ name.length ≤ Disk.longestName))

/-- The entries have names that they can have, and no folder has two entries of one name. -/
def Folder.Proper : Folder → Prop
  | empty => True
  | file name _ rest => IsName name ∧ rest.get? name = none ∧ rest.Proper
  | folder name inside rest =>
    IsName name ∧ rest.get? name = none ∧ inside.Proper ∧ rest.Proper

namespace Node

/-- A file, or a proper tree. -/
def Proper : Node → Prop
  | file _ => True
  | folder inside => inside.Proper

/-- What is found below an entry. -/
def at? (node : Node) (names : Place) : Option Node :=
  match node, names with
  | node, [] => some node
  | folder inside, names => inside.at? names
  | file _, _ => none

end Node

namespace Folder

open Scss.Path

variable {f inside : Folder} {name base n q x y : Raw} {names place : Place} {node : Node}
  {bytes : ByteArray} {deep : Bool} {siblings : List (Raw × Node)} {found : List Raw}

/-! ### Proper trees -/

instance decidableProper : (f : Folder) → Decidable f.Proper
  | empty => isTrue trivial
  | file name _ rest =>
    have := decidableProper rest
    inferInstanceAs (Decidable (IsName name ∧ rest.get? name = none ∧ rest.Proper))
  | folder name inside rest =>
    have := decidableProper inside
    have := decidableProper rest
    inferInstanceAs
      (Decidable (IsName name ∧ rest.get? name = none ∧ inside.Proper ∧ rest.Proper))

theorem get?_ne_none_of_mem {e : Raw × Node} (h : e ∈ f.entries) : f.get? e.1 ≠ none := by
  induction f with
  | empty => cases h
  | file name bytes rest ih =>
    rcases List.mem_cons.1 h with rfl | h
    · simp [get?]
    · rw [get?]
      split
      · simp
      · exact ih h
  | folder name inside rest _ ih =>
    rcases List.mem_cons.1 h with rfl | h
    · simp [get?]
    · rw [get?]
      split
      · simp
      · exact ih h

theorem Proper.of_mem (hf : f.Proper) (h : (name, node) ∈ f.entries) : IsName name ∧ node.Proper := by
  induction f with
  | empty => cases h
  | file n bytes rest ih =>
    rcases List.mem_cons.1 h with heq | h
    · obtain ⟨rfl, rfl⟩ := Prod.mk.inj heq
      exact ⟨hf.1, trivial⟩
    · exact ih hf.2.2 h
  | folder n inside rest _ ih =>
    rcases List.mem_cons.1 h with heq | h
    · obtain ⟨rfl, rfl⟩ := Prod.mk.inj heq
      exact ⟨hf.1, hf.2.2.1⟩
    · exact ih hf.2.2.2 h

theorem pairwise_entries (hf : f.Proper) : f.entries.Pairwise fun a b => a.1 ≠ b.1 := by
  induction f with
  | empty => exact .nil
  | file name bytes rest ih =>
    refine List.pairwise_cons.2 ⟨fun e he => ?_, ih hf.2.2⟩
    rintro rfl
    exact get?_ne_none_of_mem he hf.2.1
  | folder name inside rest _ ih =>
    refine List.pairwise_cons.2 ⟨fun e he => ?_, ih hf.2.2.2⟩
    rintro rfl
    exact get?_ne_none_of_mem he hf.2.1

/-- Each entry is found under its name. -/
theorem mem_entries_iff (hf : f.Proper) : (name, node) ∈ f.entries ↔ f.get? name = some node := by
  have hcons : ∀ {n : Raw} {entry : Node} {rest : Folder}, rest.get? n = none →
      ((name, node) ∈ rest.entries ↔ rest.get? name = some node) →
      ((name, node) ∈ (n, entry) :: rest.entries ↔
        (if n = name then some entry else rest.get? name) = some node) := by
    intro n entry rest hnone ih
    rw [List.mem_cons, ih, Prod.mk.injEq]
    split
    next heq =>
      subst heq
      simp [hnone, eq_comm]
    next hne => simp [Ne.symm hne]
  induction f with
  | empty => simp [entries, get?]
  | file n bytes rest ih => exact hcons hf.2.1 (ih hf.2.2)
  | folder n inside rest _ ih => exact hcons hf.2.1 (ih hf.2.2.2)

theorem Proper.of_get? (hf : f.Proper) (h : f.get? name = some node) : IsName name ∧ node.Proper :=
  hf.of_mem ((mem_entries_iff hf).2 h)

theorem at?_cons_of_none (h : f.get? name = none) (names : Place) : f.at? (name :: names) = none := by
  simp only [at?, h]

theorem at?_cons_of_file (h : f.get? name = some (.file bytes)) (names : Place) :
    f.at? (name :: names) = if names = [] then some (.file bytes) else none := by
  cases names <;> simp [at?, h]

theorem Proper.of_at? (hf : f.Proper) (h : f.at? names = some node) :
    (∀ name ∈ names, IsName name) ∧ node.Proper := by
  induction names generalizing f with
  | nil =>
    obtain rfl := Option.some.inj h
    exact ⟨by simp, hf⟩
  | cons name names ih =>
    cases hget : f.get? name with
    | none =>
      rw [at?_cons_of_none hget] at h
      cases h
    | some found =>
      obtain ⟨hname, hfound⟩ := hf.of_get? hget
      cases found with
      | file bytes =>
        rw [at?_cons_of_file hget] at h
        split at h
        next hnil =>
          obtain rfl := Option.some.inj h
          exact ⟨by simpa [hnil] using hname, trivial⟩
        next => cases h
      | folder g =>
        rw [at?_cons_of_folder hget] at h
        obtain ⟨hnames, hnode⟩ := ih hfound h
        exact ⟨List.forall_mem_cons.2 ⟨hname, hnames⟩, hnode⟩

theorem at?_append (h : f.at? place = some (.folder inside)) (names : Place) :
    f.at? (place ++ names) = inside.at? names := by
  induction place generalizing f with
  | nil =>
    obtain rfl := Node.folder.inj (Option.some.inj h)
    rfl
  | cons name place ih =>
    obtain ⟨g, hget, hg⟩ := get?_of_at?_cons h
    rw [List.cons_append, at?_cons_of_folder hget, ih hg]

/-- What stands above something is a folder. -/
theorem entryAt_of_append (h : f.entryAt (place ++ name :: names) ≠ none) :
    f.entryAt place = some .folder := by
  rw [ne_eq, entryAt_eq_none_iff] at h
  induction place generalizing f with
  | nil => exact entryAt_nil f
  | cons m place ih =>
    rw [List.cons_append] at h
    cases hget : f.get? m with
    | none => exact absurd (at?_cons_of_none hget _) h
    | some node =>
      cases node with
      | file bytes =>
        rw [at?_cons_of_file hget] at h
        simp at h
      | folder g =>
        rw [at?_cons_of_folder hget] at h
        rw [entryAt_cons_of_folder hget]
        exact ih h

theorem at?_cons (f : Folder) (name : Raw) (names : Place) :
    f.at? (name :: names) = (f.get? name).bind fun node => node.at? names := by
  cases hget : f.get? name with
  | none => exact at?_cons_of_none hget names
  | some node =>
    cases node with
    | file bytes =>
      rw [at?_cons_of_file hget]
      cases names <;> rfl
    | folder inside =>
      rw [at?_cons_of_folder hget]
      cases names <;> rfl

/-! ### Walks in pre-order -/

/-- The entries of a folder in the order of their names. -/
structure InOrder (siblings : List (Raw × Node)) (f : Folder) : Prop where
  perm : siblings.Perm f.entries
  sorted : siblings.Pairwise fun a b => a.1 < b.1

/-- The paths of siblings in a folder whose path is `base`, one after another. In a deep walk the path of
a folder is followed by those of the entries inside it, in the order of their names. -/
inductive Visits (deep : Bool) : Raw → List (Raw × Node) → List Raw → Prop
  | nil {base : Raw} : Visits deep base [] []
  | file {base name : Raw} {bytes : ByteArray} {rest : List (Raw × Node)} {found : List Raw} :
      Visits deep base rest found →
      Visits deep base ((name, .file bytes) :: rest) (join base name :: found)
  /-- A folder is passed in a walk that is not deep. -/
  | passed {base name : Raw} {inside : Folder} {rest : List (Raw × Node)} {found : List Raw} :
      deep = false → Visits deep base rest found →
      Visits deep base ((name, .folder inside) :: rest) (join base name :: found)
  /-- In a deep walk a folder is entered before the next sibling is visited. -/
  | entered {base name : Raw} {inside : Folder} {rest siblings : List (Raw × Node)}
      {inner found : List Raw} :
      deep = true → InOrder siblings inside → Visits deep (join base name) siblings inner →
      Visits deep base rest found →
      Visits deep base ((name, .folder inside) :: rest) (join base name :: inner ++ found)

/-- **A walk in pre-order** through a folder whose path is `base`: this path, and behind it those of the
entries, siblings in the order of their names. -/
def Walks (deep : Bool) (base : Raw) (f : Folder) (found : List Raw) : Prop :=
  ∃ siblings paths, InOrder siblings f ∧ Visits deep base siblings paths ∧ found = base :: paths

/-! ### What a walk finds -/

/-- The path leads to an entry of a folder or, if `deep`, to something below it. -/
def LiesAt (deep : Bool) (base name : Raw) (node : Node) (q : Raw) : Prop :=
  ∃ names, (node.at? names).isSome = true ∧ q = below base (name :: names) ∧
    (deep = true ∨ names = [])

theorem liesAt_of_shallow (h : deep = true → ∃ bytes, node = .file bytes) :
    LiesAt deep base name node q ↔ q = join base name := by
  constructor
  · rintro ⟨names, hat, rfl, hdeep⟩
    obtain rfl : names = [] := by
      rcases hdeep with hdeep | hnil
      · obtain ⟨bytes, rfl⟩ := h hdeep
        cases names with
        | nil => rfl
        | cons n names => cases hat
      · exact hnil
    rfl
  · rintro rfl
    refine ⟨[], ?_, rfl, .inr rfl⟩
    cases node <;> rfl

/-- Something is found below a name if the entry of that name has it. -/
theorem isSome_at?_cons_iff (hf : f.Proper) :
    (f.at? (n :: names)).isSome = true ↔
      ∃ node, (n, node) ∈ f.entries ∧ (node.at? names).isSome = true := by
  rw [at?_cons]
  simp only [mem_entries_iff hf]
  cases f.get? n <;> simp

theorem liesAt_folder (hinside : inside.Proper) :
    LiesAt true base name (.folder inside) q ↔
      q = join base name ∨ ∃ e ∈ inside.entries, LiesAt true (join base name) e.1 e.2 q := by
  constructor
  · rintro ⟨names, hat, rfl, -⟩
    cases names with
    | nil => exact .inl rfl
    | cons n names =>
      obtain ⟨node, hmem, hnames⟩ := (isSome_at?_cons_iff hinside).1 hat
      exact .inr ⟨(n, node), hmem, names, hnames, rfl, .inl rfl⟩
  · rintro (rfl | ⟨⟨n, node⟩, hmem, names, hnames, rfl, -⟩)
    · exact ⟨[], rfl, rfl, .inl rfl⟩
    · exact ⟨n :: names, (isSome_at?_cons_iff hinside).2 ⟨node, hmem, hnames⟩, rfl, .inl rfl⟩

theorem Visits.mem_iff (h : Visits deep base siblings found)
    (hproper : ∀ e ∈ siblings, IsName e.1 ∧ e.2.Proper) :
    q ∈ found ↔ ∃ e ∈ siblings, LiesAt deep base e.1 e.2 q := by
  induction h with
  | nil => simp
  | file _ ih =>
    rw [List.mem_cons, ih fun e he => hproper e (List.mem_cons_of_mem _ he)]
    simp [liesAt_of_shallow]
  | passed hdeep _ ih =>
    rw [List.mem_cons, ih fun e he => hproper e (List.mem_cons_of_mem _ he)]
    simp [liesAt_of_shallow, hdeep]
  | @entered base name inside rest siblings inner found hdeep horder _ _ ihInner ih =>
    have hinside : inside.Proper := (hproper _ List.mem_cons_self).2
    have hinner : ∀ e ∈ siblings, IsName e.1 ∧ e.2.Proper :=
      fun e he => hinside.of_mem (horder.perm.mem_iff.1 he)
    subst hdeep
    rw [List.cons_append, List.mem_cons, List.mem_append, ihInner hinner,
      ih fun e he => hproper e (List.mem_cons_of_mem _ he)]
    simp only [List.mem_cons, exists_eq_or_imp, liesAt_folder hinside, horder.perm.mem_iff, or_assoc]

/-- **A walk comes to every entry**, or to every one directly in the folder, and to the folder
itself. -/
theorem Walks.mem_iff (h : Walks deep base f found) (hf : f.Proper) :
    q ∈ found ↔ ∃ names, (f.at? names).isSome = true ∧ q = below base names ∧
      (deep = true ∨ names.length ≤ 1) := by
  obtain ⟨siblings, paths, horder, hvisits, rfl⟩ := h
  have hproper : ∀ e ∈ siblings, IsName e.1 ∧ e.2.Proper :=
    fun e he => hf.of_mem (horder.perm.mem_iff.1 he)
  rw [List.mem_cons, hvisits.mem_iff hproper]
  constructor
  · rintro (rfl | ⟨⟨n, node⟩, he, names, hnames, rfl, hdeep⟩)
    · exact ⟨[], rfl, rfl, .inr (Nat.zero_le 1)⟩
    · have hat := (isSome_at?_cons_iff hf).2 ⟨node, horder.perm.mem_iff.1 he, hnames⟩
      exact ⟨n :: names, hat, rfl, hdeep.imp id (by rintro rfl; exact Nat.le_refl 1)⟩
  · rintro ⟨names, hat, rfl, hdeep⟩
    cases names with
    | nil => exact .inl rfl
    | cons n names =>
      obtain ⟨node, hmem, hnames⟩ := (isSome_at?_cons_iff hf).1 hat
      exact .inr ⟨(n, node), horder.perm.mem_iff.2 hmem, names, hnames, rfl, hdeep.imp id (by simp)⟩

/-! ### The order of a walk -/

/-- What lies at or below an entry has the name of the entry for its next component. -/
theorem LiesAt.components_eq (h : LiesAt deep base name node q) (hname : IsName name)
    (hnode : node.Proper) : ∃ steps, components q = components base ++ .normal name :: steps := by
  obtain ⟨names, hat, rfl, -⟩ := h
  have hnames : ∀ n ∈ names, IsFileName n := by
    intro n hn
    cases node with
    | file bytes =>
      cases names with
      | nil => cases hn
      | cons => cases hat
    | folder inside =>
      cases names with
      | nil => cases hn
      | cons m names =>
        obtain ⟨found, hfound⟩ := Option.isSome_iff_exists.1 hat
        exact ((Proper.of_at? hnode hfound).1 n hn).1
  exact ⟨_, components_below base (List.forall_mem_cons.2 ⟨hname.1, hnames⟩)⟩

/-- What was found below a name comes before what was found below a later one. -/
theorem LiesAt.lt {e e' : Raw × Node} (hx : LiesAt deep base e.1 e.2 x)
    (hy : LiesAt deep base e'.1 e'.2 y) (he : IsName e.1 ∧ e.2.Proper)
    (he' : IsName e'.1 ∧ e'.2.Proper) (hlt : e.1 < e'.1) : components x < components y := by
  obtain ⟨steps, hsteps⟩ := hx.components_eq he.1 he.2
  obtain ⟨steps', hsteps'⟩ := hy.components_eq he'.1 he'.2
  rw [hsteps, hsteps']
  exact List.append_left_lt (List.cons_lt_cons_iff.2 (.inl (Component.normal_lt hlt)))

/-- A folder comes before what lies in it. -/
theorem LiesAt.base_lt (h : LiesAt deep base name node q) (hname : IsName name)
    (hnode : node.Proper) : components base < components q := by
  obtain ⟨steps, hsteps⟩ := h.components_eq hname hnode
  rw [hsteps]
  have hlt : components base ++ [] < components base ++ .normal name :: steps :=
    List.append_left_lt (List.nil_lt_cons _ steps)
  rwa [List.append_nil] at hlt

/-- What was found at or below the first of the siblings comes before all that follows. -/
theorem pairwise_found_append {e : Raw × Node} (block : List Raw)
    (hproper : ∀ e' ∈ e :: siblings, IsName e'.1 ∧ e'.2.Proper)
    (hsorted : (e :: siblings).Pairwise fun a b => a.1 < b.1)
    (hblock : block.Pairwise fun x y => components x < components y)
    (hfound : found.Pairwise fun x y => components x < components y)
    (hx : ∀ x ∈ block, LiesAt deep base e.1 e.2 x)
    (hy : ∀ y ∈ found, ∃ e' ∈ siblings, LiesAt deep base e'.1 e'.2 y) :
    (block ++ found).Pairwise fun x y => components x < components y := by
  refine List.pairwise_append.2 ⟨hblock, hfound, fun x hxmem y hymem => ?_⟩
  obtain ⟨e', he', hlies⟩ := hy y hymem
  exact (hx x hxmem).lt hlies (hproper e List.mem_cons_self)
    (hproper e' (List.mem_cons_of_mem e he')) (List.rel_of_pairwise_cons hsorted he')

/-- The same where the first of the siblings is not walked through. -/
theorem pairwise_found_cons {e : Raw × Node} (hshallow : deep = true → ∃ bytes, e.2 = .file bytes)
    (hproper : ∀ e' ∈ e :: siblings, IsName e'.1 ∧ e'.2.Proper)
    (hsorted : (e :: siblings).Pairwise fun a b => a.1 < b.1)
    (hfound : found.Pairwise fun x y => components x < components y)
    (hy : ∀ y ∈ found, ∃ e' ∈ siblings, LiesAt deep base e'.1 e'.2 y) :
    (join base e.1 :: found).Pairwise fun x y => components x < components y := by
  refine pairwise_found_append [join base e.1] hproper hsorted (List.pairwise_singleton _ _) hfound ?_ hy
  intro x hx
  exact (liesAt_of_shallow hshallow).2 (List.mem_singleton.1 hx)

theorem Visits.pairwise (h : Visits deep base siblings found)
    (hproper : ∀ e ∈ siblings, IsName e.1 ∧ e.2.Proper)
    (hsorted : siblings.Pairwise fun a b => a.1 < b.1) :
    found.Pairwise fun x y => components x < components y := by
  induction h with
  | nil => exact .nil
  | file hvisits ih =>
    have hrest := fun e he => hproper e (List.mem_cons_of_mem _ he)
    exact pairwise_found_cons (by simp) hproper hsorted (ih hrest hsorted.of_cons) fun y hy =>
      (hvisits.mem_iff hrest).1 hy
  | passed hdeep hvisits ih =>
    have hrest := fun e he => hproper e (List.mem_cons_of_mem _ he)
    exact pairwise_found_cons (by simp [hdeep]) hproper hsorted (ih hrest hsorted.of_cons) fun y hy =>
      (hvisits.mem_iff hrest).1 hy
  | @entered base name inside rest siblings inner found hdeep horder hinner hvisits ihInner ih =>
    subst hdeep
    have hrest := fun e he => hproper e (List.mem_cons_of_mem _ he)
    have hinside : inside.Proper := (hproper _ List.mem_cons_self).2
    have hsiblings : ∀ e ∈ siblings, IsName e.1 ∧ e.2.Proper :=
      fun e he => hinside.of_mem (horder.perm.mem_iff.1 he)
    have hlies : ∀ q ∈ inner, ∃ e ∈ siblings, LiesAt true (join base name) e.1 e.2 q :=
      fun q hq => (hinner.mem_iff hsiblings).1 hq
    refine pairwise_found_append (join base name :: inner) hproper hsorted ?_
      (ih hrest hsorted.of_cons) ?_ fun y hy => (hvisits.mem_iff hrest).1 hy
    · refine List.pairwise_cons.2 ⟨fun q hq => ?_, ihInner hsiblings horder.sorted⟩
      obtain ⟨e, he, hq⟩ := hlies q hq
      exact hq.base_lt (hsiblings e he).1 (hsiblings e he).2
    · intro x hx
      rw [liesAt_folder hinside]
      refine (List.mem_cons.1 hx).imp id fun hx => ?_
      obtain ⟨e, he, hq⟩ := hlies x hx
      exact ⟨e, horder.perm.mem_iff.1 he, hq⟩

/-- **A walk is ascending.** -/
theorem Walks.pairwise (h : Walks deep base f found) (hf : f.Proper) :
    found.Pairwise fun x y => components x < components y := by
  obtain ⟨siblings, paths, horder, hvisits, rfl⟩ := h
  have hproper : ∀ e ∈ siblings, IsName e.1 ∧ e.2.Proper :=
    fun e he => hf.of_mem (horder.perm.mem_iff.1 he)
  refine List.pairwise_cons.2 ⟨fun q hq => ?_, hvisits.pairwise hproper horder.sorted⟩
  obtain ⟨e, he, hlies⟩ := (hvisits.mem_iff hproper).1 hq
  exact hlies.base_lt (hproper e he).1 (hproper e he).2

/-! ### The walk of a folder -/

/-- What the walk of a folder finds for one of its entries. -/
def entryWalk (deep : Bool) (base : Raw) (e : Raw × Node) : List Raw :=
  match deep, e with
  | true, (name, .folder inside) => inside.walk true (join base name)
  | _, (name, _) => [join base name]

/-- The entries of a folder, sorted by their names. -/
def sorted (f : Folder) : List (Raw × Node) :=
  f.entries.mergeSort fun a b => decide (a.1 ≤ b.1)

theorem walkEntries_eq (f : Folder) (deep : Bool) (base : Raw) :
    f.walkEntries deep base = f.entries.map fun e => (e.1, entryWalk deep base e) := by
  induction f with
  | empty => rfl
  | file name bytes rest ih =>
    rw [walkEntries, entries, List.map_cons, ih]
    cases deep <;> rfl
  | folder name inside rest _ ih =>
    rw [walkEntries, entries, List.map_cons, ih]
    cases deep <;> rfl

theorem walk_eq (f : Folder) (deep : Bool) (base : Raw) :
    f.walk deep base = base :: f.sorted.flatMap (entryWalk deep base) := by
  unfold walk gather sorted
  rw [walkEntries_eq, ← List.map_mergeSort (r := fun a b => decide (a.1 ≤ b.1)) (by simp),
    List.flatMap_map]

theorem inOrder_sorted (hf : f.Proper) : InOrder f.sorted f := by
  have hperm : f.sorted.Perm f.entries := List.mergeSort_perm _ _
  refine ⟨hperm, ?_⟩
  have hle : f.sorted.Pairwise fun a b => a.1 ≤ b.1 := by
    have htrans : ∀ a b c : Raw × Node, decide (a.1 ≤ b.1) = true → decide (b.1 ≤ c.1) = true →
        decide (a.1 ≤ c.1) = true := by
      simpa using fun a _ b _ c _ => List.le_trans
    have htotal : ∀ a b : Raw × Node, (decide (a.1 ≤ b.1) || decide (b.1 ≤ a.1)) = true := by
      simpa using fun a _ b _ => List.le_total a b
    exact (List.pairwise_mergeSort htrans htotal f.entries).imp of_decide_eq_true
  have hne : f.sorted.Pairwise fun a b => a.1 ≠ b.1 :=
    (pairwise_entries hf).perm hperm.symm Ne.symm
  exact hle.imp₂ (fun _ _ hab hne => Std.lt_of_le_of_ne hab hne) hne

/-- Siblings are visited one by one if the folders among them are walked through. -/
theorem visits_flatMap (deep : Bool) (base : Raw)
    (h : deep = true → ∀ e ∈ siblings, ∀ inside, e.2 = .folder inside → ∀ path,
      Walks true path inside (inside.walk true path)) :
    Visits deep base siblings (siblings.flatMap (entryWalk deep base)) := by
  induction siblings with
  | nil => exact .nil
  | cons e rest ih =>
    have hrest := ih fun hdeep e he => h hdeep e (List.mem_cons_of_mem _ he)
    obtain ⟨name, node⟩ := e
    cases node with
    | file bytes => cases deep <;> exact .file hrest
    | folder inside =>
      cases deep with
      | false => exact .passed rfl hrest
      | true =>
        obtain ⟨siblings, paths, horder, hvisits, heq⟩ :=
          h rfl (name, .folder inside) List.mem_cons_self inside rfl (join base name)
        rw [List.flatMap_cons]
        show Visits true base _ (inside.walk true (join base name) ++ _)
        rw [heq]
        exact .entered rfl horder hvisits hrest

theorem walks_of_entries (hf : f.Proper)
    (h : ∀ e ∈ f.entries, ∀ inside, e.2 = .folder inside → ∀ path,
      Walks true path inside (inside.walk true path)) (deep : Bool) (base : Raw) :
    Walks deep base f (f.walk deep base) := by
  have horder := inOrder_sorted hf
  have hvisits : Visits deep base f.sorted (f.sorted.flatMap (entryWalk deep base)) :=
    visits_flatMap deep base fun _ e he => h e (horder.perm.mem_iff.1 he)
  exact ⟨f.sorted, _, horder, hvisits, walk_eq f deep base⟩

theorem walks_inside (hf : f.Proper) :
    ∀ e ∈ f.entries, ∀ inside, e.2 = .folder inside → ∀ path,
      Walks true path inside (inside.walk true path) := by
  induction f with
  | empty => simp [entries]
  | file name bytes rest ih =>
    refine List.forall_mem_cons.2 ⟨?_, ih hf.2.2⟩
    intro inside h
    cases h
  | folder name inside rest ihInside ihRest =>
    refine List.forall_mem_cons.2 ⟨?_, ihRest hf.2.2.2⟩
    intro inside' h path
    obtain rfl := Node.folder.inj h
    exact walks_of_entries hf.2.2.1 (ihInside hf.2.2.1) true path

/-- **The walk of a folder** is one in pre-order. -/
theorem walks_walk (hf : f.Proper) (deep : Bool) (base : Raw) :
    Walks deep base f (f.walk deep base) :=
  walks_of_entries hf (walks_inside hf) deep base

end Folder

end Scss
