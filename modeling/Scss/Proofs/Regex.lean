import Scss.Proofs.Runs
import Scss.Proofs.Scan

/-!
# Regular expressions

Expressions are put together from single characters of a class, greedy runs of a class, sequences and
named groups. `Matches` says which texts an expression matches, and with which contents of its groups.
`ways` lists the ways to match at the front of a text, in the order in which a search that takes its
choices back tries them: a run takes as many characters as it can and then gives them back one by one.
The first way counts.

* `mem_ways_iff`: the list has all ways to match and no others.
* `first?_seq_many`: a run at the end of an expression takes all it can.
* `pattern`: scanning a text for an expression that never matches the empty text.
-/

namespace Scss

/-- An expression, with groups named by `γ`. -/
inductive Regex (γ : Type) where
  /-- One character of a class. -/
  | one (p : Char → Bool)
  /-- Any number of characters of a class, as many as possible. -/
  | many (p : Char → Bool)
  /-- One expression behind another. -/
  | seq (a b : Regex γ)
  /-- An expression whose text is kept under a name. -/
  | group (g : γ) (r : Regex γ)

namespace Regex

variable {γ : Type}

/-- A way to match at the front of a text. -/
structure Way (γ : Type) where
  /-- The text that is matched. -/
  text : Text
  /-- What the groups hold. -/
  groups : List (γ × Text)
  /-- What stands behind. -/
  rest : Text

namespace Way

/-- What a group holds. -/
def group? [DecidableEq γ] (w : Way γ) (g : γ) : Option Text :=
  w.groups.lookup g

/-- A way, and behind it another. -/
def followedBy (w v : Way γ) : Way γ :=
  ⟨w.text ++ v.text, w.groups ++ v.groups, v.rest⟩

end Way

/-- The runs of a class at the front of a text, the longest first. -/
def runs (p : Char → Bool) : Text → List (Way γ)
  | [] => [⟨[], [], []⟩]
  | c :: s =>
    if p c then (runs p s).map (fun w => { w with text := c :: w.text }) ++ [⟨[], [], c :: s⟩]
    else [⟨[], [], c :: s⟩]

/-- The ways to match at the front of a text, in the order in which they are tried. -/
def ways : Regex γ → Text → List (Way γ)
  | one _, [] => []
  | one p, c :: s => if p c then [⟨[c], [], s⟩] else []
  | many p, s => runs p s
  | seq a b, s => (a.ways s).flatMap fun w => (b.ways w.rest).map w.followedBy
  | group g r, s => (r.ways s).map fun w => { w with groups := (g, w.text) :: w.groups }

/-- The match at the front of a text. -/
def first? (r : Regex γ) (s : Text) : Option (Way γ) :=
  (r.ways s).head?

/-- The expression matches the whole text, with these contents of its groups. -/
inductive Matches : Regex γ → Text → List (γ × Text) → Prop
  | one {p : Char → Bool} {c : Char} : p c = true → Matches (one p) [c] []
  | many {p : Char → Bool} {x : Text} : (∀ c ∈ x, p c = true) → Matches (many p) x []
  | seq {a b : Regex γ} {x y : Text} {gs hs : List (γ × Text)} : Matches a x gs → Matches b y hs →
      Matches (seq a b) (x ++ y) (gs ++ hs)
  | group {g : γ} {r : Regex γ} {x : Text} {gs : List (γ × Text)} : Matches r x gs →
      Matches (group g r) x ((g, x) :: gs)

variable {a b r : Regex γ} {p : Char → Bool} {s t x : Text} {w : Way γ} {gs : List (γ × Text)}

theorem matches_one_iff : Matches (one p) x gs ↔ ∃ c, p c = true ∧ x = [c] ∧ gs = [] := by
  constructor
  · rintro ⟨⟩
    exact ⟨_, ‹_›, rfl, rfl⟩
  · rintro ⟨c, hc, rfl, rfl⟩
    exact .one hc

theorem matches_many_iff : Matches (many p) x gs ↔ (∀ c ∈ x, p c = true) ∧ gs = [] := by
  constructor
  · rintro ⟨⟩
    exact ⟨‹_›, rfl⟩
  · rintro ⟨hx, rfl⟩
    exact .many hx

theorem matches_seq_iff :
    Matches (seq a b) x gs ↔
      ∃ y z hs ks, x = y ++ z ∧ gs = hs ++ ks ∧ Matches a y hs ∧ Matches b z ks := by
  constructor
  · rintro ⟨⟩
    exact ⟨_, _, _, _, rfl, rfl, ‹_›, ‹_›⟩
  · rintro ⟨y, z, hs, ks, rfl, rfl, ha, hb⟩
    exact .seq ha hb

theorem matches_group_iff {g : γ} :
    Matches (group g r) x gs ↔ ∃ hs, gs = (g, x) :: hs ∧ Matches r x hs := by
  constructor
  · rintro ⟨⟩
    exact ⟨_, rfl, ‹_›⟩
  · rintro ⟨hs, rfl, hr⟩
    exact .group hr

theorem matches_one_seq_iff :
    Matches (seq (one p) b) x gs ↔ ∃ c y, x = c :: y ∧ p c = true ∧ Matches b y gs := by
  rw [matches_seq_iff]
  constructor
  · rintro ⟨_, y, _, ks, rfl, rfl, ha, hb⟩
    obtain ⟨c, hc, rfl, rfl⟩ := matches_one_iff.1 ha
    exact ⟨c, y, rfl, hc, hb⟩
  · rintro ⟨c, y, rfl, hc, hb⟩
    exact ⟨[c], y, [], gs, rfl, rfl, .one hc, hb⟩

theorem matches_many_seq_iff :
    Matches (seq (many p) b) x gs ↔
      ∃ y z, x = y ++ z ∧ (∀ c ∈ y, p c = true) ∧ Matches b z gs := by
  rw [matches_seq_iff]
  constructor
  · rintro ⟨y, z, _, ks, rfl, rfl, ha, hb⟩
    obtain ⟨hy, rfl⟩ := matches_many_iff.1 ha
    exact ⟨y, z, rfl, hy, hb⟩
  · rintro ⟨y, z, rfl, hy, hb⟩
    exact ⟨y, z, [], gs, rfl, rfl, .many hy, hb⟩

theorem mem_runs_iff :
    ⟨x, gs, t⟩ ∈ runs p s ↔ s = x ++ t ∧ (∀ c ∈ x, p c = true) ∧ gs = [] := by
  induction s generalizing x with
  | nil =>
    have hnil : ([] : Text) = x ++ t ↔ x = [] ∧ t = [] := by rw [eq_comm, List.append_eq_nil_iff]
    simp only [runs, List.mem_singleton, Way.mk.injEq, hnil]
    constructor
    · rintro ⟨rfl, rfl, rfl⟩
      simp
    · rintro ⟨⟨rfl, rfl⟩, -, rfl⟩
      simp
  | cons c s ih =>
    cases x with
    | nil =>
      -- the empty run comes last, whatever the character in front
      cases hc : p c <;> simp [runs, hc, and_comm, eq_comm (a := t)]
    | cons d x =>
      cases hc : p c with
      | false =>
        simp only [runs, hc]
        constructor
        · simp
        · rintro ⟨hs, hall, -⟩
          obtain ⟨rfl, -⟩ := List.cons.inj hs
          rw [hall c List.mem_cons_self] at hc
          cases hc
      | true =>
        simp only [runs, hc, if_true, List.mem_append, List.mem_map, List.mem_singleton]
        constructor
        · rintro (⟨⟨y, hs, u⟩, hv, heq⟩ | heq)
          · cases heq
            obtain ⟨rfl, hall, hgroups⟩ := ih.1 hv
            exact ⟨rfl, List.forall_mem_cons.2 ⟨hc, hall⟩, hgroups⟩
          · cases heq
        · rintro ⟨hs, hall, hgroups⟩
          obtain ⟨rfl, rfl⟩ := List.cons.inj hs
          refine .inl ⟨⟨x, gs, t⟩, ?_, rfl⟩
          exact ih.2 ⟨rfl, (List.forall_mem_cons.1 hall).2, hgroups⟩

/-- **The ways to match** are those in which the front of the text is matched. -/
theorem mem_ways_iff : ⟨x, gs, t⟩ ∈ r.ways s ↔ s = x ++ t ∧ Matches r x gs := by
  induction r generalizing s x gs t with
  | one p =>
    rw [matches_one_iff]
    constructor
    · intro h
      cases s with
      | nil => cases h
      | cons c s =>
        simp only [ways] at h
        split at h
        next hc =>
          cases List.mem_singleton.1 h
          exact ⟨rfl, c, hc, rfl, rfl⟩
        · cases h
    · rintro ⟨rfl, c, hc, rfl, rfl⟩
      simp [ways, hc]
  | many p =>
    rw [matches_many_iff]
    exact mem_runs_iff
  | seq a b iha ihb =>
    simp only [ways, List.mem_flatMap, List.mem_map]
    constructor
    · rintro ⟨⟨y, hs, u⟩, hu, ⟨z, hs', v⟩, hv, heq⟩
      cases heq
      obtain ⟨rfl, hmy⟩ := iha.1 hu
      obtain ⟨rfl, hmz⟩ := ihb.1 hv
      exact ⟨(List.append_assoc ..).symm, .seq hmy hmz⟩
    · rintro ⟨rfl, hm⟩
      cases hm with
      | @seq _ _ y z hs hs' hmy hmz =>
        refine ⟨⟨y, hs, z ++ t⟩, iha.2 ⟨List.append_assoc .., hmy⟩, ⟨z, hs', t⟩, ?_, rfl⟩
        exact ihb.2 ⟨rfl, hmz⟩
  | group g r ih =>
    simp only [ways, List.mem_map]
    constructor
    · rintro ⟨⟨y, hs, u⟩, hv, heq⟩
      cases heq
      obtain ⟨rfl, hm⟩ := ih.1 hv
      exact ⟨rfl, .group hm⟩
    · rintro ⟨rfl, hm⟩
      cases hm with
      | @group _ _ _ hs hm => exact ⟨⟨x, hs, t⟩, ih.2 ⟨rfl, hm⟩, rfl⟩

theorem mem_ways_of_first? (h : r.first? s = some w) : w ∈ r.ways s :=
  List.mem_of_head? h

theorem first?_eq_none_iff : r.first? s = none ↔ r.ways s = [] :=
  List.head?_eq_none_iff

theorem head?_runs (p : Char → Bool) (s : Text) :
    (runs p s).head? = some (⟨s.takeWhile p, [], s.dropWhile p⟩ : Way γ) := by
  induction s with
  | nil => rfl
  | cons c s ih => cases hc : p c <;> simp [runs, hc, ih]

/-- **A run at the end takes all it can.** -/
theorem first?_seq_many :
    (seq a (many p)).first? s =
      (a.first? s).map fun w => w.followedBy ⟨w.rest.takeWhile p, [], w.rest.dropWhile p⟩ := by
  simp only [first?, ways]
  cases a.ways s with
  | nil => rfl
  | cons w ws => simp [List.head?_append, head?_runs]

/-- The pattern of an expression that never matches the empty text: the match at the front. -/
def pattern (r : Regex γ) (h : ∀ {x gs}, r.Matches x gs → x ≠ []) : Pattern (Way γ) where
  read? s := (r.first? s).map fun w => (w, w.rest)
  shorter := by
    intro s w t hread
    obtain ⟨v, hfirst, heq⟩ := Option.map_eq_some_iff.1 hread
    cases heq
    obtain ⟨hs, hm⟩ := mem_ways_iff.1 (mem_ways_of_first? hfirst)
    have hpos := List.length_pos_iff.2 (h hm)
    rw [hs, List.length_append]
    omega

end Regex

end Scss
