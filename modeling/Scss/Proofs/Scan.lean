import Scss.Scan

/-!
# Induction along a scan

A scan meets one of three situations: the text is at its end, an item stands at the front, or a
character at which no item starts. `Pattern.scan_induction` is the induction principle of these three
cases, and the equations below say in each of them what `found` and `replace` give; nothing else
about `pieces` is needed to reason about a scan.

* `scan_induction`: the induction principle.
* `found_of_some`, `replace_of_some`, ...: one step of a scan.
* `found_eq_map`: patterns that read alike find alike.
* `pieces_append_of_notMem`: a scan passes over a stretch in which no item can start.
* `found_append_of_cut`: a scan can be cut where no item goes on.
* `isInfix_of_isInfix_replace`: a rewritten text holds nothing new that no item can start inside and
  that what is put in neither holds nor begins.
-/

namespace Scss

namespace Pattern

variable {α : Type} {p : Pattern α}

/-- **Induction along a scan.** -/
@[elab_as_elim]
theorem scan_induction {motive : Text → Prop} (nil : motive [])
    (item : ∀ s a r, p.read? s = some (a, r) → motive r → motive s)
    (plain : ∀ c t, p.read? (c :: t) = none → motive t → motive (c :: t)) (s : Text) :
    motive s := by
  fun_induction p.pieces s with
  | case1 => exact nil
  | case2 c t a r h _ ih => exact item (c :: t) a r h ih
  | case3 c t h ih => exact plain c t h ih

@[simp] theorem found_nil : p.found [] = [] := by simp [found]

@[simp] theorem replace_nil (f : α → Text) : p.replace f [] = [] := by simp [replace]

variable {c : Char} {s t r : Text} {a : α}

theorem found_of_some (h : p.read? s = some (a, r)) : p.found s = a :: p.found r := by
  simp [found, p.pieces_of_some h]

theorem found_of_none (h : p.read? (c :: t) = none) : p.found (c :: t) = p.found t := by
  simp [found, p.pieces_of_none h]

theorem replace_of_some (f : α → Text) (h : p.read? s = some (a, r)) :
    p.replace f s = f a ++ p.replace f r := by
  simp [replace, p.pieces_of_some h]

theorem replace_of_none (f : α → Text) (h : p.read? (c :: t) = none) :
    p.replace f (c :: t) = c :: p.replace f t := by
  simp [replace, p.pieces_of_none h]

/-- Patterns that read the same up to a function find the same up to it. -/
theorem found_eq_map {β : Type} {q : Pattern β} {f : β → α}
    (h : ∀ s, p.read? s = (q.read? s).map fun ar => (f ar.1, ar.2)) (s : Text) :
    p.found s = (q.found s).map f := by
  induction s using scan_induction (p := q) with
  | nil => simp
  | item s b r hs ih =>
    have hp : p.read? s = some (f b, r) := by rw [h, hs]; rfl
    rw [found_of_some hs, found_of_some hp, ih, List.map_cons]
  | plain c t hs ih =>
    have hp : p.read? (c :: t) = none := by rw [h, hs]; rfl
    rw [found_of_none hs, found_of_none hp, ih]

/-- Where there are no items, there is nothing to rewrite. -/
theorem replace_eq_self (f : α → Text) (h : p.found s = []) : p.replace f s = s := by
  induction s using scan_induction (p := p) with
  | nil => exact replace_nil f
  | item s a r hs _ => rw [found_of_some hs] at h; cases h
  | plain c t hs ih =>
    rw [found_of_none hs] at h
    rw [replace_of_none f hs, ih h]

/-- All items of the pattern begin with the character `d`. -/
def StartsAt (p : Pattern α) (d : Char) : Prop :=
  ∀ c t, c ≠ d → p.read? (c :: t) = none

/-- **A scan passes over** a stretch without the first character of items. -/
theorem pieces_append_of_notMem {d : Char} (hp : p.StartsAt d) {x : Text} (hx : d ∉ x) (y : Text) :
    p.pieces (x ++ y) = x.map .plain ++ p.pieces y := by
  induction x with
  | nil => rfl
  | cons c x ih =>
    rw [List.mem_cons, not_or] at hx
    rw [List.cons_append, p.pieces_of_none (hp c (x ++ y) (Ne.symm hx.1)), ih hx.2]
    rfl

theorem found_append_of_notMem {d : Char} (hp : p.StartsAt d) {x : Text} (hx : d ∉ x) (y : Text) :
    p.found (x ++ y) = p.found y := by
  simp [found, pieces_append_of_notMem hp hx]

theorem replace_append_of_notMem (f : α → Text) {d : Char} (hp : p.StartsAt d) {x : Text}
    (hx : d ∉ x) (y : Text) : p.replace f (x ++ y) = x ++ p.replace f y := by
  unfold replace
  rw [pieces_append_of_notMem hp hx, List.flatMap_append, List.flatMap_map]
  simp

/-- **A scan can be cut** in front of `y`, where items go on neither into `y` nor because of it. What is
left behind an item may change, if it still has the same items. -/
theorem found_append_of_cut (x : Text) {y : Text}
    (hsome : ∀ s a r, p.read? s = some (a, r) →
      ∃ r', p.read? (s ++ y) = some (a, r') ∧ p.found r' = p.found (r ++ y))
    (hnone : ∀ s, s ≠ [] → p.read? s = none → p.read? (s ++ y) = none) :
    p.found (x ++ y) = p.found x ++ p.found y := by
  induction x using scan_induction (p := p) with
  | nil => simp
  | item s a r hs ih =>
    obtain ⟨r', hr', hfound⟩ := hsome s a r hs
    rw [found_of_some hr', found_of_some hs, hfound, ih, List.cons_append]
  | plain c t hs ih =>
    have h := hnone (c :: t) (List.cons_ne_nil c t) hs
    rw [List.cons_append] at h ⊢
    rw [found_of_none h, found_of_none hs, ih]

/-! ### What a rewritten text holds -/

/-- What a rewritten text begins with was there before, if no item can start in the middle of it. -/
theorem isPrefix_of_isPrefix_replace {d : Char} (hp : p.StartsAt d) {f : α → Text} {z : Text}
    (hfree : ∀ x y, z = x ++ y → y ≠ [] → ¬ x ++ [d] <+: s) (h : z <+: p.replace f s) : z <+: s := by
  induction z generalizing s with
  | nil => exact List.nil_prefix
  | cons e z ih =>
    cases s with
    | nil =>
      rw [replace_nil] at h
      exact absurd (List.prefix_nil.1 h) (List.cons_ne_nil e z)
    | cons c t =>
      -- an item would have to start right here
      have hc : c ≠ d := by
        rintro rfl
        exact hfree [] (e :: z) rfl (List.cons_ne_nil e z) ⟨t, rfl⟩
      rw [replace_of_none f (hp c t hc)] at h
      obtain ⟨rfl, hz⟩ := List.cons_prefix_cons.1 h
      refine List.cons_prefix_cons.2 ⟨rfl, ih (fun x y hxy hy hx => ?_) hz⟩
      refine hfree (e :: x) y (by rw [hxy, List.cons_append]) hy ?_
      exact List.cons_prefix_cons.2 ⟨rfl, hx⟩

/-- **A rewritten text holds nothing new** of a text `z` in the middle of which no item starts, if
nothing that is put in holds `z` or ends in a beginning of it. -/
theorem isInfix_of_isInfix_replace {d : Char} (hp : p.StartsAt d) {f : α → Text} {z : Text}
    (hz : z ≠ []) (hrest : ∀ s a r, p.read? s = some (a, r) → r <:+ s)
    (hwhole : ∀ s a r, p.read? s = some (a, r) → ¬ z <:+: f a)
    (hends : ∀ s a r, p.read? s = some (a, r) →
      ∀ x y, z = x ++ y → x ≠ [] → y ≠ [] → ¬ x <:+ f a)
    (hfree : ∀ x y, z = x ++ y → x ≠ [] → y ≠ [] → ¬ x ++ [d] <:+: s)
    (h : z <:+: p.replace f s) : z <:+: s := by
  induction s using scan_induction (p := p) with
  | nil => rwa [replace_nil] at h
  | item s a r hs ih =>
    have hsuffix := (hrest s a r hs).isInfix
    have hfree' : ∀ x y, z = x ++ y → x ≠ [] → y ≠ [] → ¬ x ++ [d] <:+: r :=
      fun x y hxy hx hy hr => hfree x y hxy hx hy (hr.trans hsuffix)
    rw [replace_of_some f hs] at h
    rcases List.infix_append_iff.1 h with hin | hin | ⟨x, y, hxy, hx, hy⟩
    · exact absurd hin (hwhole s a r hs)
    · exact (ih hfree' hin).trans hsuffix
    · -- it reaches from what was put in to what stands behind
      by_cases hx' : x = []
      · subst hx'
        rw [List.nil_append] at hxy
        subst hxy
        exact (ih hfree' hy.isInfix).trans hsuffix
      by_cases hy' : y = []
      · subst hy'
        rw [List.append_nil] at hxy
        subst hxy
        exact absurd hx.isInfix (hwhole s a r hs)
      exact absurd hx (hends s a r hs x y hxy hx' hy')
  | plain c t hs ih =>
    have htail : t <:+: c :: t := List.infix_cons List.infix_rfl
    rw [replace_of_none f hs] at h
    rcases List.infix_cons_iff.1 h with hpre | hin
    · obtain ⟨e, z', rfl⟩ := List.exists_cons_of_ne_nil hz
      obtain ⟨rfl, hz'⟩ := List.cons_prefix_cons.1 hpre
      refine List.IsPrefix.isInfix (List.cons_prefix_cons.2 ⟨rfl, ?_⟩)
      refine isPrefix_of_isPrefix_replace hp (fun x y hxy hy hx => ?_) hz'
      refine hfree (e :: x) y (by rw [hxy, List.cons_append]) (List.cons_ne_nil e x) hy ?_
      exact List.IsPrefix.isInfix (List.cons_prefix_cons.2 ⟨rfl, hx⟩)
    · exact (ih (fun x y hxy hx hy ht => hfree x y hxy hx hy (ht.trans htail)) hin).trans htail

end Pattern

end Scss
