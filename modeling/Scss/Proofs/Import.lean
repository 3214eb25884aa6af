import Scss.Import
import Scss.Proofs.Runs
import Scss.Proofs.Scan

/-!
# Where the imports of a text stand

An import is written in one way only: `statement name`. Its first character is an at sign and no other
one is, so two imports never overlap: what stands in a text that begins with an import is this one or
stands behind it (`standsAt_statement_append_iff`). Where nothing is read, the scan passes over one
character, at which none stands (`standsAt_cons_iff`). So from left to right it goes through all places
of imports (`exists_listing`).

* `Listing`: all imports of a text with their places; `scan_eq_iff_listing`: the scan gives these.
* `mem_scan_iff`: the imports that are found stand somewhere in the text.
* `scan_append_newline`: an import holds no line break, so a text is scanned line by line.
-/

namespace Scss.Import

variable {name r s t x y : Text} {c : Char}

/-- The names that can be imported. -/
def IsName (name : Text) : Prop :=
  name ≠ [] ∧ ∀ c ∈ name, isNameChar c = true

/-- The spelling of an import. -/
def statement (name : Text) : Text :=
  opening ++ (name ++ closing)

theorem statement_ne_nil (name : Text) : statement name ≠ [] :=
  List.cons_ne_nil _ _

theorem endsRun_closing (r : Text) : Text.EndsRun isNameChar (closing ++ r) :=
  Text.endsRun_cons.2 (by decide)

theorem read?_statement (h : IsName name) (r : Text) :
    read? (statement name ++ r) = some (name, r) := by
  have hopen : Text.after? opening (statement name ++ r) = some (name ++ (closing ++ r)) := by
    rw [Text.after?_eq_some_iff]
    simp [statement]
  have hclose : Text.after? closing (closing ++ r) = some r := Text.after?_eq_some_iff.2 rfl
  have htake := Text.takeWhile_append_of_endsRun h.2 (endsRun_closing r)
  have hdrop := Text.dropWhile_append_of_endsRun h.2 (endsRun_closing r)
  have hne : name.isEmpty = false := by simpa using h.1
  simp only [read?, hopen, hdrop, hclose, htake, hne]
  rfl

/-- **What is read** is an import in its one spelling. -/
theorem read?_eq_some_iff : read? s = some (name, r) ↔ IsName name ∧ s = statement name ++ r := by
  constructor
  · intro h
    unfold read? at h
    split at h
    · cases h
    next t ht =>
    split at h
    next rest hrest =>
      simp only at h
      split at h
      · cases h
      next hne =>
        obtain ⟨rfl, rfl⟩ := Prod.mk.inj (Option.some.inj h)
        have hs := Text.after?_eq_some_iff.1 ht
        have hclose := Text.after?_eq_some_iff.1 hrest
        have htake := List.takeWhile_append_dropWhile (p := isNameChar) (l := t)
        refine ⟨⟨by simpa using hne, Text.forall_mem_takeWhile isNameChar t⟩, ?_⟩
        rw [hclose] at htake
        rw [hs, statement, List.append_assoc, List.append_assoc, htake]
    · cases h
  · rintro ⟨hname, rfl⟩
    exact read?_statement hname r

/-- An import begins with an at sign and has no other. -/
theorem statement_eq_cons (h : IsName name) :
    ∃ tail, statement name = '@' :: tail ∧ '@' ∉ tail := by
  refine ⟨"import '".toList ++ (name ++ closing), rfl, ?_⟩
  have hname : '@' ∉ name := Text.notMem_of_forall h.2 (by decide)
  have hopen : '@' ∉ "import '".toList := by decide
  have hclose : '@' ∉ closing := by decide
  simp only [List.mem_append, not_or]
  exact ⟨hopen, hname, hclose⟩

theorem newline_notMem_statement (h : IsName name) : '\n' ∉ statement name := by
  have hname : '\n' ∉ name := Text.notMem_of_forall h.2 (by decide)
  have hopen : '\n' ∉ opening := by decide
  have hclose : '\n' ∉ closing := by decide
  simp only [statement, List.mem_append, not_or]
  exact ⟨hopen, hname, hclose⟩

theorem pattern_startsAt : pattern.StartsAt '@' := by
  intro c t hc
  cases h : pattern.read? (c :: t) with
  | none => rfl
  | some ar =>
    obtain ⟨hname, hs⟩ := read?_eq_some_iff.1 h
    obtain ⟨tail, htail, -⟩ := statement_eq_cons hname
    rw [htail, List.cons_append] at hs
    exact absurd (List.cons.inj hs).1 hc

theorem exists_read?_of_isPrefix (h : IsName name) (hpre : statement name <+: s) :
    ∃ r, read? s = some (name, r) := by
  obtain ⟨r, rfl⟩ := hpre
  exact ⟨r, read?_statement h r⟩

/-! ### The places of imports -/

/-- An import of `name` stands at the place `i` of the text, behind its first `i` characters. -/
structure StandsAt (s : Text) (i : Nat) (name : Text) : Prop where
  isName : IsName name
  isPrefix : statement name <+: s.drop i

theorem StandsAt.exists_read? {i : Nat} (h : StandsAt s i name) :
    ∃ r, read? (s.drop i) = some (name, r) :=
  exists_read?_of_isPrefix h.isName h.isPrefix

theorem standsAt_nil {i : Nat} : ¬ StandsAt [] i name := by
  intro h
  obtain ⟨tail, htail, -⟩ := statement_eq_cons h.isName
  have hpre := h.isPrefix
  rw [List.drop_nil, htail] at hpre
  exact absurd (List.prefix_nil.1 hpre) (List.cons_ne_nil '@' tail)

theorem standsAt_cons_succ {i : Nat} : StandsAt (c :: t) (i + 1) name ↔ StandsAt t i name := by
  constructor
  · rintro ⟨hname, hpre⟩
    exact ⟨hname, hpre⟩
  · rintro ⟨hname, hpre⟩
    exact ⟨hname, hpre⟩

theorem standsAt_append_iff {i : Nat} :
    StandsAt (x ++ s) (i + x.length) name ↔ StandsAt s i name := by
  induction x with
  | nil => rfl
  | cons d x ih => exact standsAt_cons_succ.trans ih

/-- No import begins in a stretch without at signs. -/
theorem not_standsAt_of_notMem {i : Nat} (hx : '@' ∉ x) (hi : i < x.length) :
    ¬ StandsAt (x ++ s) i name := by
  intro h
  obtain ⟨tail, htail, -⟩ := statement_eq_cons h.isName
  have hpre := h.isPrefix
  have hdrop : (x ++ s).drop i = x.drop i ++ s := List.drop_append_of_le_length (Nat.le_of_lt hi)
  rw [htail, hdrop, List.drop_eq_getElem_cons hi, List.cons_append] at hpre
  have hat := (List.cons_prefix_cons.1 hpre).1
  exact hx (hat ▸ List.getElem_mem hi)

/-- **Imports do not overlap**: where a text begins with one, the others stand behind it. -/
theorem standsAt_statement_append_iff {other : Text} {i : Nat} (ho : IsName other) :
    StandsAt (statement other ++ r) i name ↔
      i = 0 ∧ name = other ∨ ∃ j, i = j + (statement other).length ∧ StandsAt r j name := by
  obtain ⟨tail, htail, hat⟩ := statement_eq_cons ho
  constructor
  · intro h
    by_cases hi : i < (statement other).length
    · left
      cases i with
      | zero =>
        obtain ⟨r', hread⟩ := h.exists_read?
        rw [List.drop_zero, read?_statement ho r] at hread
        exact ⟨rfl, (Prod.mk.inj (Option.some.inj hread)).1.symm⟩
      | succ i =>
        -- its at sign would be one of the characters behind the first
        rw [htail, List.length_cons] at hi
        rw [htail, List.cons_append, standsAt_cons_succ] at h
        exact absurd h (not_standsAt_of_notMem hat (Nat.lt_of_succ_lt_succ hi))
    · right
      obtain ⟨j, rfl⟩ := Nat.exists_eq_add_of_le' (Nat.le_of_not_lt hi)
      exact ⟨j, rfl, standsAt_append_iff.1 h⟩
  · rintro (⟨rfl, rfl⟩ | ⟨j, rfl, hj⟩)
    · exact ⟨ho, List.prefix_append _ r⟩
    · exact standsAt_append_iff.2 hj

/-- Where nothing is read, imports stand behind the first character only. -/
theorem standsAt_cons_iff {i : Nat} (hnone : read? (c :: t) = none) :
    StandsAt (c :: t) i name ↔ ∃ j, i = j + 1 ∧ StandsAt t j name := by
  constructor
  · intro h
    cases i with
    | zero =>
      obtain ⟨r, hread⟩ := h.exists_read?
      rw [List.drop_zero, hnone] at hread
      cases hread
    | succ i => exact ⟨i, rfl, standsAt_cons_succ.1 h⟩
  · rintro ⟨j, rfl, hj⟩
    exact standsAt_cons_succ.2 hj

/-- **All imports of a text** with their places, in ascending order of the places. -/
structure Listing (s : Text) (places : List (Nat × Text)) : Prop where
  ascending : places.Pairwise fun a b => a.1 < b.1
  mem_iff : ∀ i name, (i, name) ∈ places ↔ StandsAt s i name

/-- The same imports behind `n` further characters. -/
def later (n : Nat) (places : List (Nat × Text)) : List (Nat × Text) :=
  places.map fun place => (place.1 + n, place.2)

section

variable {places places' : List (Nat × Text)} {n i : Nat}

theorem mem_later_iff : (i, name) ∈ later n places ↔ ∃ j, i = j + n ∧ (j, name) ∈ places := by
  unfold later
  rw [List.mem_map]
  constructor
  · rintro ⟨⟨j, name'⟩, hmem, heq⟩
    obtain ⟨rfl, rfl⟩ := Prod.mk.inj heq
    exact ⟨j, rfl, hmem⟩
  · rintro ⟨j, rfl, hmem⟩
    exact ⟨(j, name), hmem, rfl⟩

theorem pairwise_later (h : places.Pairwise fun a b => a.1 < b.1) :
    (later n places).Pairwise fun a b => a.1 < b.1 := by
  unfold later
  rw [List.pairwise_map]
  exact h.imp fun hlt => Nat.add_lt_add_right hlt n

theorem map_later : (later n places).map Prod.snd = places.map Prod.snd := by
  simp [later]

theorem Listing.statement_append (ho : IsName name) (h : Listing r places) :
    Listing (statement name ++ r) ((0, name) :: later (statement name).length places) := by
  refine ⟨List.pairwise_cons.2 ⟨?_, pairwise_later h.ascending⟩, fun i other => ?_⟩
  · rintro ⟨i, other⟩ hmem
    obtain ⟨j, rfl, -⟩ := mem_later_iff.1 hmem
    have hpos := List.length_pos_iff.2 (statement_ne_nil name)
    exact Nat.add_pos_right j hpos
  · rw [standsAt_statement_append_iff ho, List.mem_cons, mem_later_iff, Prod.mk.injEq]
    simp only [h.mem_iff]

theorem Listing.cons (hnone : read? (c :: t) = none) (h : Listing t places) :
    Listing (c :: t) (later 1 places) := by
  refine ⟨pairwise_later h.ascending, fun i other => ?_⟩
  rw [standsAt_cons_iff hnone, mem_later_iff]
  simp only [h.mem_iff]

theorem Listing.unique (h : Listing s places) (h' : Listing s places') : places = places' := by
  have hnodup : ∀ l : List (Nat × Text), (l.Pairwise fun a b => a.1 < b.1) → l.Nodup := by
    intro l hl
    refine hl.imp fun {a b} hlt heq => ?_
    rw [heq] at hlt
    exact Nat.lt_irrefl _ hlt
  have hperm : places.Perm places' := by
    refine (List.perm_ext_iff_of_nodup (hnodup _ h.ascending) (hnodup _ h'.ascending)).2 ?_
    rintro ⟨i, name⟩
    rw [h.mem_iff, h'.mem_iff]
  exact hperm.eq_of_pairwise (fun _ _ _ _ hlt hgt => absurd hgt (Nat.lt_asymm hlt)) h.ascending
    h'.ascending

/-- **The scan goes through the listing.** -/
theorem exists_listing (s : Text) : ∃ places, Listing s places ∧ places.map Prod.snd = scan s := by
  unfold scan
  induction s using Pattern.scan_induction (p := pattern) with
  | nil =>
    refine ⟨[], ⟨.nil, fun i name => ?_⟩, Pattern.found_nil.symm⟩
    simp [standsAt_nil]
  | item s a r hs ih =>
    obtain ⟨places, hplaces, hnames⟩ := ih
    obtain ⟨ha, rfl⟩ := read?_eq_some_iff.1 hs
    refine ⟨_, hplaces.statement_append ha, ?_⟩
    rw [Pattern.found_of_some hs, List.map_cons, map_later, hnames]
  | plain c t hs ih =>
    obtain ⟨places, hplaces, hnames⟩ := ih
    refine ⟨_, hplaces.cons hs, ?_⟩
    rw [Pattern.found_of_none hs, map_later, hnames]

end

/-- **The scan gives the imports of a text**, all of them and nothing else: a list of names is the
result just when it goes through all places at which an import stands, in ascending order. -/
theorem scan_eq_iff_listing (s : Text) (names : List Text) :
    scan s = names ↔ ∃ places, Listing s places ∧ places.map Prod.snd = names := by
  obtain ⟨places, hplaces, hscan⟩ := exists_listing s
  constructor
  · rintro rfl
    exact ⟨places, hplaces, hscan⟩
  · rintro ⟨places', hplaces', rfl⟩
    rw [hplaces'.unique hplaces, hscan]

/-- An import is found inside of what began like another one, and as often as it stands there. -/
example : scan "@import '@import 'a';@import 'a';".toList = [['a'], ['a']] := by decide +kernel

/-- **The scan finds every import** that stands somewhere in the text, and nothing else. -/
theorem mem_scan_iff : name ∈ scan s ↔ IsName name ∧ statement name <:+: s := by
  obtain ⟨places, hplaces, hscan⟩ := exists_listing s
  have hmem : name ∈ scan s ↔ ∃ i, StandsAt s i name := by
    simp [← hscan, hplaces.mem_iff]
  rw [hmem]
  constructor
  · rintro ⟨i, h⟩
    exact ⟨h.isName, h.isPrefix.isInfix.trans (List.drop_suffix i s).isInfix⟩
  · rintro ⟨hname, pre, post, rfl⟩
    refine ⟨pre.length, hname, post, ?_⟩
    rw [List.append_assoc, List.drop_left]

/-- **Imports are found line by line.** -/
theorem scan_append_newline (s t : Text) : scan (s ++ '\n' :: t) = scan s ++ scan t := by
  have hline : scan ('\n' :: t) = scan t := Pattern.found_of_none (pattern_startsAt _ t (by decide))
  rw [← hline]
  refine Pattern.found_append_of_cut s (fun u name r hu => ?_) (fun u _ hu => ?_)
  · obtain ⟨hname, rfl⟩ := read?_eq_some_iff.1 hu
    refine ⟨r ++ '\n' :: t, ?_, rfl⟩
    rw [List.append_assoc]
    exact read?_statement hname _
  · cases h : pattern.read? (u ++ '\n' :: t) with
    | none => rfl
    | some ar =>
      -- the import would end in front of the line break
      obtain ⟨hname, hs⟩ := read?_eq_some_iff.1 h
      have hpre : statement ar.1 <+: u :=
        Text.isPrefix_of_isPrefix_append_cons (newline_notMem_statement hname) ⟨ar.2, hs.symm⟩
      obtain ⟨r, hread⟩ := exists_read?_of_isPrefix hname hpre
      have hu' : read? u = none := hu
      rw [hu'] at hread
      cases hread

end Scss.Import
