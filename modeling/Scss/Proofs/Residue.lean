import Scss.Proofs.Injection
import Scss.Proofs.Stylesheet

/-!
# What is left when declarations are taken out

Whatever a text declares is sound, so its declarations can be written back in their plain spelling: the
same bindings are read from it, and nothing of it is left (`renderAll_all_reads_back`).

From other texts the declarations are taken out in one pass, and what stands on both sides of one comes
together. That can be a declaration again: of `$a $b: 1;: 2;` the declaration of `$a` is left. It comes
about in one way only. Behind the colon of a declaration nothing is taken out, since it would have been
a part of its value; so what is taken out stands between the sign and the colon (`exists_opening`).

* `PutTogether`: the scan comes to a beginning of a declaration in front of another one, and with what is
  left behind, the beginning goes on to a declaration.
* `all_strip_eq_nil_iff`: something is still declared just when this happens.
* `strip_complete_iff`: and just then taking the declarations out a second time changes the text.
-/

namespace Scss.Declaration

open Variable Text

variable {b : Binding} {c : Char} {s t u x y : Text}

/-! ### Writing declarations back -/

/-- **Declarations have a plain form.** What a text declares has a whole name and a value that is not
empty, is trimmed, and holds no semicolon and no line break. Written one on a line, the declarations
of a text are read back as they were, and nothing else is written. -/
theorem renderAll_all_reads_back (s : Text) :
    (∀ b ∈ all s, isName b.name = true ∧ b.value ≠ [] ∧ trim b.value = b.value ∧ ';' ∉ b.value ∧
      '\n' ∉ b.value) ∧
    all (renderAll (all s)) = all s ∧ strip (renderAll (all s)) = [] := by
  have hsound : ∀ b ∈ all s, Sound b := fun b hb => sound_of_mem_all hb
  refine ⟨fun b hb => ?_, ?_, ?_⟩
  · have h := hsound b hb
    exact ⟨h.name, h.ne_nil, trim_eq_self h.head h.last, forall_isValueChar_iff.1 h.chars⟩
  · have hread := all_renderAll hsound []
    rwa [List.append_nil, all_nil, List.append_nil] at hread
  · cases hall : all s with
    | nil => exact strip_nil
    | cons b bs =>
      have hleft := strip_renderAll hsound (by simp [hall]) []
      rw [List.append_nil, hall] at hleft
      exact hleft.trans strip_nil

/-! ### Where declarations come together -/

/-- The scan for declarations comes to `t` on its way through `s`. -/
inductive Reaches : Text → Text → Prop
  | refl {s : Text} : Reaches s s
  /-- It goes on behind a declaration. -/
  | item {s r t : Text} {b : Binding} : read? s = some (b, r) → Reaches r t → Reaches s t
  /-- Where there is none, it goes on behind one character. -/
  | plain {s t : Text} {c : Char} : read? (c :: s) = none → Reaches s t → Reaches (c :: s) t

/-- The beginning of a declaration, in front of its colon or shorter: a sign, name characters and
blanks. -/
def Opening (x : Text) : Prop :=
  ∃ run blanks, x = sigil :: (run ++ blanks) ∧ (∀ c ∈ run, isNameChar c = true) ∧
    ∀ c ∈ blanks, isBlank c = true

/-- The scan comes to a beginning in front of a declaration, and together with what is left of the text
behind it, the beginning goes on to a declaration. -/
def PutTogether (s : Text) : Prop :=
  ∃ x t, Reaches s (x ++ t) ∧ Opening x ∧ (read? t).isSome = true ∧
    (read? (x ++ strip t)).isSome = true

theorem Reaches.exists_strip (h : Reaches s t) : ∃ x, strip s = x ++ strip t := by
  induction h with
  | refl => exact ⟨[], rfl⟩
  | item hread _ ih =>
    obtain ⟨x, hx⟩ := ih
    exact ⟨x, (strip_of_written (written_of_read? hread)).trans hx⟩
  | @plain s t c hread _ ih =>
    obtain ⟨x, hx⟩ := ih
    exact ⟨c :: x, by rw [strip_of_none hread, hx, List.cons_append]⟩

theorem read?_eq_none_of_all (h : all s = []) : read? s = none := by
  cases hread : read? s with
  | none => rfl
  | some br =>
    rw [all_of_written (written_of_read? hread)] at h
    cases h

theorem all_eq_nil_of_append (h : all (x ++ y) = []) : all y = [] := by
  induction x with
  | nil => exact h
  | cons c x ih =>
    have hread := read?_eq_none_of_all h
    rw [List.cons_append] at h hread
    rw [all_of_none hread] at h
    exact ih h

theorem exists_clause (h : (read? s).isSome = true) :
    ∃ clause b rest, Clause clause b ∧ s = clause ++ rest := by
  obtain ⟨⟨b, r⟩, hread⟩ := Option.isSome_iff_exists.1 h
  obtain ⟨clause, rest, hclause, hs, -⟩ := written_iff.1 (written_of_read? hread)
  exact ⟨clause, b, rest, hclause, hs⟩

theorem Clause.head (h : Clause s b) : ∃ t, s = sigil :: t := by
  obtain ⟨hname, -, -, -⟩ := h
  obtain ⟨run, rfl, -, -⟩ := isName_iff.1 hname
  exact ⟨_, rfl⟩

/-- Nothing is read from a beginning with a sign behind it. -/
theorem Opening.read?_append_sigil (hx : Opening x) (t : Text) :
    Declaration.read? (x ++ sigil :: t) = none := by
  obtain ⟨run, blanks, rfl, hrun, hblanks⟩ := hx
  have hends : EndsName (blanks ++ sigil :: t) := by
    cases blanks with
    | nil => exact endsRun_cons.2 isNameChar_sigil
    | cons c blanks => exact endsRun_cons.2 (isNameChar_of_isBlank (hblanks c List.mem_cons_self))
  rw [List.cons_append, List.append_assoc]
  cases run with
  | nil => exact read?_of_variable_none (read?_eq_none_iff.2 fun _ => hends)
  | cons c run =>
    have hname := read?_sigil (List.cons_ne_nil c run) hrun hends
    have hsign : (blanks ++ sigil :: t).dropWhile isBlank = sigil :: t :=
      dropWhile_append_of_endsRun hblanks (endsRun_cons.2 (by decide))
    rw [List.cons_append] at hname
    simp only [Declaration.read?, hname, hsign]
    rfl

theorem Opening.strip_append (hx : Opening x) (ht : (read? t).isSome = true) :
    strip (x ++ t) = x ++ strip t := by
  obtain ⟨clause, b, rest, hclause, rfl⟩ := exists_clause ht
  obtain ⟨t, rfl⟩ := hclause.head
  have hread := hx.read?_append_sigil (t ++ rest)
  obtain ⟨run, blanks, rfl, hrun, hblanks⟩ := hx
  have hplain : sigil ∉ run ++ blanks := by
    rw [List.mem_append, not_or]
    exact ⟨notMem_of_forall hrun isNameChar_sigil, notMem_of_forall hblanks (by decide)⟩
  rw [List.cons_append] at hread
  exact (strip_of_none hread).trans (congrArg _ (strip_append_of_notMem hplain _))

/-- Without its semicolon, a declaration can be what another one has behind its colon. -/
theorem Clause.exists_region (h : Clause s b) :
    ∃ region value, s = region ++ [';'] ∧ (∀ c ∈ region, isValueChar c = true) ∧
      value? region = some value := by
  have hline := h.newline_notMem
  obtain @⟨name, value, blanks, region, hname, hblanks, hregion, hvalue⟩ := h
  have hsplit : name ++ (blanks ++ ':' :: (region ++ [';'])) =
      (name ++ (blanks ++ [':']) ++ region) ++ [';'] := by simp
  rw [hsplit] at hline ⊢
  obtain ⟨value', hvalue'⟩ := exists_value?_append (name ++ (blanks ++ [':'])) hvalue
  refine ⟨_, value', rfl, forall_isValueChar_iff.2 ⟨?_, ?_⟩, hvalue'⟩
  · have h₁ : ';' ∉ name := notMem_of_isName hname (by decide) (by decide)
    have h₂ : ';' ∉ blanks := notMem_of_forall hblanks (by decide)
    have h₃ := (forall_isValueChar_iff.1 hregion).1
    simp [h₁, h₂, h₃]
  · exact fun hmem => hline (List.mem_append_left _ hmem)

/-- **A declaration in a value** goes with it: where a name and a colon stand in front of a declaration,
with nothing between that ends a value, there is one declaration. -/
theorem Clause.of_behind {name blanks : Text} (hname : isName name = true)
    (hblanks : ∀ c ∈ blanks, isBlank c = true) (hy : ∀ c ∈ y, isValueChar c = true)
    (h : Clause s b) : ∃ b', Clause (name ++ (blanks ++ ':' :: (y ++ s))) b' := by
  obtain ⟨region, value, rfl, hregion, hvalue⟩ := h.exists_region
  obtain ⟨value', hvalue'⟩ := exists_value?_append y hvalue
  have hall : ∀ c ∈ y ++ region, isValueChar c = true := by
    intro c hc
    rcases List.mem_append.1 hc with hc | hc
    · exact hy c hc
    · exact hregion c hc
  exact ⟨_, by simpa using Clause.mk hname hblanks hall hvalue'⟩

/-- A text is a stretch that stays, and then it ends or a declaration follows. -/
theorem exists_stretch (t : Text) :
    ∃ x u, t = x ++ u ∧ strip t = x ++ strip u ∧ (u = [] ∨ (read? u).isSome = true) := by
  induction t using Pattern.scan_induction (p := pattern) with
  | nil => exact ⟨[], [], rfl, rfl, .inl rfl⟩
  | item s b r hs _ =>
    have hread : read? s = some (b, r) := hs
    exact ⟨[], s, rfl, rfl, .inr (by rw [hread]; rfl)⟩
  | plain c t hs ih =>
    obtain ⟨x, u, rfl, hstrip, hu⟩ := ih
    exact ⟨c :: x, u, rfl, by rw [strip_of_none hs, hstrip, List.cons_append], hu⟩

theorem Opening.of_isPrefix {name blanks : Text} (hname : isName name = true)
    (hblanks : ∀ c ∈ blanks, isBlank c = true) (h : c :: x <+: name ++ blanks) :
    Opening (c :: x) := by
  obtain ⟨run, rfl, -, hrun⟩ := isName_iff.1 hname
  obtain ⟨rfl, y, hy⟩ := List.cons_prefix_cons.1 h
  rcases List.append_eq_append_iff.1 hy with ⟨a, rfl, -⟩ | ⟨a, rfl, rfl⟩
  · exact ⟨x, [], by simp, fun d hd => hrun d (List.mem_append_left _ hd), by simp⟩
  · exact ⟨run, a, rfl, hrun, fun d hd => hblanks d (List.mem_append_left _ hd)⟩

/-- Behind a colon nothing is taken out of a declaration: if there is one when the text behind `z` is
stripped, there was one before. -/
theorem Clause.exists_unstripped {name blanks region rest z : Text} {value : Text}
    (hname : isName name = true) (hblanks : ∀ c ∈ blanks, isBlank c = true)
    (hregion : ∀ c ∈ region, isValueChar c = true) (hvalue : value? region = some value)
    (hu : (read? u).isSome = true) (h : region ++ ';' :: rest = z ++ strip u) :
    ∃ clause b rest', Clause clause b ∧ name ++ (blanks ++ ':' :: (z ++ u)) = clause ++ rest' := by
  obtain ⟨inner, b, rest', hinner, rfl⟩ := exists_clause hu
  -- what was taken out stands behind the semicolon, or in the region
  have hcases : (∃ y, z = region ++ ';' :: y) ∨ ∀ c ∈ z, isValueChar c = true := by
    rcases List.append_eq_append_iff.1 h with ⟨_ | ⟨d, y⟩, rfl, hsemi⟩ | ⟨y, rfl, -⟩
    · exact .inr (by simpa using hregion)
    · obtain ⟨rfl, -⟩ := List.cons.inj hsemi
      exact .inl ⟨y, rfl⟩
    · exact .inr fun c hc => hregion c (List.mem_append_left _ hc)
  rcases hcases with ⟨y, rfl⟩ | hz
  · exact ⟨_, _, y ++ (inner ++ rest'), .mk hname hblanks hregion hvalue, by simp⟩
  · obtain ⟨b', hclause⟩ := Clause.of_behind hname hblanks hz hinner
    exact ⟨_, b', rest', hclause, by simp⟩

/-- **How a declaration comes about.** Where none is read, and one is read once the text behind is
stripped, what stands there is a beginning in front of a declaration. -/
theorem exists_opening (hnone : read? (c :: t) = none)
    (hsome : (read? (c :: strip t)).isSome = true) :
    ∃ x u, c :: t = x ++ u ∧ Opening x ∧ (read? u).isSome = true ∧ c :: strip t = x ++ strip u := by
  have hclause : ∀ {s b}, Clause s b → ∀ rest, c :: t ≠ s ++ rest := by
    intro s b h rest ht
    rw [ht, h.read?_append] at hnone
    cases hnone
  obtain ⟨x, u, rfl, hstrip, hu⟩ := exists_stretch t
  obtain ⟨whole, b, rest, hwhole, heq⟩ := exists_clause hsome
  rcases hu with rfl | hu
  · -- nothing was taken out
    rw [hstrip, strip_nil] at heq
    exact absurd heq (hclause hwhole rest)
  refine ⟨c :: x, u, rfl, ?_, hu, by rw [hstrip, List.cons_append]⟩
  obtain @⟨name, value, blanks, region, hname, hblanks, hregion, hvalue⟩ := hwhole
  have heq' : (c :: x) ++ strip u = (name ++ blanks) ++ ':' :: (region ++ ';' :: rest) := by
    rw [hstrip] at heq
    simpa using heq
  rcases List.append_eq_append_iff.1 heq' with ⟨y, hy, -⟩ | ⟨_ | ⟨d, z⟩, hx, hrest⟩
  · exact .of_isPrefix hname hblanks ⟨y, hy.symm⟩
  · rw [List.append_nil] at hx
    exact .of_isPrefix hname hblanks (hx ▸ List.prefix_rfl)
  · -- the colon was there, and so was the declaration
    obtain ⟨rfl, hbehind⟩ := List.cons.inj hrest
    obtain ⟨clause, b', rest', hclause', hsplit⟩ :=
      Clause.exists_unstripped hname hblanks hregion hvalue hu hbehind
    refine absurd ?_ (hclause hclause' rest')
    rw [← hsplit, ← List.cons_append, hx]
    simp

/-- **Something is still declared** just when it was put together. -/
theorem all_strip_eq_nil_iff : all (strip s) = [] ↔ ¬ PutTogether s := by
  constructor
  · rintro hall ⟨x, t, hreaches, hx, ht, hread⟩
    obtain ⟨pre, hpre⟩ := hreaches.exists_strip
    rw [hpre, hx.strip_append ht] at hall
    rw [read?_eq_none_of_all (all_eq_nil_of_append hall)] at hread
    cases hread
  · intro h
    induction s using Pattern.scan_induction (p := pattern) with
    | nil => simp
    | item s b r hs ih =>
      rw [strip_of_written (written_of_read? hs)]
      refine ih fun ⟨x, t, hreaches, hrest⟩ => h ⟨x, t, .item hs hreaches, hrest⟩
    | plain c t hs ih =>
      have hall := ih fun ⟨x, t, hreaches, hrest⟩ => h ⟨x, t, .plain hs hreaches, hrest⟩
      rw [strip_of_none hs]
      cases hread : read? (c :: strip t) with
      | none => rw [all_of_none hread, hall]
      | some br =>
        obtain ⟨x, u, hsplit, hx, hu, hleft⟩ := exists_opening hs (by rw [hread]; rfl)
        refine absurd ⟨x, u, ?_, hx, hu, ?_⟩ h
        · rw [hsplit]
          exact .refl
        · rw [← hleft, hread]
          rfl

/-- Each declaration takes its semicolon with it, so a text with declarations is changed. -/
theorem strip_eq_self_iff : strip s = s ↔ all s = [] := by
  constructor
  · intro h
    have hcount := count_strip s
    rw [h] at hcount
    exact List.eq_nil_of_length_eq_zero (by omega)
  · exact strip_eq_self

/-- **Declarations are taken out completely** unless one is put together. A text without its
declarations declares nothing, and equally taking declarations out of it again changes nothing, if and
only if the scan never comes to a beginning in front of a declaration such that the beginning and what
is left behind it make a declaration. -/
theorem strip_complete_iff (s : Text) :
    (all (strip s) = [] ↔ ¬ PutTogether s) ∧ (strip (strip s) = strip s ↔ ¬ PutTogether s) :=
  ⟨all_strip_eq_nil_iff, strip_eq_self_iff.trans all_strip_eq_nil_iff⟩

/-- A declaration between a name and a colon: what is left is a declaration, and goes when declarations
are taken out once more. -/
theorem strip_puts_together :
    let s := "$a $b: 1;: 2;".toList
    all s = [⟨"$b".toList, "1".toList⟩] ∧ strip s = "$a : 2;".toList ∧
      all (strip s) = [⟨"$a".toList, "2".toList⟩] ∧ strip (strip s) ≠ strip s := by
  decide +kernel

end Scss.Declaration
