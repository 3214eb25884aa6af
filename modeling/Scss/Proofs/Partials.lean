import Scss.Proofs.Bundle
import Scss.Proofs.Renaming

/-!
# Partials have no output

Whether a path names a partial is read off the first character behind its last divider, and its output
name is made by replacing the first suffix wherever that stands. Both suffixes hold no divider and begin
with the same character, so the base name is kept or has its own first suffix replaced
(`baseName_output`), and begins as before (`isPartial_output`).

Bundling succeeds without a file for partials and for nothing else, whatever the files answer and
however their state changes (`bundle_ok_cases`).

* `bundleAndCompile_names_output`: what bundling lists is no partial, and is something for all else.
-/

namespace Scss

namespace Naming

variable {p x base : Text} {c : Char}

/-! ### Base names -/

/-- A path has no divider, or a last one. -/
theorem exists_last_divider (p : Text) :
    (∀ c ∈ p, isDivider c = false) ∨
      ∃ x c base, p = x ++ c :: base ∧ isDivider c = true ∧ ∀ d ∈ base, isDivider d = false := by
  induction p with
  | nil => exact .inl (by simp)
  | cons c t ih =>
    rcases ih with hall | ⟨x, d, base, rfl, hd, hbase⟩
    · cases hc : isDivider c with
      | true => exact .inr ⟨[], c, t, rfl, hc, hall⟩
      | false => exact .inl (List.forall_mem_cons.2 ⟨hc, hall⟩)
    · exact .inr ⟨c :: x, d, base, rfl, hd, hbase⟩

theorem baseName_append (hx : Text.EndsRun (fun c => !isDivider c) x.reverse)
    (hbase : ∀ c ∈ base, isDivider c = false) : baseName (x ++ base) = base := by
  have hrun : ∀ c ∈ base.reverse, (!isDivider c) = true := by
    intro c hc
    rw [hbase c (List.mem_reverse.1 hc)]
    rfl
  unfold baseName
  rw [List.reverse_append, Text.takeWhile_append_of_endsRun hrun hx, List.reverse_reverse]

theorem baseName_of_forall (h : ∀ c ∈ p, isDivider c = false) : baseName p = p :=
  baseName_append (x := []) Text.endsRun_nil h

/-- The base name stands behind the last divider. -/
theorem baseName_append_cons (hc : isDivider c = true) (hbase : ∀ c ∈ base, isDivider c = false)
    (x : Text) : baseName (x ++ c :: base) = base := by
  have hends : Text.EndsRun (fun c => !isDivider c) (x ++ [c]).reverse := by
    rw [List.reverse_concat]
    exact Text.endsRun_cons.2 (by simp [hc])
  rw [List.append_cons]
  exact baseName_append hends hbase

/-! ### Base names of outputs -/

theorem forall_mem_output (h : ∀ c ∈ p, isDivider c = false) :
    ∀ c ∈ output p, isDivider c = false := by
  have hsuffix : ∀ c ∈ outputSuffix, (!isDivider c) = true := List.all_eq_true.1 (by decide)
  intro c hc
  rcases mem_of_mem_output hc with hp | hnew
  · exact h c hp
  · simpa using hsuffix c hnew

theorem notMem_sourceSuffix (hc : isDivider c = true) : c ∉ sourceSuffix := by
  have hsuffix : ∀ c ∈ sourceSuffix, (!isDivider c) = true := List.all_eq_true.1 (by decide)
  exact Text.notMem_of_forall hsuffix (by simp [hc])

/-- **The base name of the output** is that of the path, or made from it as the output is from the
path. -/
theorem baseName_output (p : Text) :
    baseName (output p) = baseName p ∨ baseName (output p) = output (baseName p) := by
  rcases exists_last_divider p with hall | ⟨x, c, base, rfl, hc, hbase⟩
  · right
    rw [baseName_of_forall hall, baseName_of_forall (forall_mem_output hall)]
  · rw [baseName_append_cons hc hbase]
    by_cases hx : sourceSuffix <:+: x
    · left
      rw [output_append_of_isInfix hx, baseName_append_cons hc hbase]
    · right
      have houtput : output (x ++ c :: base) = x ++ c :: output base :=
        Text.replaceFirst_append_cons_of_not (notMem_sourceSuffix hc) hx base
      rw [houtput, baseName_append_cons hc (forall_mem_output hbase)]

/-- The suffixes begin alike, so a replacement does not show in the first character. -/
theorem head?_output (p : Text) : (output p).head? = p.head? := by
  rcases output_cases p with ⟨-, hp⟩ | ⟨x, y, hp, houtput⟩
  · rw [hp]
  · rw [houtput, hp]
    cases x with
    | nil => rfl
    | cons c x => rfl

/-- **The output of a partial is a partial**, and that of anything else is none. -/
theorem isPartial_output (p : Text) : isPartial (output p) = isPartial p := by
  unfold isPartial
  rcases baseName_output p with hbase | hbase
  · rw [hbase]
  · rw [hbase, head?_output]

end Naming

namespace Bundler

variable {σ : Type} {files : Files (StateM σ)} {bundler : Bundler} {path : Text} {s t : σ}

theorem bundle_of_isPartial (files : Files (StateM σ)) (bundler : Bundler)
    (h : Naming.isPartial path = true) (s : σ) :
    ((bundler.bundle files path).run.run s).1 = .ok none := by
  unfold bundle
  rw [if_pos h]
  rfl

/-- **Bundling that succeeds** has skipped a partial or gives a file under the output name. -/
theorem bundle_ok_cases {file? : Option Bundled}
    (h : (bundler.bundle files path).run.run s = (.ok file?, t)) :
    Naming.isPartial path = true ∧ file? = none ∨
      Naming.isPartial path = false ∧
        ∃ file, file? = some file ∧ file.outputName = Naming.output path := by
  cases hpartial : Naming.isPartial path with
  | true =>
    have hnone := bundle_of_isPartial files bundler hpartial s
    rw [h] at hnone
    exact .inl ⟨rfl, Except.ok.inj hnone⟩
  | false =>
    refine .inr ⟨rfl, ?_⟩
    unfold bundle at h
    rw [if_neg (by simp [hpartial])] at h
    obtain ⟨found, _, -, hfound⟩ := run_bind_eq_ok h
    cases found with
    | false => cases (Prod.mk.inj hfound).1
    | true =>
      obtain ⟨contents, _, -, hread⟩ := run_bind_eq_ok hfound
      obtain ⟨_, _, -, hvalid⟩ := run_bind_eq_ok hread
      obtain ⟨_, _, -, hnoted⟩ := run_bind_eq_ok hvalid
      obtain ⟨_, _, -, hdone⟩ := run_bind_eq_ok hnoted
      exact ⟨_, (Except.ok.inj (Prod.mk.inj hdone).1).symm, rfl⟩

theorem bundleAndCompile_of_isPartial (files : Files (StateM σ)) (bundler : Bundler)
    (h : Naming.isPartial path = true) (s : σ) :
    ((bundler.bundleAndCompile files path).run.run s).1 = .ok [] := by
  have hbundle : Gives (bundler.bundle files path) s (.ok none) fun _ => True :=
    ⟨bundle_of_isPartial files bundler h s, trivial⟩
  have hgives : Gives (bundler.bundleAndCompile files path) s (.ok []) fun _ => True :=
    hbundle.bind fun t _ => .pure trivial
  exact hgives.1

theorem bundleAndCompile_ok_cases {entries : List (Text × Text)}
    (h : (bundler.bundleAndCompile files path).run.run s = (.ok entries, t)) :
    Naming.isPartial path = true ∧ entries = [] ∨
      Naming.isPartial path = false ∧ ∃ css, entries = [(Naming.output path, css)] := by
  obtain ⟨file?, u, hbundle, hentries⟩ := run_bind_eq_ok h
  obtain rfl := Except.ok.inj (Prod.mk.inj hentries).1
  rcases bundle_ok_cases hbundle with ⟨hpartial, rfl⟩ | ⟨hpartial, file, rfl, hname⟩
  · exact .inl ⟨hpartial, rfl⟩
  · refine .inr ⟨hpartial, file.result.css, ?_⟩
    rw [← hname]
    rfl

/-- **Partials are never listed.** The output name of a path is that of a partial just when the path is.
So whatever the files answer, a list of outputs that bundling gives has at most one entry; this has the
output name of the path and a base name without the mark of partials; and the empty list is given for
partials, always, and for nothing else. -/
theorem bundleAndCompile_names_output (files : Files (StateM σ)) (bundler : Bundler) (path : Text)
    (s : σ) :
    let result := ((bundler.bundleAndCompile files path).run.run s).1
    (∀ p, Naming.isPartial (Naming.output p) = Naming.isPartial p) ∧
    (∀ entries, result = .ok entries → entries.length ≤ 1 ∧
      ∀ entry ∈ entries, entry.1 = Naming.output path ∧
        (Naming.baseName entry.1).head? ≠ some Naming.partialMark) ∧
    (result = .ok [] ↔ Naming.isPartial path = true) := by
  intro result
  have hcases : ∀ entries, result = .ok entries →
      Naming.isPartial path = true ∧ entries = [] ∨
        Naming.isPartial path = false ∧ ∃ css, entries = [(Naming.output path, css)] :=
    fun entries hentries => bundleAndCompile_ok_cases (Prod.ext hentries rfl)
  refine ⟨Naming.isPartial_output, fun entries hentries => ?_, fun hnil => ?_, fun hpartial => ?_⟩
  · rcases hcases entries hentries with ⟨-, rfl⟩ | ⟨hpartial, css, rfl⟩
    · exact ⟨Nat.zero_le 1, fun entry hentry => absurd hentry List.not_mem_nil⟩
    · refine ⟨Nat.le_refl 1, fun entry hentry => ?_⟩
      obtain rfl := List.mem_singleton.1 hentry
      refine ⟨rfl, fun hmark => ?_⟩
      -- the output would be a partial, and so would the path
      have houtput : Naming.isPartial (Naming.output path) = true := beq_iff_eq.2 hmark
      rw [Naming.isPartial_output, hpartial] at houtput
      cases houtput
  · rcases hcases [] hnil with ⟨hpartial, -⟩ | ⟨-, css, hone⟩
    · exact hpartial
    · cases hone
  · exact bundleAndCompile_of_isPartial files bundler hpartial s

/-- Neither a mark nor a suffix in the name of a folder matters, whatever divides it from the rest. -/
theorem bundleAndCompile_names_output_below_mark :
    let path := "_d.scss\\c.scss".toList
    let hidden := "d.scss/_c.scss".toList
    let memory : Memory := { entries := [(path, "p { }".toList), (hidden, [])] }
    let result := fun path => ((({} : Bundler).bundleAndCompile Memory.files path).run.run memory).1
    (∃ entry, result path = .ok [entry] ∧ entry.1 = "_d.css\\c.scss".toList ∧
      (Naming.baseName entry.1).head? ≠ some Naming.partialMark) ∧
    result hidden = .ok [] := by
  intro path hidden memory result
  have hresult : (result path).toOption = some [("_d.css\\c.scss".toList, "p { }".toList)] := by
    decide +kernel
  have hentries := eq_ok_of_toOption hresult
  have hpath := (bundleAndCompile_names_output Memory.files {} path memory).2.1 _ hentries
  have hhidden := (bundleAndCompile_names_output Memory.files {} hidden memory).2.2
  exact ⟨⟨_, hentries, rfl, (hpath.2 _ List.mem_cons_self).2⟩, hhidden.2 (by decide +kernel)⟩

end Bundler

end Scss
