import Scss.Proofs.Renaming

/-!
# When a stylesheet would be overwritten by its own css

Without an output folder the css goes to the output name of the stylesheet. A compilation refuses this
where the two have the same components, and components show neither doubled slashes nor idle segments.
The replacement of the suffix shows all the same: it happens inside one segment, which has the suffix
and so is a name, and it leaves all other segments as they are (`exists_segments_output`). So one
component is replaced by another, and nothing else moves (`exists_components_output`).

* `components_output_eq_iff`: the output name has the components of the path just when it has no suffix.
* `compileFile_overwritten_iff`: and just then the compilation refuses to write.
-/

namespace Scss

namespace Naming

open Scss.Path

variable {p q first segment : Text} {l : List Text}

theorem output_ne_self (h : sourceSuffix <:+: p) : output p ≠ p := by
  rcases output_cases p with ⟨hnot, -⟩ | ⟨x, y, hp, houtput⟩
  · exact absurd h hnot
  · intro heq
    have hold : sourceSuffix.length = 5 := by decide
    have hnew : outputSuffix.length = 4 := by decide
    have hlength := congrArg List.length (houtput.symm.trans (heq.trans hp))
    simp only [List.length_append, hold, hnew] at hlength
    omega

/-- **One segment is renamed**, and the others stay as they are. -/
theorem exists_segments_output (h : sourceSuffix <:+: p) :
    ∃ init segment rest, sourceSuffix <:+: segment ∧ segments p = init ++ segment :: rest ∧
      segments (output p) = init ++ output segment :: rest := by
  obtain ⟨first, l, hp⟩ := exists_segments p
  induction l generalizing p first with
  | nil =>
    have hsep : separator ∉ first := separator_notMem_segments (p := p) (by simp [hp])
    rcases eq_or_of_segments hp with ⟨rfl, -⟩ | ⟨q, -, hq⟩
    · exact ⟨[], p, [], h, hp, segments_of_notMem (separator_notMem_output hsep)⟩
    · exact absurd hq (segments_ne_nil q)
  | cons second l ih =>
    have hsep : separator ∉ first := separator_notMem_segments (p := p) (by simp [hp])
    rcases eq_or_of_segments hp with ⟨-, hnil⟩ | ⟨q, rfl, hq⟩
    · cases hnil
    · by_cases hfirst : sourceSuffix <:+: first
      · refine ⟨[], first, second :: l, hfirst, hp, ?_⟩
        rw [output_append_of_isInfix hfirst, segments_append_separator,
          segments_of_notMem (separator_notMem_output hsep), hq]
        rfl
      · -- the replacement happens behind the slash
        have hin := (Text.isInfix_or_of_isInfix_append_cons separator_notMem_sourceSuffix h).resolve_left
          hfirst
        obtain ⟨init, segment, rest, hsegment, hold, hnew⟩ := ih hin second hq
        refine ⟨first :: init, segment, rest, hsegment, ?_, ?_⟩
        · rw [hp, ← hq, hold, List.cons_append]
        · rw [output_append_separator hfirst, segments_append_separator, segments_of_notMem hsep, hnew]
          rfl

/-- **One component is replaced**, and no other is changed, moved or merged. -/
theorem exists_components_output (h : sourceSuffix <:+: p) :
    ∃ before name after, sourceSuffix <:+: name ∧ components p = before ++ .normal name :: after ∧
      components (output p) = before ++ .normal (output name) :: after := by
  obtain ⟨init, name, rest, hin, hold, hnew⟩ := exists_segments_output h
  have hname : IsFileName name := by
    refine ⟨isEntryName_of_length ?_, separator_notMem_segments (p := p) (by simp [hold])⟩
    have hsuffix : sourceSuffix.length = 5 := by decide
    have hle := hin.length_le
    omega
  exact ⟨stepsOf init, name, rest.filterMap step?, hin, components_of_segments hold hname.1,
    components_of_segments hnew (isFileName_output hname).1⟩

/-- **The output name has the components of the path** just when the path has no suffix. -/
theorem components_output_eq_iff : components (output p) = components p ↔ ¬ sourceSuffix <:+: p := by
  constructor
  · intro heq hin
    obtain ⟨before, name, after, hname, hold, hnew⟩ := exists_components_output hin
    rw [hold, hnew, List.append_cancel_left_eq] at heq
    exact output_ne_self hname (Component.normal.inj (List.cons.inj heq).1)
  · intro hnot
    rw [output_of_not hnot]

end Naming

namespace Compilation

open Disk

variable {s : Session} {options : Options} {path : Text} {file : Bundled}

theorem outputPath_of_none (hfolder : options.outputFolder = none) (outputName : Text) :
    outputPath options outputName = outputName := by
  unfold outputPath
  rw [hfolder]

/-- A bundled stylesheet is refused if its path has no suffix, and else written to its output name if the
file system lets it be. -/
theorem compileFile_cases_of_none (hfolder : options.outputFolder = none)
    (hbundles : Bundles s.disk options path (.ok (some file)))
    (hdefined : options.failOnUndefined = true → file.result.undefined = []) :
    let result := ((compileFile Session.machine options path).run.run s).1
    ¬ Naming.sourceSuffix <:+: path ∧ result = .error (.invalid (.overwritten path)) ∨
      Naming.sourceSuffix <:+: path ∧ ((∃ cause, result = .error (.io cause)) ∨
        ∃ stats, result = .ok stats ∧ stats.written = [Naming.output path]) := by
  intro result
  have htarget : outputPath options file.outputName = Naming.output path := by
    rw [outputPath_of_none hfolder, hbundles.source.2.1]
  have hsame : Path.same (outputPath options file.outputName) path = true ↔
      ¬ Naming.sourceSuffix <:+: path := by
    unfold Path.same
    rw [htarget, beq_iff_eq, Naming.components_output_eq_iff]
  cases hguard : Path.same (outputPath options file.outputName) path with
  | true =>
    left
    exact ⟨hsame.1 hguard, (compileFile_gives (.overwriting hbundles hdefined hguard)).1⟩
  | false =>
    right
    rw [hguard] at hsame
    refine ⟨by simpa using hsame, ?_⟩
    rw [← htarget]
    exact compileFile_of_accepted ⟨hbundles, hdefined, hguard⟩

/-- **Without an output folder, just the inputs without the suffix are refused.** The output name of a
path has the same components as the path just when the path does not hold the suffix of stylesheets.
So let a stylesheet be bundled that undefined variables do not stop: the compilation ends with the error
that the input would be overwritten just when its path does not hold the suffix, and otherwise the css
is written to the output name or the file system fails. -/
theorem compileFile_overwritten_iff (s : Session) (options : Options) :
    (∀ p, Path.components (Naming.output p) = Path.components p ↔ ¬ Naming.sourceSuffix <:+: p) ∧
    (options.outputFolder = none → ∀ path file,
      ((bundleFile Session.machine options path).run.run s).1 = .ok (some file) →
      (options.failOnUndefined = true → file.result.undefined = []) →
      let result := ((compileFile Session.machine options path).run.run s).1
      (result = .error (.invalid (.overwritten path)) ↔ ¬ Naming.sourceSuffix <:+: path) ∧
      (Naming.sourceSuffix <:+: path →
        (∃ cause, result = .error (.io cause)) ∨
          ∃ stats, result = .ok stats ∧ stats.written = [Naming.output path])) := by
  refine ⟨fun p => Naming.components_output_eq_iff, fun hfolder path file hbundled hdefined => ?_⟩
  intro result
  have hbundles : Bundles s.disk options path (.ok (some file)) :=
    hbundled ▸ bundleFile_bundles s options path
  rcases compileFile_cases_of_none hfolder hbundles hdefined with ⟨hnot, hrefused⟩ | ⟨hin, hwritten⟩
  · exact ⟨⟨fun _ => hnot, fun _ => hrefused⟩, fun hin => absurd hin hnot⟩
  · refine ⟨⟨fun hrefused => ?_, fun hnot => absurd hin hnot⟩, fun _ => hwritten⟩
    rcases hwritten with ⟨cause, hcause⟩ | ⟨stats, hstats, -⟩
    · cases hrefused.symm.trans hcause
    · cases hrefused.symm.trans hstats

/-- An idle segment and a doubled slash do not hide that the css would go to the input; and a suffix is
enough for the css to go elsewhere, also where it is that of a folder. -/
theorem compileFile_overwritten_plain :
    let plain := "d/.//p.css".toList
    let kept := "a.scss/p.css".toList
    let bytes := encode "p { }".toList
    let s : Session :=
      { disk :=
          { root := .folder (Text.bytes "a.scss".toList) (.file (Text.bytes "p.css".toList) bytes .empty)
              (.folder (Text.bytes ['d']) (.file (Text.bytes "p.css".toList) bytes .empty) .empty)
            here := [] } }
    let result := fun path => ((compileFile Session.machine {} path).run.run s).1
    result plain = .error (.invalid (.overwritten plain)) ∧
      result kept ≠ .error (.invalid (.overwritten kept)) := by
  intro plain kept bytes s result
  have hbundled : ∀ path,
      (((bundleFile Session.machine {} path).run.run s).1.toOption.map Option.isSome) = some true →
      ∃ file, ((bundleFile Session.machine {} path).run.run s).1 = .ok (some file) := by
    intro path h
    obtain ⟨file?, hfile, hsome⟩ := Option.map_eq_some_iff.1 h
    obtain ⟨file, rfl⟩ := Option.isSome_iff_exists.1 hsome
    exact ⟨file, eq_ok_of_toOption hfile⟩
  obtain ⟨_, hplain⟩ := hbundled plain (by decide +kernel)
  obtain ⟨_, hkept⟩ := hbundled kept (by decide +kernel)
  have hiff := (compileFile_overwritten_iff s {}).2 rfl
  refine ⟨(hiff plain _ hplain nofun).1.2 (by decide +kernel), fun hrefused => ?_⟩
  exact (hiff kept _ hkept nofun).1.1 hrefused (by decide +kernel)

end Compilation

end Scss
