import Scss.Proofs.Compilation
import Scss.Proofs.Components

/-!
# When a compilation keeps its input

A compilation refuses to write to the path of its input, but it compares paths and not the places to
which they lead: `./p.css` is another path than `p.css` and leads to the same file. So the input is
lost just where the output path leads to the place of the input and is spelled in another way
(`compileFile_keeps_input_iff`), as with the working folder for the output
(`compileFile_overwrites_input`).

A file stands under the last segment of every path that leads to it (`fileName?_of_file`), and the
output path keeps the file name of the output whatever the options are (`fileName?_outputPath`). So a
stylesheet whose own name changes is never overwritten.
-/

namespace Scss.Compilation

open Disk

variable {d d' : Disk} {s : Session} {options : Options} {path : Text} {place : Place}
  {bytes : ByteArray} {result : Except Error Stats}

/-- A path that leads to a file ends in the name of that file. -/
theorem fileName?_of_file (hplace : d.locate path = .ok place)
    (hfile : d.root.entryAt place = some (.file bytes)) :
    (Path.fileName? path).map Text.bytes = place.getLast? := by
  have hfree : d.root.entryAt place ≠ some .folder := by
    rw [hfile]
    simp
  obtain ⟨init, segment, parent, hsegments, hname, -, rfl⟩ := locate_last hplace hfree
  rw [List.getLast?_concat, Path.fileName?_eq_some_iff.2 ⟨hname, init, [], hsegments, by simp⟩]
  rfl

/-- The output path has the file name of the output, whatever the options are. -/
theorem fileName?_outputPath (options : Options) (outputName : Text) :
    Path.fileName? (outputPath options outputName) = Path.fileName? outputName := by
  unfold outputPath
  split
  next folder name _ hname =>
    rw [Path.fileName?_join folder (Path.isFileName_of_fileName? hname), hname]
  · rfl

/-- **The input is kept, or the css was written to its place.** -/
theorem Course.input_cases (h : Course d options path result d')
    (hplace : d.locate path = .ok place) (hfile : d.root.entryAt place = some (.file bytes)) :
    d'.locate path = .ok place ∧
      (d'.root.entryAt place = some (.file bytes) ∨
        ∃ file, Accepted d options path file ∧
          result = .ok { statsOf file with written := [outputPath options file.outputName] } ∧
          Wrote (outputPath options file.outputName) (encode file.result.css) place d d') := by
  cases h with
  | refused _ => exact ⟨hplace, .inl hfile⟩
  | skipped _ => exact ⟨hplace, .inl hfile⟩
  | undefined _ _ _ => exact ⟨hplace, .inl hfile⟩
  | overwriting _ _ _ => exact ⟨hplace, .inl hfile⟩
  | failed _ hemits =>
    exact ⟨locate_mono hemits.added.keepsFolders hplace, .inl (hemits.added.keeps hfile)⟩
  | @written file _ haccepted hemits =>
    obtain ⟨target, hwrote⟩ := hemits.wrote
    refine ⟨locate_mono hwrote.keepsFolders hplace, ?_⟩
    by_cases htarget : place = target
    · subst htarget
      exact .inr ⟨file, haccepted, rfl, hwrote⟩
    · exact .inl (hwrote.keeps htarget hfile)

/-- **When a compilation keeps its input.** Let the path lead to a file. After the compilation it leads
to the same place. No css is written to the path itself, and the file is as before unless a css of
other bytes was written to another path that leads to its place. In particular it is as before wherever
the name of the output is not that of the input, whatever the options are. -/
theorem compileFile_keeps_input_iff (hplace : s.disk.locate path = .ok place)
    (hfile : s.disk.root.entryAt place = some (.file bytes)) :
    let run := (compileFile Session.machine options path).run.run s
    let bundled := ((bundleFile Session.machine options path).run.run s).1
    let after := run.2.disk
    after.locate path = .ok place ∧
    (∀ stats, run.1 = .ok stats → ∀ q ∈ stats.written, Path.same q path = false) ∧
    (after.root.entryAt place = some (.file bytes) ↔
      ∀ stats q file, run.1 = .ok stats → stats.written = [q] → after.locate q = .ok place →
        bundled = .ok (some file) → encode file.result.css = bytes) ∧
    (Path.fileName? (Naming.output path) ≠ Path.fileName? path →
      after.root.entryAt place = some (.file bytes)) := by
  intro run bundled after
  have hcourse : Course s.disk options path run.1 after := compileFile_course s options path
  obtain ⟨hleads, hcases⟩ := hcourse.input_cases hplace hfile
  refine ⟨hleads, ?_, ⟨?_, ?_⟩, ?_⟩
  · intro stats hstats q hq
    rw [hstats] at hcourse
    rcases hcourse.written_cases with ⟨hnil, -, -⟩ | ⟨file, -, haccepted, rfl, -⟩
    · rw [hnil] at hq
      cases hq
    · obtain rfl := List.mem_singleton.1 hq
      exact haccepted.apart
  · intro hkept stats q file hstats hq hlocate hfile'
    rw [hstats] at hcourse
    rcases hcourse.written_cases with ⟨hnil, -, -⟩ | ⟨file', target, haccepted, rfl, hwrote⟩
    · rw [hnil] at hq
      cases hq
    -- the file that was bundled is the one that was written, and its place is the input's
    have hbundled : bundled = .ok (some file') := (bundleFile_gives haccepted.bundles).1
    rw [hbundled] at hfile'
    obtain rfl := Option.some.inj (Except.ok.inj hfile')
    obtain rfl : outputPath options file'.outputName = q := (List.cons.inj hq).1
    obtain rfl : target = place := Except.ok.inj (hwrote.leads.symm.trans hlocate)
    have hholds := hwrote.holds
    rw [hkept] at hholds
    exact (Entry.file.inj (Option.some.inj hholds)).symm
  · intro hsame
    rcases hcases with hkept | ⟨file, haccepted, hresult, hwrote⟩
    · exact hkept
    · have hbytes := hsame _ _ file hresult rfl hwrote.leads (bundleFile_gives haccepted.bundles).1
      rw [← hbytes]
      exact hwrote.holds
  · intro hname
    rcases hcases with hkept | ⟨file, haccepted, -, hwrote⟩
    · exact hkept
    · -- both paths lead to one file, so they end in one name
      have hinput := fileName?_of_file hplace hfile
      have houtput := fileName?_of_file hwrote.leads hwrote.holds
      rw [fileName?_outputPath, haccepted.bundles.source.2.1] at houtput
      have hsame := Option.map_injective (fun _ _ => Text.bytes_inj.1) (houtput.trans hinput.symm)
      exact absurd hsame hname

/-- A stylesheet is kept although its css goes to the same folder, and by way of a folder that is
made first. -/
theorem compileFile_keeps_renamed_input :
    let input : Text := "a.scss".toList
    let s : Session :=
      { disk := { root := .file input.bytes (encode "$a: 1;$a".toList) .empty, here := [] } }
    let run :=
      (compileFile Session.machine { outputFolder := some "new/..".toList } input).run.run s
    s.disk.locate input = .ok [input.bytes] ∧
      s.disk.root.entryAt [input.bytes] = some (.file (encode "$a: 1;$a".toList)) ∧
      run.2.disk.root.entryAt [input.bytes] = some (.file (encode "$a: 1;$a".toList)) := by
  intro input s run
  have hplace : s.disk.locate input = .ok [input.bytes] := eq_ok_of_toOption (by decide +kernel)
  have hfile : s.disk.root.entryAt [input.bytes] = some (.file (encode "$a: 1;$a".toList)) := rfl
  exact ⟨hplace, hfile, (compileFile_keeps_input_iff hplace hfile).2.2.2 (by decide)⟩

/-- With the working folder for its css, an input that keeps its name is overwritten: the path of the
css is spelled in another way and leads to the same place. -/
theorem compileFile_overwrites_input :
    let input : Text := "plain.css".toList
    let s : Session :=
      { disk := { root := .file input.bytes (encode "$a: 1;$a".toList) .empty, here := [] } }
    let run := (compileFile Session.machine { outputFolder := some ['.'] } input).run.run s
    s.disk.locate input = .ok [input.bytes] ∧
      s.disk.root.entryAt [input.bytes] = some (.file (encode "$a: 1;$a".toList)) ∧
      run.2.disk.root.entryAt [input.bytes] = some (.file (encode "1".toList)) ∧
      encode "1".toList ≠ encode "$a: 1;$a".toList := by
  intro input s run
  refine ⟨eq_ok_of_toOption ?_, ?_, ?_, ?_⟩ <;> decide +kernel

end Scss.Compilation
