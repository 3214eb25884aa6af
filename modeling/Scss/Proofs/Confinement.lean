import Scss.Proofs.Components
import Scss.Proofs.Compilation
import Scss.Proofs.Import

/-!
# Imports are read beside the stylesheet

The name of an import holds no slash, and with the suffix of stylesheets behind it, it is longer than
the segments of dots that lead elsewhere; so it is the name of a file, even where it is made of dots
alone (`isFileName_imported`). Joined to a path it is one more component, and bundling joins it to the
folder of the stylesheet.

What is read is put on record by `Machine.recording`, which asks the same of a machine as before.

* `components_importPath`: the components of the path at which an import is looked for.
* `bundleFile_reads_beside`: what else than the stylesheet is read has the parent of the stylesheet.
-/

namespace Scss

namespace Machine

variable {σ α : Type}

/-- The program, with some questions added to the record. -/
def record (questions : List Access) (x : StateM σ α) : StateM (List Access × σ) α :=
  fun s => ((x.run s.2).1, s.1 ++ questions, (x.run s.2).2)

/-- The machine with a record of what it is asked about files. -/
def recording (machine : Machine (StateM σ)) : Machine (StateM (List Access × σ)) where
  isFile p := record [.isFile p] (machine.isFile p)
  isFolder p := record [] (machine.isFolder p)
  read p := record [.read p] (machine.read p)
  walk deep p := record [] (machine.walk deep p)
  isFileEntry p := record [] (machine.isFileEntry p)
  makeFolders p := record [] (machine.makeFolders p)
  write p text := record [] (machine.write p text)
  now := record [] machine.now
  note n := record [] (machine.note n)
  report r := record [] (machine.report r)

end Machine

theorem Session.recording_answerBy (d : Disk) :
    (Session.machine.recording.files none).AnswerBy d.answers
      fun questions s => s.1 = questions ∧ s.2.disk = d where
  isFile := by
    rintro questions s p ⟨rfl, rfl⟩
    exact ⟨rfl, rfl, rfl⟩
  read := by
    rintro questions s p ⟨rfl, rfl⟩
    refine ⟨rfl, ?_, rfl⟩
    exact congrArg (· ++ [Access.read p]) (List.append_nil s.1)
  note := by
    rintro questions s n ⟨rfl, rfl⟩
    exact ⟨List.append_nil s.1, rfl⟩

namespace Bundler

variable {answers : Answers} {bundler : Bundler} {path contents name q : Text}
  {result : Except BundleError (Option Bundled)} {questions : List Access}

/-- The file of an import is the name of a file, whatever characters the name has. -/
theorem isFileName_imported (h : Import.IsName name) :
    Path.IsFileName (name ++ Naming.sourceSuffix) := by
  have hlength : (name ++ Naming.sourceSuffix).length = name.length + 5 := by
    rw [List.length_append]
    rfl
  refine ⟨Path.isEntryName_of_length (by omega), ?_⟩
  have hname : Path.separator ∉ name := Text.notMem_of_forall h.2 (by decide)
  have hsuffix : Path.separator ∉ Naming.sourceSuffix := by decide
  rw [List.mem_append, not_or]
  exact ⟨hname, hsuffix⟩

/-- **The path of an import** has the components of the folder in which imports are looked for, if
there is one, and one more. -/
theorem components_importPath (bundler : Bundler) (h : name ∈ Import.scan contents) :
    Path.components (bundler.importPath name) =
      bundler.importRoot.elim [] Path.components ++ [.normal (name ++ Naming.sourceSuffix)] := by
  have hname := isFileName_imported (Import.mem_scan_iff.1 h).1
  unfold importPath Naming.imported
  cases bundler.importRoot with
  | none => exact Path.components_of_isFileName hname
  | some root => exact Path.components_join root hname

/-- Besides the stylesheet, bundling reads imports of it, and only if it is a file. -/
theorem Outcome.import_of_read (h : Outcome answers bundler path result questions)
    (hq : .read q ∈ questions) (hne : q ≠ path) :
    answers.isFile path = true ∧
      ∃ contents, ∃ name ∈ Import.scan contents, q = bundler.importPath name := by
  have himport : ∀ names, .read q ∈ [Access.isFile path, .read path] ++ bundler.reads names →
      ∃ name ∈ names, q = bundler.importPath name := by
    intro names hmem
    rcases List.mem_append.1 hmem with hentry | hreads
    · simp [hne] at hentry
    · obtain ⟨name, hname, heq⟩ := List.mem_map.1 hreads
      exact ⟨name, hname, (Access.read.inj heq).symm⟩
  cases h with
  | skipped _ => cases hq
  | absent _ _ => simp at hq
  | unreadable _ _ _ => simp [hne] at hq
  | @importMissing contents missing before after cause _ hfile _ hscan _ _ =>
    obtain ⟨name, hname, heq⟩ := himport _ hq
    have hsub : before ++ [missing] ⊆ before ++ missing :: after := by simp
    refine ⟨hfile, contents, name, ?_, heq⟩
    rw [hscan]
    exact hsub hname
  | @bundled contents _ hfile _ _ =>
    obtain ⟨name, hname, heq⟩ := himport _ hq
    exact ⟨hfile, contents, name, hname, heq⟩

end Bundler

namespace Compilation

open Disk

variable {d : Disk} {s : Session} {options : Options} {path q : Text} {injected : List Binding}
  {questions : List Access}

theorem exists_fileName?_of_isFile (h : d.isFile path = true) :
    ∃ name, Path.fileName? path = some name := by
  obtain ⟨place, bytes, hlocate, hfile⟩ := isFile_iff.1 h
  have hfree : d.root.entryAt place ≠ some .folder := by
    rw [hfile]
    simp
  obtain ⟨init, segment, -, hsegments, hname, -, -⟩ := locate_last hlocate hfree
  exact ⟨segment, Path.fileName?_eq_some_iff.2 ⟨hname, init, [], hsegments, by simp⟩⟩

/-- The questions of bundling are on record. -/
theorem recording_gives {result : Except BundleError (Option Bundled)}
    (hinjected : options.injected = .ok injected)
    (hout : Bundler.Outcome s.disk.answers (bundlerFor options injected path) path result questions) :
    Gives (bundleFile Session.machine.recording options path) ([], s) (result.mapError .bundle)
      fun t => t.1 = questions := by
  have hbundle := Bundler.bundle_gives (t := []) (s := ([], s)) (Session.recording_answerBy s.disk)
    hout ⟨rfl, rfl⟩
  have hlift : Gives (liftM ((bundlerFor options injected path).bundle
      (Session.machine.recording.files none) path).run :
      ExceptT Error (StateM (List Access × Session)) (Except BundleError (Option Bundled)))
      ([], s) (.ok result) fun t => t.1 = questions := .lift hbundle.1 hbundle.2.1
  unfold bundleFile
  rw [hinjected]
  refine hlift.bind fun t ht => ?_
  cases result with
  | error cause => exact .throw ht
  | ok file? => exact .pure ht

/-- The folder of imports has the components of the parent, also where it goes without saying. -/
theorem components_importRoot (injected : List Binding) {dir : Text}
    (h : Path.parent? path = some dir) :
    (bundlerFor options injected path).importRoot.elim [] Path.components = Path.components dir := by
  unfold bundlerFor Path.folder?
  rw [h]
  cases dir with
  | nil => rfl
  | cons c s => rfl

/-- **Imports cannot leave the folder of the stylesheet.** The path at which an import is looked for
has the components of the folder of imports, if there is one, and then the name with its suffix as one
normal component. So every file that bundling reads besides the stylesheet has a parent with the same
components as that of the stylesheet, whatever text there is. -/
theorem bundleFile_reads_beside (s : Session) (options : Options) (path : Text) :
    (∀ (bundler : Bundler) (contents : Text), ∀ name ∈ Import.scan contents,
      Path.components (bundler.importPath name) =
        bundler.importRoot.elim [] Path.components ++ [.normal (name ++ Naming.sourceSuffix)]) ∧
    ∀ q, .read q ∈ ((bundleFile Session.machine.recording options path).run.run ([], s)).2.1 →
      q ≠ path → ∃ dir dir', Path.parent? q = some dir ∧ Path.parent? path = some dir' ∧
        Path.same dir dir' = true := by
  refine ⟨fun bundler contents name h => bundler.components_importPath h, fun q hq hne => ?_⟩
  cases hinjected : options.injected with
  | error reason =>
    have hnone : ((bundleFile Session.machine.recording options path).run.run ([], s)).2.1 = [] := by
      unfold bundleFile
      rw [hinjected]
      rfl
    rw [hnone] at hq
    cases hq
  | ok injected =>
    obtain ⟨result, questions, hout⟩ :=
      Bundler.exists_outcome s.disk.answers (bundlerFor options injected path) path
    rw [(recording_gives hinjected hout).2] at hq
    obtain ⟨hfile, contents, name, hname, rfl⟩ := hout.import_of_read hq hne
    obtain ⟨_, hfileName⟩ := exists_fileName?_of_isFile hfile
    obtain ⟨dir', hdir'⟩ := Path.exists_parent? hfileName
    have himport := (bundlerFor options injected path).components_importPath hname
    have hlast : Path.fileName? ((bundlerFor options injected path).importPath name) =
        some (name ++ Naming.sourceSuffix) := by
      rw [Path.fileName?_eq_some_iff_getLast?, himport, List.getLast?_concat]
    obtain ⟨dir, hdir⟩ := Path.exists_parent? hlast
    refine ⟨dir, dir', hdir, hdir', ?_⟩
    unfold Path.same
    rw [Path.components_parent? hdir, himport, List.dropLast_concat,
      components_importRoot injected hdir', beq_self_eq_true]

/-- In a folder that is spelled with a dot, an import of two dots is one of the files beside. -/
theorem bundleFile_reads_dots_beside :
    let path := "d/./a.scss".toList
    let q := "d/...scss".toList
    let s : Session :=
      { disk :=
          { root := .folder (Text.bytes ['d'])
              (.file (Text.bytes "a.scss".toList) (encode "@import '..';".toList) .empty) .empty
            here := [] } }
    let asked := ((bundleFile Session.machine.recording {} path).run.run ([], s)).2.1
    asked = [.isFile path, .read path, .read q] ∧
      ∃ dir dir', Path.parent? q = some dir ∧ Path.parent? path = some dir' ∧
        Path.same dir dir' = true := by
  intro path q s asked
  have hasked : asked = [.isFile path, .read path, .read q] := by decide +kernel
  have hq : .read q ∈ asked := by
    rw [hasked]
    simp
  exact ⟨hasked, (bundleFile_reads_beside s {} path).2 q hq (by decide)⟩

end Compilation

end Scss
