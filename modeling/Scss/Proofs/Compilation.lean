import Scss.Compilation
import Scss.Disk.Session
import Scss.Proofs.Bundle
import Scss.Proofs.Disk

/-!
# What compiling a file does to the disk

On a session bundling reads the disk and leaves it alone, so what it gives depends on the disk only
(`Bundles`, `bundleFile_gives`). `Course` lists the ways that a compilation can take from there: it is
refused, skipped, stopped at undefined variables or at its own input, fails in making folders or in
writing, or it succeeds; with the disk that each of them leaves. A compilation takes one of these
courses (`compileFile_course`), and everything else is read off them.

* `Course.disk_eq_of_error`, `Course.added_of_io`, `Course.written_cases`: what a course has changed.
* `compileFile_leaves_disk`: the same for a compilation, and when undefined variables stop it.
-/

namespace Scss

/-- The answers of a disk. -/
def Disk.answers (d : Disk) : Answers where
  isFile := d.isFile
  read := d.read

/-- The files of a session answer as its disk does, which stays as it is. -/
theorem Session.files_answerBy (d : Disk) :
    (Session.machine.files none).AnswerBy d.answers fun _ s => s.disk = d where
  isFile := by rintro t s p rfl; exact ⟨rfl, rfl⟩
  read := by rintro t s p rfl; exact ⟨rfl, rfl⟩
  note := by rintro t s n rfl; rfl

/-- The error tells of undefined variables. -/
def Error.isUndefined : Error → Bool
  | undefined .. | undefinedTotal .. => true
  | _ => false

namespace Compilation

open Disk

variable {d d' d₁ : Disk} {s : Session} {options : Options} {path : Text} {file : Bundled}
  {result : Except Error Stats} {cause : Failure}

/-! ### Bundling -/

/-- What bundling gives on a disk. -/
inductive Bundles (d : Disk) (options : Options) (path : Text) :
    Except Error (Option Bundled) → Prop
  | invalid {reason : Invalid} : options.injected = .error reason →
      Bundles d options path (.error (.invalid reason))
  | failed {injected : List Binding} {cause : BundleError} {questions : List Access} :
      options.injected = .ok injected →
      Bundler.Outcome d.answers (bundlerFor options injected path) path (.error cause) questions →
      Bundles d options path (.error (.bundle cause))
  | done {injected : List Binding} {file? : Option Bundled} {questions : List Access} :
      options.injected = .ok injected →
      Bundler.Outcome d.answers (bundlerFor options injected path) path (.ok file?) questions →
      Bundles d options path (.ok file?)

theorem exists_bundles (d : Disk) (options : Options) (path : Text) :
    ∃ r, Bundles d options path r := by
  cases hinjected : options.injected with
  | error reason => exact ⟨_, .invalid hinjected⟩
  | ok injected =>
    obtain ⟨r, questions, hout⟩ := Bundler.exists_outcome d.answers (bundlerFor options injected path) path
    cases r with
    | error cause => exact ⟨_, .failed hinjected hout⟩
    | ok file? => exact ⟨_, .done hinjected hout⟩

/-- **Bundling on a session** gives what the disk determines, and leaves the disk as it is. -/
theorem bundleFile_gives {r : Except Error (Option Bundled)} (h : Bundles s.disk options path r) :
    Gives (bundleFile Session.machine options path) s r fun t => t.disk = s.disk := by
  have hbundle : ∀ {injected r questions},
      Bundler.Outcome s.disk.answers (bundlerFor options injected path) path r questions →
      Gives (liftM ((bundlerFor options injected path).bundle (Session.machine.files none) path).run :
        ExceptT Error (StateM Session) (Except BundleError (Option Bundled))) s (.ok r)
        fun t => t.disk = s.disk := by
    intro injected r questions hout
    have hgives := Bundler.bundle_gives (t := []) (Session.files_answerBy s.disk) hout rfl
    exact .lift hgives.1 hgives.2
  unfold bundleFile
  cases h with
  | invalid hinjected =>
    rw [hinjected]
    exact .throw rfl
  | failed hinjected hout =>
    rw [hinjected]
    exact (hbundle hout).bind fun t ht => .throw ht
  | done hinjected hout =>
    rw [hinjected]
    exact (hbundle hout).bind fun t ht => .pure ht

theorem bundleFile_bundles (s : Session) (options : Options) (path : Text) :
    Bundles s.disk options path ((bundleFile Session.machine options path).run.run s).1 := by
  obtain ⟨r, hr⟩ := exists_bundles s.disk options path
  rwa [(bundleFile_gives hr).1]

/-- What holds of reading files and taking notes holds of bundling them. -/
theorem bundleFile_composes {P : ∀ {α : Type}, StateM Session α → Prop} (h : Composes P)
    (hask : ∀ {α : Type} (f : Disk → α), P (Session.ask f))
    (hnote : ∀ n, P (Session.machine.note n)) (options : Options) (path : Text) :
    P (bundleFile Session.machine options path).run := by
  have hisFile : ∀ p, P ((Session.machine.files none).isFile p) := fun p =>
    hask (Disk.isFile · (Path.resolve none p))
  have hread : ∀ p, P ((Session.machine.files none).read p) := fun p =>
    h.bind (hnote _) fun _ => hask (Disk.read · (Path.resolve none p))
  unfold bundleFile
  split
  · exact h.pure _
  next injected _ =>
  refine h.run_bind (h.run_lift ?_) fun answer => ?_
  · exact Bundler.bundle_composes h hisFile hread hnote _ path
  · cases answer with
    | ok file? => exact h.pure _
    | error cause => exact h.pure _

theorem Bundles.error_cases {e : Error} (h : Bundles d options path (.error e)) :
    (∃ reason, e = .invalid reason) ∨ ∃ cause, e = .bundle cause := by
  cases h with
  | invalid _ => exact .inl ⟨_, rfl⟩
  | failed _ _ => exact .inr ⟨_, rfl⟩

theorem Bundles.isPartial (h : Bundles d options path (.ok none)) :
    Naming.isPartial path = true := by
  cases h with
  | done _ hout =>
    cases hout with
    | skipped hpartial => exact hpartial

/-- A bundled file was compiled from the text at its path. -/
theorem Bundles.source (h : Bundles d options path (.ok (some file))) :
    Naming.isPartial path = false ∧ file.outputName = Naming.output path ∧
      ∃ contents, d.read path = .ok contents ∧ file.sourceSize = contents.str.utf8ByteSize := by
  cases h with
  | done _ hout =>
    cases hout with
    | @bundled contents hpartial _ hread _ => exact ⟨hpartial, rfl, contents, hread, rfl⟩

/-! ### Writing the css -/

/-- The disk with the folder of a path made, where it has one. -/
def prepare (d : Disk) (target : Text) : Disk × Except Failure Unit :=
  match Path.folder? target with
  | some folder => d.makeFolders folder
  | none => (d, .ok ())

theorem prepare_added (d : Disk) (target : Text) :
    FoldersAdded (Path.parents target) d (prepare d target).1 := by
  unfold prepare
  cases hfolder : Path.folder? target with
  | none => exact .refl _ d
  | some folder =>
    rw [Path.parents_eq_of_folder? hfolder]
    exact makeFolders_added d folder

theorem note_gives (n : Note) (h : s.disk = d) :
    Gives (liftM (Session.machine.note n) : ExceptT Error (StateM Session) PUnit) s (.ok ⟨⟩)
      fun t => t.disk = d :=
  .lift rfl h

theorem orFail_gives {α : Type} {action : StateM Session (Except Failure α)}
    {after : Session → Prop} (answer : Except Failure α) (ha : (action.run s).1 = answer)
    (h : after (action.run s).2) : Gives (orFail action) s (answer.mapError .io) after := by
  unfold orFail
  refine (Gives.lift ha h).bind fun t ht => ?_
  cases answer with
  | ok a => exact .pure ht
  | error cause => exact .throw ht

/-- How writing a text to a path goes whose folder may be missing: the folder cannot be made, the file
cannot be written, or both are done. -/
inductive Emits (d : Disk) (target css : Text) : Except Failure Unit → Disk → Prop
  | unprepared {d₁ : Disk} {cause : Failure} : prepare d target = (d₁, .error cause) →
      Emits d target css (.error cause) d₁
  | unwritten {d₁ : Disk} {cause : Failure} : prepare d target = (d₁, .ok ()) →
      d₁.write target css = .error cause → Emits d target css (.error cause) d₁
  | written {d₁ d' : Disk} : prepare d target = (d₁, .ok ()) → d₁.write target css = .ok d' →
      Emits d target css (.ok ()) d'

theorem exists_emits (d : Disk) (target css : Text) : ∃ r d', Emits d target css r d' := by
  rcases hprepare : prepare d target with ⟨d₁, cause | _⟩
  · exact ⟨_, _, .unprepared hprepare⟩
  · cases hwrite : d₁.write target css with
    | error cause => exact ⟨_, _, .unwritten hprepare hwrite⟩
    | ok d' => exact ⟨_, _, .written hprepare hwrite⟩

theorem prepare_gives {target : Text} {answer : Except Failure Unit}
    (h : prepare s.disk target = (d₁, answer)) :
    Gives (match Path.folder? target with
      | some folder => orFail (Session.machine.makeFolders folder)
      | none => pure ()) s (answer.mapError .io) fun t => t.disk = d₁ := by
  unfold prepare at h
  cases hfolder : Path.folder? target with
  | none =>
    rw [hfolder] at h
    cases h
    exact .pure rfl
  | some folder =>
    rw [hfolder] at h
    refine orFail_gives answer ?_ ?_
    · exact congrArg Prod.snd h
    · exact congrArg Prod.fst h

theorem write_run (s : Session) (p text : Text) :
    (Session.machine.write p text).run s =
      match s.disk.write p text with
      | .ok disk => (.ok (), { s with disk })
      | .error cause => (.error cause, s) := rfl

theorem write_gives_ok {p text : Text} (h : s.disk.write p text = .ok d') :
    Gives (orFail (Session.machine.write p text)) s (.ok ()) fun t => t.disk = d' := by
  have hrun := write_run s p text
  rw [h] at hrun
  exact orFail_gives (.ok ()) (by rw [hrun]) (by rw [hrun])

theorem write_gives_error {p text : Text} (h : s.disk.write p text = .error cause) :
    Gives (orFail (Session.machine.write p text)) s (.error (.io cause))
      fun t => t.disk = s.disk := by
  have hrun := write_run s p text
  rw [h] at hrun
  exact orFail_gives (.error cause) (by rw [hrun]) (by rw [hrun])

theorem emit_gives {target : Text} {answer : Except Failure Unit}
    (h : Emits s.disk target file.result.css answer d') :
    Gives (emit Session.machine file target) s (answer.mapError .io) fun t => t.disk = d' := by
  have hemit : emit Session.machine file target =
      (match Path.folder? target with
      | some folder => orFail (Session.machine.makeFolders folder)
      | none => pure ()) >>= fun _ =>
        orFail (Session.machine.write target file.result.css) >>= fun _ =>
          liftM (Session.machine.note (.wrote target)) := by
    unfold emit
    cases Path.folder? target <;> rfl
  rw [hemit]
  cases h with
  | unprepared hprepare => exact (prepare_gives hprepare).bind_error
  | unwritten hprepare hwrite =>
    refine (prepare_gives hprepare).bind ?_
    rintro t rfl
    exact (write_gives_error hwrite).bind_error
  | written hprepare hwrite =>
    refine (prepare_gives hprepare).bind ?_
    rintro t rfl
    exact (write_gives_ok hwrite).bind fun u hu => note_gives _ hu

theorem Emits.added {target css : Text} (h : Emits d target css (.error cause) d') :
    FoldersAdded (Path.parents target) d d' := by
  have hadded := prepare_added d target
  cases h with
  | unprepared hprepare => rwa [hprepare] at hadded
  | unwritten hprepare _ => rwa [hprepare] at hadded

theorem Emits.wrote {target css : Text} (h : Emits d target css (.ok ()) d') :
    ∃ place, Wrote target (encode css) place d d' := by
  have hadded := prepare_added d target
  cases h with
  | written hprepare hwrite =>
    rw [hprepare] at hadded
    -- setting the file keeps all folders, so the path leads to it afterwards too
    obtain ⟨place, hlocate, hsets⟩ := writeBytes_ok hwrite
    exact ⟨place, hadded.wrote hsets (locate_mono hsets.keepsFolders hlocate)⟩

/-! ### The courses of a compilation -/

/-- The bundled file is to be written: it was bundled, undefined variables do not matter or there are
none, and the css does not go to the path of the input. -/
structure Accepted (d : Disk) (options : Options) (path : Text) (file : Bundled) : Prop where
  bundles : Bundles d options path (.ok (some file))
  defined : options.failOnUndefined = true → file.result.undefined = []
  apart : Path.same (outputPath options file.outputName) path = false

/-- **The courses that a compilation can take** on a disk, with their results and the disk that they
leave. -/
inductive Course (d : Disk) (options : Options) (path : Text) : Except Error Stats → Disk → Prop
  /-- There is nothing to compile. -/
  | refused {e : Error} : Bundles d options path (.error e) → Course d options path (.error e) d
  /-- A partial is skipped. -/
  | skipped : Bundles d options path (.ok none) → Course d options path (.ok {}) d
  /-- Undefined variables stop the compilation. -/
  | undefined {file : Bundled} : Bundles d options path (.ok (some file)) →
      options.failOnUndefined = true → file.result.undefined ≠ [] →
      Course d options path (.error (.undefined path file.result.undefined)) d
  /-- The css would go to the path of the input. -/
  | overwriting {file : Bundled} : Bundles d options path (.ok (some file)) →
      (options.failOnUndefined = true → file.result.undefined = []) →
      Path.same (outputPath options file.outputName) path = true →
      Course d options path (.error (.invalid (.overwritten path))) d
  /-- The css cannot be written. -/
  | failed {file : Bundled} {cause : Failure} {d' : Disk} : Accepted d options path file →
      Emits d (outputPath options file.outputName) file.result.css (.error cause) d' →
      Course d options path (.error (.io cause)) d'
  /-- The css is written. -/
  | written {file : Bundled} {d' : Disk} : Accepted d options path file →
      Emits d (outputPath options file.outputName) file.result.css (.ok ()) d' →
      Course d options path
        (.ok { statsOf file with written := [outputPath options file.outputName] }) d'

theorem stops_iff :
    (options.failOnUndefined && file.result.hasErrors) = true ↔
      options.failOnUndefined = true ∧ file.result.undefined ≠ [] := by
  simp [Compiled.hasErrors]

theorem stops_eq_false (h : options.failOnUndefined = true → file.result.undefined = []) :
    (options.failOnUndefined && file.result.hasErrors) = false := by
  rw [← Bool.not_eq_true, stops_iff]
  exact fun hstop => hstop.2 (h hstop.1)

theorem exists_course (d : Disk) (options : Options) (path : Text) :
    ∃ r d', Course d options path r d' := by
  obtain ⟨r, hr⟩ := exists_bundles d options path
  rcases r with e | _ | file
  · exact ⟨_, _, .refused hr⟩
  · exact ⟨_, _, .skipped hr⟩
  · by_cases hstop : options.failOnUndefined = true ∧ file.result.undefined ≠ []
    · exact ⟨_, _, .undefined hr hstop.1 hstop.2⟩
    have hdefined : options.failOnUndefined = true → file.result.undefined = [] := by
      intro hfail
      rw [not_and, Decidable.not_not] at hstop
      exact hstop hfail
    cases hsame : Path.same (outputPath options file.outputName) path with
    | true => exact ⟨_, _, .overwriting hr hdefined hsame⟩
    | false =>
      obtain ⟨answer, d', hemits⟩ := exists_emits d (outputPath options file.outputName)
        file.result.css
      cases answer with
      | error cause => exact ⟨_, _, .failed ⟨hr, hdefined, hsame⟩ hemits⟩
      | ok _ => exact ⟨_, _, .written ⟨hr, hdefined, hsame⟩ hemits⟩

theorem now_gives (h : s.disk = d) :
    Gives (liftM Session.machine.now : ExceptT Error (StateM Session) Nat) s (.ok 0)
      fun t => t.disk = d :=
  .lift rfl h

theorem whenVerbose_gives (options : Options) (notes : List Note) (h : s.disk = d) :
    Gives (whenVerbose Session.machine options notes) s (.ok ()) fun t => t.disk = d := by
  unfold whenVerbose
  split
  · exact .forM (fun n t ht => note_gives n ht) h
  · exact .pure h

/-- **A compilation takes one of its courses.** -/
theorem compileFile_gives (h : Course s.disk options path result d') :
    Gives (compileFile Session.machine options path) s result fun t => t.disk = d' := by
  unfold compileFile
  refine (now_gives rfl).bind fun t ht => ?_
  refine (whenVerbose_gives options _ ht).bind fun u hu => ?_
  -- nothing was done to the disk so far
  rw [← hu] at h
  cases h with
  | refused hbundles => exact (bundleFile_gives hbundles).bind_error
  | skipped hbundles =>
    refine (bundleFile_gives hbundles).bind fun v hv => ?_
    refine (note_gives _ hv).bind fun w hw => ?_
    exact (now_gives hw).bind fun x hx => .pure hx
  | @undefined file hbundles hfail hne =>
    refine (bundleFile_gives hbundles).bind fun v hv => ?_
    simp only [stops_iff.2 ⟨hfail, hne⟩, if_true]
    exact Gives.bind_error (.throw hv)
  | @overwriting file hbundles hdefined hsame =>
    refine (bundleFile_gives hbundles).bind fun v hv => ?_
    simp only [stops_eq_false hdefined, hsame, if_true]
    exact Gives.bind_error (.throw hv)
  | @failed file cause _ haccepted hemits =>
    refine (bundleFile_gives haccepted.bundles).bind fun v hv => ?_
    rw [← hv] at hemits
    simp only [stops_eq_false haccepted.defined, haccepted.apart]
    exact (emit_gives hemits).bind_error
  | @written file _ haccepted hemits =>
    refine (bundleFile_gives haccepted.bundles).bind fun v hv => ?_
    rw [← hv] at hemits
    simp only [stops_eq_false haccepted.defined, haccepted.apart]
    refine (emit_gives hemits).bind fun w hw => ?_
    refine (now_gives hw).bind fun x hx => ?_
    exact (whenVerbose_gives options _ hx).bind fun y hy => .pure hy

theorem compileFile_course (s : Session) (options : Options) (path : Text) :
    Course s.disk options path ((compileFile Session.machine options path).run.run s).1
      ((compileFile Session.machine options path).run.run s).2.disk := by
  obtain ⟨r, d', hcourse⟩ := exists_course s.disk options path
  obtain ⟨hr, hd⟩ := compileFile_gives hcourse
  rwa [hr, hd]

/-! ### What a course has changed -/

namespace Course

/-- An error of another kind than the file system's leaves the disk as it is. -/
theorem disk_eq_of_error {e : Error} (h : Course d options path (.error e) d')
    (hio : ∀ cause, e ≠ .io cause) : d' = d := by
  cases h with
  | refused _ => rfl
  | undefined _ _ _ => rfl
  | overwriting _ _ _ => rfl
  | failed _ _ => exact absurd rfl (hio _)

/-- An error of the file system leaves at most new folders. -/
theorem added_of_io (h : Course d options path (.error (.io cause)) d') :
    FoldersAdded (Path.parents (outputPath options (Naming.output path))) d d' := by
  cases h with
  | refused hbundles =>
    rcases hbundles.error_cases with ⟨_, he⟩ | ⟨_, he⟩ <;> cases he
  | failed haccepted hemits =>
    rw [← haccepted.bundles.source.2.1]
    exact hemits.added

/-- Success means that a partial was skipped or that one file was written. -/
theorem written_cases {stats : Stats} (h : Course d options path (.ok stats) d') :
    stats.written = [] ∧ Naming.isPartial path = true ∧ d' = d ∨
      ∃ file place, Accepted d options path file ∧
        stats = { statsOf file with written := [outputPath options file.outputName] } ∧
        Wrote (outputPath options file.outputName) (encode file.result.css) place d d' := by
  cases h with
  | skipped hbundles => exact .inl ⟨rfl, hbundles.isPartial, rfl⟩
  | @written file _ haccepted hemits =>
    obtain ⟨place, hwrote⟩ := hemits.wrote
    exact .inr ⟨file, place, haccepted, rfl, hwrote⟩

theorem exists_of_isUndefined {e : Error} (h : Course d options path (.error e) d')
    (he : e.isUndefined = true) :
    ∃ file, Bundles d options path (.ok (some file)) ∧ file.result.undefined ≠ [] := by
  cases h with
  | refused hbundles =>
    rcases hbundles.error_cases with ⟨_, rfl⟩ | ⟨_, rfl⟩ <;> cases he
  | undefined hbundles _ hne => exact ⟨_, hbundles, hne⟩
  | overwriting _ _ _ => cases he
  | failed _ _ => cases he

end Course

/-- **What a compilation leaves on the disk.** After an error of any kind but the file system's, the
disk is as before; after one of the file system's, it has at most new folders, to which parents of the
output path lead. Without an error, either nothing was written, the stylesheet is a partial and the
disk is as before; or one file was written: it holds the bytes of the css that bundling gives on the
disk as it was, the figures tell its size and that of the source, and else there are at most new
folders, to which parents of its path lead. Where undefined variables are an error, they are the result
just when bundling gives a file with some. -/
theorem compileFile_leaves_disk (s : Session) (options : Options) (path : Text) :
    let run := (compileFile Session.machine options path).run.run s
    let bundled := ((bundleFile Session.machine options path).run.run s).1
    let after := run.2.disk
    (∀ e, run.1 = .error e → (∀ cause, e ≠ .io cause) → after = s.disk) ∧
    (∀ cause, run.1 = .error (.io cause) →
      FoldersAdded (Path.parents (outputPath options (Naming.output path))) s.disk after) ∧
    (∀ stats, run.1 = .ok stats →
      stats.written = [] ∧ Naming.isPartial path = true ∧ after = s.disk ∨
      ∃ q place file source bytes, stats.written = [q] ∧ bundled = .ok (some file) ∧
        Wrote q (encode file.result.css) place s.disk after ∧
        stats.outputSize = (encode file.result.css).size ∧
        s.disk.locate path = .ok source ∧ s.disk.root.entryAt source = some (.file bytes) ∧
        stats.sourceSize = bytes.size) ∧
    (options.failOnUndefined = true →
      ((∃ e, run.1 = .error e ∧ e.isUndefined = true) ↔
        ∃ file, bundled = .ok (some file) ∧ file.result.undefined ≠ [])) := by
  intro run bundled after
  have hcourse : Course s.disk options path run.1 after := compileFile_course s options path
  refine ⟨?_, ?_, ?_, ?_⟩
  · intro e he hio
    rw [he] at hcourse
    exact hcourse.disk_eq_of_error hio
  · intro cause hcause
    rw [hcause] at hcourse
    exact hcourse.added_of_io
  · intro stats hstats
    rw [hstats] at hcourse
    refine hcourse.written_cases.imp id ?_
    rintro ⟨file, place, haccepted, rfl, hwrote⟩
    obtain ⟨-, -, contents, hread, hsize⟩ := haccepted.bundles.source
    obtain ⟨source, hsource, hfile⟩ := read_ok hread
    refine ⟨_, place, file, source, encode contents, rfl, (bundleFile_gives haccepted.bundles).1,
      hwrote, ?_, hsource, hfile, hsize⟩
    exact Text.size_eq file.result.css
  · intro hfail
    have hbundles : Bundles s.disk options path bundled := bundleFile_bundles s options path
    constructor
    · rintro ⟨e, he, hundefined⟩
      rw [he] at hcourse
      obtain ⟨file, hfile, hne⟩ := hcourse.exists_of_isUndefined hundefined
      exact ⟨file, (bundleFile_gives hfile).1, hne⟩
    · rintro ⟨file, hfile, hne⟩
      rw [hfile] at hbundles
      exact ⟨_, (compileFile_gives (.undefined hbundles hfail hne)).1, rfl⟩

end Compilation

end Scss
