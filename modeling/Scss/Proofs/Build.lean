import Scss.Command.Build
import Scss.Proofs.Compilation

/-!
# What a build leaves on the disk

A build that succeeds is a row of compilations, each on the disk that the one before it has left
(`Builds`, `buildFiles_builds`). Compilations take notes only, so what a build reports to have written
is what its compilations wrote, in their order.

Nothing keeps the outputs of a build apart. In an output folder, stylesheets of one name from
different folders have the same path (`buildInputs_loses_output`), and without one, two paths may be
spellings of the same. What a later compilation writes does not touch any other place, so an output is
as it was compiled unless another css was written to its place later (`Builds.holds`).

* `buildInputs_holds_outputs`: the same for a build of any inputs, with its reports.
-/

namespace Scss

/-- The stylesheet and the path of its css in a message that tells of one that was built. -/
def Message.built? : Message → Option (Text × Text)
  | report (.built file output) => some (file, output)
  | _ => none

/-- The stylesheets that were built according to the log, with the paths of their css. -/
def Session.built (s : Session) : List (Text × Text) :=
  s.log.filterMap Message.built?

theorem Session.keeps_ask {α τ : Type} (view : Session → τ) (f : Disk → α) :
    Keeps view (Session.ask f) :=
  fun _ => rfl

theorem Session.built_append (s : Session) (messages : List Message) :
    built { s with log := s.log ++ messages } = s.built ++ messages.filterMap Message.built? :=
  List.filterMap_append

theorem Session.built_note (s : Session) (n : Note) :
    built { s with log := s.log ++ [Message.note n] } = s.built :=
  (s.built_append _).trans (List.append_nil _)

namespace Compilation

theorem keeps_built_note (n : Note) :
    Keeps Session.built
      (liftM (Session.machine.note n) : ExceptT Error (StateM Session) PUnit).run :=
  .run_lift fun s => s.built_note n

theorem keeps_built_bundleFile (options : Options) (path : Text) :
    Keeps Session.built (bundleFile Session.machine options path).run :=
  bundleFile_composes (keeps_composes _) (Session.keeps_ask _) (fun n s => s.built_note n) options path

theorem keeps_built_orFail {α : Type} {action : StateM Session (Except Failure α)}
    (h : Keeps Session.built action) : Keeps Session.built (orFail action).run := by
  refine Keeps.run_bind (Keeps.run_lift h) fun r => ?_
  cases r with
  | ok a => exact .pure _
  | error cause => exact .pure _

theorem keeps_built_write (p text : Text) : Keeps Session.built (Session.machine.write p text) := by
  intro s
  rw [write_run]
  cases s.disk.write p text <;> rfl

theorem keeps_built_whenVerbose (options : Options) (notes : List Note) :
    Keeps Session.built (whenVerbose Session.machine options notes).run := by
  unfold whenVerbose
  split
  · exact .run_forM keeps_built_note
  · exact .pure _

theorem keeps_built_emit (file : Bundled) (target : Text) :
    Keeps Session.built (emit Session.machine file target).run := by
  have hrest : Keeps Session.built
      (orFail (Session.machine.write target file.result.css) >>= fun _ =>
        liftM (Session.machine.note (.wrote target))).run :=
    (keeps_built_orFail (keeps_built_write _ _)).run_bind fun _ => keeps_built_note _
  unfold emit
  cases Path.folder? target with
  | none => exact hrest
  | some folder =>
    have hmake : Keeps Session.built (Session.machine.makeFolders folder) := fun _ => rfl
    exact (keeps_built_orFail hmake).run_bind fun _ => hrest

/-- **A compilation takes notes only**: it does not report that something was built. -/
theorem keeps_built_compileFile (options : Options) (path : Text) :
    Keeps Session.built (compileFile Session.machine options path).run := by
  unfold compileFile
  have hnow : Keeps Session.built
      (liftM Session.machine.now : ExceptT Error (StateM Session) Nat).run := fun _ => rfl
  refine hnow.run_bind fun begun => (keeps_built_whenVerbose options _).run_bind fun _ => ?_
  refine (keeps_built_bundleFile options path).run_bind fun file? => ?_
  cases file? with
  | none =>
    exact (keeps_built_note _).run_bind fun _ => hnow.run_bind fun _ => .pure _
  | some file =>
    dsimp only
    split
    · exact fun _ => rfl
    split
    · exact fun _ => rfl
    refine (keeps_built_emit file _).run_bind fun _ => hnow.run_bind fun _ => ?_
    exact (keeps_built_whenVerbose options _).run_bind fun _ => .pure _

end Compilation

namespace Inputs

section

variable {P : ∀ {α : Type}, StateM Session α → Prop} {walk : Disk → Bool → Text → List Raw}

theorem stylesheetsAmong_composes (h : Composes P)
    (hask : ∀ {α : Type} (f : Disk → α), P (Session.ask f))
    (hnote : ∀ n, P ((Session.walking walk).note n)) (entries : List Raw) :
    P (stylesheetsAmong (Session.walking walk) entries) := by
  induction entries with
  | nil => exact h.pure _
  | cons entry rest ih =>
    refine h.bind (hask (Disk.isFileEntry · entry)) fun file => ?_
    split
    · refine h.bind ?_ fun _ => h.bind ih fun _ => h.pure _
      unfold notePartial
      split
      · exact hnote _
      · exact h.pure _
    · exact ih

theorem expand_composes (h : Composes P) (hask : ∀ {α : Type} (f : Disk → α), P (Session.ask f))
    (hnote : ∀ n, P ((Session.walking walk).note n)) (deep : Bool) (input : Text) :
    P (expand (Session.walking walk) deep input) := by
  refine h.bind (hask (Disk.isFolder · input)) fun folder => ?_
  cases folder with
  | false => exact h.pure _
  | true =>
    exact h.bind (hask (walk · deep input)) fun found => stylesheetsAmong_composes h hask hnote found

/-- What holds of asking the disk and taking notes holds of collecting stylesheets, however folders are
walked through. -/
theorem collect_composes (h : Composes P) (hask : ∀ {α : Type} (f : Disk → α), P (Session.ask f))
    (hnote : ∀ n, P ((Session.walking walk).note n)) (deep : Bool) (inputs : List Text) :
    P (collect (Session.walking walk) deep inputs) := by
  induction inputs with
  | nil => exact h.pure _
  | cons input rest ih =>
    exact h.bind (expand_composes h hask hnote deep input) fun _ => h.bind ih fun _ => h.pure _

/-- Collecting stylesheets takes notes only. -/
theorem keeps_collect {τ : Type} (view : Session → τ)
    (h : ∀ s n, view { s with log := s.log ++ [Message.note n] } = view s) (deep : Bool)
    (inputs : List Text) : Keeps view (collect (Session.walking walk) deep inputs) :=
  collect_composes (keeps_composes view) (Session.keeps_ask view) (fun n s => h s n) deep inputs

end

end Inputs

namespace Build

open Compilation Disk

variable {d d' d₁ : Disk} {s after : Session} {options : Options} {figures : Bool} {file : Text}
  {files inputs : List Text} {place : Place} {walk : Disk → Bool → Text → List Raw}

/-- What was written for one stylesheet. -/
structure Output where
  /-- The stylesheet. -/
  file : Text
  /-- The path to which its css was written. -/
  target : Text
  /-- The css. -/
  css : Text

/-- **The course of a build that succeeds**: the disk `d` becomes `d'` while stylesheets are compiled
one after another, and what was written for them. -/
inductive Builds (options : Options) : Disk → List Text → List Output → Disk → Prop
  | done {d : Disk} : Builds options d [] [] d
  /-- A partial is skipped. -/
  | skipped {d d' : Disk} {file : Text} {rest : List Text} {outputs : List Output} :
      Naming.isPartial file = true → Builds options d rest outputs d' →
      Builds options d (file :: rest) outputs d'
  /-- A stylesheet is compiled on the disk as it is at that time, and its css written. -/
  | written {d d₁ d' : Disk} {file : Text} {rest : List Text} {outputs : List Output}
      {bundled : Bundled} {place : Place} : Accepted d options file bundled →
      Wrote (outputPath options bundled.outputName) (encode bundled.result.css) place d d₁ →
      Builds options d₁ rest outputs d' →
      Builds options d (file :: rest)
        (⟨file, outputPath options bundled.outputName, bundled.result.css⟩ :: outputs) d'

namespace Builds

variable {outputs earlier later : List Output} {out : Output}

theorem keepsFolders (h : Builds options d files outputs d') : KeepsFolders d d' := by
  induction h with
  | done => exact .refl _
  | skipped _ _ ih => exact ih
  | written _ hwrote _ ih => exact hwrote.keepsFolders.trans ih

/-- A file stays as it is if every output that leads to its place has the same bytes. -/
theorem keeps {bytes : ByteArray} (h : Builds options d files outputs d')
    (hfile : d.root.entryAt place = some (.file bytes))
    (hsame : ∀ o ∈ outputs, d'.locate o.target = .ok place → encode o.css = bytes) :
    d'.root.entryAt place = some (.file bytes) := by
  induction h with
  | done => exact hfile
  | skipped _ _ ih => exact ih hfile hsame
  | @written d d₁ d' file rest outputs bundled target _ hwrote hrest ih =>
    -- later compilations keep folders, so the path still leads to where the css was written
    have hleads := locate_mono hrest.keepsFolders hwrote.leads
    refine ih ?_ fun o ho => hsame o (List.mem_cons_of_mem _ ho)
    by_cases htarget : place = target
    · rw [htarget] at hsame ⊢
      rw [← hsame _ List.mem_cons_self hleads]
      exact hwrote.holds
    · exact hwrote.keeps htarget hfile

/-- **An output is as it was compiled** unless a later one of other css leads to its place. -/
theorem holds (h : Builds options d files outputs d') (hout : outputs = earlier ++ out :: later) :
    ∃ place, d'.locate out.target = .ok place ∧
      ((∀ o ∈ later, d'.locate o.target = .ok place → o.css = out.css) →
        d'.root.entryAt place = some (.file (encode out.css))) := by
  induction h generalizing earlier with
  | done => simp at hout
  | skipped _ _ ih => exact ih hout
  | @written d d₁ d' file rest outputs bundled place _ hwrote hrest ih =>
    cases earlier with
    | nil =>
      obtain ⟨rfl, rfl⟩ := List.cons.inj hout
      refine ⟨place, locate_mono hrest.keepsFolders hwrote.leads, fun hsame => ?_⟩
      exact hrest.keeps hwrote.holds fun o ho hleads => congrArg encode (hsame o ho hleads)
    | cons o earlier => exact ih (List.cons.inj hout).2

/-- The first stylesheet is compiled on the disk as it is at the beginning. -/
theorem css_of_first {rest : List Text} (h : Builds options d (file :: rest) (out :: outputs) d')
    (hfile : Naming.isPartial file = false) :
    ∃ bundled, Bundles d options file (.ok (some bundled)) ∧ out.css = bundled.result.css := by
  cases h with
  | skipped hpartial =>
    rw [hfile] at hpartial
    cases hpartial
  | written haccepted => exact ⟨_, haccepted.bundles, rfl⟩

end Builds

theorem built_reportsOn (figures : Bool) (file : Text) (stats : Stats) :
    ((reportsOn figures file stats).map Message.report).filterMap Message.built? =
      stats.written.map fun q => (file, q) := by
  have hbuilt : ∀ l : List Text,
      ((l.map (Report.built file)).map Message.report).filterMap Message.built? =
        l.map fun q => (file, q) := by
    intro l
    induction l with
    | nil => rfl
    | cons q l ih => exact congrArg ((file, q) :: ·) ih
  have hundefined : ∀ l : List Text,
      ((l.map (Report.undefinedIn file)).map Message.report).filterMap Message.built? = [] := by
    intro l
    induction l with
    | nil => rfl
    | cons name l ih => exact ih
  have hfigures : ((if figures then [Report.figures file stats] else []).map
      Message.report).filterMap Message.built? = [] := by
    cases figures <;> rfl
  unfold reportsOn
  rw [List.map_append, List.filterMap_append, hfigures, List.map_append, List.filterMap_append,
    hbuilt, hundefined, List.append_nil, List.append_nil]

theorem reports_run (reports : List Report) (s : Session) :
    (reports.forM fun r => liftM ((Session.walking walk).report r) :
      ExceptT Error (StateM Session) PUnit).run.run s =
      (.ok ⟨⟩, { s with log := s.log ++ reports.map Message.report }) := by
  induction reports generalizing s with
  | nil =>
    rw [List.map_nil, List.append_nil]
    rfl
  | cons r reports ih =>
    refine (ih { s with log := s.log ++ [.report r] }).trans ?_
    rw [List.append_assoc, List.map_cons, List.singleton_append]

/-- **One stylesheet of a build**: it is compiled, and what was written is reported. -/
theorem buildFile_course {count : Nat}
    (h : (buildFile (Session.walking walk) options figures file).run.run s = (.ok count, after)) :
    ∃ stats, Course s.disk options file (.ok stats) after.disk ∧
      after.built = s.built ++ stats.written.map fun q => (file, q) := by
  obtain ⟨stats, t, hcompile, hrest⟩ := run_bind_eq_ok h
  -- a compilation walks through no folder
  replace hcompile : (compileFile Session.machine options file).run.run s = (.ok stats, t) := hcompile
  obtain ⟨_, u, hreports, hpure⟩ := run_bind_eq_ok hrest
  rw [reports_run] at hreports
  cases hreports
  cases hpure
  have hcourse := compileFile_course s options file
  rw [hcompile] at hcourse
  refine ⟨stats, hcourse, ?_⟩
  have hkept : t.built = s.built := by
    have := keeps_built_compileFile options file s
    rwa [hcompile] at this
  rw [← hkept, ← built_reportsOn figures file stats]
  exact t.built_append _

/-- **A build that succeeds** takes its course, and reports what it has written. -/
theorem buildFiles_builds {count : Nat}
    (h : (buildFiles (Session.walking walk) options figures files).run.run s = (.ok count, after)) :
    ∃ outputs, Builds options s.disk files outputs after.disk ∧
      after.built = s.built ++ outputs.map fun o => (o.file, o.target) := by
  induction files generalizing s count with
  | nil =>
    cases h
    exact ⟨[], .done, by simp⟩
  | cons file rest ih =>
    obtain ⟨first, t, hfile, hrest⟩ := run_bind_eq_ok h
    obtain ⟨further, u, hfurther, hpure⟩ := run_bind_eq_ok hrest
    cases hpure
    obtain ⟨stats, hcourse, hreported⟩ := buildFile_course hfile
    obtain ⟨outputs, hbuilds, hbuilt⟩ := ih hfurther
    rcases hcourse.written_cases with ⟨hnil, hpartial, hdisk⟩ | ⟨bundled, place, hacc, rfl, hwrote⟩
    · rw [hdisk] at hbuilds
      refine ⟨outputs, .skipped hpartial hbuilds, ?_⟩
      rw [hbuilt, hreported, hnil, List.map_nil, List.append_nil]
    · refine ⟨_, .written hacc hwrote hbuilds, ?_⟩
      rw [hbuilt, hreported, List.append_assoc]
      rfl

/-- The same for the stylesheets that are collected from inputs, if there are any. -/
theorem buildInputs_builds
    (h : (buildInputs (Session.walking walk) options figures inputs).run.run s = (.ok (), after)) :
    ∃ outputs,
      Builds options s.disk ((Inputs.collect (Session.walking walk) true inputs).run s).1 outputs
        after.disk ∧
      after.built = s.built ++ outputs.map fun o => (o.file, o.target) := by
  have hdisk : ((Inputs.collect (Session.walking walk) true inputs).run s).2.disk = s.disk :=
    Inputs.keeps_collect Session.disk (fun _ _ => rfl) true inputs s
  have hlog : ((Inputs.collect (Session.walking walk) true inputs).run s).2.built = s.built :=
    Inputs.keeps_collect Session.built Session.built_note true inputs s
  rw [← hdisk, ← hlog]
  obtain ⟨files, t, hcollect, hrest⟩ := run_bind_eq_ok h
  obtain ⟨rfl, rfl⟩ : ((Inputs.collect (Session.walking walk) true inputs).run s).1 = files ∧
      ((Inputs.collect (Session.walking walk) true inputs).run s).2 = t := by
    cases hcollect
    exact ⟨rfl, rfl⟩
  generalize ((Inputs.collect (Session.walking walk) true inputs).run s).1 = files at hrest
  generalize ((Inputs.collect (Session.walking walk) true inputs).run s).2 = t at hrest
  split at hrest
  next hempty =>
    cases hrest
    rw [List.isEmpty_iff.1 hempty]
    refine ⟨[], .done, ?_⟩
    exact t.built_append _
  next =>
    obtain ⟨begun, u, hnow, hrest⟩ := run_bind_eq_ok hrest
    cases hnow
    obtain ⟨count, v, hfiles, hrest⟩ := run_bind_eq_ok hrest
    obtain ⟨outputs, hbuilds, hbuilt⟩ := buildFiles_builds hfiles
    obtain ⟨ended, w, hnow, hreport⟩ := run_bind_eq_ok hrest
    cases hnow
    cases hreport
    refine ⟨outputs, hbuilds, ?_⟩
    rw [← hbuilt]
    exact (v.built_append _).trans (List.append_nil _)

/-- **What a build that succeeds has written**, however folders are walked through. Its stylesheets are
compiled one after another on the disk that is there at that time, and the reports name them with the
paths of their css, in this order. In the end each path leads to a file that holds the css that was
compiled for it, unless another css was written to the same place and reported later. -/
theorem buildInputs_holds_outputs
    (h : (buildInputs (Session.walking walk) options figures inputs).run.run s = (.ok (), after)) :
    let files := ((Inputs.collect (Session.walking walk) true inputs).run s).1
    ∃ outputs, Builds options s.disk files outputs after.disk ∧
      after.built = s.built ++ outputs.map (fun o => (o.file, o.target)) ∧
      ∀ earlier out later, outputs = earlier ++ out :: later →
        ∃ place, after.disk.locate out.target = .ok place ∧
          ((∀ o ∈ later, after.disk.locate o.target = .ok place → o.css = out.css) →
            after.disk.root.entryAt place = some (.file (encode out.css))) := by
  intro files
  obtain ⟨outputs, hbuilds, hbuilt⟩ := buildInputs_builds h
  exact ⟨outputs, hbuilds, hbuilt, fun earlier out later hout => hbuilds.holds hout⟩

theorem eq_ok_of_isOk {ε : Type} {r : Except ε Unit} (h : r.isOk = true) : r = .ok () := by
  cases r with
  | error e => cases h
  | ok u => rfl

/-- Three stylesheets are built into one folder, two of them under one name. The output in the middle is
kept although others are written before and after it; of the two of one name the later one is there. -/
theorem buildInputs_holds_kept_output :
    let inputs := ["a/x.scss".toList, "a/y.scss".toList, "b/x.scss".toList]
    let targets := ["out/x.css".toList, "out/y.css".toList, "out/x.css".toList]
    let place (name : String) : Place := [Text.bytes "out".toList, Text.bytes name.toList]
    let s : Session :=
      { disk :=
          { root := .folder (Text.bytes ['a'])
              (.file (Text.bytes "x.scss".toList) (encode "p { }".toList)
                (.file (Text.bytes "y.scss".toList) (encode "$c: red; r { c: $c; }".toList) .empty))
              (.folder (Text.bytes ['b'])
                (.file (Text.bytes "x.scss".toList) (encode "q { }".toList) .empty) .empty)
            here := [] } }
    let options : Options := { outputFolder := some "out".toList }
    let run := (buildInputs Session.machine options false inputs).run.run s
    run.1 = .ok () ∧ ∃ x y z : Output,
      run.2.built = [x, y, z].map (fun o => (o.file, o.target)) ∧
      [x, y, z].map (fun o => (o.file, o.target)) = inputs.zip targets ∧
      run.2.disk.root.entryAt (place "y.css") = some (.file (encode y.css)) ∧
      run.2.disk.root.entryAt (place "x.css") = some (.file (encode z.css)) ∧ x.css ≠ z.css := by
  intro inputs targets place s options run
  have hok : run.1 = .ok () := eq_ok_of_isOk (by decide +kernel)
  have hreported : run.2.built = inputs.zip targets := by decide +kernel
  have hleadsX : run.2.disk.locate "out/x.css".toList = .ok (place "x.css") :=
    eq_ok_of_toOption (by decide +kernel)
  have hleadsY : run.2.disk.locate "out/y.css".toList = .ok (place "y.css") :=
    eq_ok_of_toOption (by decide +kernel)
  have hrun : run = (.ok (), run.2) := Prod.ext hok rfl
  obtain ⟨outputs, hbuilds, hbuilt, hholds⟩ := buildInputs_holds_outputs hrun
  have hpairs : outputs.map (fun o => (o.file, o.target)) = inputs.zip targets :=
    hbuilt.symm.trans hreported
  obtain ⟨x, _, rfl, -, hrest⟩ := List.map_eq_cons_iff.1 hpairs
  obtain ⟨y, _, rfl, hy, hrest⟩ := List.map_eq_cons_iff.1 hrest
  obtain ⟨z, _, rfl, hz, hrest⟩ := List.map_eq_cons_iff.1 hrest
  obtain rfl := List.map_eq_nil_iff.1 hrest
  -- what is written later goes to another place
  have hkept : run.2.disk.root.entryAt (place "y.css") = some (.file (encode y.css)) := by
    obtain ⟨there, hthere, hentry⟩ := hholds [x] y [z] rfl
    rw [(Prod.mk.inj hy).2, hleadsY] at hthere
    obtain rfl := Except.ok.inj hthere
    refine hentry (List.forall_mem_singleton.2 fun h => ?_)
    rw [(Prod.mk.inj hz).2, hleadsX] at h
    exact absurd (Except.ok.inj h) (by decide)
  have hlast : run.2.disk.root.entryAt (place "x.css") = some (.file (encode z.css)) := by
    obtain ⟨there, hthere, hentry⟩ := hholds [x, y] z [] rfl
    rw [(Prod.mk.inj hz).2, hleadsX] at hthere
    obtain rfl := Except.ok.inj hthere
    exact hentry (by simp)
  have hfiles : ((Inputs.collect (Session.walking Disk.walk) true inputs).run s).1 = inputs := by
    decide +kernel
  have hcss : (((bundleFile Session.machine options "a/x.scss".toList).run.run s).1).toOption.join.map
      (fun file => file.result.css) = some "p { }".toList := by decide +kernel
  have hend : run.2.disk.root.entryAt (place "x.css") = some (.file (encode "q { }".toList)) := by
    decide +kernel
  refine ⟨hok, x, y, z, hbuilt, hpairs, hkept, hlast, fun hsame => ?_⟩
  rw [hfiles] at hbuilds
  obtain ⟨bundled, hbundles, hx⟩ := hbuilds.css_of_first (by decide)
  rw [(bundleFile_gives hbundles).1] at hcss
  have hxcss : x.css = "p { }".toList := hx.trans (Option.some.inj hcss)
  rw [hlast, ← hsame, hxcss] at hend
  exact absurd hend (by decide +kernel)

/-- Two stylesheets of one name are built into one folder. Both are reported with the same path, which
has the css of the second in the end. -/
theorem buildInputs_loses_output :
    let first := "a/x.scss".toList
    let second := "b/x.scss".toList
    let output := "out/x.css".toList
    let s : Session :=
      { disk :=
          { root := .folder (Text.bytes ['a'])
              (.file (Text.bytes "x.scss".toList) (encode "p { }".toList) .empty)
              (.folder (Text.bytes ['b'])
                (.file (Text.bytes "x.scss".toList) (encode "q { }".toList) .empty) .empty)
            here := [] } }
    let options : Options := { outputFolder := some "out".toList }
    let run := (buildInputs Session.machine options false [first, second]).run.run s
    let bundled := ((bundleFile Session.machine options first).run.run s).1
    run.1 = .ok () ∧ run.2.built = [(first, output), (second, output)] ∧
      bundled.toOption.join.map (fun file => file.result.css) = some "p { }".toList ∧
      run.2.disk.root.entryAt [Text.bytes "out".toList, Text.bytes "x.css".toList] =
        some (.file (encode "q { }".toList)) ∧
      encode "q { }".toList ≠ encode "p { }".toList := by
  intro first second output s options run bundled
  refine ⟨eq_ok_of_isOk ?_, ?_, ?_, ?_, ?_⟩ <;> decide +kernel

end Build

end Scss
