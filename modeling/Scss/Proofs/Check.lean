import Scss.Command.Run
import Scss.Proofs.Build
import Scss.Proofs.Injection

/-!
# Checks and compilations agree

Bundling only reads: it leaves the disk as it is, and neither its answer nor what it adds to the log
depends on the log so far (`Session.ReadsOnly`, `bundleFile_run`). So each stylesheet of a check is
bundled as if it were the only one, and the tally counts what came of it (`checkFile_run`, and
`foldlM_checkFile_run` for all of them).

A compilation starts by bundling. It is refused just when that fails, and the undefined variables it
tells of are those of the bundled stylesheet, whatever becomes of it afterwards
(`isRefusal_of_course`, `reported_of_course`).

* `check_agrees_with_compileFile`: what a check does, says and answers, in terms of compilations.
-/

namespace Scss

namespace Session

variable {α β ε : Type}

/-- The program leaves the disk as it is and adds to the log, and both its answer and what it adds are
determined by the disk. -/
def ReadsOnly (x : StateM Session α) : Prop :=
  ∀ s : Session, x.run s =
    ((x.run { disk := s.disk }).1, { s with log := s.log ++ (x.run { disk := s.disk }).2.log })

theorem readsOnly_of_run {x : StateM Session α} (answer : Disk → α)
    (h : ∀ s, x.run s = (answer s.disk, s)) : ReadsOnly x := by
  intro s
  rw [h, h]
  simp

theorem readsOnly_composes : Composes ReadsOnly where
  pure a := readsOnly_of_run (fun _ => a) fun _ => rfl
  bind := by
    intro α β x f hx hf s
    have hrun : ∀ t : Session, (x >>= f).run t = (f (x.run t).1).run (x.run t).2 := fun _ => rfl
    have hstart := hx { disk := s.disk }
    rw [hrun, hrun, hx s, hstart]
    generalize (x.run { disk := s.disk }).1 = a
    generalize (x.run { disk := s.disk }).2.log = said
    rw [hf a, hf a { disk := s.disk, log := [] ++ said }]
    simp

theorem readsOnly_ask (f : Disk → α) : ReadsOnly (ask f) :=
  readsOnly_of_run f fun _ => rfl

theorem readsOnly_note (n : Note) : ReadsOnly (Session.machine.note n) :=
  fun _ => rfl

end Session

open Session

namespace Options

/-- Definitions are refused for their name or for their value. -/
theorem normalise_error {given : Binding} {reason : Invalid} (h : normalise given = .error reason) :
    (∃ name, reason = .variableName name) ∨ ∃ name value, reason = .variableValue name value := by
  simp only [normalise] at h
  split at h
  · cases h
    exact .inl ⟨_, rfl⟩
  split at h
  · cases h
    exact .inr ⟨_, _, rfl⟩
  · cases h

theorem injected_error {options : Options} {reason : Invalid}
    (h : options.injected = .error reason) :
    (∃ name, reason = .variableName name) ∨ ∃ name value, reason = .variableValue name value := by
  unfold injected injectedOf at h
  rcases mapM_normalise_cases (options.order.visit options.definitions) with
    ⟨-, hgs⟩ | ⟨g, -, e, hg, hgs⟩
  · rw [hgs] at h
    cases h
  · rw [hgs] at h
    cases h
    exact normalise_error hg

end Options

namespace Check

open Compilation Disk

variable {options : Options} {file : Text} {d d' : Disk} {walk : Disk → Bool → Text → List Raw}

/-- What bundling gives on a disk. -/
def outcome (d : Disk) (options : Options) (file : Text) : Except Error (Option Bundled) :=
  ((bundleFile Session.machine options file).run.run { disk := d }).1

/-- The messages of bundling on a disk. -/
def bundlingLog (d : Disk) (options : Options) (file : Text) : List Message :=
  ((bundleFile Session.machine options file).run.run { disk := d }).2.log

/-- What a check says about a stylesheet. -/
def remark (file : Text) : Except Error (Option Bundled) → Message
  | .ok (some bundled) =>
    if bundled.result.undefined = [] then .report (.checked file)
    else .report (.checkedUndefined file bundled.result.undefined)
  | .ok none => .note (.partialUnchecked file)
  | .error error => .report (.checkFailed file error)

/-- The undefined variables of a stylesheet that was bundled. -/
def names : Except Error (Option Bundled) → List Text
  | .ok (some bundled) => bundled.result.undefined
  | _ => []

/-- The messages of a check about a stylesheet: those of bundling it, and the remark. -/
def visit (d : Disk) (options : Options) (file : Text) : List Message :=
  bundlingLog d options file ++ [remark file (outcome d options file)]

theorem bundleFile_run (s : Session) (options : Options) (file : Text) :
    (bundleFile Session.machine options file).run.run s =
      (outcome s.disk options file, { s with log := s.log ++ bundlingLog s.disk options file }) :=
  bundleFile_composes readsOnly_composes readsOnly_ask readsOnly_note options file s

/-- After bundling, a check makes its remark and counts. -/
theorem checkFile_eq (options : Options) (tally : Tally) (file : Text) :
    checkFile Session.machine options tally file =
      (bundleFile Session.machine options file).run >>= fun r =>
        Session.say (remark file r) >>= fun _ =>
          pure ⟨tally.failures + (if r.isOk then 0 else 1), tally.undefined + (names r).length⟩ := by
  unfold checkFile
  congr 1
  funext r
  rcases r with error | _ | bundled
  · rfl
  · rfl
  by_cases hundefined : bundled.result.undefined = []
  · have hgood : bundled.result.hasErrors = false := by simp [Compiled.hasErrors, hundefined]
    simp only [hgood, remark, names, hundefined, if_true]
    rfl
  · have hbad : bundled.result.hasErrors = true := by simp [Compiled.hasErrors, hundefined]
    simp only [hbad, remark, if_neg hundefined, if_true]
    rfl

/-- **One stylesheet of a check**: the tally grows by what came of it, and the log by the messages about
it. -/
theorem checkFile_run (s : Session) (options : Options) (tally : Tally) (file : Text) :
    (checkFile Session.machine options tally file).run s =
      (⟨tally.failures + (if (outcome s.disk options file).isOk then 0 else 1),
          tally.undefined + (names (outcome s.disk options file)).length⟩,
        { s with log := s.log ++ visit s.disk options file }) := by
  rw [checkFile_eq, StateT.run_bind, bundleFile_run]
  unfold visit
  rw [← List.append_assoc]
  rfl

/-- **All stylesheets of a check** are visited in their order, whatever comes of each. -/
theorem foldlM_checkFile_run (s : Session) (options : Options) (tally : Tally) (files : List Text) :
    (files.foldlM (checkFile Session.machine options) tally).run s =
      (⟨tally.failures + files.countP fun file => !(outcome s.disk options file).isOk,
          tally.undefined + (files.flatMap fun file => names (outcome s.disk options file)).length⟩,
        { s with log := s.log ++ files.flatMap (visit s.disk options) }) := by
  induction files generalizing s tally with
  | nil =>
    simp only [List.flatMap_nil, List.append_nil]
    rfl
  | cons file files ih =>
    rw [List.foldlM_cons, StateT.run_bind, checkFile_run]
    -- visiting the first leaves the disk as it is
    refine (ih { s with log := s.log ++ visit s.disk options file } _).trans ?_
    dsimp only
    rw [List.countP_cons, List.flatMap_cons, List.flatMap_cons, List.length_append, ← List.append_assoc]
    congr 2
    · cases (outcome s.disk options file).isOk with
      | true => simp
      | false =>
        simp only [Bool.not_false, if_true, Bool.false_eq_true, if_false]
        omega
    · omega

/-- The answer of a check, and what it leaves. -/
theorem checkInput_run (s : Session) (options : Options) (deep : Bool) (input : Text) :
    let collected := (Inputs.collect (Session.walking walk) deep [input]).run s
    (checkInput (Session.walking walk) options deep input).run.run s =
      (verdict options input collected.1.length
        ⟨collected.1.countP fun file => !(outcome s.disk options file).isOk,
          (collected.1.flatMap fun file => names (outcome s.disk options file)).length⟩,
        { disk := s.disk
          log := collected.2.log ++ collected.1.flatMap (visit s.disk options) }) := by
  intro collected
  have hdisk : collected.2.disk = s.disk :=
    Inputs.keeps_collect Session.disk (fun _ _ => rfl) deep [input] s
  have htally := foldlM_checkFile_run collected.2 options {} collected.1
  rw [hdisk, Nat.zero_add, Nat.zero_add] at htally
  have hrun : (checkInput (Session.walking walk) options deep input).run.run s =
      (verdict options input collected.1.length
        ((collected.1.foldlM (checkFile Session.machine options) {}).run collected.2).1,
        ((collected.1.foldlM (checkFile Session.machine options) {}).run collected.2).2) := rfl
  rw [hrun, htally]

/-! ### The same stylesheets in a compilation -/

/-- A compilation fails because the stylesheet cannot be bundled: it cannot be had, or one of its
imports, or a definition from outside has a wrong form. -/
def isRefusal : Except Error Stats → Bool
  | .error (.bundle _) => true
  | .error (.invalid (.variableName _)) => true
  | .error (.invalid (.variableValue _ _)) => true
  | _ => false

/-- The undefined variables that the answer of a compilation tells of: with the figures, or as the
reason why it failed. -/
def reported : Except Error Stats → Option (List Text)
  | .ok stats => some stats.undefined
  | .error (.undefined _ names) => some names
  | _ => none

theorem outcome_eq {r : Except Error (Option Bundled)} (h : Bundles d options file r) :
    outcome d options file = r :=
  (bundleFile_gives (s := { disk := d }) h).1

/-- **A compilation is refused** just when bundling fails. -/
theorem isRefusal_of_course {result : Except Error Stats} (h : Course d options file result d') :
    isRefusal result = !(outcome d options file).isOk := by
  cases h with
  | refused hbundles =>
    rw [outcome_eq hbundles]
    cases hbundles with
    | invalid hinjected =>
      rcases Options.injected_error hinjected with ⟨name, rfl⟩ | ⟨name, value, rfl⟩ <;> rfl
    | failed _ _ => rfl
  | skipped hbundles => rw [outcome_eq hbundles]; rfl
  | undefined hbundles _ _ => rw [outcome_eq hbundles]; rfl
  | overwriting hbundles _ _ => rw [outcome_eq hbundles]; rfl
  | failed haccepted _ => rw [outcome_eq haccepted.bundles]; rfl
  | written haccepted _ => rw [outcome_eq haccepted.bundles]; rfl

/-- **The undefined variables** that a compilation tells of are those of the bundled stylesheet. -/
theorem reported_of_course {result : Except Error Stats} {l : List Text}
    (h : Course d options file result d') (hl : reported result = some l) :
    l = names (outcome d options file) := by
  cases h with
  | refused hbundles => rcases hbundles.error_cases with ⟨_, rfl⟩ | ⟨_, rfl⟩ <;> cases hl
  | skipped hbundles => rw [outcome_eq hbundles]; cases hl; rfl
  | undefined hbundles _ _ => rw [outcome_eq hbundles]; cases hl; rfl
  | overwriting _ _ _ => cases hl
  | failed _ _ => cases hl
  | written haccepted _ => rw [outcome_eq haccepted.bundles]; cases hl; rfl

/-- A bundled stylesheet was compiled from the text at its path, behind what is defined from outside. -/
theorem result_of_outcome {bundled : Bundled}
    (h : outcome d options file = .ok (some bundled)) :
    ∃ injected contents, options.injected = .ok injected ∧ d.read file = .ok contents ∧
      bundled.result =
        Stylesheet.compile options.order ((bundlerFor options injected file).source contents) := by
  have hbundles : Bundles d options file (.ok (some bundled)) :=
    h ▸ bundleFile_bundles { disk := d } options file
  cases hbundles with
  | done hinjected hout =>
    cases hout with
    | bundled _ _ hread _ => exact ⟨_, _, hinjected, hread, rfl⟩

theorem perform_check_run {config : Config} {c : CheckCommand} {given : Options}
    (h : Settings.ofCheck config c = .ok given) (order : Scope.Order)
    (walk : Disk → Bool → Text → List Raw) (s : Session) :
    let checked :=
      (checkInput (Session.walking walk) { given with order } c.recursive c.input).run.run s
    (Invocation.perform (Session.walking walk) order config (some (.check c))).run.run s =
      (checked.1.map fun _ => none, checked.2) := by
  simp only [Invocation.perform, h, Invocation.optionsOf, pure_bind]
  rw [ExceptT.run_bind, StateT.run_bind]
  rcases (checkInput (Session.walking walk) { given with order } c.recursive c.input).run.run s with
    ⟨_ | _, t⟩ <;> rfl

/-- **A check never writes and agrees with compilations**, whatever the order in which variables are
substituted, and however folders are walked through. With options that are accepted, it leaves the disk
as it is and visits the stylesheets of its input one after another, whatever comes of each: the log has
the messages about each of them in this order. A stylesheet counts as failed just when compiling it
would be refused; the undefined variables that are counted are those of the text that is compiled, and
those that a compilation tells of. If some failed, the check fails with their number and that of all
stylesheets; or else, if undefined variables are an error and there are some, with their number; or else
it succeeds. -/
theorem check_agrees_with_compileFile {config : Config} {c : CheckCommand} {given : Options}
    (h : Settings.ofCheck config c = .ok given) (order : Scope.Order)
    (walk : Disk → Bool → Text → List Raw) (s : Session) :
    let options := { given with order }
    let machine := Session.walking walk
    let collected := (Inputs.collect machine c.recursive [c.input]).run s
    let files := collected.1
    let compiled := fun file => ((compileFile machine options file).run.run s).1
    let failed := files.countP fun file => isRefusal (compiled file)
    let undefined := (files.flatMap fun file => names (outcome s.disk options file)).length
    let run := (Invocation.perform machine order config (some (.check c))).run.run s
    run.2.disk = s.disk ∧
    run.2.log = collected.2.log ++ files.flatMap (visit s.disk options) ∧
    (∀ file l, reported (compiled file) = some l → l = names (outcome s.disk options file)) ∧
    (∀ file, isRefusal (compiled file) = true → names (outcome s.disk options file) = []) ∧
    (∀ file bundled, outcome s.disk options file = .ok (some bundled) →
      ∃ injected contents, options.injected = .ok injected ∧ s.disk.read file = .ok contents ∧
        bundled.result = Stylesheet.compile options.order
          ((bundlerFor options injected file).source contents)) ∧
    run.1 = (if 0 < failed then .error (.invalid (.filesFailed failed files.length))
      else if options.failOnUndefined = true ∧ 0 < undefined then
        .error (.undefinedTotal c.input undefined)
      else .ok none) ∧
    ∀ w, (Invalid.filesFailed failed files.length).text w =
      toString failed ++ " of " ++ toString files.length ++ " file(s) failed" := by
  intro options machine collected files compiled failed undefined run
  have hrefused : ∀ file, isRefusal (compiled file) = !(outcome s.disk options file).isOk :=
    fun file => isRefusal_of_course (compileFile_course s options file)
  have hrun := perform_check_run h order walk s
  rw [checkInput_run] at hrun
  refine ⟨?_, ?_, ?_, ?_, ?_, ?_, fun _ => rfl⟩
  · exact congrArg (·.2.disk) hrun
  · exact congrArg (·.2.log) hrun
  · exact fun file l hl => reported_of_course (compileFile_course s options file) hl
  · intro file hfile
    rw [hrefused] at hfile
    cases houtcome : outcome s.disk options file with
    | error e => rfl
    | ok file? => rw [houtcome] at hfile; cases hfile
  · exact fun file bundled => result_of_outcome
  · have hfailed : (files.countP fun file => !(outcome s.disk options file).isOk) = failed :=
      List.countP_congr fun file _ => by rw [hrefused]
    have hanswer : run.1 = (verdict options c.input files.length ⟨failed, undefined⟩).map
        fun _ => none := hfailed ▸ congrArg (·.1) hrun
    rw [hanswer]
    unfold verdict
    simp only [Bool.and_eq_true, decide_eq_true_eq]
    split
    · rfl
    · split <;> rfl

/-- A partial, a stylesheet with an undefined variable and one with a missing import: the check leaves
them as they are, and one of the three has failed. -/
theorem check_counts_missing_import :
    let s : Session :=
      { disk :=
          { root := .folder (Text.bytes ['d'])
              (.file (Text.bytes "_p.scss".toList) (encode "$y".toList)
                (.file (Text.bytes "a.scss".toList) (encode "p { color: $x; }".toList)
                  (.file (Text.bytes "b.scss".toList) (encode "@import 'm';".toList) .empty))) .empty
            here := [] } }
    let c : CheckCommand := { input := ['d'], recursive := false, definitions := [], strict := true }
    let run := (Invocation.perform Session.machine .byName {} (some (.check c))).run.run s
    Settings.ofCheck {} c = .ok { failOnUndefined := true } ∧
      names (outcome s.disk { failOnUndefined := true } "d/a.scss".toList) = ["$x".toList] ∧
      run.2.disk = s.disk ∧ run.1 = .error (.invalid (.filesFailed 1 3)) := by
  intro s c run
  have hoptions : Settings.ofCheck {} c = .ok { failOnUndefined := true } := rfl
  obtain ⟨hdisk, -, -, -, -, hanswer, -⟩ := check_agrees_with_compileFile hoptions .byName Disk.walk s
  have hwalk : s.disk.walk false ['d'] =
      ["d".toList, "d/_p.scss".toList, "d/a.scss".toList, "d/b.scss".toList].map Text.bytes := by
    show Text.bytes ['d'] :: Folder.gather
      [(Text.bytes "_p.scss".toList, [Text.bytes "d/_p.scss".toList]),
       (Text.bytes "a.scss".toList, [Text.bytes "d/a.scss".toList]),
       (Text.bytes "b.scss".toList, [Text.bytes "d/b.scss".toList])] = _
    unfold Folder.gather
    -- the entries of the folder are in the order of their names already
    rw [List.mergeSort_of_pairwise (by decide)]
    rfl
  have hcollected : ((Inputs.collect (Session.walking Disk.walk) c.recursive [c.input]).run s).1 =
      ["d/_p.scss".toList, "d/a.scss".toList, "d/b.scss".toList] := by
    show ((Inputs.stylesheetsAmong (Session.walking Disk.walk) (s.disk.walk false ['d'])).run s).1 ++ [] = _
    rw [hwalk]
    decide +kernel
  have hfailed : (["d/_p.scss".toList, "d/a.scss".toList, "d/b.scss".toList].countP fun file =>
      isRefusal ((compileFile (Session.walking Disk.walk) { failOnUndefined := true } file).run.run
        s).1) = 1 := by
    decide +kernel
  rw [hcollected, hfailed] at hanswer
  exact ⟨hoptions, by decide +kernel, hdisk, hanswer⟩

end Check

end Scss
