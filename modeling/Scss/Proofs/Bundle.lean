import Scss.Memory
import Scss.Proofs.Effects

/-!
# What bundling asks and answers

A bundler reaches files only through questions, and where the answers depend on the path alone,
both the result of bundling and the questions asked on the way are determined. `Outcome` gives them
as five rules: a partial asks nothing; a stylesheet that is not there or cannot be read is missing;
and of its imports each is read in turn up to the first that fails, if one does.

The rules hold for every way to keep files whose answers are known (`Files.AnswerBy`,
`bundle_gives`), whatever else its state holds. Two of them are a bare list of questions
(`bundle_recording_eq_iff`) and the collection in memory (`Memory.bundle_eq_iff`).
-/

namespace Scss

/-- The size of a text is the number of bytes of its UTF-8 form. -/
theorem Text.size_eq (s : Text) : s.size = s.str.utf8ByteSize := by
  induction s with
  | nil => rfl
  | cons c s ih =>
    have hcons : Text.str (c :: s) = String.singleton c ++ Text.str s := String.ofList_cons
    rw [hcons, String.utf8ByteSize_append, ← ih, String.utf8ByteSize_singleton]
    rfl

/-- Answers of files that depend on the path alone. -/
structure Answers where
  /-- Whether there is a file at a path. -/
  isFile : Text → Bool
  /-- The text of a file. -/
  read : Text → Except Failure Text

/-- The files answer by `answers`, and their state keeps track of the questions asked. -/
structure Files.AnswerBy {σ : Type} (files : Files (StateM σ)) (answers : Answers)
    (asked : List Access → σ → Prop) : Prop where
  isFile : ∀ {t s} p, asked t s →
    ((files.isFile p).run s).1 = answers.isFile p ∧
      asked (t ++ [.isFile p]) ((files.isFile p).run s).2
  read : ∀ {t s} p, asked t s →
    ((files.read p).run s).1 = answers.read p ∧ asked (t ++ [.read p]) ((files.read p).run s).2
  note : ∀ {t s} n, asked t s → asked t ((files.note n).run s).2

/-- Files with the given answers that keep nothing but the questions. -/
def Answers.recording (answers : Answers) : Files (StateM (List Access)) where
  isFile p := modifyGet fun asked => (answers.isFile p, asked ++ [.isFile p])
  read p := modifyGet fun asked => (answers.read p, asked ++ [.read p])
  note _ := pure ()

theorem Answers.recording_answerBy (answers : Answers) :
    answers.recording.AnswerBy answers fun t s => s = t where
  isFile := by rintro t s p rfl; exact ⟨rfl, rfl⟩
  read := by rintro t s p rfl; exact ⟨rfl, rfl⟩
  note := by rintro t s n rfl; rfl

namespace Bundler

variable {σ : Type} {files : Files (StateM σ)} {answers : Answers}
  {asked : List Access → σ → Prop} {bundler : Bundler} {path name contents : Text}
  {names : List Text} {cause : Failure} {t : List Access} {s : σ}

/-- An import can be read. -/
def Readable (answers : Answers) (bundler : Bundler) (name : Text) : Prop :=
  ∃ text, answers.read (bundler.importPath name) = .ok text

/-- The questions for imports. -/
def reads (bundler : Bundler) (names : List Text) : List Access :=
  names.map fun name => .read (bundler.importPath name)

/-- **What bundling gives**, and the questions it asks for it. -/
inductive Outcome (answers : Answers) (bundler : Bundler) (path : Text) :
    Except BundleError (Option Bundled) → List Access → Prop
  /-- A partial gives nothing and asks nothing. -/
  | skipped : Naming.isPartial path = true → Outcome answers bundler path (.ok none) []
  /-- The stylesheet is not there. -/
  | absent : Naming.isPartial path = false → answers.isFile path = false →
      Outcome answers bundler path (.error (.entryMissing path)) [.isFile path]
  /-- The stylesheet is there and cannot be read. -/
  | unreadable {cause : Failure} : Naming.isPartial path = false → answers.isFile path = true →
      answers.read path = .error cause →
      Outcome answers bundler path (.error (.entryMissing path)) [.isFile path, .read path]
  /-- The import `name` is the first that cannot be read, and the last that is asked for. -/
  | importMissing {contents name : Text} {before after : List Text} {cause : Failure} :
      Naming.isPartial path = false → answers.isFile path = true →
      answers.read path = .ok contents → Import.scan contents = before ++ name :: after →
      (∀ n ∈ before, Readable answers bundler n) →
      answers.read (bundler.importPath name) = .error cause →
      Outcome answers bundler path (.error (.importMissing name cause))
        ([.isFile path, .read path] ++ bundler.reads (before ++ [name]))
  /-- All imports can be read, and the stylesheet is compiled behind what is injected. -/
  | bundled {contents : Text} : Naming.isPartial path = false → answers.isFile path = true →
      answers.read path = .ok contents →
      (∀ n ∈ Import.scan contents, Readable answers bundler n) →
      Outcome answers bundler path
        (.ok (some {
          sourcePath := path
          sourceSize := contents.str.utf8ByteSize
          outputName := Naming.output path
          imports := Import.scan contents
          result := Stylesheet.compile bundler.order (bundler.source contents) }))
        ([.isFile path, .read path] ++ bundler.reads (Import.scan contents))

/-! ### The steps of bundling -/

theorem note_gives {ε : Type} (h : files.AnswerBy answers asked) (n : Note) (hs : asked t s) :
    Gives (liftM (files.note n) : ExceptT ε (StateM σ) PUnit) s (.ok ⟨⟩) (asked t) :=
  .lift rfl (h.note n hs)

theorem read_gives {ε : Type} (h : files.AnswerBy answers asked) (p : Text) (hs : asked t s) :
    Gives (liftM (files.read p) : ExceptT ε (StateM σ) (Except Failure Text)) s
      (.ok (answers.read p)) (asked (t ++ [.read p])) :=
  .lift (h.read p hs).1 (h.read p hs).2

theorem isFile_gives {ε : Type} (h : files.AnswerBy answers asked) (p : Text) (hs : asked t s) :
    Gives (liftM (files.isFile p) : ExceptT ε (StateM σ) Bool) s
      (.ok (answers.isFile p)) (asked (t ++ [.isFile p])) :=
  .lift (h.isFile p hs).1 (h.isFile p hs).2

theorem readEntry_ok (h : files.AnswerBy answers asked) (hs : asked t s)
    (hread : answers.read path = .ok contents) :
    Gives (readEntry files path) s (.ok contents) (asked (t ++ [.read path])) := by
  have hstep := read_gives (ε := BundleError) h path hs
  rw [hread] at hstep
  exact hstep.bind fun u hu => .pure hu

theorem readEntry_error (h : files.AnswerBy answers asked) (hs : asked t s)
    (hread : answers.read path = .error cause) :
    Gives (readEntry files path) s (.error (.entryMissing path)) (asked (t ++ [.read path])) := by
  have hstep := read_gives (ε := BundleError) h path hs
  rw [hread] at hstep
  refine hstep.bind fun u hu => ?_
  exact (note_gives h _ hu).bind fun v hv => .throw hv

theorem validate_ok (h : files.AnswerBy answers asked) (hs : asked t s)
    (hread : Readable answers bundler name) :
    Gives (bundler.validate files name) s (.ok ())
      (asked (t ++ [.read (bundler.importPath name)])) := by
  obtain ⟨text, htext⟩ := hread
  refine (note_gives h _ hs).bind fun u hu => ?_
  have hstep := read_gives (ε := BundleError) h (bundler.importPath name) hu
  rw [htext] at hstep
  exact hstep.bind fun v hv => .pure hv

theorem validate_error (h : files.AnswerBy answers asked) (hs : asked t s)
    (hread : answers.read (bundler.importPath name) = .error cause) :
    Gives (bundler.validate files name) s (.error (.importMissing name cause))
      (asked (t ++ [.read (bundler.importPath name)])) := by
  refine (note_gives h _ hs).bind fun u hu => ?_
  have hstep := read_gives (ε := BundleError) h (bundler.importPath name) hu
  rw [hread] at hstep
  exact hstep.bind fun v hv => .throw hv

theorem forM_validate_ok (h : files.AnswerBy answers asked) (hs : asked t s)
    (hread : ∀ n ∈ names, Readable answers bundler n) :
    Gives (names.forM (bundler.validate files)) s (.ok ()) (asked (t ++ bundler.reads names)) := by
  induction names generalizing t s with
  | nil => exact .pure (by simpa [reads] using hs)
  | cons n names ih =>
    refine (validate_ok h hs (hread n List.mem_cons_self)).bind fun u hu => ?_
    have hrest := ih hu fun n' hn' => hread n' (List.mem_cons_of_mem n hn')
    rwa [List.append_assoc] at hrest

/-- **Reading stops** at the first import that fails. -/
theorem forM_validate_error {before after : List Text} (h : files.AnswerBy answers asked)
    (hs : asked t s) (hread : ∀ n ∈ before, Readable answers bundler n)
    (hfail : answers.read (bundler.importPath name) = .error cause) :
    Gives ((before ++ name :: after).forM (bundler.validate files)) s
      (.error (.importMissing name cause)) (asked (t ++ bundler.reads (before ++ [name]))) := by
  induction before generalizing t s with
  | nil => exact (validate_error h hs hfail).bind_error
  | cons n before ih =>
    refine (validate_ok h hs (hread n List.mem_cons_self)).bind fun u hu => ?_
    have hrest := ih hu fun n' hn' => hread n' (List.mem_cons_of_mem n hn')
    rwa [List.append_assoc] at hrest

/-- What holds of the operations of files holds of bundling. -/
theorem bundle_composes {P : ∀ {α : Type}, StateM σ α → Prop} (h : Composes P)
    (hisFile : ∀ p, P (files.isFile p)) (hread : ∀ p, P (files.read p))
    (hnote : ∀ n, P (files.note n)) (bundler : Bundler) (path : Text) :
    P (bundler.bundle files path).run := by
  have hentry : P (readEntry files path).run := by
    refine h.run_bind (h.run_lift (hread path)) fun answer => ?_
    cases answer with
    | ok contents => exact h.pure _
    | error cause => exact h.run_bind (h.run_lift (hnote _)) fun _ => h.pure _
  have hvalidate : ∀ name, P (bundler.validate files name).run := by
    intro name
    refine h.run_bind (h.run_lift (hnote _)) fun _ => h.run_bind (h.run_lift (hread _)) fun answer => ?_
    cases answer with
    | ok contents => exact h.pure _
    | error cause => exact h.pure _
  unfold bundle
  split
  · exact h.run_bind (h.run_lift (hnote _)) fun _ => h.pure _
  refine h.run_bind (h.run_lift (hisFile path)) fun found => ?_
  cases found with
  | false => exact h.pure _
  | true =>
    refine h.run_bind hentry fun contents => h.run_bind (h.run_forM hvalidate) fun _ => ?_
    refine h.run_bind (h.run_forM fun n => h.run_lift (hnote n)) fun _ => ?_
    exact h.run_bind (h.run_lift (hnote _)) fun _ => h.pure _

theorem readable_or_first_failure (answers : Answers) (bundler : Bundler) (names : List Text) :
    (∀ n ∈ names, Readable answers bundler n) ∨
      ∃ before name after cause, names = before ++ name :: after ∧
        (∀ n ∈ before, Readable answers bundler n) ∧
        answers.read (bundler.importPath name) = .error cause := by
  induction names with
  | nil => exact .inl (by simp)
  | cons n names ih =>
    cases hn : answers.read (bundler.importPath n) with
    | error cause => exact .inr ⟨[], n, names, cause, rfl, by simp, hn⟩
    | ok text =>
      rcases ih with hall | ⟨before, name, after, cause, rfl, hbefore, hfail⟩
      · exact .inl (List.forall_mem_cons.2 ⟨⟨text, hn⟩, hall⟩)
      · exact .inr ⟨n :: before, name, after, cause, rfl,
          List.forall_mem_cons.2 ⟨⟨text, hn⟩, hbefore⟩, hfail⟩

theorem exists_outcome (answers : Answers) (bundler : Bundler) (path : Text) :
    ∃ result asked, Outcome answers bundler path result asked := by
  cases hpartial : Naming.isPartial path with
  | true => exact ⟨_, _, .skipped hpartial⟩
  | false =>
    cases hfile : answers.isFile path with
    | false => exact ⟨_, _, .absent hpartial hfile⟩
    | true =>
      cases hread : answers.read path with
      | error cause => exact ⟨_, _, .unreadable hpartial hfile hread⟩
      | ok contents =>
        rcases readable_or_first_failure answers bundler (Import.scan contents) with
          hall | ⟨before, name, after, cause, hscan, hbefore, hfail⟩
        · exact ⟨_, _, .bundled hpartial hfile hread hall⟩
        · exact ⟨_, _, .importMissing hpartial hfile hread hscan hbefore hfail⟩

/-- **Bundling follows the rules**, for every way to keep files that answers. -/
theorem bundle_gives {result : Except BundleError (Option Bundled)} {questions : List Access}
    (h : files.AnswerBy answers asked) (hout : Outcome answers bundler path result questions)
    (hs : asked t s) : Gives (bundler.bundle files path) s result (asked (t ++ questions)) := by
  have hlook := isFile_gives (ε := BundleError) h path hs
  unfold bundle
  cases hout with
  | skipped hpartial =>
    rw [if_pos hpartial, List.append_nil]
    exact (note_gives h _ hs).bind fun u hu => .pure hu
  | absent hpartial hfile =>
    rw [if_neg (by simp [hpartial])]
    rw [hfile] at hlook
    exact hlook.bind fun u hu => .throw hu
  | unreadable hpartial hfile hread =>
    rw [if_neg (by simp [hpartial])]
    rw [hfile] at hlook
    refine hlook.bind fun u hu => Gives.bind_error ?_
    have hentry := readEntry_error h hu hread
    rwa [List.append_assoc] at hentry
  | importMissing hpartial hfile hread hscan hbefore hfail =>
    rw [if_neg (by simp [hpartial])]
    rw [hfile] at hlook
    refine hlook.bind fun u hu => (readEntry_ok h hu hread).bind fun v hv => Gives.bind_error ?_
    rw [hscan]
    simpa using forM_validate_error h hv hbefore hfail
  | @bundled contents hpartial hfile hread hall =>
    rw [if_neg (by simp [hpartial])]
    rw [hfile] at hlook
    refine hlook.bind fun u hu => (readEntry_ok h hu hread).bind fun v hv => ?_
    refine (forM_validate_ok h hv hall).bind fun w hw => ?_
    refine (Gives.forM (fun n x hx => note_gives h n hx) hw).bind fun x hx => ?_
    refine (note_gives h _ hx).bind fun y hy => ?_
    rw [← Text.size_eq]
    exact .pure (by simpa using hy)

/-- Where the state is determined by the questions asked, the rules determine the whole run. -/
theorem bundle_eq_iff {state : List Access → σ} (h : files.AnswerBy answers fun t s => s = state t)
    (bundler : Bundler) (path : Text) (result : Except BundleError (Option Bundled)) (s' : σ) :
    (bundler.bundle files path).run.run (state []) = (result, s') ↔
      ∃ questions, Outcome answers bundler path result questions ∧ s' = state questions := by
  have hrun : ∀ r questions, Outcome answers bundler path r questions →
      (bundler.bundle files path).run.run (state []) = (r, state questions) :=
    fun r questions hout => Gives.iff_run.1 (bundle_gives (t := []) h hout rfl)
  constructor
  · -- some rule applies, and the run is the one that it gives
    intro h'
    obtain ⟨r, questions, hout⟩ := exists_outcome answers bundler path
    rw [hrun r questions hout, Prod.mk.injEq] at h'
    obtain ⟨rfl, rfl⟩ := h'
    exact ⟨questions, hout, rfl⟩
  · rintro ⟨questions, hout, rfl⟩
    exact hrun result questions hout

/-- The rules look at imports only for the failures in reading them. -/
theorem Outcome.congr {answers' : Answers} {result : Except BundleError (Option Bundled)}
    {questions : List Access} (h : Outcome answers bundler path result questions)
    (hfile : answers'.isFile path = answers.isFile path)
    (hread : answers'.read path = answers.read path)
    (himports : ∀ name cause, answers'.read (bundler.importPath name) = .error cause ↔
      answers.read (bundler.importPath name) = .error cause) :
    Outcome answers' bundler path result questions := by
  -- what can be read has no cause to fail, so it has none by the other answers either
  have hreadable : ∀ name, Readable answers bundler name → Readable answers' bundler name := by
    rintro name ⟨text, htext⟩
    cases hname : answers'.read (bundler.importPath name) with
    | ok text' => exact ⟨text', hname⟩
    | error cause =>
      rw [(himports name cause).1 hname] at htext
      cases htext
  cases h with
  | skipped hpartial => exact .skipped hpartial
  | absent hpartial hf => exact .absent hpartial (hfile.trans hf)
  | unreadable hpartial hf hr => exact .unreadable hpartial (hfile.trans hf) (hread.trans hr)
  | importMissing hpartial hf hr hscan hbefore hfail =>
    exact .importMissing hpartial (hfile.trans hf) (hread.trans hr) hscan
      (fun n hn => hreadable n (hbefore n hn)) ((himports _ _).2 hfail)
  | bundled hpartial hf hr hall =>
    exact .bundled hpartial (hfile.trans hf) (hread.trans hr) fun n hn => hreadable n (hall n hn)

/-- **Result and questions of bundling.** Whatever the files answer, bundling gives a result and asks
questions just as one of the rules says; and neither changes with what the imports contain, as long as
the same ones can be read and the others fail for the same cause. -/
theorem bundle_recording_eq_iff (answers : Answers) (bundler : Bundler) (path : Text)
    (result : Except BundleError (Option Bundled)) (questions : List Access) :
    ((bundler.bundle answers.recording path).run.run [] = (result, questions) ↔
      Outcome answers bundler path result questions) ∧
    ∀ answers' : Answers, answers'.isFile path = answers.isFile path →
      answers'.read path = answers.read path →
      (∀ name cause, answers'.read (bundler.importPath name) = .error cause ↔
        answers.read (bundler.importPath name) = .error cause) →
      (bundler.bundle answers'.recording path).run.run [] =
        (bundler.bundle answers.recording path).run.run [] := by
  have hrules : ∀ (a : Answers) r q, (bundler.bundle a.recording path).run.run [] = (r, q) ↔
      Outcome a bundler path r q := by
    intro a r q
    have hanswer : a.recording.AnswerBy a fun t s => s = id t := a.recording_answerBy
    simpa using bundle_eq_iff hanswer bundler path r q
  refine ⟨hrules answers result questions, fun answers' hfile hread himports => ?_⟩
  obtain ⟨r, q, hout⟩ := exists_outcome answers bundler path
  rw [(hrules answers r q).2 hout]
  exact (hrules answers' r q).2 (hout.congr hfile hread himports)

end Bundler

namespace Memory

/-- The answers of a collection in memory. -/
def answers (memory : Memory) : Answers where
  isFile p := (memory.get? p).isSome
  read p :=
    match memory.get? p with
    | some text => .ok text
    | none => .error (.unknown p)

/-- The collection after these questions. -/
def after (memory : Memory) (questions : List Access) : Memory :=
  { memory with accesses := memory.accesses ++ questions }

theorem files_answerBy (memory : Memory) :
    files.AnswerBy memory.answers fun t s => s = memory.after t where
  isFile := by
    rintro t s p rfl
    exact ⟨rfl, congrArg (Memory.mk memory.entries) (List.append_assoc ..)⟩
  read := by
    rintro t s p rfl
    exact ⟨rfl, congrArg (Memory.mk memory.entries) (List.append_assoc ..)⟩
  note := by rintro t s n rfl; rfl

/-- **Bundling in memory** records its questions behind those asked before, and changes nothing
else. -/
theorem bundle_eq_iff {memory memory' : Memory} {bundler : Bundler} {path : Text}
    {result : Except BundleError (Option Bundled)} :
    (bundler.bundle files path).run.run memory = (result, memory') ↔
      ∃ questions, Bundler.Outcome memory.answers bundler path result questions ∧
        memory' = memory.after questions := by
  have hstart : memory.after [] = memory := by simp [after]
  have hrun := Bundler.bundle_eq_iff memory.files_answerBy bundler path result memory'
  rwa [hstart] at hrun

end Memory

end Scss
