import Scss.Proofs.Compilation
import Scss.Proofs.Components
import Scss.Proofs.Runs

/-!
# Where the css goes

The output name of a stylesheet is made from its whole path as a text, by replacing the first source
suffix wherever it stands, while the output folder takes the file name of the result. The two agree
because a suffix holds no slash: a replacement at a slash happens on one side of it
(`output_append_of_isInfix`, `output_append_separator`). So a path that **ends in** a file name
(`Path.EndsIn`) has an output name that ends in one too, either the same or the one with its own first
suffix replaced (`output_endsIn_of_isInfix`, `output_endsIn_of_not`).

* `Text.FirstReplaced`: what replacing the first occurrence means; `replaceFirst_firstReplaced`.
* `compileFile_writes_into_folder`: with an output folder, the css goes into it.
-/

namespace Scss

namespace Text

variable {old new x y s : Text} {c : Char}

/-- The second text is the first one with the first occurrence of `old` replaced by `new`, if it has
one. -/
inductive FirstReplaced (old new : Text) : Text → Text → Prop
  | absent {s : Text} : ¬ old <:+: s → FirstReplaced old new s s
  | first {s x y : Text} : s = x ++ (old ++ y) → (∀ x', x' ++ old <+: s → x.length ≤ x'.length) →
      FirstReplaced old new s (x ++ (new ++ y))

theorem after?_eq_none (h : ¬ old <+: s) : after? old s = none := by
  cases hafter : after? old s with
  | none => rfl
  | some rest => exact absurd ⟨rest, (after?_eq_some_iff.1 hafter).symm⟩ h

theorem replaceFirst_cons_of_not (h : ¬ old <+: c :: s) :
    replaceFirst old new (c :: s) = c :: replaceFirst old new s := by
  rw [replaceFirst, after?_eq_none h]

theorem replaceFirst_cons_of_eq (h : c :: s = old ++ y) :
    replaceFirst old new (c :: s) = new ++ y := by
  rw [replaceFirst, after?_eq_some_iff.2 h]

/-- **The first occurrence is replaced.** -/
theorem replaceFirst_firstReplaced (old new s : Text) :
    FirstReplaced old new s (replaceFirst old new s) := by
  induction s with
  | nil =>
    cases old with
    | nil =>
      have h : FirstReplaced [] new [] ([] ++ (new ++ [])) := .first rfl (by simp)
      simpa [replaceFirst] using h
    | cons c old => exact .absent (by simp)
  | cons c s ih =>
    by_cases hpre : old <+: c :: s
    · obtain ⟨y, hy⟩ := hpre
      rw [replaceFirst_cons_of_eq hy.symm]
      exact .first (x := []) hy.symm fun x' _ => Nat.zero_le _
    · rw [replaceFirst_cons_of_not hpre]
      generalize replaceFirst old new s = t at ih
      cases ih with
      | absent h =>
        refine .absent fun hin => ?_
        rcases List.infix_cons_iff.1 hin with hin | hin
        · exact hpre hin
        · exact h hin
      | @first x y hs hfirst =>
        refine .first (x := c :: x) (by rw [hs]; rfl) fun x' hx' => ?_
        -- an occurrence begins at the front or behind the first character
        cases x' with
        | nil => exact absurd hx' hpre
        | cons d x' => exact Nat.succ_le_succ (hfirst x' (List.cons_prefix_cons.1 hx').2)

theorem replaceFirst_of_not (h : ¬ old <:+: s) : replaceFirst old new s = s := by
  have hreplaced := replaceFirst_firstReplaced old new s
  generalize replaceFirst old new s = t at hreplaced
  cases hreplaced with
  | absent _ => rfl
  | @first x y hs _ => exact absurd ⟨x, y, by rw [hs, List.append_assoc]⟩ h

/-- An occurrence in the front of a text is the only thing that is replaced there. -/
theorem replaceFirst_append_of_isInfix (hold : old ≠ []) (h : old <:+: x) (y : Text) :
    replaceFirst old new (x ++ y) = replaceFirst old new x ++ y := by
  induction x with
  | nil => exact absurd (List.infix_nil.1 h) hold
  | cons c x ih =>
    by_cases hpre : old <+: c :: x
    · obtain ⟨rest, hrest⟩ := hpre
      have hall : c :: (x ++ y) = old ++ (rest ++ y) := by
        rw [← List.cons_append, ← hrest, List.append_assoc]
      rw [List.cons_append, replaceFirst_cons_of_eq hall, replaceFirst_cons_of_eq hrest.symm,
        List.append_assoc]
    · have hin : old <:+: x := (List.infix_cons_iff.1 h).resolve_left hpre
      have hpre' : ¬ old <+: c :: (x ++ y) := by
        intro hlong
        refine hpre (List.prefix_of_prefix_length_le hlong (List.prefix_append (c :: x) y) ?_)
        exact Nat.le_succ_of_le hin.length_le
      rw [List.cons_append, replaceFirst_cons_of_not hpre', replaceFirst_cons_of_not hpre, ih hin,
        List.cons_append]

/-- What holds no `c` is replaced behind the `c` if not in front of it. -/
theorem replaceFirst_append_cons_of_not (hc : c ∉ old) (h : ¬ old <:+: x) (y : Text) :
    replaceFirst old new (x ++ c :: y) = x ++ c :: replaceFirst old new y := by
  induction x with
  | nil =>
    have hpre : ¬ old <+: c :: y := by
      intro hpre
      exact h (isPrefix_of_isPrefix_append_cons (s := []) hc hpre).isInfix
    exact replaceFirst_cons_of_not hpre
  | cons d x ih =>
    have hpre : ¬ old <+: d :: (x ++ c :: y) := by
      intro hpre
      exact h (isPrefix_of_isPrefix_append_cons (s := d :: x) hc hpre).isInfix
    have hx : ¬ old <:+: x := fun hin => h (hin.trans (List.suffix_cons d x).isInfix)
    rw [List.cons_append, replaceFirst_cons_of_not hpre, ih hx, List.cons_append]

/-- What holds no `c` stands on one side of it. -/
theorem isInfix_or_of_isInfix_append_cons (hc : c ∉ old) (h : old <:+: x ++ c :: y) :
    old <:+: x ∨ old <:+: y := by
  induction x with
  | nil =>
    rcases List.infix_cons_iff.1 h with hpre | hin
    · exact .inl (isPrefix_of_isPrefix_append_cons (s := []) hc hpre).isInfix
    · exact .inr hin
  | cons d x ih =>
    rcases List.infix_cons_iff.1 h with hpre | hin
    · exact .inl (isPrefix_of_isPrefix_append_cons (s := d :: x) hc hpre).isInfix
    · exact (ih hin).imp (fun hx => hx.trans (List.suffix_cons d x).isInfix) id

theorem isInfix_of_isInfix_concat (hc : c ∉ old) (h : old <:+: x ++ [c]) : old <:+: x := by
  rcases isInfix_or_of_isInfix_append_cons hc h with hx | hnil
  · exact hx
  · rw [List.infix_nil.1 hnil]
    exact List.nil_infix

end Text

namespace Path

variable {p q front name back segment first x y a b : Text} {init rest l : List Text} {c : Char}

/-! ### Where a segment stands -/

/-- A path is its first segment, or goes on behind a slash. -/
theorem eq_or_of_segments (h : segments p = first :: l) :
    p = first ∧ l = [] ∨ ∃ q, p = first ++ separator :: q ∧ segments q = l := by
  induction p generalizing first with
  | nil =>
    obtain ⟨rfl, rfl⟩ := List.cons.inj h
    exact .inl ⟨rfl, rfl⟩
  | cons c s ih =>
    by_cases hc : c = separator
    · subst hc
      rw [segments_cons_separator] at h
      obtain ⟨rfl, rfl⟩ := List.cons.inj h
      exact .inr ⟨s, rfl, rfl⟩
    · obtain ⟨first', l', hs⟩ := exists_segments s
      rw [segments_cons hc hs] at h
      obtain ⟨rfl, rfl⟩ := List.cons.inj h
      rcases ih hs with ⟨rfl, rfl⟩ | ⟨q, rfl, hq⟩
      · exact .inl ⟨rfl, rfl⟩
      · exact .inr ⟨q, rfl, hq⟩

/-- The last segment of a text and the first one of what follows become one. -/
theorem segments_append (hx : segments x = init ++ [a]) (hy : segments y = b :: rest) :
    segments (x ++ y) = init ++ (a ++ b) :: rest := by
  induction init generalizing x with
  | nil =>
    have ha : separator ∉ a := separator_notMem_segments (p := x) (by simp [hx])
    rcases eq_or_of_segments hx with ⟨rfl, -⟩ | ⟨q, -, hq⟩
    · exact segments_append_of_notMem ha hy
    · exact absurd hq (segments_ne_nil q)
  | cons first init ih =>
    have hfirst : separator ∉ first := separator_notMem_segments (p := x) (by simp [hx])
    rcases eq_or_of_segments hx with ⟨-, hnil⟩ | ⟨q, rfl, hq⟩
    · simp at hnil
    · rw [List.append_assoc, List.cons_append, segments_append_separator, segments_of_notMem hfirst,
        ih hq]
      rfl

theorem exists_segment_of_mem (hc : c ≠ separator) (h : c ∈ p) :
    ∃ segment ∈ segments p, c ∈ segment := by
  obtain ⟨x, y, rfl⟩ := List.append_of_mem h
  obtain ⟨first, l, hy⟩ := exists_segments y
  have hx := (List.dropLast_concat_getLast (segments_ne_nil x)).symm
  have hsegments := segments_append hx (segments_cons hc hy)
  refine ⟨(segments x).getLast (segments_ne_nil x) ++ c :: first, ?_, by simp⟩
  rw [hsegments]
  exact List.mem_append_right _ List.mem_cons_self

/-- Nothing, or a text whose last character is a slash. -/
def IsFront (front : Text) : Prop :=
  front = [] ∨ ∃ x, front = x ++ [separator]

/-- Nothing, or a slash and segments that lead nowhere. -/
def IsBack (back : Text) : Prop :=
  back = [] ∨ ∃ y, back = separator :: y ∧ ∀ segment ∈ segments y, isIdle segment = true

/-- The path **ends in** the file name: in front of it stands nothing or a slash, and behind it at most
segments that lead nowhere. -/
structure EndsIn (p front name back : Text) : Prop where
  eq : p = front ++ (name ++ back)
  isFileName : IsFileName name
  isFront : IsFront front
  isBack : IsBack back

theorem IsFront.exists_segments (h : IsFront front) : ∃ init, segments front = init ++ [[]] := by
  rcases h with rfl | ⟨x, rfl⟩
  · exact ⟨[], rfl⟩
  · exact ⟨segments x, segments_append_separator x []⟩

theorem IsBack.exists_segments (h : IsBack back) :
    ∃ rest, segments back = [] :: rest ∧ ∀ segment ∈ rest, isIdle segment = true := by
  rcases h with rfl | ⟨y, rfl, hy⟩
  · exact ⟨[], rfl, by simp⟩
  · exact ⟨segments y, segments_cons_separator y, hy⟩

theorem IsFront.append_separator (h : IsFront front) (x : Text) :
    IsFront (x ++ separator :: front) := by
  refine .inr ?_
  rcases h with rfl | ⟨y, rfl⟩
  · exact ⟨x, rfl⟩
  · exact ⟨x ++ separator :: y, by simp⟩

theorem EndsIn.fileName?_eq (h : EndsIn p front name back) : fileName? p = some name := by
  obtain ⟨init, hfront⟩ := h.isFront.exists_segments
  obtain ⟨rest, hback, hrest⟩ := h.isBack.exists_segments
  have hname : segments (name ++ back) = name :: rest := by
    rw [segments_append_of_notMem h.isFileName.2 hback, List.append_nil]
  refine fileName?_eq_some_iff.2 ⟨h.isFileName.1, init, rest, ?_, hrest⟩
  rw [h.eq]
  exact segments_append hfront hname

theorem exists_front_of_segments (h : segments p = init ++ segment :: rest)
    (hrest : ∀ segment ∈ rest, isIdle segment = true) :
    ∃ front back, p = front ++ (segment ++ back) ∧ IsFront front ∧ IsBack back := by
  induction init generalizing p with
  | nil =>
    rcases eq_or_of_segments h with ⟨rfl, -⟩ | ⟨q, rfl, hq⟩
    · exact ⟨[], [], by simp, .inl rfl, .inl rfl⟩
    · rw [← hq] at hrest
      exact ⟨[], separator :: q, rfl, .inl rfl, .inr ⟨q, rfl, hrest⟩⟩
  | cons first init ih =>
    rcases eq_or_of_segments h with ⟨-, hnil⟩ | ⟨q, rfl, hq⟩
    · simp at hnil
    · obtain ⟨front, back, rfl, hfront, hback⟩ := ih hq
      exact ⟨first ++ separator :: front, back, by simp, hfront.append_separator first, hback⟩

/-- **A path with a file name ends in it.** -/
theorem exists_endsIn (h : fileName? p = some name) : ∃ front back, EndsIn p front name back := by
  obtain ⟨-, init, rest, hp, hrest⟩ := fileName?_eq_some_iff.1 h
  obtain ⟨front, back, heq, hfront, hback⟩ := exists_front_of_segments hp hrest
  exact ⟨front, back, heq, isFileName_of_fileName? h, hfront, hback⟩

end Path

namespace Naming

open Scss.Path

variable {p front name back x : Text}

/-! ### The output name -/

theorem separator_notMem_sourceSuffix : separator ∉ sourceSuffix := by decide

theorem output_of_not (h : ¬ sourceSuffix <:+: p) : output p = p :=
  Text.replaceFirst_of_not h

/-- A suffix in front is replaced there. -/
theorem output_append_of_isInfix (h : sourceSuffix <:+: x) (y : Text) :
    output (x ++ y) = output x ++ y :=
  Text.replaceFirst_append_of_isInfix (by decide) h y

/-- Without a suffix in front of a slash, one is replaced behind it. -/
theorem output_append_separator (h : ¬ sourceSuffix <:+: x) (y : Text) :
    output (x ++ separator :: y) = x ++ separator :: output y :=
  Text.replaceFirst_append_cons_of_not separator_notMem_sourceSuffix h y

/-- **The output name** is the path itself where there is no suffix, and else has another one in its
place. -/
theorem output_cases (p : Text) :
    ¬ sourceSuffix <:+: p ∧ output p = p ∨
      ∃ x y, p = x ++ (sourceSuffix ++ y) ∧ output p = x ++ (outputSuffix ++ y) := by
  have hreplaced := Text.replaceFirst_firstReplaced sourceSuffix outputSuffix p
  unfold output
  generalize Text.replaceFirst sourceSuffix outputSuffix p = q at hreplaced ⊢
  cases hreplaced with
  | absent h => exact .inl ⟨h, rfl⟩
  | @first x y hp _ => exact .inr ⟨x, y, hp, rfl⟩

theorem mem_of_mem_output {c : Char} (h : c ∈ output p) : c ∈ p ∨ c ∈ outputSuffix := by
  rcases output_cases p with ⟨-, hp⟩ | ⟨x, y, hp, houtput⟩
  · rw [hp] at h
    exact .inl h
  · rw [houtput] at h
    rw [hp]
    simp only [List.mem_append] at h ⊢
    rcases h with hx | hnew | hy
    · exact .inl (.inl hx)
    · exact .inr hnew
    · exact .inl (.inr (.inr hy))

theorem separator_notMem_output (h : separator ∉ p) : separator ∉ output p := by
  intro hmem
  rcases mem_of_mem_output hmem with hp | hnew
  · exact h hp
  · exact absurd hnew (by decide)

/-- A file name stays one: the suffix makes it long enough not to be dots. -/
theorem isFileName_output (h : IsFileName name) : IsFileName (output name) := by
  refine ⟨?_, separator_notMem_output h.2⟩
  rcases output_cases name with ⟨-, hname⟩ | ⟨x, y, -, houtput⟩
  · rw [hname]
    exact h.1
  · have hlength : outputSuffix.length = 4 := by decide
    refine isEntryName_of_length ?_
    rw [houtput, List.length_append, List.length_append, hlength]
    omega

/-- There is no suffix where no segment leads anywhere. -/
theorem not_isInfix_of_isBack (h : IsBack back) : ¬ sourceSuffix <:+: back := by
  intro hin
  have hmem : 's' ∈ back := hin.subset (by decide)
  obtain ⟨segment, hsegment, hs⟩ := exists_segment_of_mem (by decide) hmem
  have hidle : isIdle segment = true := by
    obtain ⟨rest, hback, hrest⟩ := h.exists_segments
    rw [hback] at hsegment
    rcases List.mem_cons.1 hsegment with rfl | hsegment
    · rfl
    · exact hrest segment hsegment
  rcases isIdle_iff.1 hidle with rfl | rfl
  · cases hs
  · exact absurd hs (by decide)

theorem output_append_of_isBack (h : IsBack back) (x : Text) :
    output (x ++ back) = output x ++ back := by
  by_cases hx : sourceSuffix <:+: x
  · exact output_append_of_isInfix hx back
  · have hback := not_isInfix_of_isBack h
    rcases h with rfl | ⟨y, rfl, -⟩
    · rw [List.append_nil, List.append_nil]
    · have hy : ¬ sourceSuffix <:+: y :=
        fun hin => hback (hin.trans (List.suffix_cons separator y).isInfix)
      rw [output_append_separator hx, output_of_not hy, output_of_not hx]

/-- Where a suffix stands in front of the file name, the file name is kept. -/
theorem output_endsIn_of_isInfix (h : EndsIn p front name back) (hin : sourceSuffix <:+: front) :
    EndsIn (output p) (output front) name back := by
  refine ⟨?_, h.isFileName, ?_, h.isBack⟩
  · rw [h.eq, output_append_of_isInfix hin]
  · rcases h.isFront with rfl | ⟨x, rfl⟩
    · exact absurd (List.infix_nil.1 hin) (by decide)
    · have hx := Text.isInfix_of_isInfix_concat separator_notMem_sourceSuffix hin
      exact .inr ⟨output x, output_append_of_isInfix hx _⟩

/-- Otherwise the replacement is one in the file name. -/
theorem output_endsIn_of_not (h : EndsIn p front name back) (hnot : ¬ sourceSuffix <:+: front) :
    EndsIn (output p) front (output name) back := by
  refine ⟨?_, isFileName_output h.isFileName, h.isFront, h.isBack⟩
  rw [h.eq, ← output_append_of_isBack h.isBack]
  rcases h.isFront with rfl | ⟨x, rfl⟩
  · rfl
  · have hx : ¬ sourceSuffix <:+: x := fun hin => hnot (hin.trans (List.prefix_append x _).isInfix)
    rw [List.append_assoc, List.append_assoc]
    exact output_append_separator hx _

end Naming

namespace Compilation

open Disk

variable {options : Options} {path folder name : Text}

theorem components_outputPath {outputName : Text} (hfolder : options.outputFolder = some folder)
    (hname : Path.fileName? outputName = some name) :
    Path.components (outputPath options outputName) = Path.components folder ++ [.normal name] := by
  unfold outputPath
  rw [hfolder, hname]
  exact Path.components_join folder (Path.isFileName_of_fileName? hname)

/-- The file name of the output, as it is read off a path that ends in a file name. -/
theorem exists_fileName?_output (h : Path.fileName? path = some name) :
    ∃ name', Path.fileName? (Naming.output path) = some name' ∧
      ∀ front back, Path.EndsIn path front name back →
        (Naming.sourceSuffix <:+: front → name' = name) ∧
        (¬ Naming.sourceSuffix <:+: front →
          Text.FirstReplaced Naming.sourceSuffix Naming.outputSuffix name name') := by
  have hcases : ∀ front back, Path.EndsIn path front name back →
      (Naming.sourceSuffix <:+: front → Path.fileName? (Naming.output path) = some name) ∧
      (¬ Naming.sourceSuffix <:+: front →
        Path.fileName? (Naming.output path) = some (Naming.output name)) := by
    intro front back hends
    exact ⟨fun hin => (Naming.output_endsIn_of_isInfix hends hin).fileName?_eq,
      fun hnot => (Naming.output_endsIn_of_not hends hnot).fileName?_eq⟩
  obtain ⟨name', hname'⟩ : ∃ name', Path.fileName? (Naming.output path) = some name' := by
    obtain ⟨front, back, hends⟩ := Path.exists_endsIn h
    by_cases hin : Naming.sourceSuffix <:+: front
    · exact ⟨name, (hcases front back hends).1 hin⟩
    · exact ⟨Naming.output name, (hcases front back hends).2 hin⟩
  refine ⟨name', hname', fun front back hends => ⟨fun hin => ?_, fun hnot => ?_⟩⟩
  · exact Option.some.inj (hname'.symm.trans ((hcases front back hends).1 hin))
  · obtain rfl := Option.some.inj (hname'.symm.trans ((hcases front back hends).2 hnot))
    exact Text.replaceFirst_firstReplaced _ _ name

/-- A file that is to be written is written, or the file system fails. -/
theorem compileFile_of_accepted {s : Session} {file : Bundled}
    (h : Accepted s.disk options path file) :
    let run := (compileFile Session.machine options path).run.run s
    (∃ cause, run.1 = .error (.io cause)) ∨
      ∃ stats, run.1 = .ok stats ∧ stats.written = [outputPath options file.outputName] := by
  intro run
  obtain ⟨answer, d', hemits⟩ := exists_emits s.disk (outputPath options file.outputName)
    file.result.css
  cases answer with
  | error cause => exact .inl ⟨cause, (compileFile_gives (.failed h hemits)).1⟩
  | ok _ => exact .inr ⟨_, (compileFile_gives (.written h hemits)).1, rfl⟩

/-- **With an output folder, the css goes into it.** Let the path have a file name, which it then ends
in. The output has a file name too: that of the path, with its first suffix replaced unless a suffix
stands in front of the file name. The path of the css has the components of the output folder and then
that name. Without an error, a partial was skipped or the css was written to such a path; after an
error of the file system there are at most new folders to which parents of such a path lead; and one of
the two happens to a bundled stylesheet that undefined variables do not stop and whose css does not go
to its own path. -/
theorem compileFile_writes_into_folder (s : Session) (hfolder : options.outputFolder = some folder)
    (hname : Path.fileName? path = some name) :
    let run := (compileFile Session.machine options path).run.run s
    let bundled := ((bundleFile Session.machine options path).run.run s).1
    let after := run.2.disk
    (∃ front back, Path.EndsIn path front name back) ∧
    ∃ name', Path.fileName? (Naming.output path) = some name' ∧
      (∀ front back, Path.EndsIn path front name back →
        (Naming.sourceSuffix <:+: front → name' = name) ∧
        (¬ Naming.sourceSuffix <:+: front →
          Text.FirstReplaced Naming.sourceSuffix Naming.outputSuffix name name')) ∧
      (∀ stats, run.1 = .ok stats →
        stats.written = [] ∧ Naming.isPartial path = true ∧ after = s.disk ∨
        ∃ q bytes place, stats.written = [q] ∧ Wrote q bytes place s.disk after ∧
          Path.components q = Path.components folder ++ [.normal name']) ∧
      (∀ cause, run.1 = .error (.io cause) →
        ∃ q, FoldersAdded (Path.parents q) s.disk after ∧
          Path.components q = Path.components folder ++ [.normal name']) ∧
      (∀ file, bundled = .ok (some file) →
        (options.failOnUndefined = true → file.result.undefined = []) →
        Path.components folder ++ [.normal name'] ≠ Path.components path →
        (∃ cause, run.1 = .error (.io cause)) ∨
          ∃ stats q, run.1 = .ok stats ∧ stats.written = [q]) := by
  intro run bundled after
  have hcourse : Course s.disk options path run.1 after := compileFile_course s options path
  obtain ⟨name', hname', hreplaced⟩ := exists_fileName?_output hname
  have hcomponents := components_outputPath hfolder hname'
  refine ⟨Path.exists_endsIn hname, name', hname', hreplaced, ?_, ?_, ?_⟩
  · intro stats hstats
    rw [hstats] at hcourse
    refine hcourse.written_cases.imp id ?_
    rintro ⟨file, place, haccepted, rfl, hwrote⟩
    rw [haccepted.bundles.source.2.1] at hwrote ⊢
    exact ⟨_, _, place, rfl, hwrote, hcomponents⟩
  · intro cause hcause
    rw [hcause] at hcourse
    exact ⟨_, hcourse.added_of_io, hcomponents⟩
  · intro file hfile hdefined hne
    have hbundles : Bundles s.disk options path bundled := bundleFile_bundles s options path
    rw [hfile] at hbundles
    have hapart : Path.same (outputPath options file.outputName) path = false := by
      unfold Path.same
      rw [hbundles.source.2.1, hcomponents, beq_eq_false_iff_ne]
      exact hne
    refine (compileFile_of_accepted ⟨hbundles, hdefined, hapart⟩).imp id ?_
    rintro ⟨stats, hstats, hwritten⟩
    exact ⟨stats, _, hstats, hwritten⟩

/-- The suffix of a folder is replaced in the output name, so the stylesheet keeps its name in the
output folder, which is spelled by way of a folder that is made first. -/
theorem compileFile_writes_kept_name_into_folder :
    let path := "a.scss.d/./x.scss".toList
    let folder := "out/..".toList
    let options : Options := { outputFolder := some folder }
    let s : Session :=
      { disk :=
          { root := .folder (Text.bytes "a.scss.d".toList)
              (.file (Text.bytes "x.scss".toList) (encode "p { }".toList) .empty) .empty
            here := [] } }
    let run := (compileFile Session.machine options path).run.run s
    options.outputFolder = some folder ∧ Path.fileName? path = some "x.scss".toList ∧
      ∃ stats q, run.1 = .ok stats ∧ stats.written = [q] ∧
        Path.components q = [.normal "out".toList, .up, .normal "x.scss".toList] := by
  intro path folder options s run
  have hname : Path.fileName? path = some "x.scss".toList := by decide +kernel
  have houtput : Path.fileName? (Naming.output path) = some "x.scss".toList := by decide +kernel
  have hwritten : run.1.toOption.map Stats.written = some ["out/../x.scss".toList] := by
    decide +kernel
  have hoption : options.outputFolder = some folder := rfl
  obtain ⟨-, name', hname', -, hok, -, -⟩ := compileFile_writes_into_folder s hoption hname
  obtain rfl := Option.some.inj (hname'.symm.trans houtput)
  obtain ⟨stats, hstats, hq⟩ := Option.map_eq_some_iff.1 hwritten
  have hrun : run.1 = .ok stats := by
    cases hrun : run.1 with
    | error e =>
      rw [hrun] at hstats
      cases hstats
    | ok stats' =>
      rw [hrun] at hstats
      rw [Option.some.inj hstats]
  rcases hok stats hrun with ⟨hnil, -⟩ | ⟨q, -, -, hone, -, hcomponents⟩
  · rw [hq] at hnil
    cases hnil
  · exact ⟨hoption, hname, stats, q, hrun, hone, hcomponents⟩

end Compilation

end Scss
