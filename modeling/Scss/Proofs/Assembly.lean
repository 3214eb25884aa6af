import Mathlib.Data.List.Infix
import Scss.Proofs.Bundle
import Scss.Proofs.Import
import Scss.Proofs.Stylesheet

/-!
# Imports that compiling puts together

Imports are looked for in a stylesheet as it is read, and the css is what is left when declarations are
taken out and values put in. Both can put an import together that was not there before
(`import_put_together`): a value inside it, a declaration that stood in the middle of it, a value that
ends in a part of it.

An import can come up only where a beginning of it stands in front of a sign or at the end of a value
(`Assembled`). Where there is no such beginning, every step of compiling leaves it so: a beginning
still stands in front of no sign, and the import is there only if it was there before
(`guarded_replace`, for one scan that rewrites a text; `isInfix_of_isInfix_substituteAll`, for all
passes). So every other import of the css stands in the stylesheet and was read
(`imports_of_css_validated`).
-/

namespace Scss

namespace Import

open Variable

variable {α : Type} {name s v x : Text}

/-- A part of an import from its first character on, but not all of it. -/
def Beginning (name x : Text) : Prop :=
  x ≠ [] ∧ ∃ y, y ≠ [] ∧ statement name = x ++ y

/-- No sign stands directly behind a beginning of the import. -/
def Guarded (name s : Text) : Prop :=
  ∀ x, Beginning name x → ¬ x ++ [sigil] <:+: s

/-- The text can be put into a guarded one: it neither holds the import nor ends in a beginning of it,
and is guarded itself. -/
structure Harmless (name v : Text) : Prop where
  whole : ¬ statement name <:+: v
  ends : ∀ x, Beginning name x → ¬ x <:+ v
  guarded : Guarded name v

/-- An import of `name` can be put together when `source` is compiled: a beginning of it stands in
front of a sign, or at the end of a declared value. -/
inductive Assembled (source name : Text) : Prop
  | sign {x : Text} : Beginning name x → x ++ [sigil] <:+: source → Assembled source name
  | value {x : Text} {b : Binding} : Beginning name x → b ∈ Declaration.all source →
      x <:+ b.value → Assembled source name

theorem Beginning.of_append {y : Text} (h : Beginning name (x ++ y)) (hx : x ≠ []) :
    Beginning name x := by
  obtain ⟨-, z, hz, hstatement⟩ := h
  refine ⟨hx, y ++ z, List.append_ne_nil_of_right_ne_nil y hz, ?_⟩
  rw [hstatement, List.append_assoc]

theorem Beginning.head (h : Beginning name x) : ∃ tail, x = '@' :: tail := by
  obtain ⟨hx, y, -, hstatement⟩ := h
  obtain ⟨c, tail, rfl⟩ := List.exists_cons_of_ne_nil hx
  have hhead : '@' = c := (List.cons.inj hstatement).1
  exact ⟨tail, by rw [hhead]⟩

theorem harmless_of_notMem (h : '@' ∉ v) : Harmless name v := by
  have hend : ∀ x, Beginning name x → ¬ x <:+: v := by
    intro x hx hin
    obtain ⟨tail, rfl⟩ := hx.head
    exact h (hin.subset List.mem_cons_self)
  refine ⟨fun hin => h (hin.subset List.mem_cons_self), fun x hx hv => hend x hx hv.isInfix, ?_⟩
  intro x hx hin
  have hpre : x <:+: x ++ [sigil] := (List.prefix_append x [sigil]).isInfix
  exact hend x hx (hpre.trans hin)

/-- **Rewriting keeps a text guarded and adds no import**, if what is put in is harmless. -/
theorem guarded_replace {p : Pattern α} (hp : p.StartsAt sigil) {f : α → Text}
    (hrest : ∀ s a r, p.read? s = some (a, r) → r <:+ s)
    (hnew : ∀ s a r, p.read? s = some (a, r) → Harmless name (f a)) (hs : Guarded name s) :
    Guarded name (p.replace f s) ∧
      (statement name <:+: p.replace f s → statement name <:+: s) := by
  refine ⟨fun x hx hin => ?_, fun hin => ?_⟩
  · -- a beginning with a sign behind it has only beginnings in front of its end
    have hpart : ∀ u w, x ++ [sigil] = u ++ w → u ≠ [] → w ≠ [] → Beginning name u := by
      intro u w huw hu hw
      obtain ⟨w', c, rfl⟩ := List.eq_nil_or_concat w |>.resolve_left hw
      rw [List.concat_eq_append, ← List.append_assoc] at huw
      have hxu : x = u ++ w' := (List.append_inj' huw rfl).1
      rw [hxu] at hx
      exact hx.of_append hu
    refine hs x hx (Pattern.isInfix_of_isInfix_replace hp (by simp) hrest ?_ ?_ ?_ hin)
    · exact fun s a r hr => (hnew s a r hr).guarded x hx
    · exact fun s a r hr u w huw hu hw => (hnew s a r hr).ends u (hpart u w huw hu hw)
    · exact fun u w huw hu hw => hs u (hpart u w huw hu hw)
  · refine Pattern.isInfix_of_isInfix_replace hp (statement_ne_nil name) hrest ?_ ?_ ?_ hin
    · exact fun s a r hr => (hnew s a r hr).whole
    · exact fun s a r hr u w huw hu hw => (hnew s a r hr).ends u ⟨hu, w, hw, huw⟩
    · exact fun u w huw hu hw => hs u ⟨hu, w, hw, huw⟩

/-- Taking declarations out keeps a text guarded and adds no import. -/
theorem guarded_strip (hs : Guarded name s) :
    Guarded name (Declaration.strip s) ∧
      (statement name <:+: Declaration.strip s → statement name <:+: s) := by
  refine guarded_replace Declaration.pattern_startsAt (fun s b r hr => ?_) (fun s b r _ => ?_) hs
  · obtain ⟨clause, rest, -, rfl, rfl⟩ :=
      Declaration.written_iff.1 (Declaration.written_of_read? hr)
    exact (List.dropWhile_suffix _).trans (List.suffix_append clause rest)
  · exact harmless_of_notMem List.not_mem_nil

/-- One pass keeps a text guarded and adds no import. -/
theorem guarded_substitute (key : Text) {value : Text} (hvalue : Harmless name value)
    (hs : Guarded name s) :
    Guarded name (substitute key value s) ∧
      (statement name <:+: substitute key value s → statement name <:+: s) := by
  refine guarded_replace token_startsAt (fun s a r hr => ?_) (fun s a r hr => ?_) hs
  · obtain ⟨-, rfl, -⟩ := Variable.read?_eq_some_iff.1 hr
    exact List.suffix_append a r
  · obtain ⟨ha, -, -⟩ := Variable.read?_eq_some_iff.1 hr
    by_cases hkey : a = key
    · rwa [if_pos hkey]
    · rw [if_neg hkey]
      exact harmless_of_notMem (notMem_of_isName ha (by decide) (by decide))

/-- **All passes** together add no import. -/
theorem isInfix_of_isInfix_substituteAll {order : List Binding}
    (hvalue : ∀ b ∈ order, Harmless name b.value) (hs : Guarded name s)
    (h : statement name <:+: substituteAll order s) : statement name <:+: s := by
  induction order generalizing s with
  | nil => exact h
  | cons b bs ih =>
    obtain ⟨hguarded, hin⟩ := guarded_substitute b.name (hvalue b List.mem_cons_self) hs
    exact hin (ih (fun b' hb' => hvalue b' (List.mem_cons_of_mem b hb')) hguarded h)

theorem value_isInfix {b : Binding} (h : b ∈ Declaration.all s) : b.value <:+: s := by
  induction s using Pattern.scan_induction (p := Declaration.pattern) with
  | nil => simp [Declaration.all] at h
  | item s a r hs ih =>
    obtain ⟨clause, rest, hclause, rfl, rfl⟩ :=
      Declaration.written_iff.1 (Declaration.written_of_read? hs)
    have hw := Declaration.written_iff.2 ⟨clause, rest, hclause, rfl, rfl⟩
    rw [Declaration.all_of_written hw] at h
    rcases List.mem_cons.1 h with rfl | h
    · exact hclause.value_isInfix.trans (List.prefix_append clause rest).isInfix
    · have hsuffix : Text.trimStart rest <:+ clause ++ rest :=
        (List.dropWhile_suffix _).trans (List.suffix_append clause rest)
      exact (ih h).trans hsuffix.isInfix
  | plain c t hs ih =>
    rw [Declaration.all_of_none hs] at h
    exact List.infix_cons (ih h)

theorem guarded_of_not_assembled (h : ¬ Assembled s name) : Guarded name s :=
  fun _ hx hin => h (.sign hx hin)

theorem harmless_of_not_assembled {b : Binding} (h : ¬ Assembled s name)
    (hb : b ∈ Declaration.all s) : Harmless name b.value := by
  refine ⟨fun hin => ?_, fun x hx hv => h (.value hx hb hv), fun x hx hin => ?_⟩
  · -- values hold no semicolon
    obtain ⟨t, r, hw⟩ := Declaration.written_of_mem_all hb
    have hmem : ';' ∈ statement name := by simp [statement, closing]
    exact hw.semicolon_notMem (hin.subset hmem)
  · exact h (.sign hx (hin.trans (value_isInfix hb)))

theorem beginning_iff :
    Beginning name x ↔
      ∃ i ∈ List.range (statement name).length, i ≠ 0 ∧ (statement name).take i = x := by
  constructor
  · rintro ⟨hx, y, hy, hstatement⟩
    have hx' := List.length_pos_iff.2 hx
    have hy' := List.length_pos_iff.2 hy
    refine ⟨x.length, List.mem_range.2 ?_, by omega, by rw [hstatement, List.take_left]⟩
    rw [hstatement, List.length_append]
    omega
  · rintro ⟨i, hi, hne, rfl⟩
    have hlt := List.mem_range.1 hi
    refine ⟨?_, (statement name).drop i, ?_, (List.take_append_drop i _).symm⟩
    · rw [← List.length_pos_iff, List.length_take]
      omega
    · rw [← List.length_pos_iff, List.length_drop]
      omega

/-- To see whether an import can be put together, every beginning of it is looked for. -/
theorem assembled_iff :
    Assembled s name ↔ ∃ i ∈ List.range (statement name).length, i ≠ 0 ∧
      ((statement name).take i ++ [sigil] <:+: s ∨
        ∃ b ∈ Declaration.all s, (statement name).take i <:+ b.value) := by
  constructor
  · rintro (⟨hx, hin⟩ | ⟨hx, hb, hv⟩)
    · obtain ⟨i, hi, hne, rfl⟩ := beginning_iff.1 hx
      exact ⟨i, hi, hne, .inl hin⟩
    · obtain ⟨i, hi, hne, rfl⟩ := beginning_iff.1 hx
      exact ⟨i, hi, hne, .inr ⟨_, hb, hv⟩⟩
  · rintro ⟨i, hi, hne, hin | ⟨b, hb, hv⟩⟩
    · exact .sign (beginning_iff.2 ⟨i, hi, hne, rfl⟩) hin
    · exact .value (beginning_iff.2 ⟨i, hi, hne, rfl⟩) hb hv

instance : Decidable (Assembled s name) := decidable_of_iff _ assembled_iff.symm

theorem scan_render_append (b : Binding) (s : Text) :
    scan (Declaration.render b ++ s) = scan (Declaration.render b) ++ scan s := by
  have hline : ∀ t, Declaration.render b ++ t =
      (b.name ++ [':', ' '] ++ b.value ++ [';']) ++ '\n' :: t := by
    intro t
    simp [Declaration.render]
  have hrender := hline []
  rw [List.append_nil] at hrender
  have hnil : scan [] = [] := Pattern.found_nil
  rw [hline s, hrender, scan_append_newline, scan_append_newline, hnil, List.append_nil]

/-- Lines in front of a text are scanned apart from it. -/
theorem scan_renderAll_append (bs : List Binding) (s : Text) :
    scan (Declaration.renderAll bs ++ s) = scan (Declaration.renderAll bs) ++ scan s := by
  induction bs with
  | nil => simp [Declaration.renderAll, scan]
  | cons b bs ih =>
    have hcons : Declaration.renderAll (b :: bs) =
        Declaration.render b ++ Declaration.renderAll bs := by
      simp [Declaration.renderAll]
    rw [hcons, List.append_assoc, scan_render_append, ih, ← List.append_assoc,
      ← scan_render_append]

end Import

namespace Stylesheet

open Variable

variable {source name : Text} {order : List Binding}

/-- **An import of the css stands in the source**, if it cannot have been put together. -/
theorem mem_scan_of_mem_scan_css (horder : order.Perm (scope source).bindings)
    (hname : ¬ Import.Assembled source name) (h : name ∈ Import.scan (compileIn order source).css) :
    name ∈ Import.scan source := by
  obtain ⟨hn, hin⟩ := Import.mem_scan_iff.1 h
  refine Import.mem_scan_iff.2 ⟨hn, ?_⟩
  -- diagnostics hold no at sign, so it stands in the body
  have hbody : Import.statement name <:+: body order source := by
    obtain ⟨tail, htail, -⟩ := Import.statement_eq_cons hn
    rw [css_eq] at hin
    rw [htail] at hin ⊢
    have hreport : '@' ∉ report (undefined source) :=
      notMem_report (fun _ hu => isName_of_mem_undefined hu) (by decide) (by decide) (by decide)
        (by decide) (by decide)
    exact Text.isInfix_of_isInfix_append hreport hin
  have hvalue : ∀ b ∈ order, Import.Harmless name b.value :=
    fun b hb => Import.harmless_of_not_assembled hname (mem_all_of_mem_order horder hb)
  obtain ⟨hguarded, hstrip⟩ := Import.guarded_strip (Import.guarded_of_not_assembled hname)
  exact hstrip (Import.isInfix_of_isInfix_substituteAll hvalue hguarded hbody)

end Stylesheet

namespace Bundler

open Stylesheet

variable {answers : Answers} {bundler : Bundler} {path contents : Text} {file : Bundled}
  {questions : List Access}

/-- The import is one of the file's, it can be read, and it was asked for. -/
def Validated (answers : Answers) (bundler : Bundler) (file : Bundled) (questions : List Access)
    (name : Text) : Prop :=
  name ∈ file.imports ∧ Readable answers bundler name ∧
    Access.read (bundler.importPath name) ∈ questions

/-- A bundled file was compiled behind what is injected, and all its imports were validated. -/
theorem validated_of_bundle
    (hbundle : (bundler.bundle answers.recording path).run.run [] = (.ok (some file), questions))
    (hread : answers.read path = .ok contents) :
    file.result = compile bundler.order (bundler.source contents) ∧
      ∀ name ∈ Import.scan contents, Validated answers bundler file questions name := by
  have hanswer : answers.recording.AnswerBy answers fun t s => s = id t :=
    answers.recording_answerBy
  obtain ⟨asked, hout, rfl⟩ := (bundle_eq_iff hanswer bundler path _ questions).1 hbundle
  cases hout with
  | bundled _ _ hread' hreadable =>
    rw [hread'] at hread
    cases hread
    refine ⟨rfl, fun name hname => ⟨hname, hreadable name hname, ?_⟩⟩
    exact List.mem_append_right _ (List.mem_map_of_mem hname)

/-- **Every import of the css was validated**, for every way to keep files, and whatever the order in
which values are put in, unless it stands in an injected line or can have been put together: a
beginning of it stands in front of a sign in the compiled text, or at the end of a value. -/
theorem imports_of_css_validated
    (hbundle : (bundler.bundle answers.recording path).run.run [] = (.ok (some file), questions))
    (hread : answers.read path = .ok contents) :
    let source := bundler.source contents
    let fromContents := fun name => ¬ Import.Assembled source name ∧
      name ∉ Import.scan (Declaration.renderAll bundler.injected)
    (∀ name ∈ Import.scan file.result.css, fromContents name →
      Validated answers bundler file questions name) ∧
    ∀ order, order.Perm file.result.scope.bindings →
      ∀ name ∈ Import.scan (compileIn order source).css, fromContents name →
        Validated answers bundler file questions name := by
  intro source fromContents
  obtain ⟨hresult, hvalidated⟩ := validated_of_bundle hbundle hread
  have hall : ∀ order, order.Perm (scope source).bindings →
      ∀ name ∈ Import.scan (compileIn order source).css, fromContents name →
        Validated answers bundler file questions name := by
    intro order horder name hname hfrom
    have hsource := mem_scan_of_mem_scan_css horder hfrom.1 hname
    have hsplit : Import.scan source =
        Import.scan (Declaration.renderAll bundler.injected) ++ Import.scan contents :=
      Import.scan_renderAll_append bundler.injected contents
    rw [hsplit, List.mem_append] at hsource
    exact hvalidated name (hsource.resolve_left hfrom.2)
  rw [hresult]
  exact ⟨hall _ (bundler.order.perm _), hall⟩

/-- An at sign in a value does no harm. -/
theorem imports_of_css_validated_base :
    let main := "main.scss".toList
    let contents := "@import 'base';\np { mail: $u; }".toList
    let answers : Answers := ⟨fun _ => true, fun p => .ok (if p = main then contents else [])⟩
    let bundler : Bundler := { injected := [⟨"$u".toList, "a@b".toList⟩] }
    ∃ file questions,
      (bundler.bundle answers.recording main).run.run [] = (.ok (some file), questions) ∧
      "base".toList ∈ Import.scan file.result.css ∧
      Validated answers bundler file questions "base".toList := by
  intro main contents answers bundler
  have hanswer : answers.recording.AnswerBy answers fun t s => s = id t :=
    answers.recording_answerBy
  have hout : Outcome answers bundler main _ _ :=
    .bundled (by decide) rfl rfl fun n _ => ⟨_, rfl⟩
  have hbundle := (bundle_eq_iff hanswer bundler main _ _).2 ⟨_, hout, rfl⟩
  have hname : "base".toList ∈ Import.scan (compile bundler.order (bundler.source contents)).css := by
    decide +kernel
  refine ⟨_, _, hbundle, hname, ?_⟩
  exact (imports_of_css_validated hbundle rfl).1 _ hname ⟨by decide +kernel, by decide +kernel⟩

/-- A value in the name of an import gives one that nobody has asked for. -/
theorem import_put_together :
    let main := "main.scss".toList
    let contents := "$n: theme;\n@import '$n';".toList
    let memory : Memory := { entries := [(main, contents)] }
    ∃ file memory', (({} : Bundler).bundle Memory.files main).run.run memory =
        (.ok (some file), memory') ∧
      "theme".toList ∈ Import.scan file.result.css ∧ "theme".toList ∉ file.imports ∧
      .read "theme.scss".toList ∉ memory'.accesses := by
  intro main contents memory
  have hnone : Import.scan contents = [] := by decide +kernel
  have hreadable : ∀ n ∈ Import.scan contents, Readable memory.answers {} n := by
    rw [hnone]
    simp
  have hout : Outcome memory.answers {} main _ _ := .bundled (by decide) rfl rfl hreadable
  refine ⟨_, _, Memory.bundle_eq_iff.2 ⟨_, hout, rfl⟩, ?_, ?_, ?_⟩
  · decide +kernel
  · rw [hnone]
    exact List.not_mem_nil
  · rw [hnone]
    decide +kernel

end Bundler

end Scss
