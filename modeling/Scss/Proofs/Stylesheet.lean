import Scss.Proofs.Declaration
import Scss.Proofs.Scope
import Scss.Stylesheet

/-!
# Semicolons, and the texts that compile to themselves

The number of semicolons is followed through compilation: stripping takes one away with each
declaration (`count_strip`), substitution puts in values without any (`count_substituteAll`), and the
diagnostics have none (`count_report`). This needs nothing about how variables and values lie in the
text and holds for every order of substitution.

* `css_eq`: the css is the report of undefined variables, a line each, and the body behind it.
* `css_of_found_nil`: a text without variables compiles to itself.
* `count_css_and_css_eq_self_iff`: semicolons are kept but for those of declarations, so a text that
  compiles to itself has none of these; and then it has no variables at all, since they would all be
  reported.
-/

namespace Scss

namespace Declaration

/-- Stripping takes one semicolon away with each declaration. -/
theorem count_strip (s : Text) : (strip s).count ';' + (all s).length = s.count ';' := by
  induction s using Pattern.scan_induction (p := pattern) with
  | nil => simp [strip, all]
  | item s b r hs ih =>
    have hw := read?_eq_some_iff.1 hs
    rw [strip_of_written hw, all_of_written hw, hw.count_semicolon, List.length_cons, ← ih]
    omega
  | plain c t hs ih =>
    rw [strip_of_none hs, all_of_none hs, List.count_cons, List.count_cons, ← ih]
    omega

end Declaration

namespace Variable

/-- A pass puts no semicolons in and takes none away. -/
theorem count_substitute {name value : Text} (hvalue : ';' ∉ value) (s : Text) :
    (substitute name value s).count ';' = s.count ';' := by
  unfold substitute
  induction s using Pattern.scan_induction (p := token) with
  | nil => rw [Pattern.replace_nil]
  | item s a r hs ih =>
    obtain ⟨ha, rfl, -⟩ := read?_eq_some_iff.1 hs
    have ha' : ';' ∉ a := notMem_of_isName ha (by decide) (by decide)
    have hnew : (if a = name then value else a).count ';' = 0 := by
      split
      · exact List.count_eq_zero.2 hvalue
      · exact List.count_eq_zero.2 ha'
    rw [Pattern.replace_of_some _ hs, List.count_append, List.count_append, hnew,
      List.count_eq_zero.2 ha', ih]
  | plain c t hs ih => rw [Pattern.replace_of_none _ hs, List.count_cons, List.count_cons, ih]

/-- Nor do all passes together. -/
theorem count_substituteAll {order : List Binding} (h : ∀ b ∈ order, ';' ∉ b.value) (s : Text) :
    (substituteAll order s).count ';' = s.count ';' := by
  induction order generalizing s with
  | nil => rfl
  | cons b bs ih =>
    have hstep : substituteAll (b :: bs) s = substituteAll bs (substitute b.name b.value s) := rfl
    rw [hstep, ih fun b' hb' => h b' (List.mem_cons_of_mem b hb'),
      count_substitute (h b List.mem_cons_self)]

end Variable

namespace Stylesheet

open Variable

variable {source : Text} {order : List Binding}

/-- The lines that report undefined variables. -/
def report (undefined : List Text) : Text :=
  undefined.flatMap fun name => diagnostic name ++ ['\n']

theorem layout_eq (undefined : List Text) (body : Text) :
    layout undefined body = report undefined ++ body := by
  unfold layout report
  induction undefined with
  | nil => rfl
  | cons name names ih =>
    rw [List.flatMap_cons, List.append_assoc, ← ih]
    cases names <;> simp [Text.joined]

/-- The css is the report of undefined variables and the body behind it. -/
theorem css_eq (order : List Binding) (source : Text) :
    (compileIn order source).css = report (undefined source) ++ body order source :=
  layout_eq _ _

theorem isName_of_mem_undefined {name : Text} (h : name ∈ undefined source) :
    isName name = true := by
  obtain ⟨pre, post, hocc⟩ := mem_found_iff.1 (mem_usages.1 (List.mem_filter.1 h).1)
  exact hocc.name

/-- A character that is neither in names nor in the words of a diagnostic is not in the report. -/
theorem notMem_report {c : Char} {names : List Text} (h : ∀ name ∈ names, isName name = true)
    (hsign : c ≠ sigil) (hchar : isNameChar c = false) (hopen : c ∉ "/* Error: ".toList)
    (hclose : c ∉ " not defined. */".toList) (hline : c ≠ '\n') : c ∉ report names := by
  unfold report diagnostic
  rw [List.mem_flatMap]
  rintro ⟨name, hname, hc⟩
  rw [List.mem_append, List.mem_append, List.mem_append, List.mem_singleton] at hc
  rcases hc with ((hc | hc) | hc) | hc
  · exact hopen hc
  · exact notMem_of_isName (h name hname) hsign hchar hc
  · exact hclose hc
  · exact hline hc

theorem count_report {names : List Text} (h : ∀ name ∈ names, isName name = true) :
    (report names).count ';' = 0 :=
  List.count_eq_zero.2
    (notMem_report h (by decide) (by decide) (by decide) (by decide) (by decide))

/-- What is put in was declared in the source. -/
theorem mem_all_of_mem_order (horder : order.Perm (scope source).bindings) {b : Binding}
    (hb : b ∈ order) : b ∈ Declaration.all source :=
  Scope.mem_of_mem_ofBindings (horder.mem_iff.1 hb)

/-- **Semicolons are kept** but for those of declarations. -/
theorem count_css (horder : order.Perm (scope source).bindings) :
    (compileIn order source).css.count ';' + (Declaration.all source).length =
      source.count ';' := by
  have hvalue : ∀ b ∈ order, ';' ∉ b.value := by
    intro b hb
    obtain ⟨s, r, hw⟩ := Declaration.written_of_mem_all (mem_all_of_mem_order horder hb)
    exact hw.semicolon_notMem
  rw [css_eq, List.count_append, count_report fun _ h => isName_of_mem_undefined h, body,
    count_substituteAll hvalue, Nat.zero_add, Declaration.count_strip]

/-! ### Texts that compile to themselves -/

theorem scope_bindings_of_all_nil (h : Declaration.all source = []) :
    (scope source).bindings = [] := by
  unfold scope
  rw [h]
  rfl

/-- A source without declarations is its own body. -/
theorem body_of_all_nil (horder : order.Perm (scope source).bindings)
    (h : Declaration.all source = []) : body order source = source := by
  rw [scope_bindings_of_all_nil h] at horder
  unfold body
  rw [horder.eq_nil, Declaration.strip_eq_self h]
  rfl

/-- A variable that is mentioned and not declared is reported. -/
theorem mem_undefined_iff {name : Text} :
    name ∈ undefined source ↔ name ∈ token.found source ∧ (scope source).contains name = false := by
  unfold undefined
  rw [List.mem_filter, mem_usages, Bool.not_eq_true']

/-- **A text without variables compiles to itself.** -/
theorem css_of_found_nil (horder : order.Perm (scope source).bindings)
    (h : token.found source = []) : (compileIn order source).css = source := by
  have hundefined : undefined source = [] := by
    rw [List.eq_nil_iff_forall_not_mem]
    intro name hname
    rw [mem_undefined_iff, h] at hname
    cases hname.1
  rw [css_eq, hundefined, body_of_all_nil horder (Declaration.all_eq_nil h)]
  rfl

/-- A text that compiles to itself has no variables. -/
theorem found_eq_nil_of_css_eq (horder : order.Perm (scope source).bindings)
    (h : (compileIn order source).css = source) : token.found source = [] := by
  -- as many semicolons as before, so no declarations
  have hall : Declaration.all source = [] := by
    have hcount := count_css horder
    rw [h] at hcount
    exact List.eq_nil_of_length_eq_zero (by omega)
  -- so every variable would be reported, but the css is not longer than the source
  rw [css_eq, body_of_all_nil horder hall] at h
  have hreport : report (undefined source) = [] := List.append_left_eq_self.1 h
  rw [List.eq_nil_iff_forall_not_mem]
  intro name hname
  have hfree : (scope source).contains name = false := by
    unfold Scope.contains
    rw [scope_bindings_of_all_nil hall]
    rfl
  have hmem : name ∈ undefined source := mem_undefined_iff.2 ⟨hname, hfree⟩
  have hline := List.flatMap_eq_nil_iff.1 hreport name hmem
  exact List.append_ne_nil_of_right_ne_nil _ (List.cons_ne_nil _ _) hline

/-- **Semicolons and fixed points.** In whatever order values are put in, the css has the semicolons of
the source but one for each declaration; and it is the source itself just when no sign stands in front
of a name character there. -/
theorem count_css_and_css_eq_self_iff (horder : order.Perm (scope source).bindings) :
    (compileIn order source).css.count ';' + (Declaration.all source).length = source.count ';' ∧
      ((compileIn order source).css = source ↔
        ∀ pre c post, source = pre ++ sigil :: c :: post → isNameChar c = false) := by
  refine ⟨count_css horder, ?_⟩
  rw [← found_eq_nil_iff]
  exact ⟨found_eq_nil_of_css_eq horder, css_of_found_nil horder⟩

/-- Touching variables, and a value that holds another name: which css comes out depends on the order,
its semicolons do not. -/
theorem count_css_touching :
    let source := "$a: $b; $b: 1; p $a$b; $$".toList
    let css := (compileIn (scope source).bindings.reverse source).css
    css.count ';' + (Declaration.all source).length = source.count ';' ∧ css ≠ source := by
  intro source css
  have h := count_css_and_css_eq_self_iff (List.reverse_perm (scope source).bindings)
  refine ⟨h.1, fun hcss => ?_⟩
  have hname := h.2.1 hcss [] 'a' ": $b; $b: 1; p $a$b; $$".toList (by decide)
  exact absurd hname (by decide)

end Stylesheet

end Scss
