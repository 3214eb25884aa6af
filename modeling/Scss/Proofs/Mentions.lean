import Scss.Proofs.Stylesheet

/-!
# Mentioned variables are declared or undefined

Two scans go over a source, one for variables and one for declarations. The second jumps over whole
declarations, the first does not, so what is declared is always mentioned too
(`mem_found_of_mem_all`): a declaration begins with a variable in its full length, and every place
behind it is a place of the source.

The list of mentions keeps each name where it stands first (`usages_pairwise`), and the scope keeps
each name with its last value (`get?_ofBindings_eq_some_iff`). As sets of names the mentions are the
disjoint union of the declared and the undefined (`length_usages`).

* `MentionedBefore`: one variable is mentioned earlier than another is at all.
* `compileIn_splits_usages`: all of this for a compiled source, and the shape of its css.
-/

namespace Scss

namespace Variable

variable {a b s x : Text}

/-- Removing repetitions keeps every name once, and behind all names that come up before it does. -/
theorem eraseDups_pairwise (l : List Text) :
    l.eraseDups.Pairwise fun a b => a ≠ b ∧ ∀ x y, l = x ++ b :: y → a ∈ x := by
  induction hn : l.length using Nat.strongRecOn generalizing l with
  | ind n ih =>
    cases l with
    | nil => simp
    | cons c t =>
      let rest := t.filter fun b => !b == c
      have hlt : rest.length < n := by
        have hle : rest.length ≤ t.length := List.length_filter_le _ t
        rw [List.length_cons] at hn
        omega
      have hne : ∀ b ∈ rest.eraseDups, b ≠ c := by
        intro b hb
        simpa using (List.mem_filter.1 (List.mem_eraseDups.1 hb)).2
      rw [List.eraseDups_cons, List.pairwise_cons]
      refine ⟨fun b hb => ⟨(hne b hb).symm, ?_⟩, ?_⟩
      · rintro (_ | ⟨d, x⟩) y heq
        · exact absurd (List.cons.inj heq).1.symm (hne b hb)
        · rw [(List.cons.inj heq).1]
          exact List.mem_cons_self
      · refine (ih rest.length hlt rest rfl).imp_of_mem fun {a b} _ hb hab => ⟨hab.1, ?_⟩
        -- what stands in front of `b` in the whole list does so in the filtered one
        rintro (_ | ⟨d, x⟩) y heq
        · exact absurd (List.cons.inj heq).1.symm (hne b hb)
        · have hrest : rest = (x.filter fun b => !b == c) ++ b :: y.filter fun b => !b == c := by
            have hbc := hne b hb
            simp [rest, (List.cons.inj heq).2, List.filter_append, hbc]
          have ha := hab.2 _ _ hrest
          exact List.mem_cons_of_mem d (List.mem_filter.1 ha).1

/-- The variable `a` stands somewhere in front of every place where `b` stands. -/
def MentionedBefore (s a b : Text) : Prop :=
  ∀ pre post, Occurs s pre b post → ∃ pre' post', Occurs s pre' a post' ∧ pre'.length < pre.length

theorem Occurs.found {pre name post : Text} (h : Occurs s pre name post) :
    token.found s = token.found pre ++ name :: token.found post := by
  have hread : token.read? (name ++ post) = some (name, post) := read?_name_append h.name h.ends
  rw [h.split, found_append pre (endsName_of_isName h.name post), Pattern.found_of_some hread]

/-- **Mentions are listed once each, in the order of their first places.** -/
theorem usages_pairwise (s : Text) :
    (usages s).Pairwise fun a b => a ≠ b ∧ MentionedBefore s a b := by
  refine (eraseDups_pairwise (token.found s)).imp fun {a b} hab => ⟨hab.1, ?_⟩
  intro pre post hocc
  -- `a` is found in what stands in front of `b`, and stays whole there since a sign follows
  obtain ⟨pre', mid, hpre⟩ := mem_found_iff.1 (hab.2 _ _ hocc.found)
  refine ⟨pre', mid ++ (b ++ post), ⟨?_, hpre.name, ?_⟩, ?_⟩
  · rw [hocc.split, hpre.split]
    simp
  · exact Text.endsRun_append hpre.ends (endsName_of_isName hocc.name post)
  · have hlen := congrArg List.length hpre.split
    have ha := List.length_pos_iff.2 (isName_ne_nil hpre.name)
    simp only [List.length_append] at hlen
    omega

theorem usages_nodup (s : Text) : (usages s).Nodup :=
  (usages_pairwise s).imp And.left

/-- The mentions are the signs with the longest runs of name characters behind them. -/
theorem mem_usages_iff :
    a ∈ usages s ↔ ∃ pre run post, a = sigil :: run ∧ run ≠ [] ∧
      (∀ c ∈ run, isNameChar c = true) ∧ EndsName post ∧ s = pre ++ sigil :: (run ++ post) := by
  rw [mem_usages, mem_found_iff]
  constructor
  · rintro ⟨pre, post, hocc⟩
    obtain ⟨run, rfl, hne, hall⟩ := isName_iff.1 hocc.name
    exact ⟨pre, run, post, rfl, hne, hall, hocc.ends, hocc.split⟩
  · rintro ⟨pre, run, post, rfl, hne, hall, hends, hsplit⟩
    exact ⟨pre, post, hsplit, isName_iff.2 ⟨run, rfl, hne, hall⟩, hends⟩

theorem mem_found_append_right (x : Text) (h : a ∈ token.found s) : a ∈ token.found (x ++ s) := by
  obtain ⟨pre, post, hocc⟩ := mem_found_iff.1 h
  exact mem_found_iff.2 ⟨x ++ pre, post, hocc.append_left x⟩

end Variable

namespace Declaration

open Variable

/-- **What is declared is mentioned**, under the same name. -/
theorem mem_found_of_mem_all {b : Binding} {s : Text} (h : b ∈ all s) : b.name ∈ token.found s := by
  induction s using Pattern.scan_induction (p := pattern) with
  | nil => simp [all] at h
  | item s a r hs ih =>
    have hw := read?_eq_some_iff.1 hs
    obtain ⟨mid, hread, -⟩ := hw.variable_read?
    rw [all_of_written hw] at h
    rw [Pattern.found_of_some (p := token) hread]
    rcases List.mem_cons.1 h with rfl | h
    · exact List.mem_cons_self
    · exact List.mem_cons_of_mem _ (mem_found_append_right mid (ih h))
  | plain c t hs ih =>
    rw [all_of_none hs] at h
    exact mem_found_append_right [c] (ih h)

end Declaration

namespace Scope

variable {scope : Scope} {bs : List Binding} {name value : Text}

/-- The last binding of `name` in the list gives it `value`. -/
def LastOf (bs : List Binding) (name value : Text) : Prop :=
  ∃ before after, bs = before ++ ⟨name, value⟩ :: after ∧ ∀ b ∈ after, b.name ≠ name

theorem lookup_reverse_eq_some_iff :
    lookup bs.reverse name = some value ↔ LastOf bs name value := by
  unfold lookup LastOf
  rw [Option.map_eq_some_iff]
  constructor
  · rintro ⟨b, hb, rfl⟩
    obtain ⟨hn, front, back, hsplit, hfront⟩ := List.find?_eq_some_iff_append.1 hb
    have hn' : b.name = name := by simpa using hn
    subst hn'
    refine ⟨back.reverse, front.reverse, ?_, fun a ha => ?_⟩
    · rw [← List.reverse_reverse bs, hsplit]
      simp
    · simpa using hfront a (List.mem_reverse.1 ha)
  · rintro ⟨before, after, rfl, hafter⟩
    refine ⟨⟨name, value⟩, List.find?_eq_some_iff_append.2 ⟨by simp, ?_⟩, rfl⟩
    refine ⟨after.reverse, before.reverse, by simp, fun a ha => ?_⟩
    simpa using hafter a (List.mem_reverse.1 ha)

/-- **In the scope of a list the last binding of a name counts.** -/
theorem get?_ofBindings_eq_some_iff :
    (ofBindings bs).get? name = some value ↔ LastOf bs name value := by
  have hempty : empty.get? name = none := rfl
  unfold ofBindings
  rw [get?_insertAll, hempty, Option.or_none, lookup_reverse_eq_some_iff]

theorem contains_iff_mem : scope.contains name = true ↔ name ∈ scope.bindings.map Binding.name := by
  simp [contains]

end Scope

namespace Stylesheet

open Variable

variable {source : Text}

theorem mem_usages_of_mem_scope {b : Binding} (h : b ∈ (scope source).bindings) :
    b.name ∈ usages source :=
  mem_usages.2 (Declaration.mem_found_of_mem_all (Scope.mem_of_mem_ofBindings h))

/-- The mentions that are declared are the names of the scope, in some order. -/
theorem filter_usages_perm (source : Text) :
    ((usages source).filter fun name => (scope source).contains name).Perm
      ((scope source).bindings.map Binding.name) := by
  have hnodup := (usages_nodup source).filter fun name => (scope source).contains name
  refine (List.perm_ext_iff_of_nodup hnodup (Scope.nodup_names _)).2 fun name => ?_
  rw [List.mem_filter, Scope.contains_iff_mem]
  refine ⟨And.right, fun hname => ⟨?_, hname⟩⟩
  obtain ⟨b, hb, rfl⟩ := List.mem_map.1 hname
  exact mem_usages_of_mem_scope hb

/-- **Every mention is either declared or undefined.** -/
theorem length_usages (source : Text) :
    (usages source).length = (scope source).size + (undefined source).length := by
  have hdeclared := (filter_usages_perm source).length_eq
  rw [List.length_map] at hdeclared
  rw [List.length_eq_countP_add_countP fun name => (scope source).contains name,
    List.countP_eq_length_filter, List.countP_eq_length_filter, hdeclared]
  simp [Scope.size, undefined]

theorem report_eq (names : List Text) :
    report names =
      names.flatMap fun name => "/* Error: ".toList ++ name ++ " not defined. */\n".toList := by
  have hend : " not defined. */".toList ++ ['\n'] = " not defined. */\n".toList := by decide
  unfold report diagnostic
  rw [← hend]
  simp only [List.append_assoc]

/-- **Mentions split into declared and undefined variables.** For every source, and in whatever order
values are put in: the mentions have no repetitions, they are the signs with the longest runs of name
characters behind them, and they come in the order of their first places; each declared variable is
mentioned and has the value of its last declaration; the undefined variables are the other mentions in
the same order, so that the numbers add up; and the css has one line for each of these in front of its
body. -/
theorem compileIn_splits_usages (order : List Binding) (source : Text) :
    let result := compileIn order source
    ((usages source).Nodup ∧
      (∀ name, name ∈ usages source ↔ ∃ pre run post, name = sigil :: run ∧ run ≠ [] ∧
        (∀ c ∈ run, isNameChar c = true) ∧ EndsName post ∧
          source = pre ++ sigil :: (run ++ post)) ∧
      (usages source).Pairwise (MentionedBefore source)) ∧
    ((∀ b ∈ result.scope.bindings, b.name ∈ usages source) ∧
      ∀ name value, result.scope.get? name = some value ↔
        Scope.LastOf (Declaration.all source) name value) ∧
    (result.undefined =
        (usages source).filter (fun name => name ∉ result.scope.bindings.map Binding.name) ∧
      (usages source).length = result.scope.size + result.undefined.length) ∧
    result.css =
      (result.undefined.flatMap fun name =>
        "/* Error: ".toList ++ name ++ " not defined. */\n".toList) ++ body order source := by
  intro result
  have hscope : result.scope = Scope.ofBindings (Declaration.all source) := rfl
  refine ⟨⟨usages_nodup source, fun name => mem_usages_iff, ?_⟩, ⟨?_, ?_⟩,
    ⟨?_, length_usages source⟩, ?_⟩
  · exact (usages_pairwise source).imp And.right
  · exact fun b hb => mem_usages_of_mem_scope hb
  · intro name value
    rw [hscope, Scope.get?_ofBindings_eq_some_iff]
  · refine List.filter_congr fun name _ => ?_
    rw [Bool.eq_iff_iff, decide_eq_true_eq, ← Scope.contains_iff_mem]
    simp [result, compileIn]
  · rw [← report_eq]
    exact css_eq order source

end Stylesheet

end Scss
