import Scss.Command.Settings
import Scss.Proofs.Bytes
import Scss.Proofs.Injection

/-!
# Definitions on the command line against those of the configuration file

Definitions are merged by their names as they are spelled, so that `x` and `$x` are two entries of the
merged options. Only later do both become `$x`; they are then sorted by name and value, and the last
one counts. So in the end a variable stands for the greatest of the values that its spellings have in
the merged options (`Bundler.get?_source_eq_some_iff`), whether this value came from the file or from
the command line.

* `eq_insertAll_of_define`: the merged definitions, in which the command line wins over the file and a later
  definition over an earlier one, spelling by spelling.
* `get?_source_of_last_definition`: when the last definition of a variable on the command line is the
  one that counts.
-/

namespace Scss

namespace Options

open Scope

variable {bs gs : List Binding} {name value : Text}

theorem inOrder_iff {a b : Binding} : inOrder a b = true ↔
    a.name.before b.name = true ∨ a.name = b.name ∧ b.value.before a.value = false := by
  simp [inOrder]

theorem inOrder_total (a b : Binding) : (inOrder a b || inOrder b a) = true := by
  rw [Bool.or_eq_true, inOrder_iff, inOrder_iff]
  by_cases hname : a.name = b.name
  · cases hvalue : b.value.before a.value with
    | false => exact .inl (.inr ⟨hname, rfl⟩)
    | true => exact .inr (.inr ⟨hname.symm, Text.before_asymm hvalue⟩)
  · rcases Text.before_or_before hname with h | h
    · exact .inl (.inl h)
    · exact .inr (.inl h)

theorem inOrder_trans (a b c : Binding) (hab : inOrder a b = true) (hbc : inOrder b c = true) :
    inOrder a c = true := by
  rw [inOrder_iff] at hab hbc ⊢
  rcases hab with hab | ⟨hab, hv⟩ <;> rcases hbc with hbc | ⟨hbc, hv'⟩
  · exact .inl (Text.before_trans hab hbc)
  · exact .inl (hbc ▸ hab)
  · exact .inl (hab ▸ hbc)
  · exact .inr ⟨hab.trans hbc, Text.before_eq_false_trans hv hv'⟩

/-- In a list that is sorted downwards the first binding of a name has its greatest value. -/
theorem lookup_of_sorted (h : bs.Pairwise fun a b => inOrder b a = true) :
    lookup bs name = some value ↔
      ⟨name, value⟩ ∈ bs ∧ ∀ b ∈ bs, b.name = name → value.before b.value = false := by
  induction bs with
  | nil => simp
  | cons a bs ih =>
    obtain ⟨hlast, hbs⟩ := List.pairwise_cons.1 h
    rw [lookup_cons]
    by_cases ha : a.name = name
    · rw [if_pos ha]
      -- the values of the name behind `a` do not come after its own
      have hgreatest : ∀ b ∈ a :: bs, b.name = name → a.value.before b.value = false := by
        intro b hb hname
        rcases List.mem_cons.1 hb with rfl | hb
        · exact Text.before_irrefl _
        · rcases inOrder_iff.1 (hlast b hb) with hlt | ⟨-, hle⟩
          · rw [hname, ha, Text.before_irrefl] at hlt
            cases hlt
          · exact hle
      constructor
      · intro heq
        obtain rfl := Option.some.inj heq
        exact ⟨ha ▸ List.mem_cons_self, hgreatest⟩
      · rintro ⟨hmem, hmax⟩
        by_cases hvalue : a.value = value
        · rw [hvalue]
        · rcases Text.before_or_before hvalue with hlt | hlt
          · rw [hgreatest _ hmem rfl] at hlt
            cases hlt
          · rw [hmax a List.mem_cons_self ha] at hlt
            cases hlt
    · rw [if_neg ha, ih hbs]
      simp only [List.mem_cons, forall_eq_or_imp, ha, false_implies, true_and]
      have hne : (⟨name, value⟩ : Binding) ≠ a := fun heq => ha (heq ▸ rfl)
      simp [hne]

/-- **Of the definitions of a name, the one with the greatest value counts.** -/
theorem lookup_reverse_of_injectedOf (h : injectedOf gs = .ok bs) :
    lookup bs.reverse name = some value ↔
      (∃ g ∈ gs, asBinding g = ⟨name, value⟩) ∧
        ∀ g ∈ gs, signed g.name = name → value.before (Text.trim g.value) = false := by
  have hbs := (injectedOf_eq_ok_iff.1 h).2
  have hsorted : bs.Pairwise fun a b => inOrder a b = true := by
    rw [hbs]
    exact List.pairwise_mergeSort inOrder_trans inOrder_total _
  rw [lookup_of_sorted (List.pairwise_reverse.2 hsorted)]
  simp only [hbs, List.mem_reverse, List.mem_mergeSort, List.mem_map, forall_exists_index, and_imp,
    forall_apply_eq_imp_iff₂]
  rfl

end Options

namespace Bundler

open Declaration Scope

variable {given : List Binding} {bundler : Bundler} {contents name value : Text}

theorem scope_source (h : Options.injectedOf given = .ok bundler.injected) (contents : Text) :
    (Stylesheet.compile bundler.order (bundler.source contents)).scope =
      (ofBindings bundler.injected).insertAll (all contents) := by
  have hall : all (bundler.source contents) = bundler.injected ++ all contents :=
    all_renderAll (Options.sound_of_injectedOf h) contents
  have hscope : (Stylesheet.compile bundler.order (bundler.source contents)).scope =
      Scope.empty.insertAll (all (bundler.source contents)) := rfl
  rw [hscope, hall]
  exact List.foldl_append

/-- **A variable that the stylesheet does not declare** stands for the greatest of the values that it
was given from outside. -/
theorem get?_source_eq_some_iff (h : Options.injectedOf given = .ok bundler.injected)
    (hfree : ∀ d ∈ all contents, d.name ≠ name) :
    (Stylesheet.compile bundler.order (bundler.source contents)).scope.get? name = some value ↔
      (∃ g ∈ given, Options.asBinding g = ⟨name, value⟩) ∧
        ∀ g ∈ given, Options.signed g.name = name →
          value.before (Text.trim g.value) = false := by
  have hnone : lookup (all contents).reverse name = none :=
    lookup_eq_none_iff.2 fun d hd => hfree d (List.mem_reverse.1 hd)
  have hempty : Scope.empty.get? name = none := rfl
  rw [scope_source h, get?_insertAll, hnone, Option.none_or, ofBindings, get?_insertAll, hempty,
    Option.or_none]
  exact Options.lookup_reverse_of_injectedOf h

end Bundler

namespace Settings

open Scope

variable {config : Config} {definitions : List Text} {output : Option Text} {verbose strict : Bool}
  {options : Options} {scope scope' : Scope} {given earlier later : List Binding} {b : Binding}
  {bundler : Bundler} {contents : Text}

theorem eq_insertAll_of_define (h : define scope definitions = .ok scope') :
    scope' = scope.insertAll (definitions.filterMap Options.definition?) := by
  induction definitions generalizing scope with
  | nil => exact (Except.ok.inj h).symm
  | cons item rest ih =>
    unfold define at h
    cases hitem : Options.definition? item with
    | none => rw [hitem] at h; cases h
    | some b =>
      rw [hitem] at h
      rw [List.filterMap_cons_some hitem]
      exact ih h

theorem definitions_of_merge (h : merge config definitions output verbose strict = .ok options) :
    options.definitions = (config.definitions.getD .empty).insertAll
      (definitions.filterMap Options.definition?) := by
  unfold merge at h
  cases hdefine : define (config.definitions.getD .empty) definitions with
  | error e => rw [hdefine] at h; cases h
  | ok scope =>
    rw [hdefine] at h
    rw [← Except.ok.inj h]
    exact eq_insertAll_of_define hdefine

/-- **When a definition on the command line counts.** Let `b` be the last one there of a variable that
the stylesheet does not declare. In the merged options it has taken the place of every other
definition in its own spelling. The compiled stylesheet has its value if and only if the other
spelling of the name, with or without the sign, has no value in the merged options that comes after
it; so it always does if all definitions of the variable are in one spelling. -/
theorem get?_source_of_last_definition
    (hmerge : merge config definitions output verbose strict = .ok options)
    (hgiven : given.Perm options.definitions.bindings)
    (hinjected : Options.injectedOf given = .ok bundler.injected)
    (hlast : definitions.filterMap Options.definition? = earlier ++ b :: later)
    (hlater : ∀ d ∈ later, Options.signed d.name ≠ Options.signed b.name)
    (hfree : ∀ d ∈ Declaration.all contents, d.name ≠ Options.signed b.name) :
    let compiled := (Stylesheet.compile bundler.order (bundler.source contents)).scope
    let value := Text.trim b.value
    options.definitions.get? b.name = some b.value ∧
      (compiled.get? (Options.signed b.name) = some value ↔
        ∀ d ∈ options.definitions.bindings, Options.signed d.name = Options.signed b.name →
          d.name ≠ b.name → value.before (Text.trim d.value) = false) ∧
      ((∀ d ∈ earlier ++ (config.definitions.getD .empty).bindings,
          Options.signed d.name = Options.signed b.name → d.name = b.name) →
        compiled.get? (Options.signed b.name) = some value) := by
  intro compiled value
  have hoptions := definitions_of_merge hmerge
  have hmerged : options.definitions.get? b.name = some b.value := by
    have hnone : lookup later.reverse b.name = none := by
      refine lookup_eq_none_iff.2 fun d hd heq => hlater d (List.mem_reverse.1 hd) ?_
      rw [heq]
    rw [hoptions, get?_insertAll, hlast, List.reverse_append, List.reverse_cons, lookup_append,
      lookup_append, hnone, lookup_cons, if_pos rfl]
    rfl
  have hb : ⟨b.name, b.value⟩ ∈ options.definitions.bindings := mem_of_get? hmerged
  have hiff : compiled.get? (Options.signed b.name) = some value ↔
      ∀ d ∈ options.definitions.bindings, Options.signed d.name = Options.signed b.name →
        d.name ≠ b.name → value.before (Text.trim d.value) = false := by
    rw [Bundler.get?_source_eq_some_iff hinjected hfree]
    simp only [hgiven.mem_iff]
    refine ⟨fun h d hd hname _ => h.2 d hd hname, fun h => ⟨⟨b, hb, rfl⟩, fun d hd hname => ?_⟩⟩
    by_cases hspelling : d.name = b.name
    · -- the options hold one value in this spelling
      have hd' : options.definitions.get? d.name = some d.value := by
        rw [get?_eq_lookup, lookup_eq_some_iff (nodup_names _)]
        exact hd
      rw [hspelling, hmerged] at hd'
      rw [← Option.some.inj hd']
      exact Text.before_irrefl _
    · exact h d hd hname hspelling
  refine ⟨hmerged, hiff, fun hone => hiff.2 fun d hd hname hspelling => absurd ?_ hspelling⟩
  rw [hoptions, hlast] at hd
  rcases mem_insertAll _ hd with hflag | hconfig
  · rcases List.mem_append.1 hflag with hflag | hflag
    · exact hone d (List.mem_append_left _ hflag) hname
    · rcases List.mem_cons.1 hflag with rfl | hflag
      · rfl
      · exact absurd hname (hlater d hflag)
  · exact hone d (List.mem_append_right _ hconfig) hname

/-- With the sign in the file and without it on the command line, the value that comes later counts:
here the one of the command line. -/
theorem get?_source_of_later_value :
    let config : Config := { definitions := some (.ofBindings [⟨"$x".toList, "blue".toList⟩]) }
    let merged : Scope :=
      .ofBindings [⟨"$x".toList, "blue".toList⟩, ⟨"x".toList, " red".toList⟩]
    let bundler : Bundler :=
      { injected := [⟨"$x".toList, "blue".toList⟩, ⟨"$x".toList, "red".toList⟩] }
    merge config ["x= red".toList] none false false = .ok { definitions := merged } ∧
      Options.injectedOf merged.bindings = .ok bundler.injected ∧
      (Stylesheet.compile bundler.order (bundler.source "p { color: $x; }".toList)).scope.get? "$x".toList =
        some "red".toList := by
  intro config merged bundler
  have hmerge : merge config ["x= red".toList] none false false = .ok { definitions := merged } :=
    rfl
  have hsort : bundler.injected.mergeSort Options.inOrder = bundler.injected :=
    List.mergeSort_of_pairwise (by decide)
  have hinjected : Options.injectedOf merged.bindings = .ok bundler.injected :=
    congrArg Except.ok hsort
  have hlast : ["x= red".toList].filterMap Options.definition? =
      [] ++ ⟨"x".toList, " red".toList⟩ :: [] := rfl
  have hfree : ∀ d ∈ Declaration.all "p { color: $x; }".toList,
      d.name ≠ Options.signed "x".toList := by decide +kernel
  have hcompiled := get?_source_of_last_definition hmerge (.refl _) hinjected hlast (by simp) hfree
  exact ⟨hmerge, hinjected, hcompiled.2.1.2 (by decide)⟩

/-- With the values the other way round, the definition on the command line does not count. -/
theorem get?_source_of_earlier_value :
    let config : Config := { definitions := some (.ofBindings [⟨"$x".toList, "red".toList⟩]) }
    let merged : Scope :=
      .ofBindings [⟨"$x".toList, "red".toList⟩, ⟨"x".toList, "blue".toList⟩]
    let bundler : Bundler :=
      { injected := (merged.bindings.map Options.asBinding).mergeSort Options.inOrder }
    let contents := "p { color: $x; }".toList
    let compiled := Stylesheet.compile bundler.order (bundler.source contents)
    merge config ["x=blue".toList] none false false = .ok { definitions := merged } ∧
      Options.injectedOf merged.bindings = .ok bundler.injected ∧
      Declaration.all contents = [] ∧
      compiled.scope.get? "$x".toList = some "red".toList ∧
      compiled.scope.get? "$x".toList ≠ some "blue".toList := by
  intro config merged bundler contents compiled
  have hinjected : Options.injectedOf merged.bindings = .ok bundler.injected := rfl
  have hnone : Declaration.all contents = [] := by decide +kernel
  have hcompiled : compiled.scope.get? "$x".toList = some "red".toList := by
    refine (Bundler.get?_source_eq_some_iff hinjected ?_).2 ⟨?_, by decide⟩
    · rw [hnone]
      simp
    · exact ⟨_, List.mem_cons_self, rfl⟩
  refine ⟨rfl, hinjected, hnone, hcompiled, ?_⟩
  rw [hcompiled]
  decide

end Settings

end Scss
