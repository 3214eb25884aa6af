import Scss.Proofs.Declaration
import Scss.Proofs.Regex

/-!
# Declarations as a regular expression

The form of a declaration can be written as a regular expression. It is ambiguous: blanks behind the
colon belong to no group or to the value, and a run may be cut short where something else fits. But all
its ways to match at a place agree in the name and in the trimmed value, and the first of them goes on
over all space behind the semicolon. So reading a declaration in one pass, as `Declaration.read?` does,
is searching for a match of the expression.

* `read?_of_mem_ways`, `read?_of_first?`: each way to match captures the declaration that is read, and
  the first ends where reading stops.
* `all_eq_found`: so a scan for the expression finds what a text declares.
* `Layout`: what the text looks like where a declaration stands.
* `regex_ways_determined`: what the expression finds at every place, and in a scan of the text.
-/

namespace Scss.Declaration

open Variable Text Regex

/-- The groups of the expression. -/
inductive Part where
  | name
  | value
deriving DecidableEq

/-- The name: a sign and name characters. -/
def nameRegex : Regex Part :=
  .group .name (.seq (.one (· == sigil)) (.seq (.one isNameChar) (.many isNameChar)))

/-- The value, which does not end in space. -/
def valueRegex : Regex Part :=
  .group .value (.seq (.many isValueChar) (.one fun c => c != ';' && !isSpace c))

/-- A declaration up to its semicolon. -/
def clauseRegex : Regex Part :=
  .seq nameRegex (.seq (.many isBlank) (.seq (.one (· == ':')) (.seq (.many isBlank)
    (.seq valueRegex (.seq (.many isBlank) (.one (· == ';')))))))

/-- A declaration with the space behind it. -/
def regex : Regex Part :=
  .seq clauseRegex (.many isSpace)

variable {s x run region after : Text} {gs : List (Part × Text)} {w : Way Part}

theorem matches_nameRegex_iff :
    nameRegex.Matches x gs ↔ isName x = true ∧ gs = [(.name, x)] := by
  unfold nameRegex
  rw [matches_group_iff, isName_iff]
  simp only [matches_one_seq_iff, matches_many_iff, beq_iff_eq]
  constructor
  · rintro ⟨_, rfl, _, _, rfl, rfl, c, run, rfl, hc, hrun, rfl⟩
    exact ⟨⟨c :: run, rfl, by simp, List.forall_mem_cons.2 ⟨hc, hrun⟩⟩, rfl⟩
  · rintro ⟨⟨run, rfl, hne, hrun⟩, rfl⟩
    obtain ⟨c, run, rfl⟩ := List.exists_cons_of_ne_nil hne
    obtain ⟨hc, hrun⟩ := List.forall_mem_cons.1 hrun
    exact ⟨[], rfl, sigil, c :: run, rfl, rfl, c, run, rfl, hc, hrun, rfl⟩

theorem matches_valueRegex_iff :
    valueRegex.Matches x gs ↔ (∃ init last, x = init ++ [last] ∧ isSpace last = false) ∧
      (∀ c ∈ x, isValueChar c = true) ∧ gs = [(.value, x)] := by
  have hlast : ∀ c, (c != ';' && !isSpace c) = true ↔ isSpace c = false ∧ isValueChar c = true := by
    intro c
    have hnewline : isSpace c = false → c ≠ '\n' := by
      rintro h rfl
      exact absurd h (by decide)
    cases h : isSpace c <;> simp_all [isValueChar]
  unfold valueRegex
  rw [matches_group_iff]
  simp only [matches_many_seq_iff, matches_one_iff, hlast]
  constructor
  · rintro ⟨_, rfl, init, _, rfl, hinit, c, ⟨hspace, hc⟩, rfl, rfl⟩
    refine ⟨⟨init, c, rfl, hspace⟩, ?_, rfl⟩
    simpa [or_imp, forall_and] using ⟨hinit, hc⟩
  · rintro ⟨⟨init, last, rfl, hspace⟩, hall, rfl⟩
    refine ⟨[], rfl, init, [last], rfl, ?_, last, ⟨hspace, ?_⟩, rfl, rfl⟩
    · exact fun c hc => hall c (List.mem_append_left _ hc)
    · exact hall last (List.mem_append_right _ List.mem_cons_self)

/-- **What the expression matches** up to the semicolon. -/
theorem matches_clauseRegex_iff :
    clauseRegex.Matches x gs ↔ ∃ name blanks lead value trail,
      x = name ++ (blanks ++ ':' :: (lead ++ (value ++ (trail ++ [';'])))) ∧
      gs = [(.name, name), (.value, value)] ∧ isName name = true ∧
      (∀ c ∈ blanks, isBlank c = true) ∧ (∀ c ∈ lead, isBlank c = true) ∧
      (∃ init last, value = init ++ [last] ∧ isSpace last = false) ∧
      (∀ c ∈ value, isValueChar c = true) ∧ ∀ c ∈ trail, isBlank c = true := by
  unfold clauseRegex
  rw [matches_seq_iff]
  simp only [matches_nameRegex_iff, matches_many_seq_iff, matches_one_seq_iff, beq_iff_eq]
  constructor
  · rintro ⟨name, _, _, _, rfl, rfl, ⟨hname, rfl⟩, blanks, _, rfl, hblanks, _, _, rfl, rfl, lead, _,
      rfl, hlead, hrest⟩
    obtain ⟨value, _, _, _, rfl, rfl, hvalue, hend⟩ := matches_seq_iff.1 hrest
    obtain ⟨hlast, hchars, rfl⟩ := matches_valueRegex_iff.1 hvalue
    obtain ⟨trail, _, rfl, htrail, hsemi⟩ := matches_many_seq_iff.1 hend
    obtain ⟨c, hc, rfl, rfl⟩ := matches_one_iff.1 hsemi
    obtain rfl := beq_iff_eq.1 hc
    exact ⟨name, blanks, lead, value, trail, rfl, rfl, hname, hblanks, hlead, hlast, hchars, htrail⟩
  · rintro ⟨name, blanks, lead, value, trail, rfl, rfl, hname, hblanks, hlead, hlast, hchars, htrail⟩
    have hend : Matches (seq (many isBlank) (one (· == ';'))) (trail ++ [';'])
        ([] : List (Part × Text)) := .seq (.many htrail) (.one (by decide))
    have hvalue := matches_valueRegex_iff.2 ⟨hlast, hchars, rfl⟩
    exact ⟨name, _, _, _, rfl, rfl, ⟨hname, rfl⟩, blanks, _, rfl, hblanks, ':', _, rfl, rfl, lead, _,
      rfl, hlead, hvalue.seq hend⟩

/-- What is matched up to the semicolon is a declaration, with the value trimmed. -/
theorem clause_of_matches (h : clauseRegex.Matches x gs) :
    ∃ name value, gs = [(.name, name), (.value, value)] ∧ Clause x ⟨name, trim value⟩ := by
  obtain ⟨name, blanks, lead, value, trail, rfl, rfl, hname, hblanks, hlead, hlast, hchars, htrail⟩ :=
    matches_clauseRegex_iff.1 h
  have hvalueChar : ∀ c, isBlank c = true → isValueChar c = true := by
    intro c hc
    simp only [isBlank, Bool.or_eq_true, beq_iff_eq] at hc
    rcases hc with rfl | rfl <;> decide
  have hspace : ∀ {y : Text}, (∀ c ∈ y, isBlank c = true) → ∀ c ∈ y, isSpace c = true :=
    fun hy c hc => isSpace_of_isBlank (hy c hc)
  -- blanks around the value belong to the region, and trimming takes them away
  have htrim : trim value = trim (lead ++ (value ++ trail)) := by
    rw [trim_space_append _ (hspace hlead), trim_append_space _ (hspace htrail)]
  have hregion : ∀ c ∈ lead ++ (value ++ trail), isValueChar c = true := by
    simp only [List.mem_append]
    rintro c (hc | hc | hc)
    · exact hvalueChar c (hlead c hc)
    · exact hchars c hc
    · exact hvalueChar c (htrail c hc)
  obtain ⟨init, last, rfl, hlast⟩ := hlast
  have hvalue? : value? (lead ++ (init ++ [last] ++ trail)) = some (trim (init ++ [last])) :=
    value?_eq_some_iff.2 ⟨⟨lead ++ init, last, trail, by simp, hlast, htrail⟩, htrim⟩
  refine ⟨name, init ++ [last], rfl, ?_⟩
  simpa using Clause.mk hname hblanks hregion hvalue?

/-- A declaration is matched: the value takes what it can. -/
theorem Clause.exists_matches {b : Binding} (h : Clause x b) : ∃ gs, clauseRegex.Matches x gs := by
  obtain @⟨name, value, blanks, region, hname, hblanks, hregion, hvalue⟩ := h
  obtain ⟨⟨init, last, trail, rfl, hlast, htrail⟩, -⟩ := value?_eq_some_iff.1 hvalue
  have hchars : ∀ c ∈ init ++ [last], isValueChar c = true := by
    intro c hc
    refine hregion c ?_
    rw [List.append_cons]
    exact List.mem_append_left _ hc
  refine ⟨_, matches_clauseRegex_iff.2 ⟨name, blanks, [], init ++ [last], trail, by simp, rfl, hname,
    hblanks, by simp, ⟨init, last, rfl, hlast⟩, hchars, htrail⟩⟩

/-! ### What the expression finds -/

/-- The binding that a way to match captures. -/
def binding (w : Way Part) : Binding :=
  ⟨(w.group? .name).getD [], trim ((w.group? .value).getD [])⟩

theorem group?_of_groups {name value : Text}
    (h : w.groups = [(.name, name), (.value, value)]) :
    w.group? .name = some name ∧ w.group? .value = some value := by
  unfold Way.group?
  rw [h]
  exact ⟨rfl, rfl⟩

/-- **Each way to match** captures what is read at its place. -/
theorem read?_of_mem_ways (h : w ∈ regex.ways s) :
    ∃ name value r, w.groups = [(.name, name), (.value, value)] ∧
      read? s = some (⟨name, trim value⟩, r) := by
  obtain ⟨hs, hm⟩ := mem_ways_iff.1 h
  obtain ⟨x, spaces, gs, _, htext, hgroups, hmx, hmany⟩ := matches_seq_iff.1 hm
  obtain ⟨-, rfl⟩ := matches_many_iff.1 hmany
  obtain ⟨name, value, rfl, hclause⟩ := clause_of_matches hmx
  refine ⟨name, value, trimStart (spaces ++ w.rest), by simpa using hgroups, ?_⟩
  rw [hs, htext, List.append_assoc]
  exact hclause.read?_append _

/-- **The first way to match** goes on to where reading stops. -/
theorem read?_of_first? (h : regex.first? s = some w) : read? s = some (binding w, w.rest) := by
  obtain ⟨v, hfirst, rfl⟩ := Option.map_eq_some_iff.1 (first?_seq_many.symm.trans h)
  obtain ⟨hs, hm⟩ := mem_ways_iff.1 (mem_ways_of_first? hfirst)
  obtain ⟨name, value, hgroups, hclause⟩ := clause_of_matches hm
  -- the run of space has no groups
  have hkept := group?_of_groups
    (w := v.followedBy ⟨v.rest.takeWhile isSpace, [], v.rest.dropWhile isSpace⟩)
    ((List.append_nil _).trans hgroups)
  unfold binding
  rw [hkept.1, hkept.2, hs]
  exact hclause.read?_append v.rest

theorem ways_ne_nil_of_clause {b : Binding} (h : Clause x b) (after : Text) :
    regex.ways (x ++ after) ≠ [] := by
  obtain ⟨gs, hm⟩ := h.exists_matches
  have hway : ⟨x ++ [], gs ++ [], after⟩ ∈ regex.ways (x ++ after) :=
    mem_ways_iff.2 ⟨by simp, .seq hm (.many (by simp))⟩
  exact List.ne_nil_of_mem hway

theorem read?_eq_first? (s : Text) :
    read? s = (regex.first? s).map fun w => (binding w, w.rest) := by
  cases h : regex.first? s with
  | some w => exact read?_of_first? h
  | none =>
    cases hread : read? s with
    | none => rfl
    | some br =>
      -- what is read is matched
      obtain ⟨clause, rest, hclause, rfl, -⟩ := written_iff.1 (written_of_read? hread)
      exact absurd (first?_eq_none_iff.1 h) (ways_ne_nil_of_clause hclause rest)

theorem ne_nil_of_matches (h : regex.Matches x gs) : x ≠ [] := by
  obtain ⟨y, spaces, _, _, rfl, -, hclause, -⟩ := matches_seq_iff.1 h
  obtain ⟨name, value, -, hclause⟩ := clause_of_matches hclause
  obtain ⟨hname, -, -, -⟩ := hclause
  simp [isName_ne_nil hname]

/-- The pattern of the expression. -/
def regexPattern : Pattern (Way Part) :=
  regex.pattern ne_nil_of_matches

/-- **Scanning for declarations** is scanning for the expression. -/
theorem all_eq_found (s : Text) : all s = (regexPattern.found s).map binding := by
  refine Pattern.found_eq_map (p := pattern) (fun t => ?_) s
  have hpattern : regexPattern.read? t = (regex.first? t).map fun w => (w, w.rest) := rfl
  rw [hpattern, Option.map_map]
  exact read?_eq_first? t

/-! ### Where the expression matches -/

/-- A declaration stands at the front of `s`: a sign, the name characters `run` in their full length,
blanks and a colon; then `region`, which goes to the first semicolon and holds no line break, and which
ends in something that is not space when blanks at its end are dropped; and `after` the semicolon. -/
structure Layout (s run region after : Text) : Prop where
  /-- The parts make up the text. -/
  split : ∃ blanks, (∀ c ∈ blanks, isBlank c = true) ∧
    s = sigil :: run ++ (blanks ++ ':' :: (region ++ ';' :: after))
  /-- There is a name, and it is as long as its characters go on. -/
  name : run ≠ [] ∧ run = (s.drop 1).takeWhile isNameChar
  /-- The semicolon is the first behind the colon. -/
  semicolon : ';' ∉ region
  /-- The region stays on its line. -/
  newline : '\n' ∉ region
  /-- The region has something in it, behind which there are blanks only. -/
  ends : ∃ last, (dropEndWhile isBlank region).getLast? = some last ∧ isSpace last = false

/-- The layout of a text is that of a declaration. -/
theorem Layout.exists_clause (h : Layout s run region after) :
    ∃ clause, Clause clause ⟨sigil :: run, trim region⟩ ∧ s = clause ++ after := by
  obtain ⟨blanks, hblanks, hs⟩ := h.split
  obtain ⟨last, hlast, hspace⟩ := h.ends
  have hname : isName (sigil :: run) = true := by
    refine isName_iff.2 ⟨run, rfl, h.name.1, ?_⟩
    rw [h.name.2]
    exact forall_mem_takeWhile isNameChar _
  have hregion := forall_isValueChar_iff.2 ⟨h.semicolon, h.newline⟩
  obtain ⟨init, trail, hsplit, -, htrail⟩ := getLast?_dropEndWhile_iff.1 hlast
  have hvalue := value?_eq_some_iff.2 ⟨⟨init, last, trail, hsplit, hspace, htrail⟩, rfl⟩
  exact ⟨_, .mk hname hblanks hregion hvalue, by simp [hs]⟩

theorem Clause.exists_layout {b : Binding} (h : Clause x b) (after : Text) :
    ∃ run region, Layout (x ++ after) run region after := by
  obtain @⟨name, value, blanks, region, hname, hblanks, hregion, hvalue⟩ := h
  obtain ⟨run, rfl, hne, hrun⟩ := isName_iff.1 hname
  obtain ⟨⟨init, last, trail, hsplit, hspace, htrail⟩, -⟩ := value?_eq_some_iff.1 hvalue
  have hlast : (dropEndWhile isBlank region).getLast? = some last :=
    getLast?_dropEndWhile_iff.2 ⟨init, trail, hsplit, isBlank_of_isSpace_eq_false hspace, htrail⟩
  have hends := endsName_blanks hblanks (region ++ ';' :: after)
  have hwhole := takeWhile_append_of_endsRun hrun hends
  obtain ⟨hsemi, hline⟩ := forall_isValueChar_iff.1 hregion
  exact ⟨run, region, ⟨blanks, hblanks, by simp⟩, ⟨hne, by simpa using hwhole.symm⟩, hsemi, hline, last,
    hlast, hspace⟩

/-- **The expression means one scan.** At every place of a source it matches just where a declaration
is laid out; all its ways to match there capture the name and, once trimmed, the value of this layout,
and the first goes on over the semicolon and all space behind it. What a source declares is what is
captured in a scan from left to right that goes on behind each match. -/
theorem regex_ways_determined (source : Text) :
    (∀ i, (regex.ways (source.drop i) ≠ [] ↔
        ∃ run region after, Layout (source.drop i) run region after) ∧
      ∀ run region after, Layout (source.drop i) run region after →
        (∀ w ∈ regex.ways (source.drop i), w.group? .name = some (sigil :: run) ∧
          (w.group? .value).map trim = some (trim region)) ∧
        (regex.first? (source.drop i)).map Way.rest = some (trimStart after)) ∧
    all source = (regexPattern.found source).map binding := by
  refine ⟨fun i => ?_, all_eq_found source⟩
  generalize source.drop i = s
  refine ⟨⟨fun hne => ?_, ?_⟩, fun run region after hlayout => ⟨fun w hw => ?_, ?_⟩⟩
  · obtain ⟨w, hw⟩ := List.exists_mem_of_ne_nil _ hne
    obtain ⟨name, value, r, -, hread⟩ := read?_of_mem_ways hw
    obtain ⟨clause, rest, hclause, rfl, -⟩ := written_iff.1 (written_of_read? hread)
    obtain ⟨run, region, hlayout⟩ := hclause.exists_layout rest
    exact ⟨run, region, rest, hlayout⟩
  · rintro ⟨run, region, after, hlayout⟩
    obtain ⟨clause, hclause, rfl⟩ := hlayout.exists_clause
    exact ways_ne_nil_of_clause hclause after
  · -- the layout and the way are about the same declaration, the one that is read
    obtain ⟨name, value, r, hgroups, hread⟩ := read?_of_mem_ways hw
    obtain ⟨clause, hclause, rfl⟩ := hlayout.exists_clause
    rw [hclause.read?_append] at hread
    obtain ⟨hbinding, -⟩ := Prod.mk.inj (Option.some.inj hread)
    obtain ⟨rfl, hvalue⟩ := Binding.mk.inj hbinding
    obtain ⟨hname, hcaptured⟩ := group?_of_groups hgroups
    rw [hname, hcaptured, hvalue]
    exact ⟨rfl, rfl⟩
  · obtain ⟨clause, hclause, rfl⟩ := hlayout.exists_clause
    have hread := read?_eq_first? (clause ++ after)
    rw [hclause.read?_append] at hread
    obtain ⟨w, hfirst, heq⟩ := Option.map_eq_some_iff.1 hread.symm
    rw [hfirst]
    exact congrArg some (Prod.mk.inj heq).2

-- two ways to match, which differ in the blank behind the colon
example : (regex.ways "$a: b;".toList).map (fun w => w.group? .value) =
    [some "b".toList, some " b".toList] := by
  decide +kernel

end Scss.Declaration
