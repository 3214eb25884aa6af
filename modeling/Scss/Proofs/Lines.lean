import Scss.Proofs.Import
import Scss.Proofs.Injection
import Scss.Proofs.Mentions

/-!
# Texts are scanned line by line

No variable, no import and no declaration up to its semicolon holds a line break. So a scan can be cut
at each of them, although a declaration takes the space behind its semicolon with it and thereby goes
over line breaks: what it takes holds no sign, and declares nothing (`all_append_newline`).

* `usages_append_newline`: mentions of both parts are listed once.
* `scans_append_newline`: all scans of a text that is put together at a line break.
-/

namespace Scss

namespace Declaration

open Variable Text

theorem all_trimStart_append (s t : Text) : all (trimStart s ++ t) = all (s ++ t) := by
  have hspace : sigil ∉ s.takeWhile isSpace :=
    notMem_of_forall (forall_mem_takeWhile isSpace s) (by decide)
  have hsplit : s.takeWhile isSpace ++ (trimStart s ++ t) = s ++ t := by
    rw [← List.append_assoc]
    exact congrArg (· ++ t) List.takeWhile_append_dropWhile
  rw [← hsplit, all_append_of_notMem hspace]

/-- **Declarations are found line by line.** -/
theorem all_append_newline (s t : Text) : all (s ++ '\n' :: t) = all s ++ all t := by
  have hline : all ('\n' :: t) = all t := all_append_of_notMem (x := ['\n']) (by decide) t
  rw [← hline]
  refine Pattern.found_append_of_cut s (fun u b r hu => ?_) (fun u _ hu => ?_)
  · -- the space behind the semicolon may go on, and what it takes declares nothing
    obtain ⟨clause, rest, hclause, rfl, rfl⟩ := written_iff.1 (written_of_read? hu)
    refine ⟨trimStart (rest ++ '\n' :: t), ?_, ?_⟩
    · rw [List.append_assoc]
      exact hclause.read?_append _
    · have htrim := all_trimStart (rest ++ '\n' :: t)
      rw [← all_trimStart_append] at htrim
      exact htrim
  · cases h : pattern.read? (u ++ '\n' :: t) with
    | none => rfl
    | some br =>
      -- its semicolon stands in front of the line break
      obtain ⟨clause, rest, hclause, hs, -⟩ := written_iff.1 (written_of_read? h)
      obtain ⟨rest', rfl⟩ :=
        isPrefix_of_isPrefix_append_cons hclause.newline_notMem ⟨rest, hs.symm⟩
      have hu' : read? (clause ++ rest') = none := hu
      rw [hclause.read?_append] at hu'
      cases hu'

end Declaration

namespace Variable

/-- Names are left out of a list and repetitions removed in either order. -/
theorem eraseDups_filter (p : Text → Bool) (l : List Text) :
    (l.filter p).eraseDups = l.eraseDups.filter p := by
  induction hn : l.length using Nat.strongRecOn generalizing l with
  | ind n ih =>
    cases l with
    | nil => rfl
    | cons a t =>
      have hle := List.length_filter_le (fun b => !b == a) t
      rw [List.length_cons] at hn
      have hrest := ih (t.filter fun b => !b == a).length (by omega) _ rfl
      rw [List.eraseDups_cons, List.filter_cons, List.filter_cons, ← hrest]
      by_cases ha : p a = true
      · rw [if_pos ha, if_pos ha, List.eraseDups_cons, List.filter_filter, List.filter_filter]
        simp only [Bool.and_comm]
      · -- where `a` is left out, nothing that stays equals it
        rw [if_neg ha, if_neg ha, List.filter_filter]
        have hfilter : t.filter p = t.filter fun b => p b && !b == a := by
          apply List.filter_congr
          intro b _
          by_cases hb : b = a
          · subst hb
            simp [ha]
          · simp [hb]
        rw [hfilter]

theorem eraseDups_of_nodup {l : List Text} (h : l.Nodup) : l.eraseDups = l := by
  induction l with
  | nil => rfl
  | cons a t ih =>
    obtain ⟨ha, ht⟩ := List.nodup_cons.1 h
    have hfilter : (t.filter fun b => !b == a) = t := by
      rw [List.filter_eq_self]
      intro b hb
      have hne : b ≠ a := by
        rintro rfl
        exact ha hb
      simp [hne]
    rw [List.eraseDups_cons, hfilter, ih ht]

theorem nodup_eraseDups (l : List Text) : l.eraseDups.Nodup :=
  (eraseDups_pairwise l).imp And.left

/-- Repetitions may be removed from the parts of a list first. -/
theorem eraseDups_append_eraseDups (l l' : List Text) :
    (l.eraseDups ++ l'.eraseDups).eraseDups = (l ++ l').eraseDups := by
  have hmem : ∀ name, l.eraseDups.elem name = l.elem name := by
    intro name
    rw [Bool.eq_iff_iff, List.elem_iff, List.elem_iff]
    exact List.mem_eraseDups
  have hremove : l'.eraseDups.removeAll l.eraseDups = (l'.removeAll l).eraseDups := by
    unfold List.removeAll
    rw [eraseDups_filter]
    exact List.filter_congr fun name _ => by rw [hmem]
  rw [List.eraseDups_append, List.eraseDups_append, hremove, eraseDups_of_nodup (nodup_eraseDups l),
    eraseDups_of_nodup (nodup_eraseDups _)]

theorem usages_append_newline (s t : Text) :
    usages (s ++ '\n' :: t) = (usages s ++ usages t).eraseDups := by
  have hline : token.found ('\n' :: t) = token.found t :=
    Pattern.found_of_none (token_startsAt '\n' t (by decide))
  have hends : EndsName ('\n' :: t) := Text.endsRun_cons.2 (by decide)
  unfold usages
  rw [found_append s hends, hline, eraseDups_append_eraseDups]

end Variable

namespace Stylesheet

/-- **Scanning is line by line.** In a text that is put together at a line break the declarations are
those of the first part and then those of the second, and so are the imports; the mentions are those of
both without repetitions; and a variable has the value that the second part gives it, or else the
first. -/
theorem scans_append_newline (s t : Text) :
    Declaration.all (s ++ '\n' :: t) = Declaration.all s ++ Declaration.all t ∧
      Import.scan (s ++ '\n' :: t) = Import.scan s ++ Import.scan t ∧
      Variable.usages (s ++ '\n' :: t) = (Variable.usages s ++ Variable.usages t).eraseDups ∧
      ∀ order name, (compile order (s ++ '\n' :: t)).scope.get? name =
        ((compile order t).scope.get? name).or ((compile order s).scope.get? name) := by
  have hall := Declaration.all_append_newline s t
  refine ⟨hall, Import.scan_append_newline s t, Variable.usages_append_newline s t,
    fun order name => ?_⟩
  have hscope : ∀ u, (compile order u).scope.get? name =
      Scope.lookup (Declaration.all u).reverse name := by
    intro u
    have hcompile : (compile order u).scope = Scope.empty.insertAll (Declaration.all u) := rfl
    have hempty : Scope.empty.get? name = none := rfl
    rw [hcompile, Scope.get?_insertAll, hempty, Option.or_none]
  rw [hscope, hscope, hscope, hall, List.reverse_append, Scope.lookup_append]

end Stylesheet

end Scss
