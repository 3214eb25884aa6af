import Scss.Proofs.Settings

/-!
# Definitions from outside in any order

The definitions of the options have no order of their own. They are checked one after another up to
the first that is refused, and what is left is sorted. Whether one is refused does not depend on the
others (`normalise_eq_ok_iff`), so all of them pass in every order or in none
(`mapM_normalise_eq_ok_iff`); which one is complained about may differ. Two definitions may become the
same binding, but bindings that are equal in the sort are equal (`inOrder_antisymm`), so there is one
sorted list of them.

* `injectedOf_determined`: when definitions are accepted, and the one list that they give.
-/

namespace Scss.Options

variable {gs : List Binding} {options : Options}

/-- The order by the bytes of the names, and for one name by the bytes of the values. -/
def Ascending (a b : Binding) : Prop :=
  a.name.bytes < b.name.bytes ∨ a.name = b.name ∧ a.value.bytes ≤ b.value.bytes

theorem inOrder_iff_ascending {a b : Binding} : inOrder a b = true ↔ Ascending a b := by
  have hle : b.value.before a.value = false ↔ a.value.bytes ≤ b.value.bytes := by
    rw [← Bool.not_eq_true, Text.before_iff_bytes_lt]
    exact Iff.rfl
  rw [inOrder_iff, Text.before_iff_bytes_lt, hle]
  exact Iff.rfl

theorem inOrder_antisymm {a b : Binding} (hab : inOrder a b = true) (hba : inOrder b a = true) :
    a = b := by
  rw [inOrder_iff] at hab hba
  rcases hab with hab | ⟨hname, hvalue⟩
  · rcases hba with hba | ⟨hname, -⟩
    · rw [Text.before_asymm hab] at hba
      cases hba
    · rw [hname, Text.before_irrefl] at hab
      cases hab
  · rcases hba with hba | ⟨-, hvalue'⟩
    · rw [hname, Text.before_irrefl] at hba
      cases hba
    · -- of two different values one would come before the other
      have heq : a.value = b.value := by
        by_cases hne : a.value = b.value
        · exact hne
        · rcases Text.before_or_before hne with h | h
          · rw [hvalue'] at h; cases h
          · rw [hvalue] at h; cases h
      obtain ⟨name, value⟩ := a
      obtain ⟨name', value'⟩ := b
      obtain rfl : name = name' := hname
      obtain rfl : value = value' := heq
      rfl

theorem pairwise_mergeSort_inOrder (l : List Binding) :
    (l.mergeSort inOrder).Pairwise fun a b => inOrder a b = true :=
  List.pairwise_mergeSort inOrder_trans inOrder_total l

/-- Sorting forgets the order in which bindings were given. -/
theorem mergeSort_inOrder_of_perm {l l' : List Binding} (h : l.Perm l') :
    l.mergeSort inOrder = l'.mergeSort inOrder := by
  have hperm : (l.mergeSort inOrder).Perm (l'.mergeSort inOrder) :=
    (List.mergeSort_perm l inOrder).trans (h.trans (List.mergeSort_perm l' inOrder).symm)
  exact hperm.eq_of_pairwise (fun a b _ _ => inOrder_antisymm) (pairwise_mergeSort_inOrder l)
    (pairwise_mergeSort_inOrder l')

/-- **Definitions are injected alike in every order.** Let the definitions of the options be visited in
any order. They are accepted if and only if each of them is admissible. The list that they then give has
one binding for each, the name with its sign and the trimmed value, and no other; it is in ascending
order of the bytes; and it is the same list for every order of visiting them. -/
theorem injectedOf_determined (horder : gs.Perm options.definitions.bindings) :
    ((∃ bs, injectedOf gs = .ok bs) ↔ ∀ g ∈ options.definitions.bindings, Admissible g) ∧
    ∀ bs, injectedOf gs = .ok bs →
      bs.length = options.definitions.size ∧
      bs.Perm (options.definitions.bindings.map asBinding) ∧
      bs.Pairwise Ascending ∧
      ∀ other, other.Perm options.definitions.bindings → injectedOf other = .ok bs := by
  have hall : ∀ {l : List Binding}, l.Perm options.definitions.bindings →
      ((∀ g ∈ l, Admissible g) ↔ ∀ g ∈ options.definitions.bindings, Admissible g) := by
    intro l hl
    simp only [hl.mem_iff]
  refine ⟨?_, fun bs hbs => ?_⟩
  · simp only [injectedOf_eq_ok_iff, hall horder, exists_and_left, exists_eq, and_true]
  obtain ⟨hgs, hsort⟩ := injectedOf_eq_ok_iff.1 hbs
  have hperm : bs.Perm (options.definitions.bindings.map asBinding) := by
    rw [hsort]
    exact (List.mergeSort_perm _ inOrder).trans (horder.map asBinding)
  refine ⟨?_, hperm, ?_, fun other hother => ?_⟩
  · rw [hperm.length_eq, List.length_map]
    rfl
  · rw [hsort]
    exact (pairwise_mergeSort_inOrder _).imp inOrder_iff_ascending.1
  · have hsame : (other.map asBinding).Perm (gs.map asBinding) :=
      (hother.trans horder.symm).map asBinding
    refine injectedOf_eq_ok_iff.2 ⟨(hall hother).2 ((hall horder).1 hgs), ?_⟩
    rw [hsort, mergeSort_inOrder_of_perm hsame]

/-- Two spellings of one name with the same value, and a name beyond ASCII. -/
theorem injectedOf_of_three :
    let gs : List Binding :=
      [⟨"é".toList, "a\tb".toList⟩, ⟨"x".toList, " $é ".toList⟩, ⟨"$x".toList, "$é".toList⟩]
    let options : Options := { definitions := .ofBindings gs }
    gs.Perm options.definitions.bindings ∧ gs ≠ options.definitions.bindings ∧
      ∃ bs, injectedOf gs = .ok bs ∧ bs.length = 3 ∧ options.injected = .ok bs := by
  intro gs options
  have horder : gs.Perm options.definitions.bindings := by decide +kernel
  have hok : ∀ g ∈ options.definitions.bindings, (normalise g).isOk = true := by decide +kernel
  have hall : ∀ g ∈ options.definitions.bindings, Admissible g := by
    intro g hg
    have hpass := hok g hg
    cases hg' : normalise g with
    | error e => rw [hg'] at hpass; cases hpass
    | ok b => exact (normalise_eq_ok_iff.1 hg').1
  obtain ⟨bs, hbs⟩ := (injectedOf_determined horder).1.2 hall
  obtain ⟨hlength, -, -, hother⟩ := (injectedOf_determined horder).2 bs hbs
  exact ⟨horder, by decide +kernel, bs, hbs, hlength, hother _ (.refl _)⟩

end Scss.Options
