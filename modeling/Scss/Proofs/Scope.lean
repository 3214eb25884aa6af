import Scss.Scope

/-!
# Looking names up

`Scope.lookup` finds the first binding of a name in a list. A scope is such a list without
repetitions, so what it finds does not depend on the order in which its bindings are listed
(`lookup_eq_get?`); and in the scope of a list the last binding of a name counts, so that looking it
up is looking into the list from its end (`get?_insertAll`).
-/

namespace Scss.Scope

/-- The value in the first binding of a name. -/
def lookup (bs : List Binding) (name : Text) : Option Text :=
  (bs.find? fun b => b.name == name).map fun b => b.value

variable {scope : Scope} {b : Binding} {bs order : List Binding} {name value : Text}

@[simp] theorem lookup_nil : lookup [] name = none := rfl

theorem lookup_cons :
    lookup (b :: bs) name = if b.name = name then some b.value else lookup bs name := by
  unfold lookup
  by_cases h : b.name = name <;> simp [h]

theorem lookup_append (bs bs' : List Binding) :
    lookup (bs ++ bs') name = (lookup bs name).or (lookup bs' name) := by
  unfold lookup
  rw [List.find?_append, Option.map_or]

theorem mem_of_lookup (h : lookup bs name = some value) : ⟨name, value⟩ ∈ bs := by
  unfold lookup at h
  obtain ⟨b, hb, rfl⟩ := Option.map_eq_some_iff.1 h
  have hn : b.name = name := by simpa using List.find?_some hb
  rw [← hn]
  exact List.mem_of_find?_eq_some hb

theorem lookup_eq_none_iff : lookup bs name = none ↔ ∀ b ∈ bs, b.name ≠ name := by
  simp [lookup]

theorem get?_eq_lookup (scope : Scope) (name : Text) :
    scope.get? name = lookup scope.bindings name := rfl

theorem mem_of_get? (h : scope.get? name = some value) : ⟨name, value⟩ ∈ scope.bindings :=
  mem_of_lookup h

theorem nodup_names (scope : Scope) : (scope.bindings.map Binding.name).Nodup := by
  rw [List.Nodup, List.pairwise_map]
  refine scope.sorted.imp fun {a b} h heq => ?_
  rw [heq, Text.before_irrefl] at h
  cases h

/-- Where no name is repeated, looking up finds every binding. -/
theorem lookup_eq_some_iff (h : (bs.map Binding.name).Nodup) :
    lookup bs name = some value ↔ ⟨name, value⟩ ∈ bs := by
  refine ⟨mem_of_lookup, fun hmem => ?_⟩
  induction bs with
  | nil => cases hmem
  | cons b bs ih =>
    rw [List.map_cons, List.nodup_cons] at h
    rw [lookup_cons]
    rcases List.mem_cons.1 hmem with rfl | hmem
    · exact if_pos rfl
    · have hne : b.name ≠ name := by
        intro heq
        exact h.1 (heq ▸ List.mem_map_of_mem hmem)
      rw [if_neg hne, ih h.2 hmem]

/-- **Looking up does not depend on the order** in which the bindings of a scope are listed. -/
theorem lookup_eq_get? (horder : order.Perm scope.bindings) (name : Text) :
    lookup order name = scope.get? name := by
  have hnd := nodup_names scope
  have hnd' : (order.map Binding.name).Nodup := (horder.map Binding.name).nodup_iff.2 hnd
  apply Option.ext
  intro value
  rw [lookup_eq_some_iff hnd', horder.mem_iff, get?_eq_lookup, lookup_eq_some_iff hnd]

theorem mem_insertAll (scope : Scope) (h : b ∈ (scope.insertAll bs).bindings) :
    b ∈ bs ∨ b ∈ scope.bindings := by
  induction bs generalizing scope with
  | nil => exact .inr h
  | cons a bs ih =>
    rcases ih (scope.insert a) h with hb | hb
    · exact .inl (List.mem_cons_of_mem a hb)
    · rcases mem_place hb with rfl | hb
      · exact .inl List.mem_cons_self
      · exact .inr hb

/-- What a scope of bindings holds is among them. -/
theorem mem_of_mem_ofBindings (h : b ∈ (ofBindings bs).bindings) : b ∈ bs :=
  (mem_insertAll empty h).resolve_right List.not_mem_nil

/-- **The last binding of a name counts**, and where there is none the scope is as before. -/
theorem get?_insertAll (scope : Scope) (bs : List Binding) (name : Text) :
    (scope.insertAll bs).get? name = (lookup bs.reverse name).or (scope.get? name) := by
  induction bs generalizing scope with
  | nil => rfl
  | cons b bs ih =>
    have hstep : (scope.insertAll (b :: bs)).get? name = ((scope.insert b).insertAll bs).get? name :=
      rfl
    rw [hstep, ih, get?_insert, List.reverse_cons, lookup_append, lookup_cons, lookup_nil]
    by_cases h : b.name = name <;> simp [h]

end Scss.Scope
