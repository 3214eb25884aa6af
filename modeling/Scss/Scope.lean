import Scss.Variable

/-!
# Scopes

A scope holds one value for each of its variables. Its bindings are kept in the order of their names,
so equal scopes are equal lists and every listing of a scope comes out sorted.

* `Scope.insert`: binds a variable, whatever it stood for before.
* `Scope.get?`: the value of a variable.
* `Scope.ofBindings`: the scope of a list of bindings, in which the last one of a name counts.
* `Scope.Order`: an order in which the bindings of a scope can be gone through.
* `Scope.get?_insert`: a name has the value it was given last, and other names keep theirs.
-/

namespace Scss

/-- One value for each of some variables, in the order of the names. -/
structure Scope where
  /-- The bindings, in the order of their names. -/
  bindings : List Binding
  /-- Each name comes before the names behind it, so none occurs twice. -/
  sorted : bindings.Pairwise fun a b => a.name.before b.name = true

namespace Scope

/-- A list of bindings with `b` put in its place, instead of another of the same name. -/
def place (b : Binding) : List Binding → List Binding
  | [] => [b]
  | a :: rest =>
    if b.name.before a.name then b :: a :: rest
    else if a.name = b.name then b :: rest
    else a :: place b rest

/-- Placing a binding adds no name but its own. -/
theorem mem_place {b c : Binding} {l : List Binding} (h : c ∈ place b l) : c = b ∨ c ∈ l := by
  fun_induction place b l with
  | case1 => simpa using h
  | case2 a rest _ => simpa using h
  | case3 a rest _ _ =>
    rcases List.mem_cons.1 h with h | h
    · exact .inl h
    · exact .inr (List.mem_cons_of_mem _ h)
  | case4 a rest _ _ ih =>
    rcases List.mem_cons.1 h with h | h
    · exact .inr (h ▸ List.mem_cons_self)
    · exact (ih h).imp id (List.mem_cons_of_mem _)

/-- Placing a binding keeps the order of the names. -/
theorem sorted_place (b : Binding) {l : List Binding}
    (h : l.Pairwise fun a b => a.name.before b.name = true) :
    (place b l).Pairwise fun a b => a.name.before b.name = true := by
  fun_induction place b l with
  | case1 => simp
  | case2 a rest hlt =>
    refine List.pairwise_cons.2 ⟨fun c hc => ?_, h⟩
    rcases List.mem_cons.1 hc with rfl | hc
    · exact hlt
    · exact Text.before_trans hlt ((List.pairwise_cons.1 h).1 c hc)
  | case3 a rest _ heq =>
    obtain ⟨h₁, h₂⟩ := List.pairwise_cons.1 h
    exact List.pairwise_cons.2 ⟨fun c hc => heq ▸ h₁ c hc, h₂⟩
  | case4 a rest hnlt hne ih =>
    obtain ⟨h₁, h₂⟩ := List.pairwise_cons.1 h
    refine List.pairwise_cons.2 ⟨fun c hc => ?_, ih h₂⟩
    rcases mem_place hc with rfl | hc
    · exact (Text.before_or_before hne).resolve_right hnlt
    · exact h₁ c hc

/-- The scope without variables. -/
def empty : Scope where
  bindings := []
  sorted := .nil

/-- The scope with one variable bound, whatever it stood for before. -/
def insert (scope : Scope) (b : Binding) : Scope where
  bindings := place b scope.bindings
  sorted := sorted_place b scope.sorted

/-- The value of a variable. -/
def get? (scope : Scope) (name : Text) : Option Text :=
  (scope.bindings.find? fun b => b.name == name).map fun b => b.value

/-- Whether a variable is bound. -/
def contains (scope : Scope) (name : Text) : Bool :=
  scope.bindings.any fun b => b.name == name

/-- The number of variables. -/
def size (scope : Scope) : Nat :=
  scope.bindings.length

/-- The scope with a list of bindings inserted one after another. -/
def insertAll (scope : Scope) (bs : List Binding) : Scope :=
  bs.foldl insert scope

/-- The scope of a list of bindings: the last binding of a name counts. -/
def ofBindings (bs : List Binding) : Scope :=
  empty.insertAll bs

/-- A way of going through scopes: for each scope its bindings, in some order. -/
structure Order where
  /-- The bindings of a scope, one after another. -/
  visit : Scope → List Binding
  /-- Each binding comes once. -/
  perm (scope : Scope) : (visit scope).Perm scope.bindings

/-- Going through scopes in the order of the names. -/
def Order.byName : Order where
  visit scope := scope.bindings
  perm _ := .refl _

/-- Looking a name up where a binding was placed. -/
theorem find?_place (b : Binding) (name : Text) (l : List Binding) :
    (place b l).find? (fun a => a.name == name) =
      if b.name = name then some b else l.find? fun a => a.name == name := by
  fun_induction place b l with
  | case1 => by_cases h : b.name = name <;> simp [h]
  | case2 a rest _ => by_cases h : b.name = name <;> simp [h]
  | case3 a rest _ heq =>
    by_cases h : b.name = name
    · simp [h]
    · simp [heq, h]
  | case4 a rest _ hne ih =>
    by_cases h : a.name = name
    · have hb : ¬ b.name = name := fun hb => hne (h.trans hb.symm)
      simp [h, hb]
    · simp [h, ih]

/-- A name has the value it was given last, and other names keep theirs. -/
theorem get?_insert (scope : Scope) (b : Binding) (name : Text) :
    (scope.insert b).get? name = if b.name = name then some b.value else scope.get? name := by
  simp only [get?, insert, find?_place]
  split <;> rfl

/-- A variable is bound just when it has a value. -/
theorem contains_eq_isSome_get? (scope : Scope) (name : Text) :
    scope.contains name = (scope.get? name).isSome := by
  rw [Bool.eq_iff_iff]
  simp [contains, get?, List.find?_isSome]

end Scope

end Scss
