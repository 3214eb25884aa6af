/-!
# Programs that change a state and may fail

`Gives x s r after` says that the program `x`, started in the state `s`, answers `r` and leaves a
state with the property `after`. Programs are followed step by step: a step that succeeds hands its
answer and its state on (`Gives.bind`), a step that fails ends the program (`Gives.bind_error`). The
other way round, a program that succeeds has succeeded in each of its steps (`run_bind_eq_ok`).

`Composes P` says that a property of programs holds of everything that is put together from programs
with it. One such property is `Keeps view`: the program leaves what `view` shows of the state as it is,
from every state and whatever it answers.
-/

namespace Scss

variable {ε σ α β : Type}

/-- From the state `s` the program answers `r` and leaves a state with the property `after`. -/
def Gives (x : ExceptT ε (StateM σ) α) (s : σ) (r : Except ε α) (after : σ → Prop) : Prop :=
  (x.run.run s).1 = r ∧ after (x.run.run s).2

namespace Gives

variable {x : ExceptT ε (StateM σ) α} {f : α → ExceptT ε (StateM σ) β} {s t : σ} {a : α} {e : ε}
  {r : Except ε α} {q : Except ε β} {mid after : σ → Prop}

theorem iff_run : Gives x s r (· = t) ↔ x.run.run s = (r, t) := by
  unfold Gives
  rw [Prod.ext_iff]

protected theorem pure (h : after s) : Gives (pure a : ExceptT ε (StateM σ) α) s (.ok a) after :=
  ⟨rfl, h⟩

protected theorem throw (h : after s) :
    Gives (throw e : ExceptT ε (StateM σ) α) s (.error e) after :=
  ⟨rfl, h⟩

theorem lift {x : StateM σ α} (ha : (x.run s).1 = a) (h : after (x.run s).2) :
    Gives (liftM x : ExceptT ε (StateM σ) α) s (.ok a) after :=
  ⟨congrArg Except.ok ha, h⟩

/-- **A step that succeeds** hands its answer and its state on. -/
theorem bind (hx : Gives x s (.ok a) mid) (hf : ∀ t, mid t → Gives (f a) t q after) :
    Gives (x >>= f) s q after := by
  obtain ⟨hr, ht⟩ := hx
  -- the rest starts in the state that the step leaves
  have hrun : (x >>= f).run.run s = (f a).run.run (x.run.run s).2 := by
    have heta : x.run.run s = (.ok a, (x.run.run s).2) := Prod.ext hr rfl
    rw [ExceptT.run_bind, StateT.run_bind, heta]
    rfl
  unfold Gives
  rw [hrun]
  exact hf _ ht

/-- **A step that fails** ends the program. -/
theorem bind_error (hx : Gives x s (.error e) after) : Gives (x >>= f) s (.error e) after := by
  obtain ⟨hr, ht⟩ := hx
  have hrun : (x >>= f).run.run s = (.error e, (x.run.run s).2) := by
    have heta : x.run.run s = (.error e, (x.run.run s).2) := Prod.ext hr rfl
    rw [ExceptT.run_bind, StateT.run_bind, heta]
    rfl
  unfold Gives
  rw [hrun]
  exact ⟨rfl, ht⟩

theorem forM {l : List α} {g : α → ExceptT ε (StateM σ) PUnit}
    (hg : ∀ a t, after t → Gives (g a) t (.ok ⟨⟩) after) (h : after s) :
    Gives (l.forM g) s (.ok ⟨⟩) after := by
  induction l generalizing s with
  | nil => exact .pure h
  | cons a l ih => exact (hg a s h).bind fun t ht => ih ht

end Gives

theorem eq_ok_of_toOption {r : Except ε α} {a : α} (h : r.toOption = some a) : r = .ok a := by
  cases r with
  | error e => cases h
  | ok b => rw [Option.some.inj h]

/-- **A program that succeeds** has succeeded in its first step, and from there in the rest. -/
theorem run_bind_eq_ok {x : ExceptT ε (StateM σ) α} {f : α → ExceptT ε (StateM σ) β} {s t : σ}
    {b : β} (h : (x >>= f).run.run s = (.ok b, t)) :
    ∃ a u, x.run.run s = (.ok a, u) ∧ (f a).run.run u = (.ok b, t) := by
  rw [ExceptT.run_bind, StateT.run_bind] at h
  rcases hx : x.run.run s with ⟨e | a, u⟩
  · rw [hx] at h
    cases (Prod.mk.inj h).1
  · rw [hx] at h
    exact ⟨a, u, rfl, h⟩

/-- A property of programs that passes on to what is put together from programs with it. -/
structure Composes (P : ∀ {α : Type}, StateM σ α → Prop) : Prop where
  pure : ∀ {α : Type} (a : α), P (pure a : StateM σ α)
  bind : ∀ {α β : Type} {x : StateM σ α} {f : α → StateM σ β}, P x → (∀ a, P (f a)) → P (x >>= f)

namespace Composes

variable {P : ∀ {α : Type}, StateM σ α → Prop}

theorem forM (h : Composes P) {l : List α} {f : α → StateM σ PUnit} (hf : ∀ a, P (f a)) :
    P (l.forM f) := by
  induction l with
  | nil => exact h.pure _
  | cons a l ih => exact h.bind (hf a) fun _ => ih

theorem run_lift (h : Composes P) {x : StateM σ α} (hx : P x) :
    P (liftM x : ExceptT ε (StateM σ) α).run :=
  h.bind hx fun _ => h.pure _

theorem run_bind (h : Composes P) {x : ExceptT ε (StateM σ) α}
    {f : α → ExceptT ε (StateM σ) β} (hx : P x.run) (hf : ∀ a, P (f a).run) :
    P (x >>= f).run := by
  rw [ExceptT.run_bind]
  refine h.bind hx fun r => ?_
  cases r with
  | error e => exact h.pure _
  | ok a => exact hf a

theorem run_forM (h : Composes P) {l : List α} {f : α → ExceptT ε (StateM σ) PUnit}
    (hf : ∀ a, P (f a).run) : P (l.forM f).run := by
  induction l with
  | nil => exact h.pure _
  | cons a l ih => exact h.run_bind (hf a) fun _ => ih

end Composes

/-- The program leaves what `view` shows of the state as it is. -/
def Keeps {τ : Type} (view : σ → τ) (x : StateM σ α) : Prop :=
  ∀ s, view (x.run s).2 = view s

theorem keeps_composes {τ : Type} (view : σ → τ) : Composes (Keeps view) where
  pure _ _ := rfl
  bind hx hf s := (hf _ _).trans (hx s)

namespace Keeps

variable {τ : Type} {view : σ → τ} {x : StateM σ α} {f : α → StateM σ β}

protected theorem pure (a : α) : Keeps view (pure a) :=
  (keeps_composes view).pure a

theorem run_lift (hx : Keeps view x) : Keeps view (liftM x : ExceptT ε (StateM σ) α).run :=
  (keeps_composes view).run_lift hx

theorem run_bind {x : ExceptT ε (StateM σ) α} {f : α → ExceptT ε (StateM σ) β}
    (hx : Keeps view x.run) (hf : ∀ a, Keeps view (f a).run) : Keeps view (x >>= f).run :=
  (keeps_composes view).run_bind hx hf

theorem run_forM {l : List α} {f : α → ExceptT ε (StateM σ) PUnit}
    (hf : ∀ a, Keeps view (f a).run) : Keeps view (l.forM f).run :=
  (keeps_composes view).run_forM hf

end Keeps

end Scss
