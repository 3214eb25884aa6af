import Scss.Proofs.Scope
import Scss.Proofs.Token

/-!
# Substitution does not depend on the order

Variables are replaced one after another, each in the whole text that the replacements before it
left. So a value put in by one pass is read again by the next, and could make up a new variable
together with what stands beside it, or lengthen one. Two things rule this out: values without a
sign, and replaced variables that stand **apart** (`Apart`), directly behind neither a sign nor
another variable.

The invariant is that after any number of passes the text is the source rewritten in one go by the
bindings used so far (`rewrite`). Its pieces are those of the source with values, character by
character, in place of bound variables (`pieces_rewrite`); hence one more pass replaces just the
mentions of its own variable (`substitute_rewrite`), and all passes in any order give the
simultaneous substitution (`substituteAll_eq_iff_resolved`).
-/

namespace Scss.Variable

open Scope

variable {key key' : Text → Prop} {f : Text → Option Text} {a r s t x : Text} {c : Char}

/-- The text ends in a sign or in a variable. -/
def Touching (pre : Text) : Prop :=
  (∃ p, pre = p ++ [sigil]) ∨ ∃ p name, isName name = true ∧ pre = p ++ name

/-- Variables with the property `key` stand directly behind neither a sign nor a variable. -/
def Apart (key : Text → Prop) (s : Text) : Prop :=
  ∀ pre name post, Occurs s pre name post → key name → ¬ Touching pre

/-- The result of putting values in: from left to right, each variable in its full length becomes the
value that `f` gives it, and a variable without one and every other character stay. -/
inductive Resolved (f : Text → Option Text) : Text → Text → Prop
  | nil : Resolved f [] []
  | bound {name value rest out : Text} : isName name = true → EndsName rest →
      f name = some value → Resolved f rest out → Resolved f (name ++ rest) (value ++ out)
  | free {name rest out : Text} : isName name = true → EndsName rest →
      f name = none → Resolved f rest out → Resolved f (name ++ rest) (name ++ out)
  | other {c : Char} {rest out : Text} : (c = sigil → EndsName rest) →
      Resolved f rest out → Resolved f (c :: rest) (c :: out)

/-- The text with the values of `f` in place of its variables, by a single scan. -/
def rewrite (f : Text → Option Text) (s : Text) : Text :=
  token.replace (fun name => (f name).getD name) s

@[simp] theorem rewrite_nil : rewrite f [] = [] := Pattern.replace_nil _

theorem rewrite_of_some (h : read? s = some (a, r)) :
    rewrite f s = (f a).getD a ++ rewrite f r :=
  Pattern.replace_of_some _ h

theorem rewrite_of_none (h : read? (c :: t) = none) : rewrite f (c :: t) = c :: rewrite f t :=
  Pattern.replace_of_none _ h

/-- The scan computes the simultaneous substitution. -/
theorem resolved_iff {out : Text} : Resolved f s out ↔ rewrite f s = out := by
  constructor
  · intro h
    induction h with
    | nil => exact rewrite_nil
    | bound hname hrest hf _ ih => rw [rewrite_of_some (read?_name_append hname hrest), hf, ih]; rfl
    | free hname hrest hf _ ih => rw [rewrite_of_some (read?_name_append hname hrest), hf, ih]; rfl
    | other hc _ ih => rw [rewrite_of_none (read?_eq_none_iff.2 hc), ih]
  · rintro rfl
    induction s using Pattern.scan_induction (p := token) with
    | nil => rw [rewrite_nil]; exact .nil
    | item s a r h ih =>
      obtain ⟨ha, rfl, hr⟩ := read?_eq_some_iff.1 h
      rw [rewrite_of_some h]
      cases hf : f a with
      | none => exact .free ha hr hf ih
      | some value => exact .bound ha hr hf ih
    | plain c t h ih =>
      rw [rewrite_of_none h]
      exact .other (read?_eq_none_iff.1 h) ih

/-! ### Texts whose variables stand apart -/

theorem Touching.append_left (h : Touching t) (x : Text) : Touching (x ++ t) := by
  rcases h with ⟨p, rfl⟩ | ⟨p, name, hname, rfl⟩
  · exact .inl ⟨x ++ p, by rw [List.append_assoc]⟩
  · exact .inr ⟨x ++ p, name, hname, by rw [List.append_assoc]⟩

theorem Apart.of_append (h : Apart key (x ++ s)) : Apart key s :=
  fun pre name post hocc hkey htouch =>
    h (x ++ pre) name post (hocc.append_left x) hkey (htouch.append_left x)

theorem Apart.not_key (h : Apart key (x ++ s)) (hx : Touching x) (hs : read? s = some (a, r)) :
    ¬ key a := by
  obtain ⟨ha, rfl, hr⟩ := read?_eq_some_iff.1 hs
  exact fun hkey => h x a r ⟨rfl, ha, hr⟩ hkey hx

/-- No variable with the property `key` stands at the very front. -/
def ClearOf (key : Text → Prop) (s : Text) : Prop :=
  ∀ a r, read? s = some (a, r) → ¬ key a

/-- `Apart`, read off along a scan. -/
inductive Spaced (key : Text → Prop) : Text → Prop
  | nil : Spaced key []
  | name {a r : Text} : isName a = true → EndsName r → ClearOf key r → Spaced key r →
      Spaced key (a ++ r)
  | other {c : Char} {t : Text} : (c = sigil → EndsName t ∧ ClearOf key t) → Spaced key t →
      Spaced key (c :: t)

theorem Apart.spaced (h : Apart key s) : Spaced key s := by
  induction s using Pattern.scan_induction (p := token) with
  | nil => exact .nil
  | item s a r hs ih =>
    obtain ⟨ha, rfl, hr⟩ := read?_eq_some_iff.1 hs
    have htouch : Touching a := .inr ⟨[], a, ha, rfl⟩
    exact .name ha hr (fun b q hb => h.not_key htouch hb) (ih h.of_append)
  | plain c t hs ih =>
    have h' : Apart key ([c] ++ t) := h
    refine .other (fun hc => ⟨read?_eq_none_iff.1 hs hc, fun b q hb => ?_⟩) (ih h'.of_append)
    exact h'.not_key (.inl ⟨[], by rw [hc]; rfl⟩) hb

theorem Spaced.mono (h : Spaced key s) (hkey : ∀ name, key' name → key name) : Spaced key' s := by
  induction h with
  | nil => exact .nil
  | name ha hr hclear _ ih => exact .name ha hr (fun b q hb hb' => hclear b q hb (hkey b hb')) ih
  | other hc _ ih =>
    exact .other (fun h => ⟨(hc h).1, fun b q hb hb' => (hc h).2 b q hb (hkey b hb')⟩) ih

theorem clearOf_true : ClearOf (fun _ => True) s ↔ read? s = none := by
  constructor
  · intro h
    cases hs : read? s with
    | none => rfl
    | some ar => exact absurd trivial (h ar.1 ar.2 hs)
  · intro h a r hs
    rw [h] at hs
    cases hs

theorem Spaced.tail (h : Spaced key (c :: s)) (hc : c ≠ sigil) : Spaced key s := by
  generalize ht : c :: s = t at h
  cases h with
  | nil => cases ht
  | name ha _ _ _ =>
    obtain ⟨run, rfl, -, -⟩ := isName_iff.1 ha
    cases ht
    exact absurd rfl hc
  | other _ h =>
    cases ht
    exact h

theorem Spaced.of_append (hx : sigil ∉ x) (h : Spaced key (x ++ s)) : Spaced key s := by
  induction x with
  | nil => exact h
  | cons c x ih =>
    rw [List.mem_cons, not_or] at hx
    exact ih hx.2 (h.tail (Ne.symm hx.1))

/-- A text ends in a sign or a variable, if it ends in a sign and some name characters. -/
theorem touching_iff {pre : Text} :
    Touching pre ↔ (Text.dropEndWhile isNameChar pre).getLast? = some sigil := by
  unfold Text.dropEndWhile
  rw [List.getLast?_reverse]
  constructor
  · intro h
    -- either way it ends in a sign and a run, which is empty behind a sign alone
    obtain ⟨p, run, rfl, hall⟩ :
        ∃ p run, pre = p ++ sigil :: run ∧ ∀ c ∈ run, isNameChar c = true := by
      rcases h with ⟨p, rfl⟩ | ⟨p, name, hname, rfl⟩
      · exact ⟨p, [], rfl, by simp⟩
      · obtain ⟨run, rfl, -, hall⟩ := isName_iff.1 hname
        exact ⟨p, run, rfl, hall⟩
    have hrun : ∀ c ∈ run.reverse, isNameChar c = true := fun c hc => hall c (List.mem_reverse.1 hc)
    have hsign : EndsName (sigil :: p.reverse) := Text.endsRun_cons.2 isNameChar_sigil
    have h := Text.dropWhile_append_of_endsRun hrun hsign
    simp only [List.reverse_append, List.reverse_cons, List.append_assoc, List.singleton_append, h,
      List.head?_cons]
  · intro h
    obtain ⟨p, hp⟩ := List.head?_eq_some_iff.1 h
    have hpre := List.takeWhile_append_dropWhile (p := isNameChar) (l := pre.reverse)
    have hall := Text.forall_mem_takeWhile isNameChar pre.reverse
    generalize pre.reverse.takeWhile isNameChar = run at hpre hall
    rw [hp] at hpre
    have hpre' : pre = p.reverse ++ sigil :: run.reverse := by
      rw [← List.reverse_reverse pre, ← hpre]; simp
    by_cases hrun : run = []
    · exact .inl ⟨p.reverse, by rw [hpre', hrun]; rfl⟩
    · refine .inr ⟨p.reverse, sigil :: run.reverse, isName_iff.2 ⟨run.reverse, rfl, ?_, ?_⟩, hpre'⟩
      · simpa using hrun
      · exact fun c hc => hall c (List.mem_reverse.1 hc)

instance : DecidablePred Touching := fun _ => decidable_of_iff _ touching_iff.symm

/-- To see that variables stand apart, every place of the text is looked at. -/
theorem apart_iff : Apart key s ↔ ∀ i ∈ List.range s.length, ∀ ar ∈ (read? (s.drop i)).toList,
    key ar.1 → ¬ Touching (s.take i) := by
  constructor
  · rintro h i - ⟨a, r⟩ har hkey
    obtain ⟨ha, hs, hr⟩ := read?_eq_some_iff.1 (Option.mem_toList.1 har)
    exact h (s.take i) a r ⟨by rw [← hs, List.take_append_drop], ha, hr⟩ hkey
  · rintro h pre name post ⟨rfl, hname, hpost⟩ hkey
    have hlen : 0 < name.length := List.length_pos_iff.2 (isName_ne_nil hname)
    have hread := read?_name_append hname hpost
    have := h pre.length (List.mem_range.2 (by simp; omega)) (name, post) (by simp [hread]) hkey
    rwa [List.take_left] at this

instance [DecidablePred key] : Decidable (Apart key s) := decidable_of_iff _ apart_iff.symm

/-! ### One pass, and all of them -/

/-- What a piece becomes: a bound variable turns into the characters of its value. -/
def rewritePiece (f : Text → Option Text) : Piece Text → List (Piece Text)
  | .plain c => [.plain c]
  | .found name =>
    match f name with
    | some value => value.map .plain
    | none => [.found name]

/-- Rewriting does not lengthen a name in front of the text, if no bound variable stands there. -/
theorem endsName_rewrite (hs : EndsName s) (hclear : ClearOf (fun n => (f n).isSome) s) :
    EndsName (rewrite f s) := by
  cases s with
  | nil => simp
  | cons c t =>
    cases h : read? (c :: t) with
    | none => rw [rewrite_of_none h]; exact hs
    | some ar =>
      obtain ⟨a, r⟩ := ar
      have hfa : f a = none := by simpa using hclear a r h
      rw [rewrite_of_some h, hfa]
      exact endsName_of_isName (read?_eq_some_iff.1 h).1 _

/-- **The pieces of a rewritten text** are those of the source, with values for bound variables: a
value neither makes up a variable nor lengthens or cuts one. -/
theorem pieces_rewrite (hf : ∀ name value, f name = some value → sigil ∉ value)
    (hs : Spaced (fun n => (f n).isSome) s) :
    token.pieces (rewrite f s) = (token.pieces s).flatMap (rewritePiece f) := by
  induction hs with
  | nil => simp
  | @name a r ha hr hclear _ ih =>
    have hread := read?_name_append ha hr
    rw [rewrite_of_some hread, token.pieces_of_some hread, List.flatMap_cons, ← ih]
    cases hfa : f a with
    | none =>
      -- no bound variable stands right behind `a`, so no value can lengthen it
      have h : token.read? (a ++ rewrite f r) = some (a, rewrite f r) :=
        read?_name_append ha (endsName_rewrite hr hclear)
      simp only [Option.getD_none, rewritePiece, hfa]
      rw [token.pieces_of_some h, List.singleton_append]
    | some value =>
      simp only [Option.getD_some, rewritePiece, hfa]
      exact Pattern.pieces_append_of_notMem token_startsAt (hf a value hfa) _
  | @other c t hc _ ih =>
    have hread : token.read? (c :: t) = none := read?_eq_none_iff.2 fun h => (hc h).1
    -- nor right behind a sign alone, so no value makes it a variable
    have h : token.read? (c :: rewrite f t) = none :=
      read?_eq_none_iff.2 fun h => endsName_rewrite (hc h).1 (hc h).2
    rw [rewrite_of_none hread, token.pieces_of_none hread, token.pieces_of_none h, ih]
    rfl

/-- The variables of a rewritten text are those of the source without a value. -/
theorem mem_found_rewrite (hf : ∀ name value, f name = some value → sigil ∉ value)
    (hs : Spaced (fun n => (f n).isSome) s) :
    a ∈ token.found (rewrite f s) ↔ a ∈ token.found s ∧ f a = none := by
  unfold Pattern.found
  rw [pieces_rewrite hf hs, List.filterMap_flatMap, List.mem_flatMap, List.mem_filterMap]
  constructor
  · rintro ⟨piece, hpiece, ha⟩
    cases piece with
    | plain c => simp [rewritePiece] at ha
    | found name =>
      cases hfn : f name with
      | some value => simp [rewritePiece, hfn] at ha
      | none =>
        have hname : a = name := by simpa [rewritePiece, hfn] using ha
        exact ⟨⟨.found name, hpiece, by rw [hname]⟩, by rw [hname, hfn]⟩
  · rintro ⟨⟨piece, hpiece, ha⟩, hfa⟩
    cases piece with
    | plain c => cases ha
    | found name =>
      obtain rfl := Option.some.inj ha
      exact ⟨.found name, hpiece, by simp [rewritePiece, hfa]⟩

/-- **One pass** over a rewritten text replaces the mentions of its own variable in the source. -/
theorem substitute_rewrite (hf : ∀ name value, f name = some value → sigil ∉ value)
    (hs : Spaced (fun n => (f n).isSome) s) (b : Binding) :
    substitute b.name b.value (rewrite f s) = rewrite (fun n => (f n).or (lookup [b] n)) s := by
  unfold substitute Pattern.replace
  rw [pieces_rewrite hf hs, List.flatMap_assoc]
  unfold rewrite Pattern.replace
  congr 1
  funext piece
  cases piece with
  | plain c => rfl
  | found name =>
    cases hfn : f name with
    | some value => simp [rewritePiece, hfn, List.flatMap_map]
    | none =>
      by_cases h : b.name = name
      · simp [rewritePiece, hfn, lookup_cons, h]
      · simp [rewritePiece, hfn, lookup_cons, h, Ne.symm h]

theorem rewrite_none (s : Text) : rewrite (fun _ => none) s = s := by
  induction s using Pattern.scan_induction (p := token) with
  | nil => exact rewrite_nil
  | item s a r h ih => rw [rewrite_of_some h, ih]; exact (read?_eq_some_iff.1 h).2.1.symm
  | plain c t h ih => rw [rewrite_of_none h, ih]

/-- **All passes**, over a text that some bindings have rewritten already. -/
theorem substituteAll_rewrite {order : List Binding} (hval : ∀ b ∈ order, sigil ∉ b.value)
    (hf : ∀ name value, f name = some value → sigil ∉ value)
    (hs : Spaced (fun n => ((f n).or (lookup order n)).isSome) s) :
    substituteAll order (rewrite f s) = rewrite (fun n => (f n).or (lookup order n)) s := by
  induction order generalizing f with
  | nil => simp [substituteAll]
  | cons b bs ih =>
    have hsplit : ∀ n, (f n).or (lookup (b :: bs) n) =
        ((f n).or (lookup [b] n)).or (lookup bs n) := by
      intro n
      rw [Option.or_assoc, ← lookup_append, List.singleton_append]
    -- the bindings used so far, and `b`, are values without a sign again
    have hf' : ∀ name value, (f name).or (lookup [b] name) = some value → sigil ∉ value := by
      intro name value h
      rcases Option.or_eq_some_iff.1 h with h | ⟨-, h⟩
      · exact hf name value h
      · obtain rfl := List.mem_singleton.1 (mem_of_lookup h)
        exact hval _ List.mem_cons_self
    have hb : substitute b.name b.value (rewrite f s) = rewrite (fun n => (f n).or (lookup [b] n)) s :=
      substitute_rewrite hf (hs.mono fun n hn => by simp [hn]) b
    simp only [hsplit] at hs ⊢
    rw [← ih (fun b' hb' => hval b' (List.mem_cons_of_mem b hb')) hf' hs, ← hb]
    rfl

/-- Substitution in any order is rewriting by the bindings, where variables stand apart. -/
theorem substituteAll_eq_rewrite {scope : Scope} {order : List Binding}
    (horder : order.Perm scope.bindings) (hval : ∀ b ∈ scope.bindings, sigil ∉ b.value)
    (hs : Spaced (fun n => scope.contains n = true) s) :
    substituteAll order s = rewrite scope.get? s := by
  have hlook : lookup order = scope.get? := funext (lookup_eq_get? horder)
  have hs' : Spaced (fun n => ((none : Option Text).or (lookup order n)).isSome) s := by
    refine hs.mono fun n hn => ?_
    rw [Option.none_or, hlook] at hn
    rw [contains_eq_isSome_get?, hn]
  have h := substituteAll_rewrite (f := fun _ => none)
    (fun b hb => hval b (horder.mem_iff.1 hb)) (fun _ _ h => by cases h) hs'
  rw [rewrite_none] at h
  simpa only [Option.none_or, hlook] using h

/-- **Substitution is simultaneous.** In a text in which no variable of the scope stands directly
behind a sign or behind another variable, and for values without a sign, the passes in every order
give one and the same text: each variable of the scope in its full length replaced by its value, and
all else as it was. -/
theorem substituteAll_eq_iff_resolved (scope : Scope) (hval : ∀ b ∈ scope.bindings, sigil ∉ b.value)
    (hs : Apart (fun name => scope.contains name = true) s) {order : List Binding}
    (horder : order.Perm scope.bindings) (out : Text) :
    substituteAll order s = out ↔ Resolved scope.get? s out := by
  rw [substituteAll_eq_rewrite horder hval hs.spaced, resolved_iff]

/-- Variables without a value may touch anything, and an empty value joins what stood around it. -/
theorem resolved_touching_free :
    Resolved (Scope.ofBindings [⟨"$c".toList, "red".toList⟩, ⟨"$color".toList, []⟩]).get?
      "$$u$v $color;$c$w".toList "$$u$v ;red$w".toList :=
  (substituteAll_eq_iff_resolved _ (by decide) (by decide) (List.reverse_perm _) _).1
    (by decide +kernel)

end Scss.Variable
