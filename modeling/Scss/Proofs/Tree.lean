import Scss.Disk.Folder

/-!
# Trees seen from outside

`Folder.entryAt` tells what stands at a place, a file with its bytes or a folder, without looking into
folders. In this view something bare that is put at a free place of a folder, or in place of a file,
changes the entry there and no other (`entryAt_put`); places above stay folders, and below there was
nothing and is nothing.
-/

namespace Scss

/-- An entry seen from outside. -/
inductive Entry where
  | file (bytes : ByteArray)
  | folder

/-- Files are compared by the lists of their bytes. -/
instance : DecidableEq Entry
  | .file a, .file b =>
    decidable_of_iff (a.data = b.data) (by rw [Entry.file.injEq, ByteArray.ext_iff])
  | .file _, .folder => isFalse Entry.noConfusion
  | .folder, .file _ => isFalse Entry.noConfusion
  | .folder, .folder => isTrue rfl

namespace Node

def entry : Node → Entry
  | file bytes => .file bytes
  | folder _ => .folder

/-- A file, or a folder with nothing in it. -/
inductive Bare : Node → Prop
  | file (bytes : ByteArray) : Bare (.file bytes)
  | folder : Bare (.folder .empty)

end Node

namespace Folder

variable {f inside : Folder} {name : Raw} {names place other : Place} {node : Node}
  {bytes : ByteArray}

/-- What stands at a place, without what is inside it. -/
def entryAt (f : Folder) (place : Place) : Option Entry :=
  (f.at? place).map Node.entry

@[simp] theorem entryAt_nil (f : Folder) : f.entryAt [] = some .folder := by
  simp [entryAt, at?, Node.entry]

theorem entryAt_eq_file_iff :
    f.entryAt place = some (.file bytes) ↔ f.at? place = some (.file bytes) := by
  unfold entryAt
  cases f.at? place with
  | none => simp
  | some node => cases node <;> simp [Node.entry]

theorem entryAt_eq_folder_iff :
    f.entryAt place = some .folder ↔ ∃ inside, f.at? place = some (.folder inside) := by
  unfold entryAt
  cases f.at? place with
  | none => simp
  | some node => cases node <;> simp [Node.entry]

theorem entryAt_eq_none_iff : f.entryAt place = none ↔ f.at? place = none := by
  simp [entryAt]

theorem at?_cons_of_folder (h : f.get? name = some (.folder inside)) (names : Place) :
    f.at? (name :: names) = inside.at? names := by
  simp only [at?, h]

theorem entryAt_cons_of_folder (h : f.get? name = some (.folder inside)) (names : Place) :
    f.entryAt (name :: names) = inside.entryAt names := by
  unfold entryAt
  rw [at?_cons_of_folder h]

/-- Below something that is no folder there is nothing. -/
theorem entryAt_cons_of_bare (h : ∀ inside, f.get? name = some (.folder inside) → inside = empty)
    (names : Place) :
    f.entryAt (name :: names) = if names = [] then (f.get? name).map Node.entry else none := by
  unfold entryAt
  cases hget : f.get? name with
  | none => cases names <;> simp [at?, hget]
  | some node =>
    cases node with
    | file bytes => cases names <;> simp [at?, hget]
    | folder inside =>
      obtain rfl := h inside hget
      cases names <;> simp [at?, hget, get?, Node.entry]

theorem get?_of_at?_cons (h : f.at? (name :: names) = some (.folder inside)) :
    ∃ g, f.get? name = some (.folder g) ∧ g.at? names = some (.folder inside) := by
  cases hget : f.get? name with
  | none => simp [at?, hget] at h
  | some node =>
    cases node with
    | file bytes => cases names <;> simp [at?, hget] at h
    | folder g => exact ⟨g, rfl, by rwa [at?_cons_of_folder hget] at h⟩

/-- Every place on the way to a folder is a folder. -/
theorem entryAt_of_isPrefix (hpre : other <+: place) (h : f.entryAt place = some .folder) :
    f.entryAt other = some .folder := by
  induction other generalizing f place with
  | nil => exact entryAt_nil f
  | cons name names ih =>
    obtain ⟨rest, rfl⟩ := hpre
    obtain ⟨inside, hat⟩ := entryAt_eq_folder_iff.1 h
    obtain ⟨g, hget, hg⟩ := get?_of_at?_cons hat
    rw [entryAt_cons_of_folder hget]
    exact ih (List.prefix_append names rest) (entryAt_eq_folder_iff.2 ⟨inside, hg⟩)

theorem entryAt_set_of_ne {n : Raw} (hn : name ≠ n) (ns : Place) :
    (f.set name node).entryAt (n :: ns) = f.entryAt (n :: ns) := by
  have hget : (f.set name node).get? n = f.get? n := by rw [get?_set, if_neg hn]
  unfold entryAt at?
  rw [hget]

theorem entryAt_set (hnode : node.Bare) (hfree : f.entryAt [name] ≠ some .folder) (other : Place) :
    (f.set name node).entryAt other =
      if other = [name] then some node.entry else f.entryAt other := by
  cases other with
  | nil => simp
  | cons n ns =>
    by_cases hn : name = n
    · subst hn
      have hset : (f.set name node).get? name = some node := by rw [get?_set, if_pos rfl]
      -- before and after there is nothing below the name
      have hnew : ∀ g, (f.set name node).get? name = some (.folder g) → g = empty := by
        intro g hg
        rw [hset] at hg
        obtain rfl := Option.some.inj hg
        cases hnode
        rfl
      have hold : ∀ g, f.get? name = some (.folder g) → g = empty := by
        intro g hg
        exact absurd (by rw [entryAt_cons_of_folder hg, entryAt_nil]) hfree
      rw [entryAt_cons_of_bare hnew, entryAt_cons_of_bare hold, hset]
      cases ns <;> simp
    · have hne : n :: ns ≠ [name] := fun h => hn (List.cons.inj h).1.symm
      rw [if_neg hne, entryAt_set_of_ne hn]

/-- **Putting something bare** into a folder, where no folder is, changes the entry at its place and
no other. -/
theorem entryAt_put (hnode : node.Bare) (hparent : f.entryAt place = some .folder)
    (hfree : f.entryAt (place ++ [name]) ≠ some .folder) (other : Place) :
    (f.put node (place ++ [name])).entryAt other =
      if other = place ++ [name] then some node.entry else f.entryAt other := by
  induction place generalizing f other with
  | nil => exact entryAt_set hnode hfree other
  | cons m ms ih =>
    obtain ⟨inside, hat⟩ := entryAt_eq_folder_iff.1 hparent
    -- the way leads through the folder `g`, which is set again with the change made inside it
    obtain ⟨g, hget, hg⟩ := get?_of_at?_cons hat
    rw [List.cons_append, entryAt_cons_of_folder hget] at hfree
    have hput : f.put node (m :: ms ++ [name]) = f.set m (.folder (g.put node (ms ++ [name]))) := by
      rw [List.cons_append, put, hget]
      simp
    rw [hput]
    cases other with
    | nil => simp
    | cons n ns =>
      by_cases hn : m = n
      · subst hn
        have hset : (f.set m (.folder (g.put node (ms ++ [name])))).get? m =
            some (.folder (g.put node (ms ++ [name]))) := by rw [get?_set, if_pos rfl]
        rw [entryAt_cons_of_folder hset, entryAt_cons_of_folder hget,
          ih (entryAt_eq_folder_iff.2 ⟨inside, hg⟩) hfree]
        simp
      · have hne : n :: ns ≠ m :: ms ++ [name] := fun h => hn (List.cons.inj h).1.symm
        rw [if_neg hne, entryAt_set_of_ne hn]

end Folder

end Scss
