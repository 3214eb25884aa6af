import Scss.Disk.Basic
import Scss.Proofs.Bytes
import Scss.Proofs.Tree

/-!
# What the operations on a disk change

Following a path looks only at folders, so it leads to the same place on a disk that still has them
(`locate_mono`). Where a path leads to something that is no folder, its last segment is a name, and
the place in front of that name is a folder (`follow_last`); so what is put there changes this one
entry.

* `Disk.Sets`: one entry of the disk is set; `makeFolder_ok` and `writeBytes_ok`: a new folder and a
  written file are such.
* `Disk.FoldersAdded`: all entries are kept, and further ones are folders to which given paths lead;
  `makeFolders_added`: making a folder with its parents adds folders to which these lead.
-/

namespace Scss.Disk

open Scss.Path

variable {d d' d₁ d₂ : Disk} {root root' : Folder} {place place' other : Place} {p : Text}
  {q segment : Raw} {segments rest : List Raw} {paths : List Text} {bytes : ByteArray}
  {cause : Failure}

/-! ### Following paths -/

/-- The place to which one segment leads. -/
def move (segment : Raw) (place : Place) : Place :=
  if isIdle segment then place
  else if segment = dots then place.dropLast
  else place ++ [segment]

/-- **One step along a path**: it needs a folder to stand in, and a name that is not too long. -/
theorem follow_cons_ok_iff :
    follow root place (segment :: rest) = .ok place' ↔
      root.entryAt place = some .folder ∧ (IsEntryName segment → segment.length ≤ longestName) ∧
        follow root (move segment place) rest = .ok place' := by
  rw [follow]
  unfold Folder.entryAt move IsEntryName
  cases root.at? place with
  | none => simp
  | some node =>
    cases node with
    | file bytes => simp [Node.entry]
    | folder inside =>
      cases hidle : isIdle segment with
      | true => simp [Node.entry]
      | false =>
        by_cases hup : segment = dots
        · simp [Node.entry, hup]
        · by_cases hlen : longestName < segment.length
          · simp [Node.entry, hup, hlen, Nat.not_le.2 hlen]
          · simp [Node.entry, hup, hlen, Nat.not_lt.1 hlen]

/-- **Following looks only at folders**: where they are still there, it leads to the same place. -/
theorem follow_mono (hkeep : ∀ q, root.entryAt q = some .folder → root'.entryAt q = some .folder)
    (h : follow root place segments = .ok place') : follow root' place segments = .ok place' := by
  induction segments generalizing place with
  | nil => exact h
  | cons segment rest ih =>
    obtain ⟨hfolder, hlen, hrest⟩ := follow_cons_ok_iff.1 h
    exact follow_cons_ok_iff.2 ⟨hkeep place hfolder, hlen, ih hrest⟩

theorem follow_append_ok (h : follow root place (segments ++ rest) = .ok place') :
    ∃ mid, follow root place segments = .ok mid ∧ follow root mid rest = .ok place' := by
  induction segments generalizing place with
  | nil => exact ⟨place, rfl, h⟩
  | cons segment more ih =>
    obtain ⟨hfolder, hlen, hmore⟩ := follow_cons_ok_iff.1 h
    obtain ⟨mid, hmid, hrest⟩ := ih hmore
    exact ⟨mid, follow_cons_ok_iff.2 ⟨hfolder, hlen, hmid⟩, hrest⟩

theorem follow_append_of_ok (h : follow root place segments = .ok other)
    (hrest : follow root other rest = .ok place') :
    follow root place (segments ++ rest) = .ok place' := by
  induction segments generalizing place with
  | nil =>
    obtain rfl := Except.ok.inj h
    exact hrest
  | cons segment more ih =>
    obtain ⟨hfolder, hlen, hmore⟩ := follow_cons_ok_iff.1 h
    exact follow_cons_ok_iff.2 ⟨hfolder, hlen, ih hmore⟩

/-- **The last segment** on the way to something that is no folder is a name in a folder. -/
theorem follow_last (h : follow root place (segments ++ [segment]) = .ok place')
    (hfree : root.entryAt place' ≠ some .folder) :
    IsEntryName segment ∧ ∃ parent, root.entryAt parent = some .folder ∧
      place' = parent ++ [segment] := by
  obtain ⟨parent, -, hlast⟩ := follow_append_ok h
  obtain ⟨hfolder, -, hmove⟩ := follow_cons_ok_iff.1 hlast
  have hplace : move segment parent = place' := Except.ok.inj hmove
  unfold move at hplace
  split at hplace
  · -- staying where we are, in a folder
    rw [← hplace] at hfree
    exact absurd hfolder hfree
  next hidle =>
    split at hplace
    · -- what is above a folder is a folder
      rw [← hplace] at hfree
      exact absurd (Folder.entryAt_of_isPrefix (List.dropLast_prefix parent) hfolder) hfree
    next hup => exact ⟨⟨by simpa using hidle, hup⟩, parent, hfolder, hplace.symm⟩

/-- Empty segments lead nowhere, and can be passed in a folder. -/
theorem follow_append_empty (h : follow root place segments = .ok place')
    (hfolder : root.entryAt place' = some .folder) (hrest : ∀ segment ∈ rest, segment = []) :
    follow root place (segments ++ rest) = .ok place' := by
  refine follow_append_of_ok h ?_
  induction rest with
  | nil => rfl
  | cons segment rest ih =>
    obtain rfl := hrest segment List.mem_cons_self
    refine follow_cons_ok_iff.2 ⟨hfolder, fun hname => absurd rfl hname.ne_nil, ?_⟩
    exact ih fun segment hs => hrest segment (List.mem_cons_of_mem [] hs)

theorem findBy_ok_iff :
    d.findBy q segments = .ok place ↔
      refusal? q = none ∧ follow d.root (d.start q) segments = .ok place := by
  unfold findBy
  cases refusal? q <;> simp

/-- The folders of a disk are folders of another one with the same working folder. -/
def KeepsFolders (d d' : Disk) : Prop :=
  d'.here = d.here ∧
    ∀ place, d.root.entryAt place = some .folder → d'.root.entryAt place = some .folder

theorem KeepsFolders.refl (d : Disk) : KeepsFolders d d :=
  ⟨rfl, fun _ h => h⟩

theorem KeepsFolders.trans (h : KeepsFolders d d₁) (h' : KeepsFolders d₁ d₂) :
    KeepsFolders d d₂ :=
  ⟨h'.1.trans h.1, fun place hplace => h'.2 place (h.2 place hplace)⟩

theorem findBy_mono (hkeep : KeepsFolders d d') (h : d.findBy q segments = .ok place) :
    d'.findBy q segments = .ok place := by
  obtain ⟨hq, hfollow⟩ := findBy_ok_iff.1 h
  have hstart : d'.start q = d.start q := by unfold start; rw [hkeep.1]
  refine findBy_ok_iff.2 ⟨hq, ?_⟩
  rw [hstart]
  exact follow_mono hkeep.2 hfollow

theorem locate_mono (hkeep : KeepsFolders d d') (h : d.locate p = .ok place) :
    d'.locate p = .ok place :=
  findBy_mono hkeep h

/-! ### What paths name -/

theorem isFileEntry_iff :
    d.isFileEntry q = true ↔
      ∃ place bytes, d.find q = .ok place ∧ d.root.entryAt place = some (.file bytes) := by
  simp only [Folder.entryAt_eq_file_iff]
  unfold isFileEntry node?
  cases d.find q with
  | error cause => simp
  | ok place =>
    cases hat : d.root.at? place with
    | none => simp [hat]
    | some node => cases node <;> simp [hat]

theorem isFile_iff :
    d.isFile p = true ↔
      ∃ place bytes, d.locate p = .ok place ∧ d.root.entryAt place = some (.file bytes) :=
  isFileEntry_iff

theorem isFolder_iff :
    d.isFolder p = true ↔
      ∃ place, d.locate p = .ok place ∧ d.root.entryAt place = some .folder := by
  simp only [Folder.entryAt_eq_folder_iff]
  unfold isFolder node? locate
  cases d.find p.bytes with
  | error cause => simp
  | ok place =>
    cases hat : d.root.at? place with
    | none => simp [hat]
    | some node => cases node <;> simp [hat]

/-! ### Setting one entry -/

/-- The second disk is the first with the entry at one place set, where no folder was. -/
structure Sets (d d' : Disk) (place : Place) (entry : Entry) : Prop where
  here : d'.here = d.here
  free : d.root.entryAt place ≠ some .folder
  entry : ∀ other,
    d'.root.entryAt other = if other = place then some entry else d.root.entryAt other

theorem Sets.keepsFolders {entry : Entry} (h : Sets d d' place entry) : KeepsFolders d d' := by
  refine ⟨h.here, fun q hq => ?_⟩
  have hne : q ≠ place := by
    rintro rfl
    exact h.free hq
  rw [h.entry, if_neg hne, hq]

theorem put_sets {node : Node} (hnode : node.Bare) (hparent : d.root.entryAt place = some .folder)
    (hfree : d.root.entryAt (place ++ [segment]) ≠ some .folder) :
    Sets d (d.put (place ++ [segment]) node) (place ++ [segment]) node.entry where
  here := rfl
  free := hfree
  entry := Folder.entryAt_put hnode hparent hfree

/-- The path ends in a name, under which something that is no folder, or nothing, is found. -/
theorem locate_last (h : d.locate p = .ok place) (hfree : d.root.entryAt place ≠ some .folder) :
    ∃ init segment parent, Path.segments p = init ++ [segment] ∧ IsEntryName segment ∧
      d.root.entryAt parent = some .folder ∧ place = parent ++ [Text.bytes segment] := by
  obtain ⟨-, hfollow⟩ := findBy_ok_iff.1 h
  have hsegments := (List.dropLast_concat_getLast (segments_ne_nil p)).symm
  rw [Text.segments_bytes, hsegments, List.map_append, List.map_singleton] at hfollow
  obtain ⟨hname, parent, hparent, hplace⟩ := follow_last hfollow hfree
  exact ⟨_, _, parent, hsegments, Text.isEntryName_bytes_iff.1 hname, hparent, hplace⟩

/-- **Writing a file** sets its entry and no other. -/
theorem writeBytes_ok (h : d.writeBytes p bytes = .ok d') :
    ∃ place, d.locate p = .ok place ∧ Sets d d' place (.file bytes) := by
  unfold writeBytes at h
  cases hlocate : d.locate p with
  | error cause => simp [hlocate] at h
  | ok place =>
    have hfree : d.root.entryAt place ≠ some .folder := by
      intro hfolder
      obtain ⟨inside, hat⟩ := Folder.entryAt_eq_folder_iff.1 hfolder
      simp [hlocate, hat] at h
    have hput : d' = d.put place (.file bytes) := by
      simp only [hlocate] at h
      split at h
      · cases h
      · exact (Except.ok.inj h).symm
    obtain ⟨-, segment, parent, -, -, hparent, rfl⟩ := locate_last hlocate hfree
    rw [hput]
    exact ⟨_, rfl, put_sets (.file bytes) hparent hfree⟩

/-- **Reading a file** tells its bytes. -/
theorem read_ok {text : Text} (h : d.read p = .ok text) :
    ∃ place, d.locate p = .ok place ∧ d.root.entryAt place = some (.file (encode text)) := by
  unfold read at h
  cases hlocate : d.locate p with
  | error cause => simp [hlocate] at h
  | ok place =>
    refine ⟨place, rfl, Folder.entryAt_eq_file_iff.2 ?_⟩
    simp only [hlocate] at h
    split at h
    · cases h
    · cases h
    next bytes hat =>
      rw [hat]
      unfold String.fromUTF8? at h
      by_cases hvalid : bytes.IsValidUTF8
      · simp only [hvalid, dif_pos] at h
        obtain rfl := Except.ok.inj h
        unfold encode Text.str
        rw [String.ofList_toList]
        rfl
      · simp [hvalid] at h

/-! ### Making folders -/

theorem segments_eq_withoutEnd (q : Raw) :
    ∃ rest, Path.segments q = withoutEnd q ++ rest ∧ ∀ segment ∈ rest, segment = [] := by
  refine ⟨((Path.segments q).reverse.takeWhile List.isEmpty).reverse, ?_, fun segment hs => ?_⟩
  · unfold withoutEnd
    rw [← List.reverse_append, List.takeWhile_append_dropWhile, List.reverse_reverse]
  · have hempty := List.all_eq_true.1 List.all_takeWhile segment (List.mem_reverse.1 hs)
    exact List.isEmpty_iff.1 hempty

theorem withoutEnd_ne_nil (hq : q ≠ []) (habs : isAbsolute q = false) : withoutEnd q ≠ [] := by
  obtain ⟨rest, hsegments, hrest⟩ := segments_eq_withoutEnd q
  intro hnil
  rw [hnil, List.nil_append] at hsegments
  cases q with
  | nil => exact hq rfl
  | cons c s =>
    have hc : c ≠ separator := by simpa [isAbsolute] using habs
    obtain ⟨first, l, hs⟩ := exists_segments s
    rw [segments_cons hc hs] at hsegments
    have := hrest (c :: first) (hsegments ▸ List.mem_cons_self)
    cases this

/-- **Making a folder** sets its entry where there was none, and the path leads there. -/
theorem makeFolder_ok (h : d.makeFolder p = .ok d') :
    ∃ place, d.root.entryAt place = none ∧ Sets d d' place .folder ∧ d'.locate p = .ok place := by
  unfold makeFolder at h
  cases hlocate : d.findBy p.bytes (withoutEnd p.bytes) with
  | error cause => simp [hlocate] at h
  | ok place =>
    have hat : d.root.at? place = none := by
      cases hat : d.root.at? place with
      | none => rfl
      | some node => simp [hlocate, hat] at h
    have hput : d' = d.put place (.folder .empty) := by
      simp only [hlocate, hat] at h
      exact (Except.ok.inj h).symm
    have hnone := Folder.entryAt_eq_none_iff.2 hat
    have hfree : d.root.entryAt place ≠ some .folder := by rw [hnone]; simp
    obtain ⟨hp, hfollow⟩ := findBy_ok_iff.1 hlocate
    -- the path has a last name, since the root itself is not free
    have hne : withoutEnd p.bytes ≠ [] := by
      intro hnil
      rw [hnil] at hfollow
      have hplace : d.start p.bytes = place := Except.ok.inj hfollow
      unfold start at hplace
      split at hplace
      · rw [← hplace, Folder.entryAt_nil] at hnone
        cases hnone
      next habs =>
        have hbytes : p.bytes ≠ [] := by
          intro hempty
          rw [hempty] at hp
          cases hp
        exact withoutEnd_ne_nil hbytes (by simpa using habs) hnil
    rw [← List.dropLast_concat_getLast hne] at hfollow
    obtain ⟨-, parent, hparent, rfl⟩ := follow_last hfollow hfree
    have hsets := put_sets .folder hparent hfree
    rw [← hput] at hsets
    refine ⟨_, hnone, hsets, ?_⟩
    -- there is a folder now, so the empty segments at the end can be followed too
    obtain ⟨rest, hsegments, hrest⟩ := segments_eq_withoutEnd p.bytes
    obtain ⟨-, hfollow'⟩ := findBy_ok_iff.1 (findBy_mono hsets.keepsFolders hlocate)
    refine findBy_ok_iff.2 ⟨hp, ?_⟩
    rw [hsegments]
    exact follow_append_empty hfollow' (by rw [hsets.entry, if_pos rfl]; rfl) hrest

/-- The second disk has the entries of the first, and besides only folders to which one of the paths
leads. -/
structure FoldersAdded (paths : List Text) (d d' : Disk) : Prop where
  here : d'.here = d.here
  entry : ∀ place, d'.root.entryAt place = d.root.entryAt place ∨
    d.root.entryAt place = none ∧ d'.root.entryAt place = some .folder ∧
      ∃ p ∈ paths, d'.locate p = .ok place

namespace FoldersAdded

theorem refl (paths : List Text) (d : Disk) : FoldersAdded paths d d :=
  ⟨rfl, fun _ => .inl rfl⟩

theorem keeps {entry : Entry} (h : FoldersAdded paths d d')
    (hentry : d.root.entryAt place = some entry) : d'.root.entryAt place = some entry := by
  rcases h.entry place with heq | ⟨hnone, -, -⟩
  · rw [heq, hentry]
  · rw [hnone] at hentry
    cases hentry

theorem keepsFolders (h : FoldersAdded paths d d') : KeepsFolders d d' :=
  ⟨h.here, fun _ hfolder => h.keeps hfolder⟩

theorem mono {paths' : List Text} (h : FoldersAdded paths d d') (hsub : ∀ p ∈ paths, p ∈ paths') :
    FoldersAdded paths' d d' := by
  refine ⟨h.here, fun q => (h.entry q).imp id ?_⟩
  rintro ⟨hnone, hfolder, p, hp, hlocate⟩
  exact ⟨hnone, hfolder, p, hsub p hp, hlocate⟩

theorem trans (h : FoldersAdded paths d d₁) (h' : FoldersAdded paths d₁ d₂) :
    FoldersAdded paths d d₂ := by
  refine ⟨h'.here.trans h.here, fun q => ?_⟩
  rcases h.entry q with heq | ⟨hnone, hfolder, p, hp, hlocate⟩
  · rw [← heq]
    exact h'.entry q
  · exact .inr ⟨hnone, h'.keepsFolders.2 q hfolder, p, hp, locate_mono h'.keepsFolders hlocate⟩

end FoldersAdded

theorem ensureFolder_added (d : Disk) (hp : p ∈ paths) :
    FoldersAdded paths d (d.ensureFolder p).1 := by
  unfold ensureFolder
  cases hmake : d.makeFolder p with
  | error cause => exact .refl paths d
  | ok d' =>
    obtain ⟨place, hnone, hsets, hlocate⟩ := makeFolder_ok hmake
    refine ⟨hsets.here, fun q => ?_⟩
    by_cases hq : q = place
    · subst hq
      exact .inr ⟨hnone, by rw [hsets.entry, if_pos rfl], p, hp, hlocate⟩
    · exact .inl (by rw [hsets.entry, if_neg hq])

theorem makeFoldersAlong_added (d : Disk) (p : Text) (parents : List Text) :
    FoldersAdded (p :: parents) d (d.makeFoldersAlong p parents).1 := by
  fun_induction makeFoldersAlong d p parents with
  | case1 p parents _ => exact .refl _ d
  | case2 p _ _ => exact .refl _ d
  | case3 p _ parent further _ d₁ hparents ih =>
    -- first the parents, then the folder itself
    rw [hparents] at ih
    have hfirst : FoldersAdded (p :: parent :: further) d d₁ :=
      ih.mono fun q hq => List.mem_cons_of_mem p hq
    exact hfirst.trans (ensureFolder_added d₁ List.mem_cons_self)
  | case4 p _ parent further _ _ ih => exact ih.mono fun q hq => List.mem_cons_of_mem p hq
  | case5 p parents _ _ _ => exact ensureFolder_added d List.mem_cons_self

/-- **Making a folder with its parents** adds folders to which these paths lead, whether it succeeds or
not, and changes nothing else. -/
theorem makeFolders_added (d : Disk) (p : Text) :
    FoldersAdded (p :: parents p) d (d.makeFolders p).1 :=
  makeFoldersAlong_added d p (parents p)

/-! ### Writing behind making folders -/

/-- The second disk is the first with a file at the place to which the path `q` leads, where no folder
was, and besides only with further folders to which parents of `q` lead. -/
structure Wrote (q : Text) (bytes : ByteArray) (place : Place) (d d' : Disk) : Prop where
  here : d'.here = d.here
  free : d.root.entryAt place ≠ some .folder
  leads : d'.locate q = .ok place
  holds : d'.root.entryAt place = some (.file bytes)
  others : ∀ other, other ≠ place → d'.root.entryAt other = d.root.entryAt other ∨
    d.root.entryAt other = none ∧ d'.root.entryAt other = some .folder ∧
      ∃ p ∈ parents q, d'.locate p = .ok other

theorem FoldersAdded.wrote {q : Text} (hadded : FoldersAdded (parents q) d d₁)
    (hsets : Sets d₁ d' place (.file bytes)) (hleads : d'.locate q = .ok place) :
    Wrote q bytes place d d' := by
  have hfree : d.root.entryAt place ≠ some .folder :=
    fun hfolder => hsets.free (hadded.keeps hfolder)
  refine ⟨hsets.here.trans hadded.here, hfree, hleads, by rw [hsets.entry, if_pos rfl], ?_⟩
  intro other hother
  rw [hsets.entry, if_neg hother]
  rcases hadded.entry other with heq | ⟨hnone, hfolder, p, hp, hlocate⟩
  · exact .inl heq
  · exact .inr ⟨hnone, hfolder, p, hp, locate_mono hsets.keepsFolders hlocate⟩

namespace Wrote

variable {q : Text}

theorem keeps {entry : Entry} (h : Wrote q bytes place d d') (hother : other ≠ place)
    (hentry : d.root.entryAt other = some entry) : d'.root.entryAt other = some entry := by
  rcases h.others other hother with heq | ⟨hnone, -, -⟩
  · rw [heq, hentry]
  · rw [hnone] at hentry
    cases hentry

theorem keepsFolders (h : Wrote q bytes place d d') : KeepsFolders d d' := by
  refine ⟨h.here, fun other hfolder => h.keeps ?_ hfolder⟩
  rintro rfl
  exact h.free hfolder

end Wrote

end Scss.Disk
