import Scss.Proofs.Build
import Scss.Proofs.Walk

/-!
# Which stylesheets the inputs stand for

A path that goes on by names leads down by these names from the place to which it led so far
(`follow_join_ok_iff`, `follow_below`). So what a path names that was come to on a walk is what lies at
these names below the place of the folder, unless the whole path is too long to be followed
(`isFileEntry_below_iff`). Collecting stylesheets asks the disk and changes nothing, hence every input
stands for the same as it would alone (`collect_answer`).

Nothing is assumed of the walk but that it is one in pre-order (`Disk.WalksInOrder`). What is collected
are texts, which tell the paths only where these are texts themselves (`collect_loses_paths`).

* `Inputs.collect_finds_stylesheets`: each stylesheet below a folder is found once, in order.
-/

namespace Scss

open Scss.Path

namespace Disk

variable {d : Disk} {root : Folder} {start place place' names : Place} {p name : Raw}

/-! ### Following a path down from a folder -/

/-- An empty segment at the end makes no difference. -/
theorem follow_concat_nil_iff {init : List Raw} (hfolder : root.entryAt place = some .folder) :
    follow root start (init ++ [[]]) = .ok place ↔ follow root start init = .ok place := by
  constructor
  · intro h
    obtain ⟨mid, hmid, hlast⟩ := follow_append_ok h
    obtain ⟨-, -, hplace⟩ := follow_cons_ok_iff.1 hlast
    obtain rfl : mid = place := Except.ok.inj hplace
    exact hmid
  · intro h
    exact follow_append_empty h hfolder (by simp)

theorem move_of_isEntryName (hname : IsEntryName name) (place : Place) :
    move name place = place ++ [name] := by
  unfold move
  rw [hname.1, if_neg hname.2]
  rfl

/-- **One step down**: a name that is joined to a path leads from the folder there to an entry. -/
theorem follow_join_ok_iff (hp : p ≠ []) (hname : Folder.IsName name) :
    follow root start (segments (join p name)) = .ok place' ↔
      ∃ place, follow root start (segments p) = .ok place ∧ root.entryAt place = some .folder ∧
        place' = place ++ [name] := by
  obtain ⟨⟨hentry, hsep⟩, -, hlength⟩ := hname
  obtain ⟨init, -, hjoin, hbase⟩ := segments_join hp hsep
  have hsame : ∀ {place}, root.entryAt place = some .folder →
      (follow root start (segments p) = .ok place ↔ follow root start init = .ok place) := by
    intro place hfolder
    rcases hbase with hbase | hbase
    · rw [hbase]
    · rw [hbase, follow_concat_nil_iff hfolder]
  rw [hjoin]
  constructor
  · intro h
    obtain ⟨place, hplace, hlast⟩ := follow_append_ok h
    obtain ⟨hfolder, -, hend⟩ := follow_cons_ok_iff.1 hlast
    have heq : move name place = place' := Except.ok.inj hend
    rw [move_of_isEntryName hentry] at heq
    exact ⟨place, (hsame hfolder).2 hplace, hfolder, heq.symm⟩
  · rintro ⟨place, hplace, hfolder, rfl⟩
    refine follow_append_of_ok ((hsame hfolder).1 hplace) (follow_cons_ok_iff.2 ⟨hfolder, ?_, ?_⟩)
    · exact fun _ => hlength
    · rw [move_of_isEntryName hentry]
      rfl

/-- A path that goes on by names leads to no other place than these names do. -/
theorem follow_below_ok (hp : p ≠ []) (hnames : ∀ name ∈ names, Folder.IsName name)
    (h : follow root start (segments (below p names)) = .ok place') :
    ∃ place, follow root start (segments p) = .ok place ∧ place' = place ++ names := by
  induction names generalizing p with
  | nil => exact ⟨place', h, by simp⟩
  | cons name names ih =>
    have hname := hnames name List.mem_cons_self
    have hrest : ∀ n ∈ names, Folder.IsName n := fun n hn => hnames n (List.mem_cons_of_mem name hn)
    obtain ⟨mid, hmid, rfl⟩ := ih (join_ne_nil hname.1.ne_nil p) hrest h
    obtain ⟨place, hplace, -, rfl⟩ := (follow_join_ok_iff hp hname).1 hmid
    exact ⟨place, hplace, by simp⟩

/-- It leads there if something is there. -/
theorem follow_below (hp : p ≠ []) (hnames : ∀ name ∈ names, Folder.IsName name)
    (hplace : follow root start (segments p) = .ok place)
    (hthere : root.entryAt (place ++ names) ≠ none) :
    follow root start (segments (below p names)) = .ok (place ++ names) := by
  induction names generalizing p place with
  | nil => rwa [List.append_nil]
  | cons name names ih =>
    have hname := hnames name List.mem_cons_self
    have hfolder : root.entryAt place = some .folder := Folder.entryAt_of_append hthere
    have hstep : follow root start (segments (join p name)) = .ok (place ++ [name]) :=
      (follow_join_ok_iff hp hname).2 ⟨place, hplace, hfolder, rfl⟩
    rw [List.append_cons] at hthere ⊢
    exact ih (join_ne_nil hname.1.ne_nil p) (fun n hn => hnames n (List.mem_cons_of_mem name hn))
      hstep hthere

theorem start_join (d : Disk) (hp : p ≠ []) (hname : IsFileName name) :
    d.start (join p name) = d.start p := by
  obtain ⟨c, s, rfl⟩ := List.exists_cons_of_ne_nil hp
  have habs : isAbsolute (join (c :: s) name) = isAbsolute (c :: s) := by
    unfold join
    rw [isAbsolute_of_notMem hname.2]
    simp only [Bool.false_eq_true, if_false]
    split <;> rfl
  unfold start
  rw [habs]

theorem start_below (d : Disk) (hp : p ≠ []) (hnames : ∀ name ∈ names, Folder.IsName name) :
    d.start (below p names) = d.start p := by
  induction names generalizing p with
  | nil => rfl
  | cons name names ih =>
    have hname := (hnames name List.mem_cons_self).1
    have hrest := ih (join_ne_nil hname.ne_nil p) fun n hn => hnames n (List.mem_cons_of_mem name hn)
    exact hrest.trans (d.start_join hp hname)

theorem refusal?_eq_none_iff : refusal? p = none ↔ 0 ∉ p ∧ p ≠ [] ∧ p.length ≤ longestPath := by
  unfold refusal?
  by_cases hnul : 0 ∈ p
  · simp [hnul]
  · by_cases hnil : p = []
    · simp [hnil]
    · by_cases hlength : longestPath < p.length
      · simp [hnul, hnil, hlength, Nat.not_le.2 hlength]
      · simp [hnul, hnil, hlength, Nat.not_lt.1 hlength]

/-- A path that goes on by names is refused only if it becomes too long. -/
theorem refusal?_below_iff (hp : refusal? p = none) (hnames : ∀ name ∈ names, Folder.IsName name) :
    refusal? (below p names) = none ↔ (below p names).length ≤ longestPath := by
  obtain ⟨hnul, hne, -⟩ := refusal?_eq_none_iff.1 hp
  have hbelow : 0 ∉ below p names ∧ below p names ≠ [] := by
    clear hp
    induction names generalizing p with
    | nil => exact ⟨hnul, hne⟩
    | cons name names ih =>
      have hname := hnames name List.mem_cons_self
      refine ih (fun n hn => hnames n (List.mem_cons_of_mem name hn)) (fun hmem => ?_)
        (join_ne_nil hname.1.ne_nil p)
      rcases mem_join hmem with h | h | h
      · exact hnul h
      · exact absurd h (by decide)
      · exact hname.2.1 h
  rw [refusal?_eq_none_iff]
  exact ⟨fun h => h.2.2, fun h => ⟨hbelow.1, hbelow.2, h⟩⟩

/-- **What a path names that goes on by names** from the path of a folder: the file at these names
below it, unless the path is too long. -/
theorem isFileEntry_below_iff (hplace : d.find p = .ok place)
    (hnames : ∀ name ∈ names, Folder.IsName name) :
    d.isFileEntry (below p names) = true ↔
      (∃ bytes, d.root.entryAt (place ++ names) = some (.file bytes)) ∧
        (below p names).length ≤ longestPath := by
  obtain ⟨hrefusal, hfollow⟩ := findBy_ok_iff.1 hplace
  have hp : p ≠ [] := (refusal?_eq_none_iff.1 hrefusal).2.1
  rw [isFileEntry_iff, ← refusal?_below_iff hrefusal hnames]
  unfold find
  simp only [findBy_ok_iff, d.start_below hp hnames]
  constructor
  · rintro ⟨place', bytes, ⟨hq, hfollow'⟩, hfile⟩
    obtain ⟨place₁, hplace₁, rfl⟩ := follow_below_ok hp hnames hfollow'
    obtain rfl : place₁ = place := Except.ok.inj (hplace₁.symm.trans hfollow)
    exact ⟨⟨bytes, hfile⟩, hq⟩
  · rintro ⟨⟨bytes, hfile⟩, hq⟩
    have hthere : d.root.entryAt (place ++ names) ≠ none := by
      rw [hfile]
      simp
    exact ⟨place ++ names, bytes, ⟨hq, follow_below hp hnames hfollow hthere⟩, hfile⟩

/-! ### Walking from the path of a folder -/

/-- Folders of the disk are walked through in pre-order, siblings in the order of their names. -/
def WalksInOrder (walk : Disk → Bool → Text → List Raw) (d : Disk) : Prop :=
  ∀ deep input place inside, d.locate input = .ok place → d.root.at? place = some (.folder inside) →
    Folder.Walks deep input.bytes inside (walk d deep input)

theorem walksInOrder_walk (hroot : d.root.Proper) : WalksInOrder walk d := by
  intro deep input place inside hplace hinside
  have hwalk : d.walk deep input = inside.walk deep input.bytes := by
    unfold locate at hplace
    unfold walk node?
    rw [hplace]
    simp only [hinside]
  rw [hwalk]
  exact Folder.walks_walk (hroot.of_at? hinside).2 deep input.bytes

end Disk

namespace Inputs

open Disk

variable {walk : Disk → Bool → Text → List Raw} {d : Disk} {place names : Place} {input : Text}
  {base q : Raw} {l : List Raw} {deep : Bool}

/-! ### What an input stands for -/

/-- The paths of stylesheets that a walk through a folder comes to. -/
def paths (walk : Disk → Bool → Text → List Raw) (d : Disk) (deep : Bool) (input : Text) : List Raw :=
  (walk d deep input).filter fun q => d.isFileEntry q && isStylesheet q

/-- The stylesheets that an input stands for on a disk. -/
def stylesheets (walk : Disk → Bool → Text → List Raw) (d : Disk) (deep : Bool) (input : Text) :
    List Text :=
  if d.isFolder input then (paths walk d deep input).map Raw.lossy else [input]

theorem notePartial_disk (s : Session) (path : Text) :
    ((notePartial (Session.walking walk) path).run s).2.disk = s.disk := by
  unfold notePartial
  split <;> rfl

theorem stylesheetsAmong_answer (s : Session) (entries : List Raw) :
    ((stylesheetsAmong (Session.walking walk) entries).run s).1 =
      (entries.filter fun q => s.disk.isFileEntry q && isStylesheet q).map Raw.lossy := by
  induction entries generalizing s with
  | nil => rfl
  | cons entry rest ih =>
    let machine := Session.walking walk
    have hrun : (stylesheetsAmong machine (entry :: rest)).run s =
        (if (s.disk.isFileEntry entry && isStylesheet entry) = true then do
          notePartial machine entry.lossy
          return entry.lossy :: (← stylesheetsAmong machine rest)
        else stylesheetsAmong machine rest).run s := rfl
    rw [hrun, List.filter_cons]
    split
    · have hrest := ih ((notePartial machine entry.lossy).run s).2
      rw [notePartial_disk] at hrest
      rw [List.map_cons, ← hrest]
      rfl
    · exact ih s

theorem expand_answer (s : Session) (deep : Bool) (input : Text) :
    ((expand (Session.walking walk) deep input).run s).1 = stylesheets walk s.disk deep input := by
  have hask : ((Session.walking walk).isFolder input).run s = (s.disk.isFolder input, s) := rfl
  unfold expand stylesheets
  rw [StateT.run_bind, hask]
  cases s.disk.isFolder input with
  | false => rfl
  | true => exact stylesheetsAmong_answer s (walk s.disk deep input)

theorem keeps_disk_expand (deep : Bool) (input : Text) :
    Keeps Session.disk (expand (Session.walking walk) deep input) :=
  expand_composes (keeps_composes _) (Session.keeps_ask _) (fun _ _ => rfl) deep input

/-- **Every input stands for the same as it would alone.** -/
theorem collect_answer (s : Session) (deep : Bool) (inputs : List Text) :
    ((collect (Session.walking walk) deep inputs).run s).1 =
      inputs.flatMap (stylesheets walk s.disk deep) := by
  induction inputs generalizing s with
  | nil => rfl
  | cons input rest ih =>
    have hrest := ih ((expand (Session.walking walk) deep input).run s).2
    rw [keeps_disk_expand deep input s] at hrest
    rw [List.flatMap_cons, ← expand_answer, ← hrest]
    rfl

theorem collect_singleton (s : Session) (deep : Bool) (input : Text) :
    ((collect (Session.walking walk) deep [input]).run s).1 = stylesheets walk s.disk deep input := by
  rw [collect_answer, List.flatMap_singleton]

theorem collect_folder {s : Session} (hplace : s.disk.locate input = .ok place)
    (hfolder : s.disk.root.entryAt place = some .folder) :
    ((collect (Session.walking walk) deep [input]).run s).1 =
      (paths walk s.disk deep input).map Raw.lossy := by
  rw [collect_singleton, stylesheets, if_pos (isFolder_iff.2 ⟨place, hplace, hfolder⟩)]

theorem nodup_of_ascending (h : l.Pairwise fun x y => components x < components y) : l.Nodup := by
  refine h.imp fun {x y} hlt heq => ?_
  rw [heq] at hlt
  exact List.lt_irrefl _ hlt

/-- Lists in strict order are equal if they have the same members. -/
theorem eq_of_ascending {l' : List Raw} (h : l.Pairwise fun x y => components x < components y)
    (h' : l'.Pairwise fun x y => components x < components y) (hmem : ∀ q, q ∈ l ↔ q ∈ l') :
    l = l' := by
  have hperm : l.Perm l' :=
    (List.perm_ext_iff_of_nodup (nodup_of_ascending h) (nodup_of_ascending h')).2 hmem
  exact hperm.eq_of_pairwise (fun _ _ _ _ hlt hgt => absurd hgt (List.lt_asymm hlt)) h h'

/-- Whether a path lies directly in a folder. -/
def isDirectlyIn (folder q : Raw) : Bool :=
  (parent? q).any fun dir => same dir folder

theorem isDirectlyIn_below_iff (hne : names ≠ []) (hnames : ∀ name ∈ names, IsFileName name) :
    isDirectlyIn base (below base names) = true ↔ names.length = 1 := by
  obtain ⟨init, name, rfl⟩ : ∃ init name, names = init ++ [name] :=
    ⟨_, _, (List.dropLast_concat_getLast hne).symm⟩
  have hcomponents : components (below base (init ++ [name])) =
      components base ++ init.map .normal ++ [.normal name] := by
    rw [components_below base hnames]
    simp
  have hlast : fileName? (below base (init ++ [name])) = some name := by
    rw [fileName?_eq_some_iff_getLast?, hcomponents, List.getLast?_concat]
  obtain ⟨dir, hdir⟩ := exists_parent? hlast
  have hparent : components dir = components base ++ init.map .normal := by
    rw [components_parent? hdir, hcomponents, List.dropLast_concat]
  unfold isDirectlyIn same
  rw [hdir]
  simp [hparent]

/-! ### The stylesheets of a folder -/

theorem isFileName_of_file {bytes : ByteArray} (hroot : d.root.Proper)
    (hfile : d.root.entryAt (place ++ names) = some (.file bytes)) :
    ∀ name ∈ names, IsFileName name := by
  intro name hname
  have hat := Folder.entryAt_eq_file_iff.1 hfile
  exact ((hroot.of_at? hat).1 name (List.mem_append_right place hname)).1

section

variable (hroot : d.root.Proper) (hwalk : WalksInOrder walk d) (hplace : d.locate input = .ok place)
  (hfolder : d.root.entryAt place = some .folder)

include hroot hwalk hplace hfolder

/-- **A search comes to the files** below the place of the folder that have the right extension. -/
theorem mem_paths_iff :
    q ∈ paths walk d deep input ↔ ∃ names bytes, q = below input.bytes names ∧
      d.root.entryAt (place ++ names) = some (.file bytes) ∧ q.length ≤ longestPath ∧
      extension? q = some sourceExtension.bytes ∧ (deep = true ∨ names.length ≤ 1) := by
  obtain ⟨inside, hinside⟩ := Folder.entryAt_eq_folder_iff.1 hfolder
  have hproper : inside.Proper := (hroot.of_at? hinside).2
  have hwalks := hwalk deep input place inside hplace hinside
  have hbelow : ∀ names, d.root.at? (place ++ names) = inside.at? names :=
    Folder.at?_append hinside
  unfold paths isStylesheet
  rw [List.mem_filter, hwalks.mem_iff hproper, Bool.and_eq_true, beq_iff_eq]
  constructor
  · rintro ⟨⟨names, hat, rfl, hdeep⟩, hfile, hext⟩
    obtain ⟨node, hnode⟩ := Option.isSome_iff_exists.1 hat
    have hnames := (hproper.of_at? hnode).1
    obtain ⟨⟨bytes, hbytes⟩, hlength⟩ := (isFileEntry_below_iff hplace hnames).1 hfile
    exact ⟨names, bytes, rfl, hbytes, hlength, hext, hdeep⟩
  · rintro ⟨names, bytes, rfl, hbytes, hlength, hext, hdeep⟩
    have hat : inside.at? names = some (.file bytes) := by
      rw [← hbelow, ← Folder.entryAt_eq_file_iff, hbytes]
    have hnames := (hproper.of_at? hat).1
    exact ⟨⟨names, by rw [hat]; rfl, rfl, hdeep⟩,
      (isFileEntry_below_iff hplace hnames).2 ⟨⟨bytes, hbytes⟩, hlength⟩, hext⟩

theorem pairwise_paths :
    (paths walk d deep input).Pairwise fun x y => components x < components y := by
  obtain ⟨inside, hinside⟩ := Folder.entryAt_eq_folder_iff.1 hfolder
  have hwalks := hwalk deep input place inside hplace hinside
  exact (hwalks.pairwise (hroot.of_at? hinside).2).filter _

/-- **A shallow search** comes to what lies directly in the folder of what a deep one comes to. -/
theorem paths_false_eq :
    paths walk d false input = (paths walk d true input).filter (isDirectlyIn input.bytes) := by
  refine eq_of_ascending (pairwise_paths hroot hwalk hplace hfolder)
    ((pairwise_paths hroot hwalk hplace hfolder).filter _) fun q => ?_
  rw [List.mem_filter, mem_paths_iff hroot hwalk hplace hfolder,
    mem_paths_iff hroot hwalk hplace hfolder]
  -- a file has a name in the folder
  have hdirect : ∀ {names bytes}, d.root.entryAt (place ++ names) = some (.file bytes) →
      (isDirectlyIn input.bytes (below input.bytes names) = true ↔ names.length ≤ 1) := by
    intro names bytes hfile
    have hne : names ≠ [] := by
      rintro rfl
      rw [List.append_nil, hfolder] at hfile
      cases hfile
    rw [isDirectlyIn_below_iff hne (isFileName_of_file hroot hfile)]
    have := List.length_pos_iff.2 hne
    omega
  constructor
  · rintro ⟨names, bytes, rfl, hfile, hlength, hext, hshallow⟩
    have hone : names.length ≤ 1 := hshallow.resolve_left Bool.false_ne_true
    exact ⟨⟨names, bytes, rfl, hfile, hlength, hext, .inl rfl⟩, (hdirect hfile).2 hone⟩
  · rintro ⟨⟨names, bytes, rfl, hfile, hlength, hext, -⟩, hin⟩
    exact ⟨names, bytes, rfl, hfile, hlength, hext, .inr ((hdirect hfile).1 hin)⟩

end

/-- **Every stylesheet is collected once, in order.** Let the names on the disk be such as entries can
have, and no folder have two entries of one name; and let folders be walked through in pre-order,
siblings in the order of their names. Several inputs stand for what each of them stands for, one after
another, and an input that is no folder stands for itself. What a folder stands for in a deep search are
the paths that lead down from it to a file, short enough to be followed, whose extension is that of
stylesheets: they are strictly ascending in the order of components, so there is each of them once, and
each is given by a text, which is the path itself where that is a text. A search that is not deep gives
those of them that lie directly in the folder. -/
theorem collect_finds_stylesheets (walk : Disk → Bool → Text → List Raw) (s : Session)
    (hroot : s.disk.root.Proper) (hwalk : WalksInOrder walk s.disk) :
    let found (deep : Bool) (inputs : List Text) : List Text :=
      ((collect (Session.walking walk) deep inputs).run s).1
    (∀ deep inputs, found deep inputs = inputs.flatMap fun input => found deep [input]) ∧
    (∀ deep input, s.disk.isFolder input = false → found deep [input] = [input]) ∧
    ∀ input place, s.disk.locate input = .ok place → s.disk.root.entryAt place = some .folder →
      ∃ paths : List Raw,
        (∀ q, q ∈ paths ↔ ∃ names bytes, q = below input.bytes names ∧
          s.disk.root.entryAt (place ++ names) = some (.file bytes) ∧ q.length ≤ longestPath ∧
          extension? q = some sourceExtension.bytes) ∧
        paths.Pairwise (fun x y => components x < components y) ∧ paths.Nodup ∧
        found true [input] = paths.map Raw.lossy ∧
        found false [input] = (paths.filter (isDirectlyIn input.bytes)).map Raw.lossy ∧
        ∀ path : Text, path.bytes ∈ paths → Raw.lossy path.bytes = path := by
  intro found
  refine ⟨fun deep inputs => ?_, fun deep input hfile => ?_, fun input place hplace hfolder => ?_⟩
  · simp only [found, collect_singleton]
    exact collect_answer s deep inputs
  · rw [show found deep [input] = _ from collect_singleton s deep input, stylesheets, hfile]
    rfl
  · have hpaths : ∀ deep, found deep [input] = (paths walk s.disk deep input).map Raw.lossy :=
      fun deep => collect_folder hplace hfolder
    have hascending : (paths walk s.disk true input).Pairwise _ :=
      pairwise_paths hroot hwalk hplace hfolder
    refine ⟨paths walk s.disk true input, fun q => ?_, hascending, nodup_of_ascending hascending,
      hpaths true, ?_, fun path _ => Raw.lossy_bytes path⟩
    · simp only [mem_paths_iff hroot hwalk hplace hfolder, true_or, and_true]
    · rw [hpaths, paths_false_eq hroot hwalk hplace hfolder]

/-- Beside a folder whose name is that of a stylesheet without its suffix there are a file with nothing
in front of the suffix and a folder that is named as a stylesheet, which are not collected, and a
stylesheet whose name is no text, which is. -/
theorem collect_finds_nested_stylesheet :
    let input : Text := "d".toList
    let nested : Text := "d/a/x.scss".toList
    let stray : Raw := 0xff :: Text.bytes ".scss".toList
    let s : Session :=
      { disk :=
          { root := .folder input.bytes (.file (Text.bytes ".scss".toList) (encode [])
              (.file (Text.bytes "a.scss".toList) (encode []) (.file stray (encode [])
                (.folder (Text.bytes "a".toList) (.file (Text.bytes "x.scss".toList) (encode []) .empty)
                  (.folder (Text.bytes "b.scss".toList) .empty .empty))))) .empty
            here := [] } }
    let found (deep : Bool) : List Text := ((collect Session.machine deep [input]).run s).1
    s.disk.root.Proper ∧ WalksInOrder Disk.walk s.disk ∧ nested ∈ found true ∧
      "d/\uFFFD.scss".toList ∈ found false ∧
      ∃ paths : List Raw, found true = paths.map Raw.lossy ∧
        found false = (paths.filter (isDirectlyIn input.bytes)).map Raw.lossy ∧
        nested.bytes ∉ paths.filter (isDirectlyIn input.bytes) ∧
        Text.bytes "d/.scss".toList ∉ paths ∧ Text.bytes "d/b.scss".toList ∉ paths := by
  intro input nested stray s found
  have hroot : s.disk.root.Proper := by decide +kernel
  have hwalk : WalksInOrder Disk.walk s.disk := walksInOrder_walk hroot
  have hplace : s.disk.locate input = .ok [input.bytes] := eq_ok_of_toOption (by decide +kernel)
  have hfolder : s.disk.root.entryAt [input.bytes] = some .folder := by decide +kernel
  obtain ⟨paths, hmem, -, -, hdeep, hshallow, -⟩ :=
    (collect_finds_stylesheets Disk.walk s hroot hwalk).2.2 input _ hplace hfolder
  have hnested : nested.bytes ∈ paths :=
    (hmem _).2 ⟨[Text.bytes "a".toList, Text.bytes "x.scss".toList], encode [], by decide +kernel,
      by decide +kernel, by decide +kernel, by decide +kernel⟩
  have hstray : below input.bytes [stray] ∈ paths :=
    (hmem _).2 ⟨[stray], encode [], rfl, by decide +kernel, by decide +kernel, by decide +kernel⟩
  refine ⟨hroot, hwalk, ?_, ?_, paths, hdeep, hshallow, ?_, ?_, ?_⟩
  · rw [show found true = paths.map Raw.lossy from hdeep]
    exact List.mem_map.2 ⟨nested.bytes, hnested, Raw.lossy_bytes nested⟩
  · rw [show found false = _ from hshallow]
    exact List.mem_map.2 ⟨_, List.mem_filter.2 ⟨hstray, by decide +kernel⟩, by decide +kernel⟩
  · intro hdirect
    exact absurd (List.mem_filter.1 hdirect).2 (by decide +kernel)
  · intro hdot
    obtain ⟨names, bytes, -, -, -, hext⟩ := (hmem _).1 hdot
    exact absurd hext (by decide +kernel)
  · intro hnamed
    obtain ⟨names, bytes, hq, hfile, -, -⟩ := (hmem _).1 hnamed
    -- the components tell the names, and at that place there is a folder
    have hcomponents := components_below input.bytes (isFileName_of_file hroot hfile)
    rw [← hq] at hcomponents
    have hnames : [Component.normal (Text.bytes "b.scss".toList)] = names.map .normal :=
      List.append_cancel_left hcomponents
    obtain ⟨name, rfl, heq⟩ := List.map_eq_singleton_iff.1 hnames.symm
    obtain rfl := Component.normal.inj heq
    cases hfile

/-! ### What is not told by texts, and what is too long -/

/-- A path to the working folder that has this many steps too many. -/
def detour : Nat → Text
  | 0 => ['.']
  | n + 1 => '.' :: '/' :: detour n

theorem segments_detour (n : Nat) : segments (detour n) = List.replicate (n + 1) ['.'] := by
  induction n with
  | zero => rfl
  | succ n ih =>
    have hstep : segments (detour (n + 1)) = ['.'] :: segments (detour n) := rfl
    rw [hstep, ih]
    rfl

theorem length_bytes_detour (n : Nat) : (detour n).bytes.length = 2 * n + 1 := by
  induction n with
  | zero => rfl
  | succ n ih =>
    have hstep : (detour (n + 1)).bytes.length = (detour n).bytes.length + 1 + 1 := rfl
    rw [hstep, ih]
    omega

theorem zero_notMem_detour (n : Nat) : 0 ∉ (detour n).bytes := by
  induction n with
  | zero => decide
  | succ n ih =>
    have hstep : (detour (n + 1)).bytes = [0x2e, 0x2f] ++ (detour n).bytes := rfl
    rw [hstep, List.mem_append]
    rintro (h | h)
    · exact absurd h (by decide)
    · exact ih h

theorem locate_detour {n : Nat} (hfolder : d.root.entryAt d.here = some .folder)
    (hn : 2 * n + 1 ≤ longestPath) : d.locate (detour n) = .ok d.here := by
  have hne : (detour n).bytes ≠ [] := by
    rw [ne_eq, ← List.length_eq_zero_iff, length_bytes_detour]
    omega
  have hstart : d.start (detour n).bytes = d.here := by
    cases n <;> rfl
  have hfollow : ∀ m, follow d.root d.here (List.replicate m dot) = .ok d.here := by
    intro m
    induction m with
    | zero => rfl
    | succ m ih => exact follow_cons_ok_iff.2 ⟨hfolder, fun hname => absurd rfl hname.ne_dot, ih⟩
  refine findBy_ok_iff.2 ⟨refusal?_eq_none_iff.2 ⟨zero_notMem_detour n, hne, ?_⟩, ?_⟩
  · rwa [length_bytes_detour]
  · rw [hstart, Text.segments_bytes, segments_detour, List.map_replicate]
    exact hfollow (n + 1)

theorem extension?_below_singleton {name : Raw} (hname : IsFileName name) (p : Raw) :
    extension? (below p [name]) = extensionOf? name := by
  have hlast : fileName? (below p [name]) = some name := fileName?_join p hname
  unfold extension?
  rw [hlast]
  rfl

/-- The only stylesheet of a folder is passed over if the path to it is too long. -/
theorem paths_eq_nil_of_tooLong {name : Raw} {bytes : ByteArray} (hname : Folder.IsName name)
    (hroot : d.root = .file name bytes .empty) (hplace : d.locate input = .ok [])
    (hlong : longestPath < input.bytes.length + name.length) : paths Disk.walk d true input = [] := by
  have hwalk : d.walk true input = [below input.bytes [], below input.bytes [name]] := by
    have hfind : d.find input.bytes = .ok [] := hplace
    unfold Disk.walk node?
    rw [hfind, hroot]
    simp [Folder.at?, Folder.walk, Folder.walkEntries, Folder.gather, below]
  have hfolder : d.isFileEntry (below input.bytes []) = false := by
    rw [← Bool.not_eq_true, isFileEntry_below_iff hplace (by simp)]
    rintro ⟨⟨bytes, hbytes⟩, -⟩
    cases hbytes
  have hfile : d.isFileEntry (below input.bytes [name]) = false := by
    rw [← Bool.not_eq_true, isFileEntry_below_iff hplace (List.forall_mem_singleton.2 hname)]
    rintro ⟨-, hlength⟩
    have hjoin := length_join_of_notMem hname.1.2 input.bytes
    exact absurd (Nat.lt_of_lt_of_le hlong hjoin) (Nat.not_lt.2 hlength)
  unfold paths
  rw [hwalk]
  simp [hfolder, hfile]

/-- Two stylesheets whose names are no texts are given by one text that names neither. And a stylesheet
is passed over if the path to it, from an input that is spelled with many steps, is too long. -/
theorem collect_loses_paths :
    (let first : Raw := 0xfe :: Text.bytes ".scss".toList
     let second : Raw := 0xff :: Text.bytes ".scss".toList
     let s : Session :=
       { disk :=
           { root := .folder (Text.bytes ['d'])
               (.file first (encode []) (.file second (encode []) .empty)) .empty
             here := [] } }
     s.disk.root.Proper ∧ WalksInOrder Disk.walk s.disk ∧
       ((collect Session.machine true [['d']]).run s).1 =
         ["d/\uFFFD.scss".toList, "d/\uFFFD.scss".toList] ∧
       s.disk.isFile "d/\uFFFD.scss".toList = false) ∧
    (let name := Text.bytes "a.scss".toList
     let s : Session := { disk := { root := .file name (encode []) .empty, here := [] } }
     let input := detour 2045
     s.disk.root.Proper ∧ WalksInOrder Disk.walk s.disk ∧ s.disk.locate input = .ok [] ∧
       s.disk.root.entryAt [name] = some (.file (encode [])) ∧
       extension? (below input.bytes [name]) = some sourceExtension.bytes ∧
       ((collect Session.machine true [input]).run s).1 = []) := by
  refine ⟨?_, ?_⟩
  · intro first second s
    have hroot : s.disk.root.Proper := by decide +kernel
    have hwalk : s.disk.walk true ['d'] =
        [Text.bytes ['d'], join (Text.bytes ['d']) first, join (Text.bytes ['d']) second] := by
      show Text.bytes ['d'] :: Folder.gather [(first, [join (Text.bytes ['d']) first]),
        (second, [join (Text.bytes ['d']) second])] = _
      unfold Folder.gather
      rw [List.mergeSort_of_pairwise (by decide)]
      rfl
    have hplace : s.disk.locate ['d'] = .ok [Text.bytes ['d']] := eq_ok_of_toOption (by decide +kernel)
    have hfound : ((collect Session.machine true [['d']]).run s).1 = _ :=
      collect_folder hplace (by decide +kernel)
    refine ⟨hroot, walksInOrder_walk hroot, ?_, by decide +kernel⟩
    rw [hfound, paths, hwalk]
    decide +kernel
  · intro name s input
    have hroot : s.disk.root.Proper := by decide +kernel
    have hname : Folder.IsName name := by decide +kernel
    have hplace : s.disk.locate input = .ok [] := locate_detour rfl (by decide)
    have hlong : longestPath < input.bytes.length + name.length := by
      rw [length_bytes_detour]
      decide
    have hnone := paths_eq_nil_of_tooLong hname rfl hplace hlong
    refine ⟨hroot, walksInOrder_walk hroot, hplace, rfl, ?_, ?_⟩
    · rw [extension?_below_singleton hname.1]
      decide
    · exact (collect_folder hplace rfl).trans (congrArg (List.map Raw.lossy) hnone)

end Inputs

end Scss
