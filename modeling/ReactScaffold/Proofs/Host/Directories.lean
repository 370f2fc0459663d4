import ReactScaffold.Proofs.Host.Disk
import ReactScaffold.Proofs.Host.Path

/-!
# Making directories

Names are followed from a directory through the places along them. Where none of these places is a
file, a directory can be made at the last one together with the missing ones above it, and nothing
else changes.
-/

namespace ReactScaffold

/-- The places that names lead through, one after the other. -/
def placesAlong : Place → List String → List Place
  | _, [] => []
  | start, name :: names => (start ++ [name]) :: placesAlong (start ++ [name]) names

theorem placesAlong_append (start : Place) (first rest : List String) :
    placesAlong start (first ++ rest) =
      placesAlong start first ++ placesAlong (start ++ first) rest := by
  induction first generalizing start with
  | nil => simp [placesAlong]
  | cons name first ih =>
      rw [List.cons_append, placesAlong, placesAlong, ih, List.cons_append]
      simp

theorem placesAlong_concat (start : Place) (names : List String) (last : String) :
    placesAlong start (names ++ [last]) =
      placesAlong start names ++ [start ++ (names ++ [last])] := by
  rw [placesAlong_append]
  simp [placesAlong]

theorem placesAlong_eq_map (start : Place) (names : List String) :
    placesAlong start names = (placesAlong [] names).map (start ++ ·) := by
  suffices ∀ middle : Place, placesAlong (start ++ middle) names =
      (placesAlong middle names).map (start ++ ·) by
    have h := this []
    rwa [List.append_nil] at h
  induction names with
  | nil => intro middle; rfl
  | cons name names ih =>
      intro middle
      rw [placesAlong, placesAlong, List.map_cons, ← ih, List.append_assoc]

/-- The places along names are those that a beginning of the names leads to. -/
theorem mem_placesAlong {start place : Place} {names : List String} :
    place ∈ placesAlong start names ↔
      ∃ first, first <+: names ∧ first ≠ [] ∧ place = start ++ first := by
  induction names generalizing start with
  | nil => simp [placesAlong]
  | cons name names ih =>
      rw [placesAlong, List.mem_cons, ih]
      constructor
      · rintro (rfl | ⟨first, hfirst, -, rfl⟩)
        · exact ⟨[name], by simp, by simp, rfl⟩
        · exact ⟨name :: first, by simpa using hfirst, by simp, by simp⟩
      · rintro ⟨first, hfirst, hne, rfl⟩
        rcases List.prefix_cons_iff.1 hfirst with rfl | ⟨more, rfl, hmore⟩
        · exact absurd rfl hne
        · by_cases hnil : more = []
          · exact .inl (by rw [hnil])
          · exact .inr ⟨more, hmore, hnil, by simp⟩

namespace Disk

variable {d d' d'' : Disk} {cwd : Place} {names : List String}

/-- None of the places is a file. -/
def NoFileAt (d : Disk) (places : List Place) : Prop :=
  ∀ place ∈ places, ∀ content, d.get? place ≠ some (.file content)

/-- All of the places are directories. -/
def DirectoriesAt (d : Disk) (places : List Place) : Prop :=
  ∀ place ∈ places, d.get? place = some .directory

/-- The second disk is the first with directories at the places. -/
def Adds (d d' : Disk) (places : List Place) : Prop :=
  ∀ place, d'.get? place = if place ∈ places then some .directory else d.get? place

theorem Adds.refl (d : Disk) : Adds d d [] := fun place => by simp

theorem Adds.append {places more : List Place} (h : Adds d d' places) (h' : Adds d' d'' more) :
    Adds d d'' (places ++ more) := by
  intro place
  rw [h' place, h place]
  by_cases hmore : place ∈ more
  · simp [hmore]
  · simp [hmore]

theorem Adds.directoriesAt {places : List Place} (h : Adds d d' places) :
    d'.DirectoriesAt places := fun place hplace => by rw [h place, if_pos hplace]

theorem Adds.keepsDirectories {places : List Place} (h : Adds d d' places) :
    KeepsDirectories d d' := by
  intro place hplace
  rw [h place, hplace]
  split_ifs <;> rfl

theorem Adds.noFileAt {places others : List Place} (h : Adds d d' places)
    (hfile : d.NoFileAt others) : d'.NoFileAt others := by
  intro place hplace content
  rw [h place]
  split_ifs
  · simp
  · exact hfile place hplace content

theorem step_of_directory {start : Place} {name : String} (hstart : d.get? start = some .directory)
    (hup : name ≠ "..") (hshort : name.utf8ByteSize ≤ maxNameOctets) :
    d.step start name = .ok (start ++ [name]) := by
  rw [step, hstart]
  dsimp only
  rw [if_neg hup, if_neg (by omega)]

/-- Names are followed through directories. -/
theorem foldlM_step_of_directories {start : Place} (hnames : Path.Downward names)
    (hstart : d.get? start = some .directory)
    (hdirs : d.DirectoriesAt (placesAlong start names.dropLast)) :
    names.foldlM d.step start = .ok (start ++ names) := by
  induction names generalizing start with
  | nil =>
      rw [List.append_nil]
      rfl
  | cons name names ih =>
      obtain ⟨⟨hup, hshort⟩, hrest⟩ := List.forall_mem_cons.1 hnames
      rw [List.foldlM_cons, step_of_directory hstart hup hshort, ok_bind]
      by_cases hnil : names = []
      · rw [hnil]
        rfl
      · rw [List.dropLast_cons_of_ne_nil hnil, placesAlong] at hdirs
        obtain ⟨hnext, hmore⟩ := List.forall_mem_cons.1 hdirs
        rw [ih hrest hnext hmore, List.append_assoc]
        rfl

/-- Where a directory is missing nothing is found. -/
theorem foldlM_step_of_missing {start : Place} (hnames : Path.Downward names)
    (hstart : d.get? start = some .directory) (hfile : d.NoFileAt (placesAlong start names))
    (hdirs : ¬ d.DirectoriesAt (placesAlong start names.dropLast)) :
    names.foldlM d.step start = .error .notFound := by
  induction names generalizing start with
  | nil => exact absurd (fun place hplace => by cases hplace) hdirs
  | cons name names ih =>
      obtain ⟨⟨hup, hshort⟩, hrest⟩ := List.forall_mem_cons.1 hnames
      rw [List.foldlM_cons, step_of_directory hstart hup hshort, ok_bind]
      cases names with
      | nil => exact absurd (fun place hplace => by cases hplace) hdirs
      | cons next names =>
          rw [List.dropLast_cons_of_ne_nil (by simp), placesAlong] at hdirs
          obtain ⟨hnofile, hmore⟩ := List.forall_mem_cons.1 hfile
          cases hnode : d.get? (start ++ [name]) with
          | none =>
              rw [List.foldlM_cons, step, hnode]
              rfl
          | some i =>
              cases i with
              | file content => exact absurd hnode (hnofile content)
              | directory =>
                  refine ih hrest hnode hmore fun hall => hdirs ?_
                  exact List.forall_mem_cons.2 ⟨hnode, hall⟩

theorem walk_of_directories (hnames : Path.Fits names) (hcwd : d.get? cwd = some .directory)
    (hdirs : d.DirectoriesAt (placesAlong cwd names.dropLast)) :
    d.walk cwd ⟨.here, names⟩ = .ok (cwd ++ names) := by
  have hshort := hnames.short names List.prefix_rfl
  rw [walk, if_neg (by omega)]
  exact foldlM_step_of_directories hnames.downward hcwd hdirs

theorem walk_of_missing (hnames : Path.Fits names) (hcwd : d.get? cwd = some .directory)
    (hfile : d.NoFileAt (placesAlong cwd names))
    (hdirs : ¬ d.DirectoriesAt (placesAlong cwd names.dropLast)) :
    d.walk cwd ⟨.here, names⟩ = .error .notFound := by
  have hshort := hnames.short names List.prefix_rfl
  rw [walk, if_neg (by omega)]
  exact foldlM_step_of_missing hnames.downward hcwd hfile hdirs

/-- A directory can be made below directories where no file is. -/
theorem ensureLast_of_directories (hnames : Path.Fits names)
    (hcwd : d.get? cwd = some .directory)
    (hdirs : d.DirectoriesAt (placesAlong cwd names.dropLast))
    (hfile : ∀ content, d.get? (cwd ++ names) ≠ some (.file content)) :
    ∃ d', d.ensureLast cwd ⟨.here, names⟩ = (d', none) ∧ Adds d d' [cwd ++ names] := by
  have hwalk := walk_of_directories hnames hcwd hdirs
  cases hnode : d.get? (cwd ++ names) with
  | none =>
      have hmake : d.makeDirectory cwd ⟨.here, names⟩ = .ok (d.set (cwd ++ names) .directory) := by
        rw [makeDirectory, hwalk, ok_bind, hnode]
      refine ⟨_, by rw [ensureLast, hmake], fun place => ?_⟩
      by_cases hplace : place = cwd ++ names
      · subst hplace
        have hne : cwd ++ names ≠ [] := ne_nil_of_get?_ne_directory (by rw [hnode]; simp)
        rw [if_pos (List.mem_singleton_self _), get?_set_self d _ hne]
      · rw [if_neg (by simpa using hplace), get?_set_of_ne d _ (Ne.symm hplace)]
  | some i =>
      cases i with
      | file content => exact absurd hnode (hfile content)
      | directory =>
          have hmake : d.makeDirectory cwd ⟨.here, names⟩ = .error .exists := by
            rw [makeDirectory, hwalk, ok_bind, hnode]
          have hthere : d.isDirectory cwd ⟨.here, names⟩ = true := by
            rw [isDirectory, find, hwalk, ok_bind, hnode]
          refine ⟨d, ?_, fun place => ?_⟩
          · rw [ensureLast, hmake]
            simp [hthere]
          · split_ifs with hplace
            · rw [List.mem_singleton.1 hplace, hnode]
            · rfl

theorem adds_of_directoriesAt {places : List Place} (h : d.DirectoriesAt places) :
    Adds d d places := by
  intro place
  split_ifs with hplace
  · exact h place hplace
  · rfl

section Reversed

variable {a : Anchor} {last : String} {above parts : List String}

/-- A directory that can be made, or is there, is the only one that is made. -/
theorem ensureReversed_of_ne_notFound
    (h : d.makeDirectory cwd ⟨a, parts.reverse⟩ ≠ .error .notFound) :
    d.ensureReversed cwd a parts = d.ensureLast cwd ⟨a, parts.reverse⟩ := by
  rw [ensureReversed.eq_def]
  dsimp only
  split
  · exact absurd ‹_› h
  · rfl

/-- The directory above is made first where it is missing. -/
theorem ensureReversed_of_notFound
    (h : d.makeDirectory cwd ⟨a, (last :: above).reverse⟩ = .error .notFound)
    (habove : d.ensureReversed cwd a above = (d', none)) :
    d.ensureReversed cwd a (last :: above) =
      d'.ensureLast cwd ⟨a, (last :: above).reverse⟩ := by
  rw [ensureReversed.eq_def]
  dsimp only
  rw [h]
  dsimp only
  rw [habove]

/-- When the directory above is missing and cannot be made, nothing more is tried. -/
theorem ensureReversed_of_failed {e : OsError}
    (h : d.makeDirectory cwd ⟨a, (last :: above).reverse⟩ = .error .notFound)
    (habove : d.ensureReversed cwd a above = (d', some e)) :
    d.ensureReversed cwd a (last :: above) = (d', some e) := by
  rw [ensureReversed.eq_def]
  dsimp only
  rw [h]
  dsimp only
  rw [habove]

/-- The working directory is ensured, as it is there. -/
theorem ensureReversed_here_nil (hcwd : d.get? cwd = some .directory) :
    d.ensureReversed cwd .here [] = (d, none) := by
  have hwalk : d.walk cwd ⟨.here, []⟩ = .ok (cwd ++ []) :=
    walk_of_directories Path.fits_nil hcwd fun place hplace => by simp [placesAlong] at hplace
  rw [List.append_nil] at hwalk
  have hmake : d.makeDirectory cwd ⟨.here, []⟩ = .error .exists := by
    rw [makeDirectory, hwalk, ok_bind, hcwd]
  have hthere : d.isDirectory cwd ⟨.here, []⟩ = true := by
    rw [isDirectory, find, hwalk, ok_bind, hcwd]
  rw [ensureReversed_of_ne_notFound (by rw [List.reverse_nil, hmake]; simp), ensureLast,
    List.reverse_nil, hmake]
  simp [hthere]

end Reversed

/-- A directory can be made with the missing ones above it where no file is on the way. -/
theorem ensureReversed_of_noFileAt {parts : List String} (hnames : Path.Fits parts.reverse)
    (hcwd : d.get? cwd = some .directory) (hfile : d.NoFileAt (placesAlong cwd parts.reverse)) :
    ∃ d', d.ensureReversed cwd .here parts = (d', none) ∧
      Adds d d' (placesAlong cwd parts.reverse) := by
  induction parts with
  | nil => exact ⟨d, ensureReversed_here_nil hcwd, Adds.refl d⟩
  | cons last above ih =>
      have hdrop : (last :: above).reverse.dropLast = above.reverse := by simp
      have hplaces : placesAlong cwd (last :: above).reverse =
          placesAlong cwd above.reverse ++ [cwd ++ (last :: above).reverse] := by
        rw [List.reverse_cons, placesAlong_concat]
      have habove : d.NoFileAt (placesAlong cwd above.reverse) := fun place hplace =>
        hfile place (by rw [hplaces]; exact List.mem_append_left _ hplace)
      have hlast : d.NoFileAt [cwd ++ (last :: above).reverse] := fun place hplace =>
        hfile place (by rw [hplaces]; exact List.mem_append_right _ hplace)
      rw [hplaces]
      by_cases hdirs : d.DirectoriesAt (placesAlong cwd above.reverse)
      · have hmake : d.makeDirectory cwd ⟨.here, (last :: above).reverse⟩ ≠ .error .notFound := by
          rw [makeDirectory, walk_of_directories hnames hcwd (by rwa [hdrop]), ok_bind]
          split
          · simp
          · simp
        obtain ⟨d', hd', hadds⟩ :=
          ensureLast_of_directories hnames hcwd (by rwa [hdrop]) (hlast _ (by simp))
        refine ⟨d', ?_, (adds_of_directoriesAt hdirs).append hadds⟩
        rw [ensureReversed_of_ne_notFound hmake, hd']
      · have hmake : d.makeDirectory cwd ⟨.here, (last :: above).reverse⟩ = .error .notFound := by
          rw [makeDirectory, walk_of_missing hnames hcwd hfile (by rwa [hdrop])]
          rfl
        obtain ⟨d₁, hd₁, hadds⟩ := ih (hnames.of_prefix (by simp)) habove
        obtain ⟨d', hd', hadds'⟩ := ensureLast_of_directories hnames
          (hadds.keepsDirectories cwd hcwd) (by rw [hdrop]; exact hadds.directoriesAt)
          (hadds.noFileAt hlast _ (by simp))
        refine ⟨d', ?_, hadds.append hadds'⟩
        rw [ensureReversed_of_notFound hmake hd₁, hd']

/-- A directory is ensured with all directories that lead to it where no file is on the way. -/
theorem ensureDirectory_of_noFileAt (hnames : Path.Fits names)
    (hcwd : d.get? cwd = some .directory) (hfile : d.NoFileAt (placesAlong cwd names)) :
    ∃ d', d.ensureDirectory cwd ⟨.here, names⟩ = (d', none) ∧
      Adds d d' (placesAlong cwd names) := by
  have h := @ensureReversed_of_noFileAt d cwd names.reverse
  rw [List.reverse_reverse] at h
  exact h hnames hcwd hfile

end Disk

end ReactScaffold
