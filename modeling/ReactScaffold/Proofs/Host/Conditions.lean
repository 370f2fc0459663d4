import ReactScaffold.Proofs.Host.Below

/-!
# When directories can be ensured and files written

On a tree a directory can be ensured just when no file is above it or in its place, and the disk is
then given the directories that lead to it. A file can be written just when its parent is a
directory and it is none itself. The path must not be too long as a whole.
-/

namespace ReactScaffold

namespace Path

variable {p : Path}

/-- The place that a path names, and the places above it up to the root of the disk. -/
def ancestry (p : Path) (cwd : Place) : List Place := (p.resolve cwd).parts.inits

theorem Downward.descends (h : Downward p.parts) : p.Descends := fun hmem => (h _ hmem).1 rfl

theorem resolve_of_descends (hp : p.Descends) (cwd : Place) :
    (p.resolve cwd).parts = p.anchor.start cwd ++ p.parts := walkUp_of_notMem hp _

theorem placesAlong_subset_ancestry (hp : p.Descends) (cwd : Place) :
    placesAlong (p.anchor.start cwd) p.parts ⊆ p.ancestry cwd := by
  intro place hplace
  obtain ⟨first, hfirst, -, rfl⟩ := mem_placesAlong.1 hplace
  rw [ancestry, resolve_of_descends hp, List.mem_inits]
  exact (List.prefix_append_right_inj _).2 hfirst

end Path

namespace Disk

variable {d d' : Disk} {cwd place : Place} {p : Path} {places : List Place}

/-! ## Directories -/

theorem noFileAt_empty (places : List Place) : ({} : Disk).NoFileAt places := by
  intro place _ content
  by_cases hnil : place = []
  · simp [get?, hnil]
  · simp [get?, hnil, OrderedMap.get?]

/-- On a tree all that is above a directory are directories. -/
theorem IsTree.directoriesAt_inits (h : d.IsTree) (hplace : d.get? place = some .directory) :
    d.DirectoriesAt place.inits := by
  intro above habove
  by_cases hnil : above = []
  · rw [hnil]
    rfl
  · have hdirs : d.DirectoriesAt (placesAlong [] place) := h.directoriesAt hplace
    exact hdirs above (mem_placesAlong.2 ⟨above, (List.mem_inits _ _).1 habove, hnil, rfl⟩)

theorem Fills.noFileAt (h : Fills d d' places) (hdirs : d'.DirectoriesAt places) :
    d.NoFileAt places := by
  intro place hplace content hfile
  have hthere := hdirs place hplace
  rcases h place with hsame | ⟨-, hnone, -⟩
  · rw [hsame, hfile] at hthere
    cases hthere
  · rw [hfile] at hnone
    cases hnone

theorem Fills.adds (h : Fills d d' places) (hdirs : d'.DirectoriesAt places) :
    Adds d d' places := by
  intro place
  split_ifs with hplace
  · exact hdirs place hplace
  · rcases h place with hsame | ⟨hmem, -, -⟩
    · exact hsame
    · exact absurd hmem hplace

/-- Where a directory was ensured no file was above it or in its place, and the disk has been given
the directories that lead to it and nothing else. -/
theorem Rooted.ensured (h : d.Rooted cwd) (hp : p.Descends)
    (hok : d.ensureDirectory cwd p = (d', none)) :
    p.IsShort ∧ d.NoFileAt (p.ancestry cwd) ∧ Adds d d' (p.ancestry cwd) := by
  have htree := h.ensureDirectory p
  rw [hok] at htree
  -- the directory is there afterwards, hence so are those above it
  obtain ⟨place, hplace⟩ := standsFor_of_ensureDirectory hok
  have hthere := hplace.directory
  rw [walk_eq_resolve hplace.walk] at hthere
  have hdirs : d'.DirectoriesAt (p.ancestry cwd) := htree.tree.directoriesAt_inits hthere
  have hfills := h.fills_ensureReversed p.anchor fun hmem => hp (List.mem_reverse.1 hmem)
  rw [List.reverse_reverse, show d.ensureReversed cwd p.anchor p.parts.reverse = _ from hok]
    at hfills
  have hfills := hfills.mono (Path.placesAlong_subset_ancestry hp cwd)
  exact ⟨utf8ByteSize_le_of_walk_eq hplace.walk (by simp), hfills.noFileAt hdirs,
    hfills.adds hdirs⟩

/-- A directory can be ensured where no file is above it or in its place. -/
theorem Rooted.exists_ensured (h : d.Rooted cwd) (hnames : Path.Downward p.parts)
    (hshort : p.IsShort) (hfile : d.NoFileAt (p.ancestry cwd)) :
    ∃ d', d.ensureDirectory cwd p = (d', none) := by
  have halong : d.NoFileAt (placesAlong (p.anchor.start cwd) p.parts) := fun place hplace =>
    hfile place (Path.placesAlong_subset_ancestry hnames.descends cwd hplace)
  obtain ⟨a, names⟩ := p
  -- the names are those of a path below the directory that the anchor stands for
  have hstart := standsFor_start a (h.start a)
  have hbelow : ((⟨a, []⟩ : Path).join ⟨.here, names⟩).IsShort := hshort
  have hfits : Path.Fits names :=
    ⟨hnames, fun first hfirst => (hbelow.of_prefix_join hfirst).of_join⟩
  obtain ⟨d', hd', -⟩ := ensureDirectory_of_noFileAt hfits hstart.directory halong
  have hagree := hstart.ensureDirectory_join hbelow
  rw [hd'] at hagree
  exact ⟨d', hagree.eq_done⟩

/-! ## Files -/

/-- The second disk is the first with what is said at the place. -/
def Puts (d d' : Disk) (place : Place) (i : Inode) : Prop :=
  ∀ other, d'.get? other = if other = place then some i else d.get? other

theorem puts_set (d : Disk) (hplace : place ≠ []) (i : Inode) : Puts d (d.set place i) place i := by
  intro other
  split_ifs with heq
  · rw [heq, get?_set_self d i hplace]
  · rw [get?_set_of_ne d i (Ne.symm heq)]

/-- A file can be written just where its parent is a directory and it is none itself. -/
theorem Rooted.writeFile_eq_ok_iff (h : d.Rooted cwd) (hnames : Path.Downward p.parts)
    {content : List UInt8} :
    d.writeFile cwd p content = .ok d' ↔
      (p.IsShort ∧ d.get? (p.parent.resolve cwd).parts = some .directory ∧
        d.get? (p.resolve cwd).parts ≠ some .directory) ∧
      d' = d.set (p.resolve cwd).parts (.file content) := by
  have hp := hnames.descends
  have hparent : p.parent.Descends := fun hmem => hp (List.mem_of_mem_dropLast hmem)
  rw [Disk.writeFile_eq_ok_iff, Path.resolve_of_descends hparent]
  constructor
  · rintro ⟨place, hwalk, hnot, rfl⟩
    obtain rfl := walk_eq_resolve hwalk
    have habove := h.walk hwalk
    rw [Path.resolve_of_descends hp] at habove hnot
    -- where the path has no parts it leads to a directory
    have hne : p.parts ≠ [] := by
      intro hnil
      rw [hnil, List.append_nil, h.start p.anchor] at hnot
      exact hnot rfl
    rw [List.dropLast_append_of_ne_nil hne] at habove
    rw [Path.resolve_of_descends hp]
    exact ⟨⟨utf8ByteSize_le_of_walk_eq hwalk (by simp), habove, hnot⟩, rfl⟩
  · rintro ⟨⟨hshort, habove, hnot⟩, rfl⟩
    refine ⟨_, ?_, hnot, rfl⟩
    rw [Path.resolve_of_descends hp]
    exact h.walk_of_above hnames hshort habove

/-- A file that was written can be written again, which changes nothing. -/
theorem writeFile_again {content : List UInt8} (h : d.writeFile cwd p content = .ok d') :
    d'.writeFile cwd p content = .ok d' := by
  obtain ⟨place, hwalk, hnot, rfl⟩ := Disk.writeFile_eq_ok_iff.1 h
  have hfile : (d.set place (.file content)).get? place = some (.file content) :=
    get?_set_self d _ (ne_nil_of_get?_ne_directory hnot)
  refine Disk.writeFile_eq_ok_iff.2
    ⟨place, (keepsDirectories_set hnot _).walk hwalk, by simp [hfile], ?_⟩
  rw [set_set]

end Disk

end ReactScaffold
