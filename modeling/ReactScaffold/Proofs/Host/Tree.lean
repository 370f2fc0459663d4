import ReactScaffold.Session.Processes
import ReactScaffold.Proofs.Host.Directories

/-!
# Disks that are trees

On a disk that is a tree whatever is there lies in a directory. Every operation keeps the disk a
tree and the directories on it. Ensuring a directory fills places along its path that were empty;
when that fails nothing has been filled, unless a name on the path is too long.
-/

namespace ReactScaffold

/-- The place that a path with the anchor starts from. -/
def Anchor.start (a : Anchor) (cwd : Place) : Place := if a != .here then [] else cwd

/-- No part of the path leads upwards. -/
def Path.Descends (p : Path) : Prop := ".." ∉ p.parts

/-- The places above the one that a path leads to. -/
def Path.placesAbove (p : Path) (cwd : Place) : List Place :=
  placesAlong (p.anchor.start cwd) p.parts.dropLast

theorem Path.walkUp_of_notMem {parts : List String} (h : ".." ∉ parts) (start : Place) :
    walkUp start parts = start ++ parts := by
  induction parts generalizing start with
  | nil => exact (List.append_nil start).symm
  | cons part parts ih =>
      rw [List.mem_cons, not_or] at h
      rw [walkUp, List.foldl_cons, if_neg (Ne.symm h.1), ← walkUp, ih h.2, List.append_assoc]
      rfl

namespace Disk

variable {d d' : Disk} {cwd place : Place} {p : Path}

/-- Whatever is on the disk lies in a directory. -/
def IsTree (d : Disk) : Prop :=
  ∀ place i, d.get? place = some i → d.get? place.dropLast = some .directory

/-- The disk is a tree in which the place is a directory. -/
structure Rooted (d : Disk) (cwd : Place) : Prop where
  tree : d.IsTree
  here : d.get? cwd = some .directory

theorem rooted_empty : ({} : Disk).Rooted [] where
  tree place i h := by
    by_cases hnil : place = []
    · rw [hnil]
      rfl
    · simp [get?, hnil, OrderedMap.get?] at h
  here := rfl

theorem Rooted.start (h : d.Rooted cwd) (a : Anchor) :
    d.get? (a.start cwd) = some .directory := by
  unfold Anchor.start
  split_ifs
  · rfl
  · exact h.here

theorem IsTree.set (h : d.IsTree) (hnot : d.get? place ≠ some .directory)
    (habove : d.get? place.dropLast = some .directory) (i : Inode) : (d.set place i).IsTree := by
  have hkeeps := keepsDirectories_set hnot i
  intro other j hother
  by_cases heq : place = other
  · rw [← heq]
    exact hkeeps _ habove
  · rw [get?_set_of_ne d i heq] at hother
    exact hkeeps _ (h other j hother)

theorem Rooted.set (h : d.Rooted cwd) (hnot : d.get? place ≠ some .directory)
    (habove : d.get? place.dropLast = some .directory) (i : Inode) :
    (d.set place i).Rooted cwd where
  tree := h.tree.set hnot habove i
  here := keepsDirectories_set hnot i cwd h.here

/-- A path that can be followed ends in a directory. -/
theorem IsTree.foldlM_step (h : d.IsTree) {parts : List String} {start last : Place}
    (hstart : d.get? start.dropLast = some .directory)
    (hwalk : parts.foldlM d.step start = .ok last) :
    d.get? last.dropLast = some .directory := by
  induction parts generalizing start with
  | nil => exact Except.ok.inj hwalk ▸ hstart
  | cons part parts ih =>
      rw [List.foldlM_cons] at hwalk
      obtain ⟨next, hnext, hrest⟩ := bind_eq_ok hwalk
      refine ih ?_ hrest
      have hhere := step_eq_ok hnext
      rw [eq_of_step_eq_ok hnext]
      split_ifs
      · exact h _ _ (h _ _ hhere)
      · rw [List.dropLast_concat]
        exact hhere

theorem walk_eq_foldlM (h : p.text.utf8ByteSize ≤ maxPathOctets) :
    d.walk cwd p = p.parts.foldlM d.step (p.anchor.start cwd) := by
  rw [walk, if_neg (by omega)]
  rfl

theorem utf8ByteSize_le_of_walk_eq {r : Except Refusal Place} (h : d.walk cwd p = r)
    (hr : r ≠ .error .nameTooLong) : p.text.utf8ByteSize ≤ maxPathOctets := by
  by_contra hlong
  exact hr (by rw [← h, walk, if_pos (by omega)])

theorem Rooted.walk (h : d.Rooted cwd) (hwalk : d.walk cwd p = .ok place) :
    d.get? place.dropLast = some .directory := by
  rw [walk_eq_foldlM (utf8ByteSize_le_of_walk_eq hwalk (by simp))] at hwalk
  exact h.tree.foldlM_step (h.tree _ _ (h.start p.anchor)) hwalk

theorem walk_of_descends (hp : p.Descends) (h : d.walk cwd p = .ok place) :
    place = p.anchor.start cwd ++ p.parts :=
  (walk_eq_resolve h).trans (Path.walkUp_of_notMem hp _)

/-! ## The operations -/

theorem Rooted.writeFile {content : List UInt8} (h : d.Rooted cwd)
    (hwrite : d.writeFile cwd p content = .ok d') : d'.Rooted cwd := by
  obtain ⟨place, hwalk, hnot, rfl⟩ := writeFile_eq_ok_iff.1 hwrite
  exact h.set hnot (h.walk hwalk) _

theorem makeDirectory_eq_ok_iff :
    d.makeDirectory cwd p = .ok d' ↔
      ∃ place, d.walk cwd p = .ok place ∧ d.get? place = none ∧ d' = d.set place .directory := by
  constructor
  · intro h
    obtain ⟨place, hwalk, hmake⟩ := bind_eq_ok h
    refine ⟨place, hwalk, ?_⟩
    split at hmake
    · cases hmake
    · rename_i hnone
      exact ⟨hnone, (Except.ok.inj hmake).symm⟩
  · rintro ⟨place, hwalk, hnone, rfl⟩
    rw [makeDirectory, hwalk, ok_bind, hnone]

theorem isDirectory_eq_true (h : d.isDirectory cwd p = true) :
    ∃ place, d.walk cwd p = .ok place ∧ d.get? place = some .directory := by
  unfold isDirectory find at h
  cases hwalk : d.walk cwd p with
  | error r =>
      rw [hwalk] at h
      cases h
  | ok place =>
      rw [hwalk, ok_bind] at h
      refine ⟨place, rfl, ?_⟩
      cases hnode : d.get? place with
      | none =>
          rw [hnode] at h
          cases h
      | some i =>
          rw [hnode] at h
          cases i with
          | file content => cases h
          | directory => rfl

/-- What becomes of the last directory of a path: it is made, is there, or cannot be had. -/
theorem ensureLast_cases (d : Disk) (cwd : Place) (p : Path) :
    (∃ place, d.walk cwd p = .ok place ∧ d.get? place = none ∧
        d.ensureLast cwd p = (d.set place .directory, none)) ∨
      (∃ place, d.walk cwd p = .ok place ∧ d.get? place = some .directory ∧
        d.ensureLast cwd p = (d, none)) ∨
      ∃ e, d.ensureLast cwd p = (d, some e) := by
  unfold ensureLast
  cases hmake : d.makeDirectory cwd p with
  | ok made =>
      obtain ⟨place, hwalk, hnone, rfl⟩ := makeDirectory_eq_ok_iff.1 hmake
      exact .inl ⟨place, hwalk, hnone, rfl⟩
  | error r =>
      dsimp only
      split_ifs with hthere
      · obtain ⟨place, hwalk, hnode⟩ := isDirectory_eq_true hthere.2
        exact .inr (.inl ⟨place, hwalk, hnode, rfl⟩)
      · exact .inr (.inr ⟨_, rfl⟩)

theorem ensureLast_eq_self {e : OsError} (h : d.ensureLast cwd p = (d', some e)) : d' = d := by
  rcases d.ensureLast_cases cwd p with ⟨place, -, -, heq⟩ | ⟨place, -, -, heq⟩ | ⟨e', heq⟩
  · rw [heq] at h
    cases h
  · rw [heq] at h
    cases h
  · rw [heq] at h
    exact (Prod.mk.inj h).1.symm

/-- A directory is ensured by itself, or after the one above it when that is missing. -/
theorem ensureReversed_cases (d : Disk) (cwd : Place) (a : Anchor) (parts : List String) :
    d.ensureReversed cwd a parts = d.ensureLast cwd ⟨a, parts.reverse⟩ ∨
      (∃ last above d₁, parts = last :: above ∧
        d.makeDirectory cwd ⟨a, parts.reverse⟩ = .error .notFound ∧
        d.ensureReversed cwd a above = (d₁, none) ∧
        d.ensureReversed cwd a parts = d₁.ensureLast cwd ⟨a, parts.reverse⟩) ∨
      ∃ last above d₁ e, parts = last :: above ∧ d.ensureReversed cwd a above = (d₁, some e) ∧
        d.ensureReversed cwd a parts = (d₁, some e) := by
  rw [ensureReversed.eq_def]
  dsimp only
  split
  · rename_i last above hmake
    cases habove : d.ensureReversed cwd a above with
    | mk d₁ failed =>
        cases failed with
        | none => exact .inr (.inl ⟨last, above, d₁, rfl, hmake, habove, rfl⟩)
        | some e => exact .inr (.inr ⟨last, above, d₁, e, rfl, habove, rfl⟩)
  · exact .inl rfl

/-- The induction along the way to a directory: it is made by itself, or after the one above it was
made, or it is left when that could not be made. -/
theorem ensureReversed_induction {P : List String → Disk × Option OsError → Prop} (d : Disk)
    (cwd : Place) (a : Anchor) (single : ∀ parts, P parts (d.ensureLast cwd ⟨a, parts.reverse⟩))
    (made : ∀ last above d₁,
      d.makeDirectory cwd ⟨a, (last :: above).reverse⟩ = .error .notFound →
      d.ensureReversed cwd a above = (d₁, none) → P above (d₁, none) →
      P (last :: above) (d₁.ensureLast cwd ⟨a, (last :: above).reverse⟩))
    (failed : ∀ last above d₁ e, P above (d₁, some e) → P (last :: above) (d₁, some e))
    (parts : List String) : P parts (d.ensureReversed cwd a parts) := by
  induction parts with
  | nil =>
      obtain heq | ⟨last, above, d₁, hparts, -⟩ | ⟨last, above, d₁, e, hparts, -⟩ :=
        d.ensureReversed_cases cwd a []
      · rw [heq]
        exact single []
      · cases hparts
      · cases hparts
  | cons last above ih =>
      obtain heq | ⟨_, _, d₁, hparts, hmake, habove, heq⟩ | ⟨_, _, d₁, e, hparts, habove, heq⟩ :=
        d.ensureReversed_cases cwd a (last :: above)
      · rw [heq]
        exact single (last :: above)
      · obtain ⟨rfl, rfl⟩ := List.cons.inj hparts
        rw [heq]
        exact made last above d₁ hmake habove (habove ▸ ih)
      · obtain ⟨rfl, rfl⟩ := List.cons.inj hparts
        rw [heq]
        exact failed last above d₁ e (habove ▸ ih)

theorem Rooted.ensureLast (h : d.Rooted cwd) (p : Path) : (d.ensureLast cwd p).1.Rooted cwd := by
  rcases d.ensureLast_cases cwd p with ⟨place, hwalk, hnone, heq⟩ | ⟨place, -, -, heq⟩ | ⟨e, heq⟩
  · rw [heq]
    exact h.set (by simp [hnone]) (h.walk hwalk) _
  · rwa [heq]
  · rwa [heq]

theorem Rooted.ensureReversed (h : d.Rooted cwd) (a : Anchor) (parts : List String) :
    (d.ensureReversed cwd a parts).1.Rooted cwd := by
  refine ensureReversed_induction (P := fun _ result => result.1.Rooted cwd) d cwd a ?_ ?_ ?_ parts
  · exact fun parts => h.ensureLast _
  · exact fun last above d₁ _ _ ih => ih.ensureLast _
  · exact fun last above d₁ e ih => ih

theorem Rooted.ensureDirectory (h : d.Rooted cwd) (p : Path) :
    (d.ensureDirectory cwd p).1.Rooted cwd := h.ensureReversed p.anchor p.parts.reverse

/-- What a process leaves keeps the disk a tree. -/
theorem Rooted.leave (h : d.Rooted cwd) (entry : String × Option (List UInt8)) :
    (Session.leave cwd d entry).Rooted cwd := by
  unfold Session.leave
  cases entry.2 with
  | none => exact h.ensureDirectory _
  | some content =>
      have hparent := h.ensureDirectory (Path.ofText entry.1).parent
      dsimp only
      cases hwrite : (d.ensureDirectory cwd (Path.ofText entry.1).parent).1.writeFile cwd
          (Path.ofText entry.1) content with
      | error r => exact hparent
      | ok d' => exact hparent.writeFile hwrite

theorem Rooted.leaveAll (h : d.Rooted cwd) (entries : List (String × Option (List UInt8))) :
    (entries.foldl (Session.leave cwd) d).Rooted cwd := by
  induction entries generalizing d with
  | nil => exact h
  | cons entry entries ih => exact ih (h.leave entry)

/-! ## Ensuring a directory -/

/-- The second disk is the first with directories at some of the places, where nothing was. -/
def Fills (d d' : Disk) (places : List Place) : Prop :=
  ∀ place, d'.get? place = d.get? place ∨
    place ∈ places ∧ d.get? place = none ∧ d'.get? place = some .directory

theorem Fills.refl (d : Disk) (places : List Place) : Fills d d places := fun _ => .inl rfl

theorem Fills.trans {d'' : Disk} {places : List Place} (h : Fills d d' places)
    (h' : Fills d' d'' places) : Fills d d'' places := by
  intro place
  rcases h' place with hsame | ⟨hmem, hnone, hmade⟩
  · rcases h place with hbefore | ⟨hmem, hnone, hmade⟩
    · exact .inl (hsame.trans hbefore)
    · exact .inr ⟨hmem, hnone, hsame.trans hmade⟩
  · rcases h place with hbefore | ⟨-, -, hthere⟩
    · exact .inr ⟨hmem, hbefore.symm.trans hnone, hmade⟩
    · rw [hthere] at hnone
      cases hnone

theorem Fills.mono {places more : List Place} (h : Fills d d' places) (hsub : places ⊆ more) :
    Fills d d' more :=
  fun place => (h place).imp_right fun ⟨hmem, hrest⟩ => ⟨hsub hmem, hrest⟩

theorem fills_set (hnone : d.get? place = none) : Fills d (d.set place .directory) [place] := by
  have hnot : d.get? place ≠ some .directory := by simp [hnone]
  intro other
  by_cases heq : place = other
  · subst heq
    exact .inr ⟨List.mem_singleton_self _, hnone,
      get?_set_self d _ (ne_nil_of_get?_ne_directory hnot)⟩
  · exact .inl (get?_set_of_ne d _ heq)

/-- On a tree the places along the way to a directory are directories. -/
theorem IsTree.directoriesAt (h : d.IsTree) {start : Place} {names : List String}
    (hlast : d.get? (start ++ names) = some .directory) :
    d.DirectoriesAt (placesAlong start names) := by
  have habove (place : Place) (more : List String)
      (hmore : d.get? (place ++ more) = some .directory) : d.get? place = some .directory := by
    induction more using List.reverseRecOn with
    | nil => rwa [List.append_nil] at hmore
    | append_singleton more name ih =>
        rw [← List.append_assoc] at hmore
        have hparent := h _ _ hmore
        rw [List.dropLast_concat] at hparent
        exact ih hparent
  intro place hplace
  obtain ⟨first, ⟨more, rfl⟩, -, rfl⟩ := mem_placesAlong.1 hplace
  rw [← List.append_assoc] at hlast
  exact habove _ more hlast

theorem descends_reverse {a : Anchor} {parts : List String} (h : ".." ∉ parts) :
    Path.Descends ⟨a, parts.reverse⟩ := fun hmem => h (List.mem_reverse.1 hmem)

theorem placesAlong_reverse_subset (start : Place) (last : String) (above : List String) :
    placesAlong start above.reverse ⊆ placesAlong start (last :: above).reverse := by
  rw [List.reverse_cons, placesAlong_concat]
  exact List.subset_append_left _ _

theorem Rooted.fills_ensureLast (h : d.Rooted cwd) (hp : p.Descends) :
    Fills d (d.ensureLast cwd p).1 (placesAlong (p.anchor.start cwd) p.parts) := by
  rcases d.ensureLast_cases cwd p with ⟨place, hwalk, hnone, heq⟩ | ⟨place, -, -, heq⟩ | ⟨e, heq⟩
  · obtain rfl := walk_of_descends hp hwalk
    -- where the path has no parts it leads to a directory that is there
    have hne : p.parts ≠ [] := by
      intro hnil
      rw [hnil, List.append_nil, h.start p.anchor] at hnone
      cases hnone
    rw [heq]
    refine (fills_set hnone).mono fun place hplace => ?_
    rw [List.mem_singleton.1 hplace]
    exact mem_placesAlong.2 ⟨p.parts, List.prefix_rfl, hne, rfl⟩
  · rw [heq]
    exact .refl d _
  · rw [heq]
    exact .refl d _

/-- Ensuring a directory makes directories along its path where nothing was. -/
theorem Rooted.fills_ensureReversed (h : d.Rooted cwd) (a : Anchor) {parts : List String}
    (hup : ".." ∉ parts) :
    Fills d (d.ensureReversed cwd a parts).1 (placesAlong (a.start cwd) parts.reverse) := by
  refine ensureReversed_induction (P := fun parts result => ".." ∉ parts →
    Fills d result.1 (placesAlong (a.start cwd) parts.reverse)) d cwd a ?_ ?_ ?_ parts hup
  · exact fun parts hup => h.fills_ensureLast (descends_reverse hup)
  · intro last above d₁ _ habove ih hup
    have hrooted := h.ensureReversed a above
    rw [habove] at hrooted
    have hfills := ih fun hmem => hup (List.mem_cons_of_mem last hmem)
    exact (hfills.mono (placesAlong_reverse_subset (a.start cwd) last above)).trans
      (hrooted.fills_ensureLast (descends_reverse hup))
  · intro last above d₁ e ih hup
    have hfills := ih fun hmem => hup (List.mem_cons_of_mem last hmem)
    exact hfills.mono (placesAlong_reverse_subset (a.start cwd) last above)

/-- A directory that cannot be ensured is not made, only some of those above it. -/
theorem Rooted.fills_of_ensureReversed_failed (h : d.Rooted cwd) {a : Anchor}
    {parts : List String} {e : OsError} (hup : ".." ∉ parts)
    (hfailed : d.ensureReversed cwd a parts = (d', some e)) :
    Fills d d' (placesAlong (a.start cwd) parts.reverse.dropLast) := by
  obtain heq | ⟨last, above, d₁, rfl, -, habove, heq⟩ | ⟨last, above, d₁, e, rfl, habove, heq⟩ :=
    d.ensureReversed_cases cwd a parts
  · rw [ensureLast_eq_self (heq.symm.trans hfailed)]
    exact .refl d _
  · have hfills := h.fills_ensureReversed a fun hmem => hup (List.mem_cons_of_mem last hmem)
    rw [habove] at hfills
    rw [List.reverse_cons, List.dropLast_concat]
    rwa [ensureLast_eq_self (heq.symm.trans hfailed)]
  · have hfills := h.fills_ensureReversed a fun hmem => hup (List.mem_cons_of_mem last hmem)
    rw [habove] at hfills
    rw [List.reverse_cons, List.dropLast_concat]
    rwa [← (Prod.mk.inj (heq.symm.trans hfailed)).1]

theorem get?_of_ensureLast (hp : p.Descends) (h : d.ensureLast cwd p = (d', none)) :
    d'.get? (p.anchor.start cwd ++ p.parts) = some .directory := by
  rcases d.ensureLast_cases cwd p with
    ⟨place, hwalk, hnone, heq⟩ | ⟨place, hwalk, hnode, heq⟩ | ⟨e, heq⟩
  · have hnot : d.get? place ≠ some .directory := by simp [hnone]
    rw [heq] at h
    rw [← walk_of_descends hp hwalk, ← (Prod.mk.inj h).1]
    exact get?_set_self d _ (ne_nil_of_get?_ne_directory hnot)
  · rw [heq] at h
    rwa [← walk_of_descends hp hwalk, ← (Prod.mk.inj h).1]
  · rw [heq] at h
    cases h

/-- A directory that is ensured is there. -/
theorem get?_of_ensureReversed {a : Anchor} {parts : List String} (hup : ".." ∉ parts)
    (h : d.ensureReversed cwd a parts = (d', none)) :
    d'.get? (a.start cwd ++ parts.reverse) = some .directory := by
  obtain heq | ⟨last, above, d₁, rfl, -, -, heq⟩ | ⟨last, above, d₁, e, rfl, -, heq⟩ :=
    d.ensureReversed_cases cwd a parts
  · exact get?_of_ensureLast (descends_reverse hup) (heq.symm.trans h)
  · exact get?_of_ensureLast (descends_reverse hup) (heq.symm.trans h)
  · rw [heq] at h
    cases h

/-- On a tree a path can be followed when the place above its end is a directory. -/
theorem Rooted.walk_of_above (h : d.Rooted cwd) {a : Anchor} {names : List String}
    (hnames : Path.Downward names)
    (hshort : (⟨a, names⟩ : Path).text.utf8ByteSize ≤ maxPathOctets)
    (habove : d.get? (a.start cwd ++ names.dropLast) = some .directory) :
    d.walk cwd ⟨a, names⟩ = .ok (a.start cwd ++ names) := by
  rw [walk_eq_foldlM hshort]
  exact foldlM_step_of_directories hnames (h.start a) (h.tree.directoriesAt habove)

theorem walk_of_makeDirectory_notFound (h : d.makeDirectory cwd p = .error .notFound) :
    d.walk cwd p = .error .notFound := by
  unfold makeDirectory at h
  cases hwalk : d.walk cwd p with
  | error r =>
      rw [hwalk] at h
      cases h
      rfl
  | ok place =>
      rw [hwalk, ok_bind] at h
      split at h
      · cases h
      · cases h

/-- A directory that could not be made because those above it were missing can be made once they
are there. -/
theorem Rooted.makeDirectory_of_filled (h : d.Rooted cwd) (h' : d'.Rooted cwd) {a : Anchor}
    {names : List String} (hnames : Path.Downward names) (hne : names ≠ [])
    (hmissing : d.makeDirectory cwd ⟨a, names⟩ = .error .notFound)
    (hfills : Fills d d' (placesAlong (a.start cwd) names.dropLast))
    (habove : d'.get? (a.start cwd ++ names.dropLast) = some .directory) :
    d'.makeDirectory cwd ⟨a, names⟩ = .ok (d'.set (a.start cwd ++ names) .directory) := by
  have hwalk := walk_of_makeDirectory_notFound hmissing
  have hshort := utf8ByteSize_le_of_walk_eq hwalk (by simp)
  -- nothing was at the end of the path, as the disk is a tree
  have hnone : d.get? (a.start cwd ++ names) = none := by
    cases hnode : d.get? (a.start cwd ++ names) with
    | none => rfl
    | some i =>
        have hparent := h.tree _ _ hnode
        rw [List.dropLast_append_of_ne_nil hne] at hparent
        rw [h.walk_of_above hnames hshort hparent] at hwalk
        cases hwalk
  refine makeDirectory_eq_ok_iff.2
    ⟨_, h'.walk_of_above hnames hshort habove, ?_, rfl⟩
  rcases hfills (a.start cwd ++ names) with hsame | ⟨hmem, -, -⟩
  · exact hsame.trans hnone
  · obtain ⟨first, hfirst, -, heq⟩ := mem_placesAlong.1 hmem
    have hlength := hfirst.length_le
    rw [← List.append_cancel_left heq, List.length_dropLast] at hlength
    have hpos := List.length_pos_iff.2 hne
    omega

/-- Where no name is too long, a directory that cannot be ensured leaves the disk as it was. -/
theorem Rooted.ensureReversed_failed (h : d.Rooted cwd) {a : Anchor} {parts : List String}
    {e : OsError} (hnames : Path.Downward parts.reverse)
    (hfailed : d.ensureReversed cwd a parts = (d', some e)) : d' = d := by
  refine ensureReversed_induction (P := fun parts result => Path.Downward parts.reverse →
    ∀ {d' e}, result = (d', some e) → d' = d) d cwd a ?_ ?_ ?_ parts hnames hfailed
  · exact fun parts _ _ _ hfailed => ensureLast_eq_self hfailed
  · -- what was missing above has been made, so the last directory can be made
    intro last above d₁ hmake habove _ hnames d' e hfailed
    have hup : ".." ∉ above := fun hmem =>
      (hnames ".." (List.mem_reverse.2 (List.mem_cons_of_mem last hmem))).1 rfl
    have hdrop : (last :: above).reverse.dropLast = above.reverse := by
      rw [List.reverse_cons, List.dropLast_concat]
    have hfills := h.fills_ensureReversed a hup
    have hrooted := h.ensureReversed a above
    rw [habove] at hfills hrooted
    have hmade := h.makeDirectory_of_filled hrooted hnames (by simp) hmake
      (by rwa [hdrop]) (by rw [hdrop]; exact get?_of_ensureReversed hup habove)
    rw [Disk.ensureLast, hmade] at hfailed
    cases hfailed
  · intro last above d₁ e ih hnames d' e' hfailed
    rw [← (Prod.mk.inj hfailed).1]
    refine ih (fun name hname => hnames name ?_) rfl
    rw [List.reverse_cons]
    exact List.mem_append_left _ hname

/-- A directory that cannot be ensured leaves the disk as it was, except that some of those above it
may have been made when a name is too long. -/
theorem Rooted.ensureDirectory_failed (h : d.Rooted cwd) {e : OsError} (hp : p.Descends)
    (hfailed : d.ensureDirectory cwd p = (d', some e)) :
    Fills d d' (p.placesAbove cwd) ∧
      ((∀ name ∈ p.parts, name.utf8ByteSize ≤ maxNameOctets) → d' = d) := by
  constructor
  · have hfills := h.fills_of_ensureReversed_failed (fun hmem => hp (List.mem_reverse.1 hmem))
      hfailed
    rwa [List.reverse_reverse] at hfills
  · intro hshort
    refine h.ensureReversed_failed (fun name hname => ?_) hfailed
    rw [List.reverse_reverse] at hname
    exact ⟨fun hup => hp (hup ▸ hname), hshort name hname⟩

end Disk

end ReactScaffold
