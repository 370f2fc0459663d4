import ReactScaffold.Proofs.Execution.Lapses

/-!
# Merges that follow each other

Scripts that are merged into a manifest twice are merged in one step when the second entries are
put over the first. `Plan.merges_fuse` says when the two plans leave the same session, down to the
octets of the manifest: always, unless the manifest keeps half a surrogate pair after the first
merge and loses it in the second.
-/

namespace ReactScaffold

open ReactScaffold.Action Session Text

variable {programs : Programs} {manifest old : Members} {first second : OrderedMap String String}
  {path : String} {s : Session}

/-! ## Steps -/

/-- The manifest is written back at its place, or emptied when its text has no octets. -/
theorem perform_merge_of_holdsObject (programs : Programs)
    (hholds : s.HoldsObject (target none path) manifest) (hold : scriptsOf? manifest = some old) :
    ∃ place, s.disk.walk s.cwd (target none path) = .ok place ∧
      s.disk.get? place ≠ some .directory ∧
      ∀ entries, ((Step.mergeManifestScripts entries path).apply (operations programs)).perform s =
        match Utf8.encodeWide (Json.dumpDocument (.obj (mergedManifest manifest old entries))) with
        | .ok written => (.ok (), { s with disk := s.disk.set place (.file written) })
        | .error e =>
          (.error (.fault (.unencodable e)), { s with disk := s.disk.set place (.file []) }) := by
  obtain ⟨hadmissible, octets, -, hfile, -⟩ := id hholds
  obtain ⟨place, hwalk, hget⟩ := Disk.readFile_eq_ok_iff.1 hfile
  refine ⟨place, hwalk, by simp [hget], fun entries => ?_⟩
  obtain ⟨place', hwalk', -, hwrite⟩ := perform_writeFile_of_readFile hadmissible hfile
    (Json.dumpDocument (.obj (mergedManifest manifest old entries)))
  obtain rfl := Except.ok.inj (hwalk.symm.trans hwalk')
  rw [perform_mergeManifestScripts (readJson_of_holdsObject hholds) hold]
  exact hwrite

/-- After a first merge that succeeds, the second comes to what merging all entries at once comes
to. -/
theorem perform_merges (programs : Programs) (hnodup : (OrderedMap.keys first).Nodup)
    (hholds : s.HoldsObject (target none path) manifest) (hold : scriptsOf? manifest = some old)
    (hplain : WideText.IsPlain (Json.dumpDocument (.obj (mergedManifest manifest old first))))
    (second : OrderedMap String String) :
    ∃ t, ((Step.mergeManifestScripts first path).apply (operations programs)).perform s =
        (.ok (), t) ∧
      ((Step.mergeManifestScripts second path).apply (operations programs)).perform t =
        ((Step.mergeManifestScripts (OrderedMap.insertAll first second) path).apply
          (operations programs)).perform s := by
  obtain ⟨place, hwalk, hnot, hperform⟩ := perform_merge_of_holdsObject programs hholds hold
  obtain ⟨text, htext⟩ := hplain
  have hencode := Utf8.encodeWide_eq_ok_iff.2 ⟨text, htext, rfl⟩
  have hmerged := holdsObject_set hholds.1 (readable_merged hholds.readable hold first) hencode
    hwalk hnot
  obtain ⟨place', hwalk', -, hperform'⟩ :=
    perform_merge_of_holdsObject programs hmerged scriptsOf?_mergedManifest
  have hsame := (Disk.keepsDirectories_set hnot (.file (Utf8.encode text))).walk hwalk
  obtain rfl := Except.ok.inj (hsame.symm.trans hwalk')
  refine ⟨_, by rw [hperform, hencode], ?_⟩
  rw [hperform', hperform, mergedManifest_mergedManifest hnodup]
  simp only [Disk.set_set]

/-! ## Runs -/

/-- A run leaves what its steps leave, unless it adds a remark on the one that failed. -/
theorem Plan.run_state_of_applyAll {plan : Plan} {result : Except Failure Unit} {t : Session}
    (h : (Step.applyAll (operations programs) plan.steps).perform s = (result, t))
    (hresult : ∀ e, result ≠ .error (.scaffold e)) :
    (plan.run (operations programs) s).state = t := by
  rcases runSteps_cases (operations programs) 0 plan.steps s with
    ⟨u, hall, hrun⟩ | ⟨done, step, rest, u, failure, v, hsteps, hdone, hstep, hrun⟩
  · obtain ⟨-, rfl⟩ := Prod.mk.inj (hall.symm.trans h)
    rw [Plan.run, hrun]
  · have hall : (Step.applyAll (operations programs) plan.steps).perform s =
        (.error failure, v) := by
      rw [hsteps, Step.perform_applyAll_append hdone, Step.perform_applyAll_cons, hstep]
    obtain ⟨rfl, rfl⟩ := Prod.mk.inj (hall.symm.trans h)
    rw [Plan.run, hrun]
    cases failure with
    | fault f => rfl
    | scaffold e => exact absurd rfl (hresult e)

/-- The plan that merges each of the given entries into a manifest, one after the other. -/
def mergePlan (path : String) (merges : List (OrderedMap String String)) : Plan :=
  ⟨merges.map fun entries => .mergeManifestScripts entries path⟩

theorem perform_mergePlan_one (programs : Programs) (path : String)
    (entries : OrderedMap String String) (s : Session) :
    (Step.applyAll (operations programs) (mergePlan path [entries]).steps).perform s =
      ((Step.mergeManifestScripts entries path).apply (operations programs)).perform s := by
  show (Step.applyAll (operations programs) [.mergeManifestScripts entries path]).perform s = _
  rw [Step.perform_applyAll_cons]
  cases ((Step.mergeManifestScripts entries path).apply (operations programs)).perform s with
  | mk result t => cases result <;> rfl

/-- After a first merge that succeeds, the rest of two merges is the merge of all entries. -/
theorem perform_mergePlan_two (programs : Programs) (hnodup : (OrderedMap.keys first).Nodup)
    (hholds : s.HoldsObject (target none path) manifest) (hold : scriptsOf? manifest = some old)
    (hplain : WideText.IsPlain (Json.dumpDocument (.obj (mergedManifest manifest old first))))
    (second : OrderedMap String String) :
    (Step.applyAll (operations programs) (mergePlan path [first, second]).steps).perform s =
      (Step.applyAll (operations programs)
        (mergePlan path [OrderedMap.insertAll first second]).steps).perform s := by
  obtain ⟨t, hfirst, hsecond⟩ := perform_merges programs hnodup hholds hold hplain second
  show (Step.applyAll (operations programs) (_ :: (mergePlan path [second]).steps)).perform s = _
  rw [Step.perform_applyAll_cons_of_ok hfirst, perform_mergePlan_one, perform_mergePlan_one,
    hsecond]

/-- A run that goes through all its steps. -/
structure Course.EndsIn {σ : Type} (c : Course σ) (t : σ) : Prop where
  ok : ∃ reports, c.outcome = .ok reports
  state : c.state = t

theorem Plan.endsIn_of_applyAll {plan : Plan} {t : Session}
    (h : (Step.applyAll (operations programs) plan.steps).perform s = (.ok (), t)) :
    (plan.run (operations programs) s).EndsIn t := by
  rw [Plan.run, runSteps_of_ok _ 0 h]
  exact ⟨⟨_, rfl⟩, rfl⟩

/-- The run goes through when the merged text has octets. Otherwise the manifest is left empty, and
no later merge is tried. -/
theorem run_mergePlan (programs : Programs)
    (hholds : s.HoldsObject (target none path) manifest) (hold : scriptsOf? manifest = some old) :
    ∃ place, s.disk.walk s.cwd (target none path) = .ok place ∧
      s.disk.get? place ≠ some .directory ∧
      ∀ entries,
        (∀ written, Utf8.encodeWide
            (Json.dumpDocument (.obj (mergedManifest manifest old entries))) = .ok written →
          ((mergePlan path [entries]).run (operations programs) s).EndsIn
            { s with disk := s.disk.set place (.file written) }) ∧
        ∀ e, Utf8.encodeWide
            (Json.dumpDocument (.obj (mergedManifest manifest old entries))) = .error e →
          ∀ rest, ((mergePlan path (entries :: rest)).run (operations programs) s).state =
            { s with disk := s.disk.set place (.file []) } := by
  obtain ⟨place, hwalk, hnot, hperform⟩ := perform_merge_of_holdsObject programs hholds hold
  refine ⟨place, hwalk, hnot, fun entries => ⟨fun written hencode => ?_, fun e hencode rest => ?_⟩⟩
  · have happly := perform_mergePlan_one programs path entries s
    rw [hperform, hencode] at happly
    exact Plan.endsIn_of_applyAll happly
  · have hstep := hperform entries
    rw [hencode] at hstep
    rw [Plan.run, mergePlan, List.map_cons, runSteps_cons_of_error _ 0 _ hstep]
    rfl

/-- After a first merge that succeeds, the run leaves what the merge of all entries leaves. -/
theorem run_mergePlan_two (programs : Programs) (hnodup : (OrderedMap.keys first).Nodup)
    (hholds : s.HoldsObject (target none path) manifest) (hold : scriptsOf? manifest = some old)
    (hplain : WideText.IsPlain (Json.dumpDocument (.obj (mergedManifest manifest old first))))
    (second : OrderedMap String String) :
    ((mergePlan path [first, second]).run (operations programs) s).state =
      ((mergePlan path [OrderedMap.insertAll first second]).run (operations programs) s).state := by
  have htwo := perform_mergePlan_two programs hnodup hholds hold hplain second
  obtain ⟨place, -, -, hperform⟩ := perform_merge_of_holdsObject programs hholds hold
  have hone := perform_mergePlan_one programs path (OrderedMap.insertAll first second) s
  rw [hperform] at hone
  cases hencode : Utf8.encodeWide (Json.dumpDocument
      (.obj (mergedManifest manifest old (OrderedMap.insertAll first second)))) with
  | ok written =>
    rw [hencode] at hone
    rw [Plan.run_state_of_applyAll hone nofun, Plan.run_state_of_applyAll (htwo.trans hone) nofun]
  | error e =>
    rw [hencode] at hone
    rw [Plan.run_state_of_applyAll hone nofun, Plan.run_state_of_applyAll (htwo.trans hone) nofun]

theorem exists_unencodable {text : WideText} (h : ¬ WideText.IsPlain text) :
    ∃ e, Utf8.encodeWide text = .error e := by
  cases hencode : Utf8.encodeWide text with
  | ok octets => exact absurd (isPlain_of_encodeWide hencode) h
  | error e => exact ⟨e, rfl⟩

/-- A manifest that is held is not empty. -/
theorem Session.HoldsObject.readFile_ne_nil {p : Path} (h : s.HoldsObject p manifest) :
    s.disk.readFile s.cwd p ≠ .ok [] := by
  obtain ⟨-, octets, cs, hfile, hdecode, hparse⟩ := h
  rw [hfile]
  rintro hnil
  obtain rfl := Except.ok.inj hnil
  obtain rfl := Except.ok.inj (hdecode.symm.trans (Utf8.decode_encode []))
  have hempty : Json.parse (normalizeLineEndings []) = .error (.miss .value 0) := by rfl
  cases hparse.symm.trans hempty

/-- The two plans leave different sessions when only the merge of all entries has octets. -/
theorem run_mergePlan_ne (programs : Programs)
    (hholds : s.HoldsObject (target none path) manifest) (hold : scriptsOf? manifest = some old)
    (hfirst : ¬ WideText.IsPlain (Json.dumpDocument (.obj (mergedManifest manifest old first))))
    {entries : OrderedMap String String}
    (hall : WideText.IsPlain (Json.dumpDocument (.obj (mergedManifest manifest old entries))))
    (rest : List (OrderedMap String String)) :
    ((mergePlan path (first :: rest)).run (operations programs) s).state ≠
      ((mergePlan path [entries]).run (operations programs) s).state := by
  obtain ⟨place, hwalk, hnot, hrun⟩ := run_mergePlan programs hholds hold
  obtain ⟨text, htext⟩ := hall
  have hencode := Utf8.encodeWide_eq_ok_iff.2 ⟨text, htext, rfl⟩
  rw [((hrun entries).1 _ hencode).state]
  have hwritten := holdsObject_set hholds.1 (readable_merged hholds.readable hold entries) hencode
    hwalk hnot
  obtain ⟨e, hfails⟩ := exists_unencodable hfirst
  rw [(hrun first).2 e hfails rest]
  intro heq
  refine hwritten.readFile_ne_nil ?_
  rw [← heq]
  exact Disk.readFile_set hwalk hnot []

/-- The two plans leave the same session unless only the merge of all entries has octets. -/
theorem run_mergePlan_eq_iff (programs : Programs) (hnodup : (OrderedMap.keys first).Nodup)
    (hholds : s.HoldsObject (target none path) manifest) (hold : scriptsOf? manifest = some old)
    (second : OrderedMap String String) :
    ((mergePlan path [first, second]).run (operations programs) s).state =
        ((mergePlan path [OrderedMap.insertAll first second]).run (operations programs) s).state ↔
      (WideText.IsPlain (Json.dumpDocument (.obj (mergedManifest manifest old first))) ∨
        ¬ WideText.IsPlain (Json.dumpDocument
          (.obj (mergedManifest manifest old (OrderedMap.insertAll first second))))) := by
  constructor
  · intro heq
    by_contra h
    rw [not_or, not_not] at h
    exact run_mergePlan_ne programs hholds hold h.1 h.2 [second] heq
  · intro h
    by_cases hfirst : WideText.IsPlain
      (Json.dumpDocument (.obj (mergedManifest manifest old first)))
    · exact run_mergePlan_two programs hnodup hholds hold hfirst second
    · obtain ⟨place, -, -, hrun⟩ := run_mergePlan programs hholds hold
      obtain ⟨e, hfails⟩ := exists_unencodable hfirst
      obtain ⟨e', hfails'⟩ := exists_unencodable (h.resolve_left hfirst)
      rw [(hrun first).2 e hfails, (hrun _).2 e' hfails']

/-- Two merges leave what one merge of all entries leaves, the second put over the first. That
holds of every manifest without halves of surrogate pairs, and then both runs succeed. In general
the two leave different sessions just when there is such a half in the manifest after the first
merge and none after both. Merging the same entries twice leaves what merging them once leaves. -/
theorem Plan.merges_fuse (hnodup : (OrderedMap.keys first).Nodup)
    (hread : (readJson none path).perform s = (.ok manifest, s))
    (hold : scriptsOf? manifest = some old) (second : OrderedMap String String) :
    (Json.Plain (.obj manifest) →
      ∃ t, ((mergePlan path [first, second]).run (operations programs) s).EndsIn t ∧
        ((mergePlan path [OrderedMap.insertAll first second]).run
          (operations programs) s).EndsIn t) ∧
    (((mergePlan path [first, second]).run (operations programs) s).state =
        ((mergePlan path [OrderedMap.insertAll first second]).run (operations programs) s).state ↔
      (WideText.IsPlain (Json.dumpDocument (.obj (mergedManifest manifest old first))) ∨
        ¬ WideText.IsPlain (Json.dumpDocument
          (.obj (mergedManifest manifest old (OrderedMap.insertAll first second)))))) ∧
    ((mergePlan path [first, first]).run (operations programs) s).state =
      ((mergePlan path [first]).run (operations programs) s).state := by
  have hholds := (perform_readJson_eq_ok_iff.1 hread).2
  refine ⟨fun hplain => ?_, run_mergePlan_eq_iff programs hnodup hholds hold second, ?_⟩
  · have hboth := perform_mergePlan_two programs hnodup hholds hold
      (plain_merged hplain hold first).isPlain_dumpDocument second
    obtain ⟨octets, place, t, -, hmerge, -⟩ := perform_mergeManifestScripts_of_plain hholds hplain
      hold
    have hone := (perform_mergePlan_one programs path (OrderedMap.insertAll first second) s).trans
      hmerge
    exact ⟨t, Plan.endsIn_of_applyAll (hboth.trans hone), Plan.endsIn_of_applyAll hone⟩
  · have hsame : OrderedMap.insertAll first first = first :=
      OrderedMap.insertAll_of_get? fun e he => OrderedMap.get?_of_mem hnodup he
    have htwice := run_mergePlan_eq_iff programs hnodup hholds hold first
    rw [hsame] at htwice
    exact htwice.2 (em _)

/-- Merging into the sample manifest a script that replaces one and a script that is new, then
another that is there. -/
theorem Plan.merges_fuse_sample :
    (OrderedMap.keys [("b", "z"), ("c", "w")]).Nodup ∧
    (readJson none "package.json").perform sampleSession = (.ok sampleManifest, sampleSession) ∧
    scriptsOf? sampleManifest = some (scriptMembers [("a", "x"), ("b", "y")]) ∧
    Json.Plain (.obj sampleManifest) ∧
    ∃ t, ((mergePlan "package.json" [[("b", "z"), ("c", "w")], [("c", "v"), ("a", "u")]]).run
          (operations fun _ => .started {}) sampleSession).EndsIn t ∧
      ((mergePlan "package.json" [[("b", "z"), ("c", "v"), ("a", "u")]]).run
          (operations fun _ => .started {}) sampleSession).EndsIn t := by
  have hnodup : (OrderedMap.keys [("b", "z"), ("c", "w")]).Nodup := by decide
  have hread : (readJson none "package.json").perform sampleSession =
      (.ok sampleManifest, sampleSession) := readJson_of_holdsObject sampleSession_holdsObject
  have hold : scriptsOf? sampleManifest = some (scriptMembers [("a", "x"), ("b", "y")]) := by cbv
  have hplain : Json.Plain (.obj sampleManifest) :=
    Json.plain_of_plain? (.obj sampleManifest) rfl
  exact ⟨hnodup, hread, hold, hplain,
    (Plan.merges_fuse hnodup hread hold [("c", "v"), ("a", "u")]).1 hplain⟩

/-- The text of a manifest with a script whose command is half a surrogate pair. -/
def brokenText : List Char := "\x7b\"scripts\":\x7b\"dev\":\"\\ud800\"\x7d\x7d".toList

/-- The scripts of the manifest. -/
def brokenScripts : Members := [(WideText.ofString "dev", .str [.ofNat 0xD800])]

/-- A session whose disk holds the manifest. -/
def brokenSession : Session where
  disk := ⟨[(["package.json"], .file (Utf8.encode brokenText))]⟩

theorem brokenSession_holdsObject :
    brokenSession.HoldsObject (target none "package.json") [(scriptsName, .obj brokenScripts)] := by
  have hparse : Json.parse (normalizeLineEndings brokenText) =
      .ok (.obj [(scriptsName, .obj brokenScripts)]) := by cbv
  refine ⟨?_, Utf8.encode brokenText, brokenText, by cbv, Utf8.decode_encode brokenText, hparse⟩
  unfold Session.Admissible
  decide

/-- The broken script is replaced when all entries are merged at once. When the entry that replaces
it comes second, the first merge empties the manifest and the run ends there. -/
theorem Plan.merges_part :
    (readJson none "package.json").perform brokenSession =
        (.ok [(scriptsName, .obj brokenScripts)], brokenSession) ∧
      scriptsOf? [(scriptsName, .obj brokenScripts)] = some brokenScripts ∧
      (∃ e, ((mergePlan "package.json" [[("build", "vite build")], [("dev", "vite")]]).run
        (operations fun _ => .started {}) brokenSession).outcome =
          .error (.fault (.unencodable e))) ∧
      ((mergePlan "package.json" [[("build", "vite build")], [("dev", "vite")]]).run
        (operations fun _ => .started {}) brokenSession).state.disk.readFile []
          (target none "package.json") = .ok [] ∧
      ∃ t, ((mergePlan "package.json"
            [OrderedMap.insertAll [("build", "vite build")] [("dev", "vite")]]).run
          (operations fun _ => .started {}) brokenSession).EndsIn t ∧
        t.disk.readFile [] (target none "package.json") = .ok (Utf8.encode
          ("\x7b\n  \"scripts\": \x7b\n    \"dev\": \"vite\",\n    \"build\": \"vite build\"\n" ++
            "  \x7d\n\x7d\n").toList) := by
  have hold : scriptsOf? [(scriptsName, .obj brokenScripts)] = some brokenScripts := by cbv
  have hfails : Utf8.encodeWide (Json.dumpDocument (.obj (mergedManifest
      [(scriptsName, .obj brokenScripts)] brokenScripts [("build", "vite build")]))) =
        .error ⟨29, [0]⟩ := by cbv
  have hencode : Utf8.encodeWide (Json.dumpDocument (.obj (mergedManifest
      [(scriptsName, .obj brokenScripts)] brokenScripts
        (OrderedMap.insertAll [("build", "vite build")] [("dev", "vite")])))) = .ok (Utf8.encode
          ("\x7b\n  \"scripts\": \x7b\n    \"dev\": \"vite\",\n    \"build\": \"vite build\"\n" ++
            "  \x7d\n\x7d\n").toList) := by cbv
  obtain ⟨place, hwalk, hnot, hperform⟩ := perform_merge_of_holdsObject (fun _ => .started {})
    brokenSession_holdsObject hold
  obtain ⟨place', hwalk', -, hrun⟩ := run_mergePlan (fun _ => .started {})
    brokenSession_holdsObject hold
  obtain rfl := Except.ok.inj (hwalk.symm.trans hwalk')
  have hstep := hperform [("build", "vite build")]
  rw [hfails] at hstep
  refine ⟨readJson_of_holdsObject brokenSession_holdsObject, hold, ⟨⟨29, [0]⟩, ?_⟩, ?_,
    _, (hrun _).1 _ hencode, Disk.readFile_set hwalk hnot _⟩
  · rw [Plan.run, mergePlan, List.map_cons, runSteps_cons_of_error _ 0 _ hstep]
    rfl
  · rw [(hrun _).2 _ hfails]
    exact Disk.readFile_set hwalk hnot []

end ReactScaffold
