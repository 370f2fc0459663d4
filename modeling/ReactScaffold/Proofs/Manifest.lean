import ReactScaffold.Session.Operations
import ReactScaffold.Proofs.Session.Files
import ReactScaffold.Proofs.Json.Plain

/-!
# Merging scripts into a manifest

The scripts of a manifest are replaced as a whole, everything else is written back as it was read.
`Step.mergeManifestScripts_reads_back` says what the file holds after a merge.
-/

namespace ReactScaffold

open Text

variable {manifest old : Members} {entries : OrderedMap String String}

/-- The scripts that entries are merged into, if they are a mapping. A value that counts as no
scripts stands for an empty one. -/
def scriptsOf? (manifest : Members) : Option Members :=
  match OrderedMap.get? manifest scriptsName with
  | none => some []
  | some v =>
    if isVacant v then some []
    else
      match v with
      | .obj old => some old
      | _ => none

/-- The manifest with entries merged into the given scripts. -/
def mergedManifest (manifest old : Members) (entries : OrderedMap String String) : Members :=
  OrderedMap.insert manifest scriptsName (.obj (OrderedMap.insertAll old (scriptMembers entries)))

theorem mergeIntoManifest_of_scriptsOf? (h : scriptsOf? manifest = some old) :
    mergeIntoManifest manifest entries = .ok (mergedManifest manifest old entries) := by
  suffices mergeScripts ((OrderedMap.get? manifest scriptsName).getD .null)
      (scriptMembers entries) = .ok (OrderedMap.insertAll old (scriptMembers entries)) by
    rw [mergeIntoManifest, this]
    rfl
  unfold scriptsOf? at h
  cases hget : OrderedMap.get? manifest scriptsName with
  | none =>
      rw [hget] at h
      obtain rfl := Option.some.inj h
      rfl
  | some v =>
      rw [hget] at h
      dsimp only at h
      rw [Option.getD_some]
      unfold mergeScripts
      split_ifs at h ⊢ with hvacant
      · obtain rfl := Option.some.inj h
        rfl
      · split at h
        · obtain rfl := Option.some.inj h
          rfl
        · cases h

/-- A value that stands for a name and its command: it has two items, and the first can be a
key. -/
def IsScript (v : Json.Document) : Prop :=
  ∃ k value key, pairItems? v = some [k, value] ∧ Key.ofDocument? k = some key

/-- A value that scripts can be merged into: nothing, an object, or a list of pairs. -/
def IsScripts (v : Json.Document) : Prop :=
  isVacant v = true ∨ (∃ members, v = .obj members) ∨
    ∃ items, v = .arr items ∧ ∀ item ∈ items, IsScript item

theorem exists_addPairs_iff {m : KeyedScripts} {index : Nat} {items : List Json.Document} :
    (∃ given, KeyedScripts.addPairs m index items = .ok given) ↔
      ∀ item ∈ items, IsScript item := by
  induction items generalizing m index with
  | nil => exact ⟨fun _ => List.forall_mem_nil _, fun _ => ⟨m, rfl⟩⟩
  | cons v items ih =>
      rw [List.forall_mem_cons, KeyedScripts.addPairs]
      constructor
      · rintro ⟨given, h⟩
        split at h
        · cases h
        · rename_i k value hpair
          split at h
          · cases h
          · rename_i key hkey
            exact ⟨⟨k, value, key, hpair, hkey⟩, ih.1 ⟨given, h⟩⟩
        · cases h
      · rintro ⟨⟨k, value, key, hpair, hkey⟩, hitems⟩
        rw [hpair]
        dsimp only
        rw [hkey]
        exact ih.2 hitems

/-- Scripts can be merged into just the values that can hold scripts. -/
theorem exists_mergeScripts_iff {v : Json.Document} {entries : Members} :
    (∃ merged, mergeScripts v entries = .ok merged) ↔ IsScripts v := by
  unfold mergeScripts
  split_ifs with hvacant
  · exact ⟨fun _ => .inl hvacant, fun _ => ⟨_, rfl⟩⟩
  · cases v with
    | obj members => exact ⟨fun _ => .inr (.inl ⟨members, rfl⟩), fun _ => ⟨_, rfl⟩⟩
    | arr items =>
        constructor
        · rintro ⟨merged, h⟩
          obtain ⟨given, hgiven, -⟩ := bind_eq_ok h
          exact .inr (.inr ⟨items, rfl, exists_addPairs_iff.1 ⟨given, hgiven⟩⟩)
        · rintro (h | ⟨members, h⟩ | ⟨_, h, hitems⟩)
          · exact absurd h hvacant
          · cases h
          · obtain rfl := Json.arr.inj h
            obtain ⟨given, hgiven⟩ := (@exists_addPairs_iff [] 0 items).2 hitems
            dsimp only
            rw [hgiven]
            exact ⟨_, rfl⟩
    | _ =>
        constructor
        · rintro ⟨merged, h⟩
          cases h
        · rintro (h | ⟨members, h⟩ | ⟨items, h, -⟩)
          · exact absurd h hvacant
          · cases h
          · cases h

/-- Script entries can be merged into just the manifests whose scripts they can be merged into. -/
theorem exists_mergeIntoManifest_iff :
    (∃ merged, mergeIntoManifest manifest entries = .ok merged) ↔
      IsScripts ((OrderedMap.get? manifest scriptsName).getD .null) := by
  rw [← @exists_mergeScripts_iff _ (scriptMembers entries)]
  constructor
  · rintro ⟨merged, h⟩
    obtain ⟨scripts, hscripts, -⟩ := bind_eq_ok h
    exact ⟨scripts, hscripts⟩
  · rintro ⟨scripts, hscripts⟩
    exact ⟨_, by rw [mergeIntoManifest, hscripts]; rfl⟩

theorem keys_scriptMembers (entries : OrderedMap String String) :
    OrderedMap.keys (scriptMembers entries) =
      (OrderedMap.keys entries).map WideText.ofString := by
  simp [OrderedMap.keys, scriptMembers, Function.comp_def]

theorem nodup_keys_scriptMembers (h : (OrderedMap.keys entries).Nodup) :
    (OrderedMap.keys (scriptMembers entries)).Nodup := by
  rw [keys_scriptMembers]
  exact h.map WideText.ofString_injective

theorem scriptMembers_insert (entries : OrderedMap String String) (script command : String) :
    scriptMembers (OrderedMap.insert entries script command) =
      OrderedMap.insert (scriptMembers entries) (WideText.ofString script)
        (.str (WideText.ofString command)) := by
  induction entries with
  | nil => rfl
  | cons e entries ih =>
    rw [OrderedMap.insert]
    show _ = OrderedMap.insert ((WideText.ofString e.1, _) :: scriptMembers entries) _ _
    rw [OrderedMap.insert]
    by_cases h : e.1 = script
    · rw [if_pos h, if_pos (congrArg WideText.ofString h)]
      rfl
    · rw [if_neg h, if_neg fun heq => h (WideText.ofString_injective heq), ← ih]
      rfl

theorem scriptMembers_insertAll (first second : OrderedMap String String) :
    scriptMembers (OrderedMap.insertAll first second) =
      OrderedMap.insertAll (scriptMembers first) (scriptMembers second) := by
  induction second generalizing first with
  | nil => rfl
  | cons e second ih =>
    show scriptMembers (OrderedMap.insertAll (OrderedMap.insert first e.1 e.2) second) = _
    rw [ih, scriptMembers_insert]
    rfl

theorem get?_scriptMembers (entries : OrderedMap String String) (script : String) :
    OrderedMap.get? (scriptMembers entries) (WideText.ofString script) =
      (OrderedMap.get? entries script).map fun command => .str (WideText.ofString command) := by
  induction entries with
  | nil => rfl
  | cons e entries ih =>
      rw [scriptMembers, List.map_cons, OrderedMap.get?, OrderedMap.get?, ← scriptMembers, ih]
      by_cases h : e.1 = script
      · rw [if_pos h, if_pos (congrArg WideText.ofString h)]
        rfl
      · rw [if_neg h, if_neg fun heq => h (WideText.ofString_injective heq)]

/-- The scripts are none at all, or a member of the manifest. -/
theorem scriptsOf?_eq_some (h : scriptsOf? manifest = some old) :
    old = [] ∨ OrderedMap.get? manifest scriptsName = some (.obj old) := by
  unfold scriptsOf? at h
  split at h
  · exact .inl (Option.some.inj h).symm
  · rename_i v hget
    split_ifs at h with hvacant
    · exact .inl (Option.some.inj h).symm
    · split at h
      · obtain rfl := Option.some.inj h
        exact .inr hget
      · cases h

/-- The scripts of an object within limits are within limits, one level further in. -/
theorem readable_of_scriptsOf? {depth : Nat} (hmanifest : Json.Readable (depth + 2) (.obj manifest))
    (h : scriptsOf? manifest = some old) : Json.Readable (depth + 1) (.obj old) := by
  rcases scriptsOf?_eq_some h with rfl | hget
  · exact .obj List.nodup_nil (by simp)
  · cases hmanifest with
    | obj names each => exact each _ (OrderedMap.mem_of_get?_eq_some hget)

theorem readable_insertAll_scriptMembers {depth : Nat} (h : Json.Readable (depth + 1) (.obj old))
    (entries : OrderedMap String String) :
    Json.Readable (depth + 1) (.obj (OrderedMap.insertAll old (scriptMembers entries))) := by
  cases h with
  | obj names each =>
      refine .obj (OrderedMap.nodup_keys_insertAll names _) fun m hm => ?_
      rcases OrderedMap.mem_insertAll hm with hold | hnew
      · exact each m hold
      · obtain ⟨e, -, rfl⟩ := List.mem_map.1 hnew
        exact .str

theorem readable_insert {depth : Nat} {v : Json.Document}
    (hmanifest : Json.Readable (depth + 1) (.obj manifest)) (k : WideText)
    (hv : Json.Readable depth v) :
    Json.Readable (depth + 1) (.obj (OrderedMap.insert manifest k v)) := by
  cases hmanifest with
  | obj names each =>
      refine .obj (OrderedMap.nodup_keys_insert names k v) fun m hm => ?_
      rcases OrderedMap.mem_insert hm with hold | rfl
      · exact each m hold
      · exact hv

/-- The scripts of a plain object are plain. -/
theorem plain_of_scriptsOf? (hmanifest : Json.Plain (.obj manifest))
    (h : scriptsOf? manifest = some old) : Json.Plain (.obj old) := by
  rcases scriptsOf?_eq_some h with rfl | hget
  · exact .obj (by simp) (by simp)
  · cases hmanifest with
    | obj names each => exact each _ (OrderedMap.mem_of_get?_eq_some hget)

/-- The limits of the reader are kept by a merge. -/
theorem readable_merged (hmanifest : Json.Readable Json.Rules.lenient.maxNesting (.obj manifest))
    (h : scriptsOf? manifest = some old) (entries : OrderedMap String String) :
    Json.Readable Json.Rules.lenient.maxNesting (.obj (mergedManifest manifest old entries)) :=
  readable_insert hmanifest scriptsName
    (readable_insertAll_scriptMembers (readable_of_scriptsOf? hmanifest h) entries)

/-- A plain manifest stays plain in a merge. -/
theorem plain_merged (hmanifest : Json.Plain (.obj manifest)) (h : scriptsOf? manifest = some old)
    (entries : OrderedMap String String) :
    Json.Plain (.obj (mergedManifest manifest old entries)) := by
  have hold : Json.Plain (.obj old) := plain_of_scriptsOf? hmanifest h
  have hscripts : Json.Plain (.obj (OrderedMap.insertAll old (scriptMembers entries))) := by
    cases hold with
    | obj names each =>
        refine .obj (fun m hm => ?_) fun m hm => ?_
        · rcases OrderedMap.mem_insertAll hm with hmem | hnew
          · exact names m hmem
          · obtain ⟨e, -, rfl⟩ := List.mem_map.1 hnew
            exact WideText.isPlain_ofChars _
        · rcases OrderedMap.mem_insertAll hm with hmem | hnew
          · exact each m hmem
          · obtain ⟨e, -, rfl⟩ := List.mem_map.1 hnew
            exact .str (WideText.isPlain_ofChars _)
  cases hmanifest with
  | obj names each =>
      refine .obj (fun m hm => ?_) fun m hm => ?_
      · rcases OrderedMap.mem_insert hm with hmem | rfl
        · exact names m hmem
        · exact WideText.isPlain_ofChars _
      · rcases OrderedMap.mem_insert hm with hmem | rfl
        · exact each m hmem
        · exact hscripts

/-- What a merge makes of a manifest: the names keep their order, that of the scripts being put last
when it is new, and the other values stay. The scripts are those there were, in their order, then
the new entries in theirs, each with the command of the entries if they have one. -/
structure IsMerged (manifest old : Members) (entries : OrderedMap String String)
    (merged : Members) : Prop where
  names : OrderedMap.keys merged = OrderedMap.keys manifest ++
    (if scriptsName ∈ OrderedMap.keys manifest then [] else [scriptsName])
  others (k : WideText) (h : k ≠ scriptsName) :
    OrderedMap.get? merged k = OrderedMap.get? manifest k
  scripts : ∃ scripts, OrderedMap.get? merged scriptsName = some (.obj scripts) ∧
    OrderedMap.keys scripts = OrderedMap.keys old ++
      (OrderedMap.keys (scriptMembers entries)).filter (· ∉ OrderedMap.keys old) ∧
    ∀ k, OrderedMap.get? scripts k =
      (OrderedMap.get? (scriptMembers entries) k).or (OrderedMap.get? old k)

theorem isMerged_mergedManifest (hentries : (OrderedMap.keys entries).Nodup) :
    IsMerged manifest old entries (mergedManifest manifest old entries) where
  names := by
    rw [mergedManifest, OrderedMap.keys_insert]
    split_ifs
    · rw [List.append_nil]
    · rfl
  others k hk := OrderedMap.get?_insert_of_ne manifest _ (Ne.symm hk)
  scripts := by
    have hnames := nodup_keys_scriptMembers hentries
    refine ⟨_, OrderedMap.get?_insert_self manifest scriptsName _, ?_,
      OrderedMap.get?_insertAll old hnames⟩
    convert OrderedMap.keys_insertAll old hnames

theorem scriptsOf?_mergedManifest :
    scriptsOf? (mergedManifest manifest old entries) =
      some (OrderedMap.insertAll old (scriptMembers entries)) := by
  have hget : OrderedMap.get? (mergedManifest manifest old entries) scriptsName =
      some (.obj (OrderedMap.insertAll old (scriptMembers entries))) :=
    OrderedMap.get?_insert_self manifest scriptsName _
  rw [scriptsOf?, hget]
  dsimp only
  split_ifs with hvacant
  · rw [isVacant, List.isEmpty_iff] at hvacant
    rw [hvacant]
  · rfl

/-- Merging the same entries again changes nothing. -/
theorem mergedManifest_again (hentries : (OrderedMap.keys entries).Nodup) :
    mergedManifest (mergedManifest manifest old entries)
        (OrderedMap.insertAll old (scriptMembers entries)) entries =
      mergedManifest manifest old entries := by
  have hscripts := OrderedMap.insertAll_again old (nodup_keys_scriptMembers hentries)
  rw [mergedManifest, hscripts]
  exact OrderedMap.insert_of_get? (OrderedMap.get?_insert_self manifest scriptsName _)

/-- Merging entries and then others is merging the first with the others put over them. -/
theorem mergedManifest_mergedManifest {first : OrderedMap String String}
    (hnodup : (OrderedMap.keys first).Nodup) (second : OrderedMap String String) :
    mergedManifest (mergedManifest manifest old first)
        (OrderedMap.insertAll old (scriptMembers first)) second =
      mergedManifest manifest old (OrderedMap.insertAll first second) := by
  rw [mergedManifest, mergedManifest, mergedManifest, OrderedMap.insert_insert_self,
    OrderedMap.insertAll_insertAll old (nodup_keys_scriptMembers hnodup),
    ← scriptMembers_insertAll]

variable {programs : Programs} {path : String} {s s' : Session}

theorem Session.HoldsObject.readable {p : Path} (h : s.HoldsObject p manifest) :
    Json.Readable Json.Rules.lenient.maxNesting (.obj manifest) := by
  obtain ⟨-, octets, cs, -, -, hparse⟩ := h
  exact Json.parse_readable hparse

/-- A merge reads the manifest and writes it back with the merged scripts. -/
theorem perform_mergeManifestScripts
    (hread : (Session.readJson none path).perform s = (.ok manifest, s))
    (hold : scriptsOf? manifest = some old) :
    ((Step.mergeManifestScripts entries path).apply (Session.operations programs)).perform s =
      (Session.writeJson none path (.obj (mergedManifest manifest old entries))).perform s := by
  show ((Session.readJson none path >>= fun members => _) : Action Session Unit).perform s = _
  rw [Action.perform_bind, hread]
  dsimp only
  rw [Action.perform_bind, mergeIntoManifest_of_scriptsOf? hold]
  rfl

/-- A merge into a plain manifest succeeds and writes the octets of the merged one, which is held
afterwards. -/
theorem perform_mergeManifestScripts_of_plain
    (hholds : s.HoldsObject (Path.ofText path) manifest)
    (hplain : Json.Plain (.obj manifest)) (hold : scriptsOf? manifest = some old) :
    ∃ octets place t,
      Utf8.encodeWide (Json.dumpDocument (.obj (mergedManifest manifest old entries))) =
        .ok octets ∧
      ((Step.mergeManifestScripts entries path).apply (Session.operations programs)).perform s =
        (.ok (), t) ∧
      s.disk.walk s.cwd (Path.ofText path) = .ok place ∧
      t = { s with disk := s.disk.set place (.file octets) } ∧
      t.HoldsObject (Path.ofText path) (mergedManifest manifest old entries) := by
  obtain ⟨hadmissible, content, cs, hread, -, -⟩ := id hholds
  obtain ⟨place, hwalk, hfile⟩ := Disk.readFile_eq_ok_iff.1 hread
  obtain ⟨text, htext⟩ := (plain_merged hplain hold entries).isPlain_dumpDocument
  have hencode := Utf8.encodeWide_eq_ok_iff.2 ⟨text, htext, rfl⟩
  have hnot : s.disk.get? place ≠ some .directory := by
    rw [hfile]
    simp
  have hmerged : Session.HoldsObject
      { s with disk := s.disk.set place (.file (Utf8.encode text)) } (Session.target none path)
      (mergedManifest manifest old entries) :=
    Session.holdsObject_set hadmissible (readable_merged hholds.readable hold entries) hencode
      hwalk hnot
  refine ⟨Utf8.encode text, place, _, hencode, ?_, hwalk, rfl, hmerged⟩
  rw [perform_mergeManifestScripts (Session.readJson_of_holdsObject hholds) hold]
  exact Session.perform_writeFile_of_walk hadmissible hencode hwalk hnot

/-- A merge that succeeds leaves a file that holds the merged manifest. Nothing else changes, on
the disk or in the session. -/
theorem Step.mergeManifestScripts_reads_back (hentries : (OrderedMap.keys entries).Nodup)
    (hread : (Session.readJson none path).perform s = (.ok manifest, s))
    (hold : scriptsOf? manifest = some old)
    (hmerge : ((Step.mergeManifestScripts entries path).apply (Session.operations programs)).perform
      s = (.ok (), s')) :
    ∃ merged place,
      (Session.readJson none path).perform s' = (.ok merged, s') ∧
      IsMerged manifest old entries merged ∧
      s.disk.walk s.cwd (Path.ofText path) = .ok place ∧
      (∀ other, other ≠ place → s'.disk.get? other = s.disk.get? other) ∧
      { s' with disk := s.disk } = s := by
  have hholds := (Session.perform_readJson_eq_ok_iff.1 hread).2
  rw [perform_mergeManifestScripts hread hold] at hmerge
  obtain ⟨hholds', octets, place, hwalk, rfl⟩ := Session.holdsObject_of_writeJson hholds
    (readable_merged hholds.readable hold entries) hmerge
  refine ⟨_, place, Session.readJson_of_holdsObject hholds', isMerged_mergedManifest hentries, hwalk, ?_,
    rfl⟩
  intro other hother
  exact Disk.get?_set_of_ne s.disk _ (Ne.symm hother)

/-- The text of a manifest with another member and two scripts. -/
def sampleText : List Char :=
  "\x7b\"n\":[1],\"scripts\":\x7b\"a\":\"x\",\"b\":\"y\"\x7d\x7d".toList

/-- A session whose disk holds the manifest. -/
def sampleSession : Session where
  disk := ⟨[(["package.json"], .file (Utf8.encode sampleText))]⟩

/-- The members of the manifest. -/
def sampleManifest : Members :=
  [(WideText.ofString "n", .arr [.int 1]),
    (scriptsName, .obj (scriptMembers [("a", "x"), ("b", "y")]))]

theorem sampleSession_holdsObject :
    sampleSession.HoldsObject (Path.ofText "package.json") sampleManifest := by
  have hparse : Json.parse (normalizeLineEndings sampleText) = .ok (.obj sampleManifest) := by cbv
  refine ⟨?_, Utf8.encode sampleText, sampleText, by cbv, Utf8.decode_encode sampleText, hparse⟩
  unfold Session.Admissible
  decide

/-- Merging a script that replaces one and a script that is new. -/
theorem Step.mergeManifestScripts_reads_back_sample :
    ∃ (s' : Session) (merged : Members) (place : Place),
      (OrderedMap.keys [("b", "z"), ("c", "w")]).Nodup ∧
      (Session.readJson none "package.json").perform sampleSession =
        (.ok sampleManifest, sampleSession) ∧
      scriptsOf? sampleManifest = some (scriptMembers [("a", "x"), ("b", "y")]) ∧
      ((Step.mergeManifestScripts [("b", "z"), ("c", "w")] "package.json").apply
        (Session.operations fun _ => .started {})).perform sampleSession = (.ok (), s') ∧
      (Session.readJson none "package.json").perform s' = (.ok merged, s') ∧
      IsMerged sampleManifest (scriptMembers [("a", "x"), ("b", "y")]) [("b", "z"), ("c", "w")]
        merged ∧
      sampleSession.disk.walk sampleSession.cwd (Path.ofText "package.json") = .ok place ∧
      (∀ other, other ≠ place → s'.disk.get? other = sampleSession.disk.get? other) ∧
      { s' with disk := sampleSession.disk } = sampleSession := by
  have hentries : (OrderedMap.keys [("b", "z"), ("c", "w")]).Nodup := by decide
  have hread : (Session.readJson none "package.json").perform sampleSession =
      (.ok sampleManifest, sampleSession) :=
    Session.readJson_of_holdsObject sampleSession_holdsObject
  have hold : scriptsOf? sampleManifest = some (scriptMembers [("a", "x"), ("b", "y")]) := by cbv
  have hplain : Json.Plain (.obj sampleManifest) :=
    Json.plain_of_plain? (.obj sampleManifest) rfl
  obtain ⟨octets, target, t, -, hmerge, -⟩ := perform_mergeManifestScripts_of_plain
    sampleSession_holdsObject hplain hold
  obtain ⟨merged, place, h⟩ := Step.mergeManifestScripts_reads_back hentries hread hold hmerge
  exact ⟨_, merged, place, hentries, hread, hold, hmerge, h⟩

end ReactScaffold
