import ReactScaffold.Proofs.Json.Plain
import ReactScaffold.Proofs.Session.Files

/-!
# Objects that are written and read back

A value over plain strings has a text of its own, and its document is written with that text. An
object within the limits of the reader is read back from the file as it was written, with its names
in the same order on every level; hence no two such objects have the same text.
-/

namespace ReactScaffold

open Text

namespace Text.WideText

theorem string?_ofString (s : String) : string? (ofString s) = some s := by
  rw [string?, ofString, chars?_ofChars, Option.map_some, String.ofList_toList]

theorem filterMap_char?_ofChars (cs : List Char) :
    (ofChars cs).filterMap CodePoint.char? = cs := by
  rw [ofChars, List.filterMap_map]
  exact List.filterMap_some

end Text.WideText

namespace Json

variable {v w : Json String}

mutual

theorem plain?_toDocument : (v : Json String) → plain? v.toDocument = some v
  | .null => rfl
  | .bool _ => rfl
  | .int _ => rfl
  | .float _ => rfl
  | .str s => by
      show (WideText.string? (WideText.ofString s)).map str = _
      rw [WideText.string?_ofString, Option.map_some]
  | .arr items => by
      show (plainItems? (mapItems WideText.ofString items)).map arr = _
      rw [plainItems?_mapItems items, Option.map_some]
  | .obj members => by
      show (plainMembers? (mapMembers WideText.ofString members)).map obj = _
      rw [plainMembers?_mapMembers members, Option.map_some]

theorem plainItems?_mapItems : (items : List (Json String)) →
    plainItems? (mapItems WideText.ofString items) = some items
  | [] => rfl
  | v :: items => by
      have hv : plain? (v.map WideText.ofString) = some v := plain?_toDocument v
      rw [mapItems, plainItems?, hv, plainItems?_mapItems items]
      rfl

theorem plainMembers?_mapMembers : (members : List (String × Json String)) →
    plainMembers? (mapMembers WideText.ofString members) = some members
  | [] => rfl
  | (k, v) :: members => by
      have hv : plain? (v.map WideText.ofString) = some v := plain?_toDocument v
      rw [mapMembers, plainMembers?, WideText.string?_ofString, hv,
        plainMembers?_mapMembers members]
      rfl

end

theorem toDocument_injective : Function.Injective toDocument := fun v w h =>
  Option.some.inj ((plain?_toDocument v).symm.trans ((congrArg plain? h).trans
    (plain?_toDocument w)))

/-- The document of a value over plain strings is written as the text of the value. -/
theorem dumpDocument_toDocument (v : Json String) :
    dumpDocument v.toDocument = WideText.ofString (dump v) := by
  obtain ⟨cs, hcs⟩ := (plain_of_plain? v.toDocument (plain?_toDocument v)).isPlain_dumpDocument
  rw [dump, hcs, WideText.filterMap_char?_ofChars, WideText.ofString, String.toList_ofList]

/-- The text of a value within the limits of the reader is read as the value. -/
theorem parse_dump (hv : Readable Rules.lenient.maxNesting v.toDocument) :
    parse (dump v).toList = .ok v.toDocument :=
  parse_dumpDocument hv (dumpDocument_toDocument v)

/-- Values within the limits of the reader that have the same text are the same. -/
theorem eq_of_dump_eq (hv : Readable Rules.lenient.maxNesting v.toDocument)
    (hw : Readable Rules.lenient.maxNesting w.toDocument) (h : dump v = dump w) : v = w := by
  refine toDocument_injective (Except.ok.inj (ε := Flaw) ?_)
  rw [← parse_dump hv, ← parse_dump hw, h]

end Json

namespace Session

variable {s s' : Session} {root : Option Path} {path : String}

/-- What a written object leaves: a file with the octets of its text, from which the object is
read again. -/
theorem perform_readJson_of_written {members : List (String × Json String)}
    (hlimits : Json.Readable Json.Rules.lenient.maxNesting (Json.obj members).toDocument)
    (h : (writeJson root path (Json.obj members).toDocument).perform s = (.ok (), s')) :
    s'.disk.readFile s'.cwd (target root path) =
        .ok (Utf8.encode (Json.dump (.obj members)).toList) ∧
      (readJson root path).perform s' =
        (.ok (Json.mapMembers WideText.ofString members), s') := by
  have hadmissible := admissible_of_writeFile h
  obtain ⟨octets, place, hencode, hwalk, hnot, rfl⟩ := exists_walk_of_writeFile h
  refine ⟨?_, readJson_of_holdsObject (holdsObject_set hadmissible hlimits hencode hwalk hnot)⟩
  obtain ⟨cs, hcs, rfl⟩ := Utf8.encodeWide_eq_ok_iff.1 hencode
  rw [Json.dumpDocument_toDocument] at hcs
  rw [WideText.ofChars_injective hcs]
  exact Disk.readFile_set hwalk hnot _

/-- Writing an object within the limits of the reader leaves the octets of its text in the file, and
what is read from there is the object itself, with the same text. Another object has another
text. -/
theorem writeJson_reads_back {members : List (String × Json String)}
    (hlimits : Json.Readable Json.Rules.lenient.maxNesting (Json.obj members).toDocument) :
    (∀ (root : Option Path) (path : String) (s s' : Session),
      (writeJson root path (Json.obj members).toDocument).perform s = (.ok (), s') →
        s'.disk.readFile s'.cwd (target root path) =
          .ok (Utf8.encode (Json.dump (.obj members)).toList) ∧
        ∃ found, (readJson root path).perform s' = (.ok found, s') ∧
          Json.plainMembers? found = some members ∧
          Json.dumpDocument (.obj found) = WideText.ofString (Json.dump (.obj members))) ∧
    ∀ other : List (String × Json String),
      Json.Readable Json.Rules.lenient.maxNesting (Json.obj other).toDocument →
        Json.dump (.obj other) = Json.dump (.obj members) → other = members := by
  constructor
  · intro root path s s' h
    obtain ⟨hfile, hread⟩ := perform_readJson_of_written hlimits h
    exact ⟨hfile, _, hread, Json.plainMembers?_mapMembers members,
      Json.dumpDocument_toDocument (.obj members)⟩
  · intro other hother h
    exact Json.obj.inj (Json.eq_of_dump_eq hother hlimits h)

/-- An object with an array, an empty object and characters that are escaped or take several
octets. -/
def sampleObject : List (String × Json String) :=
  [("é\"", .arr [.int (-12), .null, .obj []]), ("\u2028", .str "\\\r")]

theorem readable_sampleObject :
    Json.Readable Json.Rules.lenient.maxNesting (Json.obj sampleObject).toDocument := by
  have hitems : ∀ v ∈ ([.int (-12), .null, .obj []] : List Json.Document), Json.Readable 978 v := by
    rw [List.forall_mem_cons, List.forall_mem_cons, List.forall_mem_singleton]
    exact ⟨.int (by decide), .null, .obj List.nodup_nil (by simp)⟩
  have hmembers : ∀ m ∈ Json.mapMembers WideText.ofString sampleObject, Json.Readable 979 m.2 :=
    List.forall_mem_cons.2 ⟨.arr hitems, List.forall_mem_singleton.2 .str⟩
  exact .obj (by decide) hmembers

/-- The object is written on an empty disk. -/
theorem writeJson_reads_back_sample :
    ∃ s' found,
      Json.Readable Json.Rules.lenient.maxNesting (Json.obj sampleObject).toDocument ∧
      (writeJson none "data.json" (Json.obj sampleObject).toDocument).perform {} = (.ok (), s') ∧
      s'.disk.readFile s'.cwd (target none "data.json") =
        .ok (Utf8.encode (Json.dump (.obj sampleObject)).toList) ∧
      (readJson none "data.json").perform s' = (.ok found, s') ∧
      Json.plainMembers? found = some sampleObject ∧
      Json.dumpDocument (.obj found) = WideText.ofString (Json.dump (.obj sampleObject)) ∧
      Json.Readable Json.Rules.lenient.maxNesting (Json.obj []).toDocument ∧
      Json.dump (.obj []) ≠ Json.dump (.obj sampleObject) := by
  obtain ⟨hback, hother⟩ := writeJson_reads_back readable_sampleObject
  have hwrite : (writeJson none "data.json" (Json.obj sampleObject).toDocument).perform {} =
      (.ok (), _) := Prod.ext rfl rfl
  have hempty : Json.Readable Json.Rules.lenient.maxNesting (Json.obj []).toDocument :=
    .obj List.nodup_nil (List.forall_mem_nil _)
  obtain ⟨hfile, found, hread, hfound, htext⟩ := hback none "data.json" {} _ hwrite
  exact ⟨_, found, readable_sampleObject, hwrite, hfile, hread, hfound, htext, hempty,
    fun h => List.cons_ne_nil _ _ (hother [] hempty h).symm⟩

end Session

end ReactScaffold
