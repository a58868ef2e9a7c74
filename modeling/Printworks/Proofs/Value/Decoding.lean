import Printworks.Proofs.Json.Schema
import Printworks.Proofs.Value.Rendering

/-!
# Reading tagged documents of values back

A value is read back from its tagged document with everything in it, at any nesting and with tags that
are read strictly or loosely. Only numbers that are not finite are lost.
-/

namespace Printworks

namespace Artifact

theorem areNamed (ref : Artifact) : Json.AreNamed ["location", "content_type"]
    [some ("location", .text ref.location), Json.entry? "content_type" (ref.contentType.map .text)] :=
  .some _ _ (Json.areNamed_optional _ _ .nil)

theorem decode?_encode (ref : Artifact) : decode? ref.encode = some ref := by
  rw [decode?, encode, Json.fields?_record (by decide) ref.areNamed]
  generalize fields : Json.Fields.mk true _ = f
  have location : f.required 0 Json.text? = some ref.location := by rw [← fields]; rfl
  have contentType : f.optional 1 Json.text? = some ref.contentType :=
    Json.optional_text (by rw [← fields]; exact Json.entry?_map_snd _ _)
  simp [location, contentType]

end Artifact

theorem ValueType.decode?_encode (t : ValueType) : decode? t.encode = some t := by
  cases t <;> rfl

namespace Value

/-- Whether a value is one that a tagged document can tell: all its numbers are finite. -/
structure IsEncodable (v : Value) : Prop where
  finite : v.IsFinite
  ordered : v.IsOrdered

theorem tag?_text (loose : Bool) (tag : String) : tag? loose (.text tag) = some tag := by
  cases loose <;> rfl

theorem decodeAs?_taggedObject (loose : Bool) (tag : String) (content : Json) :
    decodeAs? loose (taggedObject tag content) = decodeContent? loose tag content := by
  simp [taggedObject, decodeAs?, Json.part?, tag?_text, decodePart?]

mutual

theorem decodeAs?_encode (loose : Bool) (v : Value) (finite : v.IsFinite) (ordered : v.IsOrdered) :
    decodeAs? loose v.encode = some v := by
  match v with
  | null => simp [encode, decodeAs?, Json.part?, tag?_text, decodePart?]
  | bool b => rw [encode, decodeAs?_taggedObject]; rfl
  | integer n =>
    rw [encode, decodeAs?_taggedObject]
    simp [decodeContent?, ofScalar?, Json.int, Json.int?, Json.word?_toInt]
  | number x =>
    have digits : x.isFinite = true := finite
    rw [encode, decodeAs?_taggedObject, Json.double, if_pos digits]
    rfl
  | string s => rw [encode, decodeAs?_taggedObject]; rfl
  | list items =>
    rw [encode, decodeAs?_taggedObject, decodeContent?, if_pos rfl,
      decodeItems?_encodeItems loose items finite ordered, Option.map_some]
  | map entries =>
    obtain ⟨d, read, same⟩ :=
      decodeEntries?_encodeEntries loose entries finite ordered.1 ordered.2
    rw [encode, decodeAs?_taggedObject, decodeContent?, if_pos rfl, read, Option.map_some, same]
  | artifact ref =>
    -- The document of an artifact is an object, but its tag is not that of a map.
    have content : decodeContent? loose "artifact" ref.encode =
        (Artifact.decode? ref.encode).map artifact := rfl
    rw [encode, decodeAs?_taggedObject, content, ref.decode?_encode, Option.map_some]

theorem decodeItems?_encodeItems (loose : Bool) (items : List Value) (finite : AreFinite items)
    (ordered : AreOrdered items) : decodeItems? loose (encodeItems items) = some items := by
  match items with
  | [] => rfl
  | item :: rest =>
    rw [encodeItems, decodeItems?, decodeAs?_encode loose item finite.1 ordered.1,
      decodeItems?_encodeItems loose rest finite.2 ordered.2]

theorem decodeEntries?_encodeEntries (loose : Bool) (entries : List (String × Value))
    (finite : AreFiniteEntries entries) (increasing : Entries.Increasing entries)
    (ordered : AreOrderedEntries entries) :
    ∃ d, decodeEntries? loose (encodeEntries entries) = some d ∧ d.toList = entries := by
  match entries with
  | [] => exact ⟨∅, rfl, rfl⟩
  | (key, item) :: rest =>
    obtain ⟨first, increasing⟩ := List.pairwise_cons.mp increasing
    obtain ⟨d, read, same⟩ :=
      decodeEntries?_encodeEntries loose rest finite.2 increasing ordered.2
    refine ⟨d.insertNew key item, ?_, ?_⟩
    · rw [encodeEntries, decodeEntries?, decodeAs?_encode loose item finite.1 ordered.1, read]
    -- The first name is less than all others, and so comes first in the map, too.
    · rw [Dict.toList_insertNew_first (by rwa [same]), same]

end

theorem decode?_encode {v : Value} (encodable : v.IsEncodable) : decode? v.encode = some v :=
  decodeAs?_encode false v encodable.finite encodable.ordered

end Value

end Printworks
