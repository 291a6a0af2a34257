import TagQuery.Engine.Settings
import TagQuery.Json.Basic

namespace TagQuery.Settings

def toJson (settings : Settings) : Json :=
  .object [("record_id_labels", .ofStrings settings.idLabels),
    ("default_limit", .ofNat settings.defaultLimit.toNat), ("deduplicate", .bool settings.deduplicate)]

def ofJson? (json : Json) : Option Settings := do
  let standard : Settings := {}
  let fields ← json.structure? ["record_id_labels", "default_limit", "deduplicate"]
  let idLabels ←
    Json.withDefault? (Json.list? Json.string?) fields "record_id_labels" standard.idLabels
  let defaultLimit ← Json.withDefault? Json.uint64? fields "default_limit" standard.defaultLimit
  let deduplicate ← Json.withDefault? Json.bool? fields "deduplicate" standard.deduplicate
  return { idLabels, defaultLimit, deduplicate }

end TagQuery.Settings
