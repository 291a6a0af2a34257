import TagQuery.Answer.Basic
import TagQuery.Engine.Matching

namespace TagQuery

/-- The matches of a query: their entries, their ids without repeats, and how many records were
    looked at and matched. -/
structure Selection where
  entries : List Answer.Entry := []
  ids : List RecordId := []
  scanned : Nat := 0
  matched : Nat := 0
deriving DecidableEq

namespace Selection

def skip (selection : Selection) : Selection := { selection with scanned := selection.scanned + 1 }

/-- A repeated entry is left out where the settings say so, but it counts as a match. -/
def add (settings : Settings) (labels : List String) (record : Record) (selection : Selection) :
    Selection :=
  let entry : Answer.Entry := ⟨record.id, record.project settings labels⟩
  { entries :=
      if settings.deduplicate ∧ entry ∈ selection.entries then selection.entries
      else selection.entries ++ [entry]
    ids := if record.id ∈ selection.ids then selection.ids else selection.ids ++ [record.id]
    scanned := selection.scanned + 1
    matched := selection.matched + 1 }

/-- Goes through the records in their order until `limit` matches are found; zero is no limit. -/
def scan (settings : Settings) (target : Target) (labels : List String) (limit : Nat) :
    Selection → List Record → Selection
  | selection, [] => selection
  | selection, record :: rest =>
    if target.accepts settings record then
      let added := selection.add settings labels record
      if 0 < limit ∧ limit ≤ added.matched then added else scan settings target labels limit added rest
    else scan settings target labels limit selection.skip rest

def ofRecords (settings : Settings) (query : Query) (labels : List String) (records : List Record) :
    Selection :=
  scan settings query.target labels (settings.effectiveLimit query.limit).toNat {} records

def counts (selection : Selection) (changed : Nat) : Answer.Counts :=
  { scanned := selection.scanned, matched := selection.matched, changed }

end Selection

end TagQuery
