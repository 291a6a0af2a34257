namespace TagQuery

/-- How queries are evaluated: the labels that stand for the id of a record, the limit of queries
    that state none (zero for no limit), and whether repeated entries are dropped. -/
structure Settings where
  idLabels : List String := ["file_path", "path"]
  defaultLimit : UInt64 := 0
  deduplicate : Bool := true
deriving DecidableEq

namespace Settings

def testing : Settings := { idLabels := ["file_path"] }

def interactive (defaultLimit : UInt64) : Settings := { defaultLimit }

def isIdLabel (settings : Settings) (label : String) : Bool := decide (label ∈ settings.idLabels)

def withIdLabel (settings : Settings) (label : String) : Settings :=
  if label ∈ settings.idLabels then settings
  else { settings with idLabels := settings.idLabels ++ [label] }

def withDefaultLimit (settings : Settings) (limit : UInt64) : Settings :=
  { settings with defaultLimit := limit }

def keepDuplicates (settings : Settings) : Settings := { settings with deduplicate := false }

def effectiveLimit (settings : Settings) (limit : UInt64) : UInt64 :=
  if limit = 0 then settings.defaultLimit else limit

end Settings

end TagQuery
