import TagQuery.Store.Basic

namespace TagQuery

structure Library where
  tags : OrderedMap RecordId Tag
deriving DecidableEq

namespace Library

def empty : Library := ⟨∅⟩

def ofRecords (records : List Record) : Library :=
  ⟨.ofList (records.map fun record => (record.id, record.tag))⟩

def records (library : Library) : List Record :=
  library.tags.entries.map fun entry => ⟨entry.1, entry.2⟩

def get? (library : Library) (id : RecordId) : Option Tag := library.tags.get? id

def size (library : Library) : Nat := library.tags.size

def isEmpty (library : Library) : Bool := library.tags.isEmpty

def insert (library : Library) (record : Record) : Library :=
  ⟨library.tags.insert record.id record.tag⟩

def put (library : Library) (record : Record) : Option Tag × Library :=
  (library.get? record.id, library.insert record)

def remove (library : Library) (id : RecordId) : Except Error Unit × Library :=
  if library.tags.contains id then (.ok (), ⟨library.tags.erase id⟩)
  else (.error (.recordNotFound id.path), library)

def update (library : Library) (id : RecordId) (changes : Assignments) : Except Error Unit × Library :=
  if library.tags.contains id then (.ok (), ⟨library.tags.modify id (·.apply changes)⟩)
  else (.error (.recordNotFound id.path), library)

def labels (library : Library) : List String :=
  (OrderedSet.ofList (library.tags.values.flatMap Tag.labels)).toList

def distinctValues (library : Library) (label : String) : List String :=
  (OrderedSet.ofList (library.tags.values.filterMap (·.get? label))).toList

def property? (library : Library) (name : String) : Option PropertyValue :=
  match name with
  | "labels" => some (.ofTexts library.labels)
  | "count" => some (.ofCount library.size)
  | "paths" => some (.ofTexts (library.tags.keys.map RecordId.path))
  | "artists" => some (.ofTexts (library.distinctValues "artist"))
  | "albums" => some (.ofTexts (library.distinctValues "album"))
  | "genres" => some (.ofTexts (library.distinctValues "genre"))
  | _ => none

instance : Store Library where
  readRecords library := (.ok library.records, library)
  readProperty library name := (.ok (library.property? name), library)
  remove := remove
  update := update

end Library

end TagQuery
