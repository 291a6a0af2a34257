import TagQuery.Store.Library

namespace TagQuery

/-- A library behind a device with faults: writes to broken ids fail, reads may fail, and the
    listing may hold ghosts, which the library does not have, and repeat its records. -/
structure FaultyLibrary where
  library : Library
  broken : OrderedSet RecordId := ∅
  failReads : Bool := false
  ghosts : List Record := []
  repetitions : Nat := 1
  /-- Whether the listing repeats as a whole rather than record by record. -/
  cycle : Bool := false

namespace FaultyLibrary

def listing (store : FaultyLibrary) : List Record :=
  let once := store.library.records ++ store.ghosts
  if store.cycle then (List.replicate store.repetitions once).flatten
  else once.flatMap (List.replicate store.repetitions ·)

def breakId (store : FaultyLibrary) (id : RecordId) : FaultyLibrary :=
  { store with broken := store.broken.insert id }

def mendId (store : FaultyLibrary) (id : RecordId) : FaultyLibrary :=
  { store with broken := store.broken.erase id }

def read {α : Type} (store : FaultyLibrary) (value : α) : Except Error α :=
  if store.failReads then .error (.storage "read failed") else .ok value

def write (store : FaultyLibrary) (id : RecordId) (change : Library → Except Error Unit × Library) :
    Except Error Unit × FaultyLibrary :=
  if store.broken.contains id then (.error (.storage "device busy"), store)
  else
    let (outcome, library) := change store.library
    (outcome, { store with library })

instance : Store FaultyLibrary where
  readRecords store := (store.read store.listing, store)
  readProperty store name := (store.read (store.library.property? name), store)
  remove store id := store.write id (·.remove id)
  update store id changes := store.write id (·.update id changes)

end FaultyLibrary

end TagQuery
