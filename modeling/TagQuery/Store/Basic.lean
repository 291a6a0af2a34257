import TagQuery.Error
import TagQuery.PropertyValue
import TagQuery.Record

namespace TagQuery

/-- Makes one change for each id in turn. A failed change is skipped; the ids of those that
    succeeded are returned. -/
def bestEffort {σ : Type} (change : σ → RecordId → Except Error Unit × σ) (store : σ) :
    List RecordId → List RecordId × σ
  | [] => ([], store)
  | id :: rest =>
    let (outcome, changed) := change store id
    let (done, final) := bestEffort change changed rest
    match outcome with
    | .ok _ => (id :: done, final)
    | .error _ => (done, final)

/-- A store of records, as the engine sees it: every operation gives the store that it leaves behind,
    also where it fails, and a read need not leave the store alone. -/
class Store (σ : Type) where
  readRecords : σ → Except Error (List Record) × σ
  readProperty : σ → String → Except Error (Option PropertyValue) × σ
  remove : σ → RecordId → Except Error Unit × σ
  update : σ → RecordId → Assignments → Except Error Unit × σ
  removeAll : σ → List RecordId → List RecordId × σ := bestEffort remove
  updateAll : σ → List RecordId → Assignments → List RecordId × σ :=
    fun store ids changes => bestEffort (fun store id => update store id changes) store ids

namespace Store

variable {σ : Type} [Store σ]

def records (store : σ) : Except Error (List Record) := (readRecords store).1

def property? (store : σ) (name : String) : Except Error (Option PropertyValue) :=
  (readProperty store name).1

end Store

end TagQuery
