import TagQuery.Engine.Selection
import TagQuery.Query.Describe
import TagQuery.Query.OfText
import TagQuery.Store.Basic

namespace TagQuery.Engine

variable {σ : Type} [Store σ]

def select (settings : Settings) (query : Query) (labels : List String) (store : σ) :
    Except Error Selection × σ :=
  let (listing, store) := Store.readRecords store
  (listing.map (Selection.ofRecords settings query labels), store)

def answerOf (labels : List String) (changed : List RecordId) (selection : Selection) : Answer where
  items := selection.entries.map .entry
  columns := labels
  changed := changed
  counts := selection.counts changed.length

def runSelect (settings : Settings) (query : Query) (store : σ) : Except Error Answer × σ :=
  let (selected, store) := select settings query query.subject.projectedLabels store
  (selected.map (answerOf query.subject.projectedLabels []), store)

/-- Without assignments the store is not asked to change anything. -/
def runUpdate (settings : Settings) (query : Query) (store : σ) : Except Error Answer × σ :=
  match query.subject with
  | .assignment changes =>
    match select settings query [] store with
    | (.error error, store) => (.error error, store)
    | (.ok selection, store) =>
      let (changed, store) :=
        if changes.isEmpty then ([], store) else Store.updateAll store selection.ids changes
      (.ok { changed, counts := selection.counts changed.length }, store)
  | subject => (.error (.internal ("update requires assignments, got " ++ subject.describe)), store)

def runDelete (settings : Settings) (query : Query) (store : σ) : Except Error Answer × σ :=
  match select settings query query.subject.projectedLabels store with
  | (.error error, store) => (.error error, store)
  | (.ok selection, store) =>
    let (changed, store) := Store.removeAll store selection.ids
    (.ok (answerOf query.subject.projectedLabels changed selection), store)

def runShow (query : Query) (store : σ) : Except Error Answer × σ :=
  match query.subject with
  | .property name =>
    match Store.readProperty store name with
    | (.error error, store) => (.error error, store)
    | (.ok (some value), store) => (.ok (.property name value), store)
    | (.ok none, store) => (.error (.query (.unknownProperty name)), store)
  | subject => (.error (.internal ("show requires a property name, got " ++ subject.describe)), store)

def run (settings : Settings) (query : Query) (store : σ) : Except Error Answer × σ :=
  match query.command with
  | .select => runSelect settings query store
  | .update => runUpdate settings query store
  | .delete => runDelete settings query store
  | .showProperty => runShow query store
  | .unknown word => (.error (.query (.unknownCommand word)), store)

/-- Runs queries in turn up to the first that fails, and gives the answer to the last. -/
def runLast (settings : Settings) (last : Answer) (store : σ) : List Query → Except Error Answer × σ
  | [] => (.ok last, store)
  | query :: rest =>
    match run settings query store with
    | (.error error, store) => (.error error, store)
    | (.ok answer, store) => runLast settings answer store rest

def runAll (settings : Settings) (store : σ) : List Query → Except Error (List Answer) × σ
  | [] => (.ok [], store)
  | query :: rest =>
    match run settings query store with
    | (.error error, store) => (.error error, store)
    | (.ok answer, store) =>
      let (answers, store) := runAll settings store rest
      (answers.map (answer :: ·), store)

/-- All queries of the text are read before the first one runs. -/
def execute (settings : Settings) (text : String) (store : σ) : Except Error Answer × σ :=
  match Query.parseAll text with
  | .error cause => (.error (.query cause), store)
  | .ok queries => runLast settings .empty store queries

def executeAll (settings : Settings) (text : String) (store : σ) : Except Error (List Answer) × σ :=
  match Query.parseAll text with
  | .error cause => (.error (.query cause), store)
  | .ok queries => runAll settings store queries

end TagQuery.Engine
