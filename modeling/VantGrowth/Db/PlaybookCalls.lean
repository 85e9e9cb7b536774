import VantGrowth.Db.PlaybookVersions
import VantGrowth.Lib.JsDate
import VantGrowth.Lib.Runs

namespace VantGrowth.Db
open Learning Lib PlaybookVersionStore

/-- The parameters of `create` as they arrive, with a date that may be invalid. -/
structure CreatePlaybookVersionInput where
  playbookType : PlaybookType
  name : JsString
  description : Option JsString := none
  content : PlaybookContent
  createdBy : String
  effectiveAt : Option JsDate := none

/-- An absent date passes, a present one must be valid. -/
def optionalDate : Option JsDate → Option (Option Instant)
  | none => some none
  | some (.valid time) => some (some time)
  | some .invalid => none

/-- What `playbookVersionRecordSchema` lets through. -/
def CreatePlaybookVersionInput.parse (input : CreatePlaybookVersionInput) :
    Option CreatePlaybookVersionParams := do
  let effectiveAt ← optionalDate input.effectiveAt
  let params : CreatePlaybookVersionParams :=
    { playbookType := input.playbookType, name := input.name, description := input.description,
      content := input.content, createdBy := input.createdBy, effectiveAt }
  if acceptable params = true then some params else none

def CreatePlaybookVersionParams.toInput (params : CreatePlaybookVersionParams) :
    CreatePlaybookVersionInput :=
  { playbookType := params.playbookType, name := params.name, description := params.description,
    content := params.content, createdBy := params.createdBy,
    effectiveAt := params.effectiveAt.map .valid }

namespace InMemoryPlaybookVersionsRepository

/-- `create`, which parses the record after the counter has moved. -/
def createFrom (uuid : Supply) (now : Instant) (tenantId : String)
    (input : CreatePlaybookVersionInput) :
    Store DbError PlaybookVersionStore PlaybookVersionRecord := do
  Store.require (isUuid tenantId = true) .zod
  let key := typeKey tenantId input.playbookType
  let nextVersion ← Store.read fun s => (s.versionCounters.get key).getD 0 + 1
  Store.modify fun s => { s with versionCounters := s.versionCounters.set key nextVersion }
  Store.modify fun s => { s with drawn := s.drawn + 1 }
  let id ← Store.read fun s => uuid.text s.drawn
  match input.parse with
  | none => Store.throw .zod
  | some params =>
    let record := newRecord params id tenantId nextVersion now
    Store.modify fun s => { s with records := s.records.set record.id record }
    return record

/-- Parameters with a valid date are created as they are. -/
theorem createFrom_toInput (uuid : Supply) (now : Instant) (tenantId : String)
    (params : CreatePlaybookVersionParams) :
    createFrom uuid now tenantId params.toInput = create uuid now tenantId params := by
  have parsed : params.toInput.parse = if acceptable params = true then some params else none := by
    rcases params with ⟨playbookType, name, description, content, createdBy, effectiveAt⟩
    cases effectiveAt <;> rfl
  unfold createFrom create
  rw [parsed]
  by_cases accepted : acceptable params = true
  · simp only [accepted, if_true, Store.require]
    rfl
  · simp only [accepted, Store.require]
    rfl

/-- `retire`, which does nothing to a row that is not there, is another
tenant's or is retired already. -/
def retire (now : Instant) (tenantId id : String) : Store DbError PlaybookVersionStore Unit := do
  match ← Store.read (·.records.get id) with
  | none => return ()
  | some record =>
    if record.tenantId ≠ tenantId then return ()
    else if record.retiredAt ≠ none then return ()
    else
      Store.modify fun s =>
        { s with records := s.records.set id { record with retiredAt := some now } }

end InMemoryPlaybookVersionsRepository

inductive PlaybookCall where
  | create (now : Instant) (tenantId : String) (input : CreatePlaybookVersionInput)
  | retire (now : Instant) (tenantId id : String)

def PlaybookCall.perform (uuid : Supply) (s : PlaybookVersionStore) :
    PlaybookCall → PlaybookVersionStore
  | .create now tenantId input =>
    ((InMemoryPlaybookVersionsRepository.createFrom uuid now tenantId input).run s).2
  | .retire now tenantId id => ((InMemoryPlaybookVersionsRepository.retire now tenantId id).run s).2

/-- The store after calls made one after another. -/
def PlaybookVersionStore.after (uuid : Supply) (calls : List PlaybookCall) : PlaybookVersionStore :=
  runs (PlaybookCall.perform uuid) .empty calls

end VantGrowth.Db
