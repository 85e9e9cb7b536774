import Mathlib.Data.List.Sort
import VantGrowth.Db.Experiments
import VantGrowth.Learning.Rubric

namespace VantGrowth.Db
open Lib Lib.Text Learning

inductive PlaybookType where
  | blog_draft | content_brief | intel_brief | custom
deriving DecidableEq

def PlaybookType.text : PlaybookType → String
  | blog_draft => "blog_draft"
  | content_brief => "content_brief"
  | intel_brief => "intel_brief"
  | custom => "custom"

structure PlaybookVersionRecord where
  id : String
  tenantId : String
  playbookType : PlaybookType
  version : Nat
  name : JsString
  description : Option JsString
  content : PlaybookContent
  effectiveAt : Instant
  retiredAt : Option Instant
  createdBy : String
  createdAt : Instant
deriving DecidableEq

structure CreatePlaybookVersionParams where
  playbookType : PlaybookType
  name : JsString
  description : Option JsString := none
  content : PlaybookContent
  createdBy : String
  effectiveAt : Option Instant := none

/-- The rows, the counter each tenant and type has in memory, and the number
of uuids drawn. -/
structure PlaybookVersionStore where
  records : InsertionMap String PlaybookVersionRecord
  versionCounters : InsertionMap String Nat
  drawn : Nat

namespace PlaybookVersionStore

def empty : PlaybookVersionStore := ⟨.empty, .empty, 0⟩

def typeKey (tenantId : String) (playbookType : PlaybookType) : String :=
  join tenantId playbookType.text

def ofType (s : PlaybookVersionStore) (tenantId : String) (playbookType : PlaybookType) :
    List PlaybookVersionRecord :=
  s.records.values.filter fun r => r.tenantId == tenantId && r.playbookType == playbookType

def newestFirst (versions : List PlaybookVersionRecord) : List PlaybookVersionRecord :=
  versions.insertionSort fun a b => b.version ≤ a.version

/-- The highest version of a tenant and type that is not retired. -/
def active (s : PlaybookVersionStore) (tenantId : String) (playbookType : PlaybookType) :
    Option PlaybookVersionRecord :=
  (newestFirst ((s.ofType tenantId playbookType).filter (·.retiredAt.isNone))).head?

def newRecord (params : CreatePlaybookVersionParams) (id tenantId : String) (version : Nat)
    (now : Instant) : PlaybookVersionRecord :=
  { id, tenantId, playbookType := params.playbookType, version, name := params.name,
    description := params.description, content := params.content,
    effectiveAt := params.effectiveAt.getD now, retiredAt := none, createdBy := params.createdBy,
    createdAt := now }

/-- `playbookVersionRecordSchema`, where a new record can fail it. -/
def acceptable (params : CreatePlaybookVersionParams) : Bool :=
  params.name != [] && params.createdBy != ""

end PlaybookVersionStore

open PlaybookVersionStore

namespace InMemoryPlaybookVersionsRepository

def getActive (s : PlaybookVersionStore) (tenantId : String) (playbookType : PlaybookType) :
    Except DbError (Option PlaybookVersionRecord) :=
  .ok (s.active tenantId playbookType)

def listAll (s : PlaybookVersionStore) (tenantId : String) (playbookType : PlaybookType) :
    Except DbError (List PlaybookVersionRecord) :=
  .ok (newestFirst (s.ofType tenantId playbookType))

/-- The counter has moved even when the record is refused. -/
def create (uuid : Supply) (now : Instant) (tenantId : String)
    (params : CreatePlaybookVersionParams) :
    Store DbError PlaybookVersionStore PlaybookVersionRecord := do
  Store.require (isUuid tenantId = true) .zod
  let key := typeKey tenantId params.playbookType
  let nextVersion ← Store.read fun s => (s.versionCounters.get key).getD 0 + 1
  Store.modify fun s => { s with versionCounters := s.versionCounters.set key nextVersion }
  Store.modify fun s => { s with drawn := s.drawn + 1 }
  let id ← Store.read fun s => uuid.text s.drawn
  Store.require (acceptable params = true) .zod
  let record := newRecord params id tenantId nextVersion now
  Store.modify fun s => { s with records := s.records.set record.id record }
  return record

end InMemoryPlaybookVersionsRepository

namespace PostgresPlaybookVersionsRepository

def getActive (s : PlaybookVersionStore) (tenantId : String) (playbookType : PlaybookType) :
    Except DbError (Option PlaybookVersionRecord) := do
  let _ ← parsed (uuidText tenantId)
  return s.active tenantId playbookType

def listAll (s : PlaybookVersionStore) (tenantId : String) (playbookType : PlaybookType) :
    Except DbError (List PlaybookVersionRecord) := do
  let _ ← parsed (uuidText tenantId)
  return newestFirst (s.ofType tenantId playbookType)

/-- One transaction: `max(version) + 1`, then the insert. -/
def create (uuid : Supply) (now : Instant) (tenantId : String)
    (params : CreatePlaybookVersionParams) :
    Store DbError PlaybookVersionStore PlaybookVersionRecord := do
  Store.require (isUuid tenantId = true) .zod
  Store.transaction do
    let nextVersion ← Store.read fun s =>
      ((s.ofType tenantId params.playbookType).map (·.version)).foldl max 0 + 1
    Store.modify fun s => { s with drawn := s.drawn + 1 }
    let id ← Store.read fun s => uuid.text s.drawn
    let record := newRecord params id tenantId nextVersion now
    Store.modify fun s => { s with records := s.records.set record.id record }
    Store.require (acceptable params = true) .zod
    return record

end PostgresPlaybookVersionsRepository

namespace PlaybookVersionStore

/-- Each row is stored under its own id, drawn from the supply, and in memory
no version is above its counter. -/
structure Sound (backend : Backend) (uuid : Supply) (s : PlaybookVersionStore) : Prop where
  ids : ∀ i v, s.records.get i = some v → v.id = i ∧ ∃ n ≤ s.drawn, i = uuid.text n
  counted : backend = .inMemory → ∀ i v, s.records.get i = some v →
    v.version ≤ (s.versionCounters.get (typeKey v.tenantId v.playbookType)).getD 0

theorem empty_sound (backend : Backend) (uuid : Supply) : empty.Sound backend uuid :=
  ⟨by simp [empty], by simp [empty]⟩

theorem Sound.fresh {backend : Backend} {uuid : Supply} {s : PlaybookVersionStore}
    (h : s.Sound backend uuid) : s.records.get (uuid.text (s.drawn + 1)) = none := by
  cases hg : s.records.get (uuid.text (s.drawn + 1)) with
  | none => rfl
  | some v =>
    obtain ⟨_, n, hn, hid⟩ := h.ids _ v hg
    have := uuid.distinct hid
    omega

theorem mem_ofType {s : PlaybookVersionStore} {tenantId : String} {playbookType : PlaybookType}
    {v : PlaybookVersionRecord} : v ∈ s.ofType tenantId playbookType ↔
      (∃ i, s.records.get i = some v) ∧ v.tenantId = tenantId ∧ v.playbookType = playbookType := by
  simp [ofType, InsertionMap.mem_values]

theorem mem_newestFirst {versions : List PlaybookVersionRecord} {v : PlaybookVersionRecord} :
    v ∈ newestFirst versions ↔ v ∈ versions :=
  (List.perm_insertionSort _ versions).mem_iff

theorem newest_head {versions : List PlaybookVersionRecord} {v : PlaybookVersionRecord}
    (member : v ∈ versions) (newest : ∀ w ∈ versions, w ≠ v → w.version < v.version) :
    (newestFirst versions).head? = some v := by
  have sorted : (newestFirst versions).Pairwise fun a b => b.version ≤ a.version :=
    List.pairwise_insertionSort (fun a b : PlaybookVersionRecord => b.version ≤ a.version) versions
  cases hs : newestFirst versions with
  | nil =>
    have hv := mem_newestFirst.mpr member
    rw [hs] at hv
    cases hv
  | cons w ws =>
    rw [hs] at sorted
    have hw : w ∈ versions := mem_newestFirst.mp (hs ▸ List.mem_cons_self)
    by_cases he : w = v
    · rw [he]
      rfl
    · have below := newest w hw he
      have hv : v ∈ w :: ws := hs ▸ mem_newestFirst.mpr member
      rcases List.mem_cons.mp hv with hv | hv
      · exact absurd hv.symm he
      · have := (List.pairwise_cons.mp sorted).1 v hv
        omega

end PlaybookVersionStore

end VantGrowth.Db
