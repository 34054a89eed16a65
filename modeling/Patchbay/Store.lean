import Patchbay.Json.Basic

namespace Patchbay

namespace Record

/-- Merge entry by entry; a `null` deletes the entry of its name. -/
def merge (record changes : Record) : Record :=
  changes.entries.foldl
    (fun record entry =>
      if entry.2.isNull then record.erase entry.1 else record.insert entry.1 entry.2)
    record

end Record

/-- The parameter records of the nodes. Only a node's live record is ever compiled: muting and
pausing move it out into a side table and leave an empty one behind. -/
structure Store where
  live : Table Record := ∅
  muted : Table Record := ∅
  paused : Table (Table Record) := ∅
deriving DecidableEq

namespace Store

def liveRecord (store : Store) (id : String) : Record :=
  (store.live.get? id).getD ∅

def hasContribution (store : Store) (id : String) : Bool :=
  !(store.liveRecord id).isEmpty

/-- The first paused group, by id, that holds a record of the node. -/
def holder? (store : Store) (id : String) : Option (String × Table Record) :=
  store.paused.entries.find? fun group => group.2.contains id

def hasSavedContribution (store : Store) (id : String) : Bool :=
  (match store.muted.get? id with
    | some record => !record.isEmpty
    | none => false)
    || (store.holder? id).isSome

def isMuted (store : Store) (id : String) : Bool :=
  store.muted.contains id

def isGroupPaused (store : Store) (groupId : String) : Bool :=
  store.paused.contains groupId

def pausedGroup? (store : Store) (groupId : String) : Option (Table Record) :=
  store.paused.get? groupId

def pausedGroupIds (store : Store) : List String :=
  store.paused.keys

/-- Merge an edit into the node's record where that record is: in the paused group that holds
it, in the muted table, or live. -/
def updateNode (store : Store) (id : String) (edit : Record) : Store :=
  match store.holder? id with
  | some (groupId, held) =>
      let merged := ((held.get? id).getD ∅).merge edit
      { store with paused := store.paused.insert groupId (held.insert id merged) }
  | none =>
      match store.muted.get? id with
      | some record => { store with muted := store.muted.insert id (record.merge edit) }
      | none => { store with live := store.live.insert id ((store.liveRecord id).merge edit) }

/-- Drop every record of the node, and paused groups that thereby become empty. -/
def removeNode (store : Store) (id : String) : Store :=
  { live := store.live.erase id
    muted := store.muted.erase id
    paused := (store.paused.filter fun _ held =>
      !(held.contains id && (held.erase id).isEmpty)).mapValues
      fun _ held => held.erase id }

def muteNode? (store : Store) (id : String) : Option Store :=
  if store.isMuted id then none
  else some { store with
    live := store.live.insert id ∅
    muted := store.muted.insert id (store.liveRecord id) }

def unmuteNode? (store : Store) (id : String) : Option Store :=
  (store.muted.get? id).map fun record =>
    { store with live := store.live.insert id record, muted := store.muted.erase id }

def soundingRecords (store : Store) (ids : List String) : Table Record :=
  .ofList (ids.filterMap fun id =>
    if store.hasContribution id then some (id, store.liveRecord id) else none)

/-- Move the non-empty live records of the listed nodes into a paused group, beside what the
group holds; `none` if there is nothing to move. -/
def pauseGroup? (store : Store) (groupId : String) (ids : List String) : Option Store :=
  let saved := store.soundingRecords ids
  if saved.isEmpty then none
  else some { store with
    live := saved.keys.foldl (fun live id => live.insert id ∅) store.live
    paused := store.paused.insert groupId
      (((store.paused.get? groupId).getD ∅).insertAll saved.entries) }

/-- Give a record back to its node: to the muted table if the node was muted while it was
paused, else to the live table. -/
def giveBack (store : Store) (entry : String × Record) : Store :=
  if store.isMuted entry.1 then { store with muted := store.muted.insert entry.1 entry.2 }
  else { store with live := store.live.insert entry.1 entry.2 }

def unpauseGroup? (store : Store) (groupId : String) : Option Store :=
  (store.paused.get? groupId).map fun saved =>
    saved.entries.foldl giveBack { store with paused := store.paused.erase groupId }

def holdInPausedGroup (store : Store) (groupId id : String) (record : Record) : Store :=
  if record.isEmpty then store
  else { store with
    paused := store.paused.insert groupId
      (((store.paused.get? groupId).getD ∅).insert id record) }

/-- File a paused group under another id, beside what is held there. -/
def rekeyPausedGroup (store : Store) (source target : String) : Store :=
  if source = target then store
  else
    match store.paused.get? source with
    | none => store
    | some saved =>
        let others := store.paused.erase source
        { store with
          paused := others.insert target (((others.get? target).getD ∅).insertAll saved.entries) }

end Store

end Patchbay
