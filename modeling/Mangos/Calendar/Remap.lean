import Mangos.Calendar.Calendar
import Mangos.Framework.Renumber

/-!
# Loading the calendar

Before the two tables are read, one transaction deletes the events that have expired, with their invites,
and numbers the others from 1 on.
-/

namespace Mangos

open Framework Std

/-- `TRemapGee`: an id with the one it is to get, `none` for `DELETED_ID`. -/
abbrev RemapGee := Nat × Option Nat

inductive RemapAction where
  | delExpired
  | remapEvents
  | remapInvites

/-- The statements of the transaction; an update takes an id to another one. -/
inductive CalendarStatement where
  | deleteEvent (eventId : Nat)
  | deleteInvites (eventId : Nat)
  | updateEventId (u : Nat × Nat)
  | updateInviteEvents (u : Nat × Nat)
  | updateInviteId (u : Nat × Nat)

def InviteRow.withEventId (row : InviteRow) (eventId : Nat) : InviteRow := { row with eventId }

def isNotRemap (gee : RemapGee) : Bool := gee.2 = some gee.1 || gee.2 = none

/-- The statements `DBRemap` adds to the transaction. -/
def dbRemap (remapAction : RemapAction) (remapData : List RemapGee) : List CalendarStatement :=
  match remapAction with
  | .delExpired =>
    (remapData.filter (·.2 = none)).flatMap fun gee => [.deleteEvent gee.1, .deleteInvites gee.1]
  | .remapEvents =>
    remapData.flatMap fun gee => gee.2.toList.flatMap fun remapId =>
      [.updateEventId (gee.1, remapId), .updateInviteEvents (gee.1, remapId)]
  | .remapInvites =>
    remapData.flatMap fun gee => gee.2.toList.map fun remapId => .updateInviteId (gee.1, remapId)

def remapEventIds (delaySec now : Int) : (remapId : Nat) → List (Nat × EventRow) → List RemapGee
  | _, [] => []
  | remapId, (eventId, row) :: rows =>
    if CalendarMgr.isEventReadyForRemove delaySec now row.eventTime then
      (eventId, none) :: remapEventIds delaySec now remapId rows
    else (eventId, some remapId) :: remapEventIds delaySec now (remapId + 1) rows

def remapInviteIds : (remapId : Nat) → List Nat → List RemapGee
  | _, [] => []
  | remapId, inviteId :: ids =>
    if inviteId ≠ remapId then (inviteId, some remapId) :: remapInviteIds (remapId + 1) ids
    else remapInviteIds (remapId + 1) ids

namespace CalendarMgr

variable (m : CalendarMgr) (delaySec now : Int)

def execute (m : CalendarMgr) : CalendarStatement → Option CalendarMgr
  | .deleteEvent eventId => some { m with calendarEvents := m.calendarEvents.erase eventId }
  | .deleteInvites eventId =>
    some { m with
      calendarInvites := m.calendarInvites.filter fun _ row => row.eventId ≠ eventId }
  | .updateEventId u =>
    (rekey m.calendarEvents u).map fun events => { m with calendarEvents := events }
  | .updateInviteEvents u =>
    some { m with
      calendarInvites := m.calendarInvites.map fun _ row =>
        row.withEventId (moveKey u row.eventId) }
  | .updateInviteId u =>
    (rekey m.calendarInvites u).map fun invites => { m with calendarInvites := invites }

/-- The transaction of `DBRemoveExpiredEventsAndRemapData`. -/
def remapStatements : List CalendarStatement :=
  let remapData := remapEventIds delaySec now 1 m.calendarEvents.toList
  (if 1 + remapData.countP (·.2.isSome) ≤ remapData.length then dbRemap .delExpired remapData
    else []) ++ dbRemap .remapEvents (remapData.filter fun gee => !isNotRemap gee) ++
    dbRemap .remapInvites (remapInviteIds 1 m.calendarInvites.keys)

/-- `CalendarMgr::DBRemoveExpiredEventsAndRemapData`; there is no answer when the transaction fails. -/
def dbRemoveExpiredEventsAndRemapData : Option CalendarMgr :=
  if m.calendarEvents.isEmpty then some m
  else (m.remapStatements delaySec now).foldlM execute m

def loadEvent (load : CalendarMgr × Nat) (p : Nat × EventRow) : CalendarMgr × Nat :=
  let ev : CalendarEvent :=
    { title := p.2.title, description := p.2.description, type := p.2.type
      dungeonId := p.2.dungeonId, eventTime := p.2.eventTime, unknownTime := now
      flags := p.2.flags, creatorGuid := p.2.creatorGuid, guildId := p.2.guildId, saved := true }
  (load.1.setEvent p.1 ev, if load.2 < p.1 then p.1 else load.2)

def loadInvite (maxEventId : Nat) (load : CalendarMgr × Nat) (p : Nat × InviteRow) :
    CalendarMgr × Nat :=
  let row := p.2
  let event := load.1.getEventById row.eventId
  let invite : CalendarInvite :=
    { eventId := if event.isSome then row.eventId else 0, inviteeGuid := row.inviteeGuid
      senderGuid := row.senderGuid, lastUpdateTime := row.lastUpdateTime, status := row.status
      rank := row.rank, saved := true, deleted := event.isNone }
  let loaded := load.1.setInvite p.1 invite
  let loaded := match event.bind (·.addInvite p.1) with
    | none => loaded
    | some ev => loaded.setEvent row.eventId ev
  (loaded, if load.2 < p.1 then p.1 else maxEventId)

/-- `CalendarMgr::LoadFromDB`. A transaction that fails is rolled back. -/
def loadFromDB : CalendarMgr :=
  let cleared := { m with eventStore := ∅, inviteStore := ∅ }
  let compacted := (cleared.dbRemoveExpiredEventsAndRemapData delaySec now).getD cleared
  let (loaded, maxEventId) := compacted.calendarEvents.toList.foldl (loadEvent now) (compacted, 0)
  let loaded := { loaded with eventGuids := maxEventId + 1 }
  if loaded.calendarInvites.isEmpty then { loaded with inviteGuids := 1 }
  else if loaded.calendarEvents.isEmpty then
    { loaded with calendarInvites := ∅, inviteGuids := 1 }
  else
    let (loaded, maxInviteId) :=
      loaded.calendarInvites.toList.foldl (loadInvite maxEventId) (loaded, 0)
    { loaded with inviteGuids := maxInviteId + 1 }

end CalendarMgr

/-!
## What the new numbers leave as it was

Invites go along when their event gets a new id, and so do those that name that id without an event.
-/

open Framework Set Std

namespace CalendarMgr

variable {m m' : CalendarMgr} {delaySec now : Int}

def keptEvents (m : CalendarMgr) (delaySec now : Int) : ExtTreeMap Nat EventRow :=
  m.calendarEvents.filter fun _ row => !isEventReadyForRemove delaySec now row.eventTime

def remainingInvites (m : CalendarMgr) (delaySec now : Int) : ExtTreeMap Nat InviteRow :=
  m.calendarInvites.filter fun _ row =>
    !m.calendarEvents[row.eventId]?.any fun ev => isEventReadyForRemove delaySec now ev.eventTime

/-- The tables are the same but for what has expired and for the ids: `f` and `g` map them in order, and an invite is
for the event it was for, if there is one. -/
structure CompactedBy (delaySec now : Int) (f g : Nat → Nat) (m m' : CalendarMgr) : Prop where
  events_mono : StrictMonoOn f (keySet (m.keptEvents delaySec now))
  invites_mono : StrictMonoOn g (keySet (m.remainingInvites delaySec now))
  events : Renamed f (m.keptEvents delaySec now) m'.calendarEvents
  invites : keySet m'.calendarInvites = g '' keySet (m.remainingInvites delaySec now)
  refers : ∀ (inviteId : Nat) (row : InviteRow), (m.remainingInvites delaySec now)[inviteId]? = some row →
    ∃ eventId, m'.calendarInvites[g inviteId]? = some (row.withEventId eventId) ∧
      ∀ a ∈ keySet (m.keptEvents delaySec now), eventId = f a ↔ row.eventId = a

/-- The ids handed out next are above those in use. -/
def NextIdsFree (m : CalendarMgr) : Prop :=
  (∀ eventId ∈ m.eventStore, eventId < m.eventGuids) ∧ ∀ inviteId ∈ m.inviteStore, inviteId < m.inviteGuids

def OneInRun (ids : List Nat) (keys : Set Nat) : Prop :=
  ∀ a ∈ keys, ∀ b ∈ keys, InRun 0 ids a → InRun 0 ids b → a = b

/-- No invite without an event names one of the new ids, and no id is in another one's way. -/
structure Compactable (delaySec now : Int) (m : CalendarMgr) : Prop where
  dangling : ∀ (inviteId : Nat) (row : InviteRow), m.calendarInvites[inviteId]? = some row →
    row.eventId ∉ m.calendarEvents → ¬ (1 ≤ row.eventId ∧ row.eventId ≤ (m.keptEvents delaySec now).size)
  events : OneInRun (m.keptEvents delaySec now).keys (keySet (m.keptEvents delaySec now))
  invites : OneInRun m.calendarInvites.keys (keySet (m.remainingInvites delaySec now))

def withTables (m : CalendarMgr) (events : ExtTreeMap Nat EventRow)
    (invites : ExtTreeMap Nat InviteRow) : CalendarMgr :=
  { m with calendarEvents := events, calendarInvites := invites }

private theorem foldlM_deletes (ids : List Nat) (m : CalendarMgr) :
    (ids.flatMap fun id => [CalendarStatement.deleteEvent id, .deleteInvites id]).foldlM execute m =
      some (m.withTables (ids.foldl ExtTreeMap.erase m.calendarEvents)
        (ids.foldl (fun t id => t.filter fun _ row => row.eventId ≠ id) m.calendarInvites)) := by
  induction ids generalizing m with
  | nil => rfl
  | cons id ids ih =>
    rw [List.flatMap_cons, List.foldlM_append]
    exact ih _

private theorem getElem?_foldl_erase (ids : List Nat) (t : ExtTreeMap Nat EventRow) (k : Nat) :
    (ids.foldl ExtTreeMap.erase t)[k]? = if k ∈ ids then none else t[k]? := by
  induction ids generalizing t with
  | nil => simp
  | cons id ids ih =>
    simp only [List.foldl_cons, ih, ExtTreeMap.getElem?_erase, Nat.compare_eq_eq]
    by_cases hmem : k ∈ ids
    · simp [hmem]
    · by_cases heq : id = k
      · simp [heq]
      · have hne : k ≠ id := fun h => heq h.symm
        simp [hmem, heq, hne]

private theorem getElem?_foldl_filter (ids : List Nat) (t : ExtTreeMap Nat InviteRow) (k : Nat) :
    (ids.foldl (fun t id => t.filter fun _ row => row.eventId ≠ id) t)[k]? =
      t[k]?.filter fun (row : InviteRow) => row.eventId ∉ ids := by
  induction ids generalizing t with
  | nil =>
    cases hk : t[k]? <;> simp [hk, Option.filter]
  | cons id ids ih =>
    rw [List.foldl_cons, ih, ExtTreeMap.getElem?_filter']
    cases hk : t[k]? with
    | none => rfl
    | some row =>
      by_cases heq : row.eventId = id
      · simp [Option.filter, heq]
      · by_cases hmem : row.eventId ∈ ids
        · simp [Option.filter, heq, hmem]
        · simp [Option.filter, heq, hmem]

private theorem foldlM_eventUpdates (us : List (Nat × Nat)) (m : CalendarMgr) :
    (us.flatMap fun u => [CalendarStatement.updateEventId u, .updateInviteEvents u]).foldlM execute m =
      (us.foldlM rekey m.calendarEvents).map fun events =>
        m.withTables events (m.calendarInvites.map fun _ row => row.withEventId (movedKey us row.eventId)) := by
  induction us generalizing m with
  | nil =>
    have hid : (m.calendarInvites.map fun _ row => row.withEventId row.eventId) =
        m.calendarInvites := ExtTreeMap.map_id
    simp only [List.flatMap_nil, List.foldlM_nil, movedKey_nil, hid]
    rfl
  | cons u us ih =>
    have hrest : (u :: us).foldlM rekey m.calendarEvents =
        (rekey m.calendarEvents u).bind fun events => us.foldlM rekey events := List.foldlM_cons
    rw [List.flatMap_cons, List.foldlM_append, hrest]
    cases hu : rekey m.calendarEvents u with
    | none => simp [execute, hu]
    | some events =>
      have hfirst : [CalendarStatement.updateEventId u, .updateInviteEvents u].foldlM execute m =
          some (m.withTables events
            (m.calendarInvites.map fun _ row => row.withEventId (moveKey u row.eventId))) := by
        simp [execute, hu, withTables]
      rw [hfirst]
      refine (ih _).trans ?_
      have hmaps : ((m.calendarInvites.map fun _ row => row.withEventId (moveKey u row.eventId)).map
          fun _ row => row.withEventId (movedKey us row.eventId)) =
            m.calendarInvites.map fun _ row => row.withEventId (movedKey (u :: us) row.eventId) :=
        ExtTreeMap.map_map
      exact congrArg (fun invites => (us.foldlM rekey events).map fun events =>
        m.withTables events invites) hmaps

private theorem foldlM_inviteUpdates (us : List (Nat × Nat)) (m : CalendarMgr) :
    (us.map CalendarStatement.updateInviteId).foldlM execute m =
      (us.foldlM rekey m.calendarInvites).map fun invites => m.withTables m.calendarEvents invites := by
  induction us generalizing m with
  | nil => rfl
  | cons u us ih =>
    rw [List.map_cons, List.foldlM_cons, List.foldlM_cons]
    cases hu : rekey m.calendarInvites u with
    | none => simp [execute, hu]
    | some invites =>
      have hfirst : execute m (.updateInviteId u) = some (m.withTables m.calendarEvents invites) := by
        simp [execute, hu, withTables]
      rw [hfirst]
      exact ih _

private def idsOf (expired : Bool) (delaySec now : Int) (rows : List (Nat × EventRow)) : List Nat :=
  (rows.filter fun p => isEventReadyForRemove delaySec now p.2.eventTime = expired).map (·.1)

private theorem dbRemap_delExpired (remapId : Nat) (rows : List (Nat × EventRow)) :
    dbRemap .delExpired (remapEventIds delaySec now remapId rows) =
      (idsOf true delaySec now rows).flatMap fun id => [.deleteEvent id, .deleteInvites id] := by
  induction rows generalizing remapId with
  | nil => rfl
  | cons p rows ih =>
    obtain ⟨id, row⟩ := p
    unfold dbRemap idsOf at ih ⊢
    rw [remapEventIds]
    by_cases hready : isEventReadyForRemove delaySec now row.eventTime
    · simp [hready, ih]
    · simp [hready, ih]

private theorem delExpired_of_all {remapData : List RemapGee}
    (h : ¬ 1 + remapData.countP (·.2.isSome) ≤ remapData.length) : dbRemap .delExpired remapData = [] := by
  have hle := List.countP_le_length (p := fun gee : RemapGee => gee.2.isSome) (l := remapData)
  have hall := List.countP_eq_length.mp (show remapData.countP (·.2.isSome) = remapData.length by omega)
  have hnone : remapData.filter (fun gee => decide (gee.2 = none)) = [] := by
    rw [List.filter_eq_nil_iff]
    intro gee hgee
    have hsome := hall gee hgee
    simpa [Option.isSome_iff_ne_none] using hsome
  rw [dbRemap, hnone]
  rfl

private theorem idsOf_false_cons {id : Nat} {row : EventRow} {rows : List (Nat × EventRow)} :
    idsOf false delaySec now ((id, row) :: rows) =
      if isEventReadyForRemove delaySec now row.eventTime then idsOf false delaySec now rows
      else id :: idsOf false delaySec now rows := by
  by_cases hready : isEventReadyForRemove delaySec now row.eventTime
  · simp [idsOf, hready]
  · simp [idsOf, hready]

private theorem dbRemap_remapEvents (remapId : Nat) (rows : List (Nat × EventRow)) : dbRemap .remapEvents
        ((remapEventIds delaySec now remapId rows).filter fun gee => !isNotRemap gee) =
      (renumbering remapId (idsOf false delaySec now rows)).flatMap fun u =>
        [.updateEventId u, .updateInviteEvents u] := by
  induction rows generalizing remapId with
  | nil => rfl
  | cons p rows ih =>
    obtain ⟨id, row⟩ := p
    rw [remapEventIds, idsOf_false_cons]
    by_cases hready : isEventReadyForRemove delaySec now row.eventTime
    · rw [if_pos hready, if_pos hready, List.filter_cons_of_neg (by simp [isNotRemap])]
      exact ih remapId
    · rw [if_neg hready, if_neg hready, renumbering]
      by_cases hid : id = remapId
      · rw [if_pos hid, List.filter_cons_of_neg (by simp [isNotRemap, hid])]
        exact ih (remapId + 1)
      · have hother : ¬ remapId = id := fun h => hid h.symm
        rw [if_neg hid, List.filter_cons_of_pos (by simp [isNotRemap, hother]), List.flatMap_cons,
          ← ih (remapId + 1)]
        rfl

private theorem dbRemap_remapInvites (remapId : Nat) (ids : List Nat) :
    dbRemap .remapInvites (remapInviteIds remapId ids) = (renumbering remapId ids).map .updateInviteId := by
  induction ids generalizing remapId with
  | nil => rfl
  | cons id ids ih =>
    unfold dbRemap at ih ⊢
    rw [remapInviteIds, renumbering]
    by_cases hid : id = remapId
    · simp [hid, ih]
    · simp [hid, ih]

private theorem remapStatements_eq (m : CalendarMgr) : m.remapStatements delaySec now =
    ((idsOf true delaySec now m.calendarEvents.toList).flatMap fun id =>
      [.deleteEvent id, .deleteInvites id]) ++
    ((renumbering 1 (idsOf false delaySec now m.calendarEvents.toList)).flatMap fun u =>
      [.updateEventId u, .updateInviteEvents u]) ++ (renumbering 1 m.calendarInvites.keys).map .updateInviteId := by
  unfold remapStatements
  dsimp only
  rw [dbRemap_remapEvents, dbRemap_remapInvites, ← dbRemap_delExpired 1]
  split
  · rfl
  next hall => rw [delExpired_of_all hall]

private theorem mem_expired {k : Nat} : k ∈ idsOf true delaySec now m.calendarEvents.toList ↔
    ∃ row, m.calendarEvents[k]? = some row ∧ isEventReadyForRemove delaySec now row.eventTime := by
  simp only [idsOf, decide_eq_true_eq, List.mem_map, List.mem_filter, Prod.exists,
    ExtTreeMap.mem_toList_iff_getElem?_eq_some]
  constructor
  · rintro ⟨id, row, ⟨hrow, hready⟩, rfl⟩
    exact ⟨row, hrow, hready⟩
  · rintro ⟨row, hrow, hready⟩
    exact ⟨k, row, ⟨hrow, hready⟩, rfl⟩

private theorem kept_ids : idsOf false delaySec now m.calendarEvents.toList = (m.keptEvents delaySec now).keys := by
  rw [← ExtTreeMap.map_fst_toList_eq_keys, keptEvents, ExtTreeMap.toList_filter, idsOf]
  simp

private theorem erase_expired :
    (idsOf true delaySec now m.calendarEvents.toList).foldl ExtTreeMap.erase m.calendarEvents =
      m.keptEvents delaySec now := by
  refine ExtTreeMap.ext_getElem? fun k => ?_
  rw [getElem?_foldl_erase, keptEvents, ExtTreeMap.getElem?_filter']
  by_cases hmem : k ∈ idsOf true delaySec now m.calendarEvents.toList
  · obtain ⟨row, hrow, hready⟩ := mem_expired.mp hmem
    simp [hmem, hrow, hready, Option.filter]
  · rw [if_neg hmem]
    cases hrow : m.calendarEvents[k]? with
    | none => rfl
    | some row =>
      have hnot : isEventReadyForRemove delaySec now row.eventTime = false := by
        by_contra hready
        exact hmem (mem_expired.mpr ⟨row, hrow, by simpa using hready⟩)
      simp [Option.filter, hnot]

private theorem filter_expired : (idsOf true delaySec now m.calendarEvents.toList).foldl
        (fun t id => t.filter fun _ row => row.eventId ≠ id) m.calendarInvites =
      m.remainingInvites delaySec now := by
  refine ExtTreeMap.ext_getElem? fun k => ?_
  rw [getElem?_foldl_filter, remainingInvites, ExtTreeMap.getElem?_filter']
  cases hrow : m.calendarInvites[k]? with
  | none => rfl
  | some row =>
    have hiff := @mem_expired m delaySec now row.eventId
    have hany : (m.calendarEvents[row.eventId]?.any fun ev =>
        isEventReadyForRemove delaySec now ev.eventTime) = true ↔
          row.eventId ∈ idsOf true delaySec now m.calendarEvents.toList := by
      rw [hiff]
      exact Option.any_eq_true _ _
    by_cases hmem : row.eventId ∈ idsOf true delaySec now m.calendarEvents.toList
    · simp [Option.filter, hmem, hany.mpr hmem]
    · have hno := Bool.eq_false_iff.mpr fun h => hmem (hany.mp h)
      simp [Option.filter, hmem, hno]

theorem dbRemoveExpiredEventsAndRemapData_eq (hsome : m.calendarEvents.isEmpty = false) :
    m.dbRemoveExpiredEventsAndRemapData delaySec now =
      let eventUpdates := renumbering 1 (m.keptEvents delaySec now).keys
      (eventUpdates.foldlM rekey (m.keptEvents delaySec now)).bind fun events =>
        ((renumbering 1 m.calendarInvites.keys).foldlM rekey
          ((m.remainingInvites delaySec now).map fun _ row =>
            row.withEventId (movedKey eventUpdates row.eventId))).map fun invites =>
          m.withTables events invites := by
  unfold dbRemoveExpiredEventsAndRemapData
  rw [hsome, if_neg Bool.false_ne_true, remapStatements_eq, List.foldlM_append, List.foldlM_append,
    foldlM_deletes, erase_expired, filter_expired, kept_ids]
  rw [Option.bind_eq_bind, Option.bind_some, foldlM_eventUpdates]
  cases hevents : (renumbering 1 (m.keptEvents delaySec now).keys).foldlM rekey
      (m.keptEvents delaySec now) with
  | none => simp [withTables, hevents]
  | some events =>
    simp only [withTables, hevents, Option.map_some, Option.bind_some]
    exact foldlM_inviteUpdates _ _

private theorem keySet_map (f : Nat → Nat) (t : ExtTreeMap Nat InviteRow) :
    keySet (t.map fun _ (row : InviteRow) => row.withEventId (f row.eventId)) = keySet t := by
  ext k
  change k ∈ t.map _ ↔ k ∈ t
  rw [ExtTreeMap.mem_map]

private theorem noClash_events : NoClash (renumbering 1 (m.keptEvents delaySec now).keys)
      (keySet (m.keptEvents delaySec now)) ↔
    OneInRun (m.keptEvents delaySec now).keys (keySet (m.keptEvents delaySec now)) :=
  noClash_renumbering_iff (pairwise_keys _) (fun _ _ => Nat.zero_le _)
    fun _ ha => .inr (ExtTreeMap.mem_keys.mpr ha)

private theorem remaining_subset {k : Nat} (h : k ∈ keySet (m.remainingInvites delaySec now)) :
    k ∈ m.calendarInvites.keys :=
  ExtTreeMap.mem_keys.mpr (ExtTreeMap.mem_of_mem_filter h)

private theorem noClash_invites : NoClash (renumbering 1 m.calendarInvites.keys)
      (keySet (m.remainingInvites delaySec now)) ↔
    OneInRun m.calendarInvites.keys (keySet (m.remainingInvites delaySec now)) :=
  noClash_renumbering_iff (pairwise_keys _) (fun _ _ => Nat.zero_le _)
    fun _ ha => .inr (remaining_subset ha)

private theorem one_notMem_tail {t : ExtTreeMap Nat EventRow} (h : OneInRun t.keys (keySet t)) : 1 ∉ t.keys.tail := by
  have hsorted := pairwise_keys t
  intro hone
  cases hkeys : t.keys with
  | nil =>
    rw [hkeys] at hone
    cases hone
  | cons k ks =>
    rw [hkeys] at hone hsorted
    have hk : k < 1 := (List.pairwise_cons.mp hsorted).1 1 hone
    obtain rfl : k = 0 := by omega
    have hmem : ∀ i ≤ 1, i ∈ t.keys := by
      intro i hi
      rw [hkeys]
      rcases Nat.le_one_iff_eq_zero_or_eq_one.mp hi with rfl | rfl
      · exact List.mem_cons_self
      · exact List.mem_cons_of_mem 0 hone
    have heq := h 0 (ExtTreeMap.mem_keys.mp (hmem 0 (by omega))) 1
      (ExtTreeMap.mem_keys.mp (hmem 1 le_rfl)) (fun i _ hi => hmem i (by omega))
      fun i _ hi => hmem i hi
    cases heq

private theorem map_keys {t : ExtTreeMap Nat EventRow} (h : OneInRun t.keys (keySet t)) :
    t.keys.map (movedKey (renumbering 1 t.keys)) = List.range' 1 t.size := by
  rw [← ExtTreeMap.length_keys]
  exact map_movedKey (pairwise_keys t) (fun k _ => Nat.le_add_left 1 k) (one_notMem_tail h)

def eventNumber (delaySec now : Int) (m : CalendarMgr) : Nat → Nat :=
  movedKey (renumbering 1 (m.keptEvents delaySec now).keys)

def inviteNumber (m : CalendarMgr) : Nat → Nat := movedKey (renumbering 1 m.calendarInvites.keys)

private theorem strictMonoOn_eventNumber
    (h : OneInRun (m.keptEvents delaySec now).keys (keySet (m.keptEvents delaySec now))) :
    StrictMonoOn (m.eventNumber delaySec now) (keySet (m.keptEvents delaySec now)) :=
  strictMonoOn_movedKey (pairwise_keys _) (fun k _ => Nat.le_add_left 1 k)
    (fun _ ha => .inr (ExtTreeMap.mem_keys.mpr ha)) (noClash_events.mpr h)

private theorem strictMonoOn_inviteNumber
    (h : OneInRun m.calendarInvites.keys (keySet (m.remainingInvites delaySec now))) :
    StrictMonoOn m.inviteNumber (keySet (m.remainingInvites delaySec now)) :=
  strictMonoOn_movedKey (pairwise_keys _) (fun k _ => Nat.le_add_left 1 k)
    (fun _ ha => .inr (remaining_subset ha)) (noClash_invites.mpr h)

private theorem exists_eventNumber_iff {d : Nat}
    (h : OneInRun (m.keptEvents delaySec now).keys (keySet (m.keptEvents delaySec now))) :
    (∃ a ∈ keySet (m.keptEvents delaySec now), m.eventNumber delaySec now a = d) ↔
      1 ≤ d ∧ d ≤ (m.keptEvents delaySec now).size := by
  have hmem : d ∈ (m.keptEvents delaySec now).keys.map (m.eventNumber delaySec now) ↔
      d ∈ List.range' 1 (m.keptEvents delaySec now).size := Iff.of_eq (congrArg (d ∈ ·) (map_keys h))
  rw [List.mem_map, List.mem_range'_1] at hmem
  constructor
  · rintro ⟨a, ha, hd⟩
    have hrange := hmem.mp ⟨a, ExtTreeMap.mem_keys.mpr ha, hd⟩
    omega
  · rintro ⟨hlo, hhi⟩
    obtain ⟨a, ha, hd⟩ := hmem.mpr ⟨hlo, by omega⟩
    exact ⟨a, ExtTreeMap.mem_keys.mp ha, hd⟩

private theorem eventNumber_of_notMem {d : Nat} (h : d ∉ keySet (m.keptEvents delaySec now)) :
    m.eventNumber delaySec now d = d :=
  movedKey_renumbering_of_notMem fun hmem => h (ExtTreeMap.mem_keys.mp hmem)

theorem isSome_dbRemoveExpiredEventsAndRemapData_iff (hsome : m.calendarEvents.isEmpty = false) :
    (m.dbRemoveExpiredEventsAndRemapData delaySec now).isSome ↔
      OneInRun (m.keptEvents delaySec now).keys (keySet (m.keptEvents delaySec now)) ∧
        OneInRun m.calendarInvites.keys (keySet (m.remainingInvites delaySec now)) := by
  rw [dbRemoveExpiredEventsAndRemapData_eq hsome, ← noClash_events, ← noClash_invites, ← foldlM_rekey_isSome_iff]
  dsimp only
  cases (renumbering 1 (m.keptEvents delaySec now).keys).foldlM rekey (m.keptEvents delaySec now) with
  | none => simp
  | some events =>
    rw [Option.bind_some, Option.isSome_map, foldlM_rekey_isSome_iff, keySet_map]
    exact (and_iff_right rfl).symm

theorem renamed_of_dbRemove (hsome : m.calendarEvents.isEmpty = false)
    (h : m.dbRemoveExpiredEventsAndRemapData delaySec now = some m') :
    Renamed (m.eventNumber delaySec now) (m.keptEvents delaySec now) m'.calendarEvents ∧
      Renamed m.inviteNumber ((m.remainingInvites delaySec now).map fun _ (row : InviteRow) =>
        row.withEventId (m.eventNumber delaySec now row.eventId)) m'.calendarInvites := by
  rw [dbRemoveExpiredEventsAndRemapData_eq hsome] at h
  obtain ⟨events, hevents, h⟩ := Option.bind_eq_some_iff.mp h
  obtain ⟨invites, hinvites, rfl⟩ := Option.map_eq_some_iff.mp h
  exact ⟨renamed_of_foldlM hevents, renamed_of_foldlM hinvites⟩

private theorem getElem?_of_renamed {f g : Nat → Nat} {t t' : ExtTreeMap Nat InviteRow} {k : Nat}
    {row : InviteRow} (h : Renamed g (t.map fun _ (row : InviteRow) => row.withEventId (f row.eventId)) t')
    (hrow : t[k]? = some row) : t'[g k]? = some (row.withEventId (f row.eventId)) := by
  refine (h _ _).mpr ⟨k, ?_, rfl⟩
  rw [ExtTreeMap.getElem?_map, hrow]
  rfl

private theorem mem_events {k : Nat} (h : k ∈ keySet (m.keptEvents delaySec now)) : k ∈ m.calendarEvents :=
  ExtTreeMap.mem_of_mem_filter h

private theorem remaining_iff {k : Nat} {row : InviteRow} :
    (m.remainingInvites delaySec now)[k]? = some row ↔ m.calendarInvites[k]? = some row ∧
      (row.eventId ∈ m.calendarEvents → row.eventId ∈ keySet (m.keptEvents delaySec now)) := by
  have hkept : (!m.calendarEvents[row.eventId]?.any fun ev =>
      isEventReadyForRemove delaySec now ev.eventTime) = true ↔
        (row.eventId ∈ m.calendarEvents → row.eventId ∈ keySet (m.keptEvents delaySec now)) := by
    rw [mem_keySet, keptEvents, ExtTreeMap.mem_iff_isSome_getElem?]
    simp only [ExtTreeMap.getElem?_filter']
    cases m.calendarEvents[row.eventId]? with
    | none => simp
    | some ev => simp [Option.filter_eq_some_iff]
  rw [remainingInvites, ExtTreeMap.getElem?_filter', Option.filter_eq_some_iff, hkept]

theorem compactedBy_of_compactable (h : Compactable delaySec now m) (hsome : m.calendarEvents.isEmpty = false)
    (hdone : m.dbRemoveExpiredEventsAndRemapData delaySec now = some m') :
    CompactedBy delaySec now (m.eventNumber delaySec now) m.inviteNumber m m' := by
  obtain ⟨hevents, hinvites⟩ := renamed_of_dbRemove hsome hdone
  have hmono := strictMonoOn_eventNumber h.events
  refine ⟨hmono, strictMonoOn_inviteNumber h.invites, hevents, ?_, fun inviteId row hrow => ?_⟩
  · rw [hinvites.keySet_eq, keySet_map]
  · refine ⟨_, getElem?_of_renamed hinvites hrow, fun a ha => ?_⟩
    obtain ⟨hold, hkept⟩ := remaining_iff.mp hrow
    by_cases hmem : row.eventId ∈ m.calendarEvents
    · exact hmono.injOn.eq_iff (hkept hmem) ha
    · -- an invite without an event keeps an id that no event gets
      have hout : row.eventId ∉ keySet (m.keptEvents delaySec now) := fun h => hmem (mem_events h)
      rw [eventNumber_of_notMem hout]
      constructor
      · intro heq
        have hrange := (exists_eventNumber_iff h.events).mp ⟨a, ha, heq.symm⟩
        exact absurd hrange (h.dangling inviteId row hold hmem)
      · intro heq
        exact absurd (heq ▸ ha) hout

theorem compactable_of_compactedBy {f g : Nat → Nat} (hsome : m.calendarEvents.isEmpty = false)
    (hdone : m.dbRemoveExpiredEventsAndRemapData delaySec now = some m')
    (h : CompactedBy delaySec now f g m m') : Compactable delaySec now m := by
  obtain ⟨hevents, hinvites⟩ := (isSome_dbRemoveExpiredEventsAndRemapData_iff hsome).mp
    (Option.isSome_of_eq_some hdone)
  obtain ⟨hrenamed, hrows⟩ := renamed_of_dbRemove hsome hdone
  have hf : EqOn f (m.eventNumber delaySec now) (keySet (m.keptEvents delaySec now)) :=
    eqOn_of_strictMonoOn h.events_mono (strictMonoOn_eventNumber hevents)
      (h.events.keySet_eq.symm.trans hrenamed.keySet_eq)
  have hg : EqOn g m.inviteNumber (keySet (m.remainingInvites delaySec now)) := by
    refine eqOn_of_strictMonoOn h.invites_mono (strictMonoOn_inviteNumber hinvites) ?_
    rw [← h.invites, hrows.keySet_eq, keySet_map]
  refine ⟨fun inviteId row hrow hmem hrange => ?_, hevents, hinvites⟩
  have hout : row.eventId ∉ keySet (m.keptEvents delaySec now) := fun h => hmem (mem_events h)
  have hrow' : (m.remainingInvites delaySec now)[inviteId]? = some row :=
    remaining_iff.mpr ⟨hrow, fun h => absurd h hmem⟩
  obtain ⟨a, ha, hnumber⟩ := (exists_eventNumber_iff hevents).mpr hrange
  obtain ⟨eventId, hnew, hrefers⟩ := h.refers inviteId row hrow'
  -- the id stays as it was, so the invite is for the event that gets it
  have hstays := getElem?_of_renamed hrows hrow'
  rw [← hg (mem_keySet.mpr ⟨row, hrow'⟩), hnew, eventNumber_of_notMem hout] at hstays
  have heq : eventId = row.eventId := congrArg InviteRow.eventId (Option.some.inj hstays)
  have hsame := (hrefers a ha).mp (by rw [heq, hf ha, hnumber])
  exact hout (hsame ▸ ha)

private theorem stores_foldlM {statements : List CalendarStatement} {m m' : CalendarMgr}
    (h : statements.foldlM execute m = some m') : m'.eventStore = m.eventStore ∧ m'.inviteStore = m.inviteStore := by
  induction statements generalizing m with
  | nil =>
    cases h
    exact ⟨rfl, rfl⟩
  | cons s statements ih =>
    obtain ⟨m₁, hs, hrest⟩ := Option.bind_eq_some_iff.mp h
    have hstep : m₁.eventStore = m.eventStore ∧ m₁.inviteStore = m.inviteStore := by
      cases s with
      | deleteEvent eventId =>
        cases hs
        exact ⟨rfl, rfl⟩
      | deleteInvites eventId =>
        cases hs
        exact ⟨rfl, rfl⟩
      | updateEventId u =>
        obtain ⟨events, -, rfl⟩ := Option.map_eq_some_iff.mp hs
        exact ⟨rfl, rfl⟩
      | updateInviteEvents u =>
        cases hs
        exact ⟨rfl, rfl⟩
      | updateInviteId u =>
        obtain ⟨invites, -, rfl⟩ := Option.map_eq_some_iff.mp hs
        exact ⟨rfl, rfl⟩
    obtain ⟨hevents, hinvites⟩ := ih hrest
    exact ⟨hevents.trans hstep.1, hinvites.trans hstep.2⟩

private theorem stores_getD : ((m.dbRemoveExpiredEventsAndRemapData delaySec now).getD m).eventStore = m.eventStore ∧
      ((m.dbRemoveExpiredEventsAndRemapData delaySec now).getD m).inviteStore = m.inviteStore := by
  cases hdone : m.dbRemoveExpiredEventsAndRemapData delaySec now with
  | none => exact ⟨rfl, rfl⟩
  | some m' =>
    rw [Option.getD_some]
    rw [dbRemoveExpiredEventsAndRemapData] at hdone
    split at hdone
    · cases hdone
      exact ⟨rfl, rfl⟩
    · exact stores_foldlM hdone

private theorem loadEvents_le {rows : List (Nat × EventRow)} {load : CalendarMgr × Nat}
    (h : ∀ eventId ∈ load.1.eventStore, eventId ≤ load.2) (hinvites : load.1.inviteStore = ∅) :
    (∀ eventId ∈ (rows.foldl (loadEvent now) load).1.eventStore, eventId ≤ (rows.foldl (loadEvent now) load).2) ∧
      (rows.foldl (loadEvent now) load).1.inviteStore = ∅ := by
  induction rows generalizing load with
  | nil => exact ⟨h, hinvites⟩
  | cons p rows ih =>
    refine ih (fun eventId hmem => ?_) hinvites
    have hle : load.2 ≤ (loadEvent now load p).2 ∧ p.1 ≤ (loadEvent now load p).2 := by
      unfold loadEvent
      dsimp only
      split <;> omega
    rcases ExtTreeMap.mem_insert.mp hmem with heq | hold
    · rw [← Nat.compare_eq_eq.mp heq]
      exact hle.2
    · exact (h eventId hold).trans hle.1

private theorem loadInvites_le {maxEventId : Nat} {rows : List (Nat × InviteRow)}
    {load : CalendarMgr × Nat} (hsorted : (rows.map (·.1)).Pairwise (· < ·))
    (hnext : ∀ inviteId ∈ load.1.inviteStore, ∀ p ∈ rows, inviteId < p.1)
    (hle : ∀ inviteId ∈ load.1.inviteStore, inviteId ≤ load.2)
    (hmax : load.2 ≤ maxEventId ∨ load.2 ∈ load.1.inviteStore) :
    ∀ inviteId ∈ (rows.foldl (loadInvite maxEventId) load).1.inviteStore,
      inviteId ≤ (rows.foldl (loadInvite maxEventId) load).2 := by
  induction rows generalizing load with
  | nil => exact hle
  | cons p rows ih =>
    obtain ⟨hhead, hrest⟩ := List.pairwise_cons.mp hsorted
    have hmem : ∀ inviteId, inviteId ∈ (loadInvite maxEventId load p).1.inviteStore ↔
        inviteId = p.1 ∨ inviteId ∈ load.1.inviteStore := by
      intro inviteId
      have hstore : ∃ invite, (loadInvite maxEventId load p).1.inviteStore =
          load.1.inviteStore.insert p.1 invite := by
        unfold loadInvite
        dsimp only
        split <;> exact ⟨_, rfl⟩
      obtain ⟨invite, hstore⟩ := hstore
      rw [hstore, ExtTreeMap.mem_insert, Nat.compare_eq_eq, eq_comm]
    have hload : (loadInvite maxEventId load p).2 = if load.2 < p.1 then p.1 else maxEventId := rfl
    -- the greatest so far is not the id of an invite when the next one is not above it
    have hevents : ¬ load.2 < p.1 → load.2 ≤ maxEventId := by
      intro hge
      exact hmax.resolve_right fun h => hge (hnext _ h p List.mem_cons_self)
    refine ih hrest (fun inviteId hid q hq => ?_) (fun inviteId hid => ?_) ?_
    · rcases (hmem inviteId).mp hid with rfl | hold
      · exact hhead q.1 (List.mem_map_of_mem hq)
      · exact hnext inviteId hold q (List.mem_cons_of_mem p hq)
    · have hid' : inviteId ≤ p.1 := by
        rcases (hmem inviteId).mp hid with rfl | hold
        · exact le_rfl
        · exact (hnext inviteId hold p List.mem_cons_self).le
      rw [hload]
      split
      · exact hid'
      next hge =>
        have hle' := hevents hge
        omega
    · rw [hload]
      split
      · exact .inr ((hmem p.1).mpr (.inl rfl))
      · exact .inl le_rfl

private theorem eventStore_loadInvites {maxEventId : Nat} {rows : List (Nat × InviteRow)}
    {load : CalendarMgr × Nat} {eventId : Nat}
    (h : eventId ∈ (rows.foldl (loadInvite maxEventId) load).1.eventStore) : eventId ∈ load.1.eventStore := by
  induction rows generalizing load with
  | nil => exact h
  | cons p rows ih =>
    have hstep := ih h
    unfold loadInvite at hstep
    dsimp only at hstep
    split at hstep
    · exact hstep
    next ev hev =>
      obtain ⟨old, hold, -⟩ := Option.bind_eq_some_iff.mp hev
      rcases ExtTreeMap.mem_insert.mp hstep with heq | hmem
      · rw [← Nat.compare_eq_eq.mp heq]
        have hstored := (Option.filter_eq_some_iff.mp hold).1
        exact ExtTreeMap.mem_iff_isSome_getElem?.mpr (Option.isSome_of_eq_some hstored)
      · exact hmem

private theorem eventGuids_loadInvites {maxEventId : Nat} {rows : List (Nat × InviteRow)} {load : CalendarMgr × Nat} :
    (rows.foldl (loadInvite maxEventId) load).1.eventGuids = load.1.eventGuids := by
  induction rows generalizing load with
  | nil => rfl
  | cons p rows ih =>
    refine ih.trans ?_
    unfold loadInvite
    dsimp only
    split <;> rfl

theorem nextIdsFree_loadFromDB : NextIdsFree (m.loadFromDB delaySec now) := by
  unfold loadFromDB
  dsimp only
  generalize hcleared : ({ m with eventStore := ∅, inviteStore := ∅ } : CalendarMgr) = cleared
  have hstores : cleared.eventStore = ∅ ∧ cleared.inviteStore = ∅ := by
    rw [← hcleared]
    exact ⟨rfl, rfl⟩
  obtain ⟨hevents, hinvites⟩ := @stores_getD cleared delaySec now
  rw [hstores.1] at hevents
  rw [hstores.2] at hinvites
  generalize (cleared.dbRemoveExpiredEventsAndRemapData delaySec now).getD cleared = compacted
    at hevents hinvites ⊢
  have hstart : ∀ eventId ∈ compacted.eventStore, eventId ≤ 0 := by
    intro eventId hmem
    rw [hevents] at hmem
    exact absurd hmem ExtTreeMap.not_mem_empty
  have hloaded := @loadEvents_le now compacted.calendarEvents.toList (compacted, 0) hstart hinvites
  generalize compacted.calendarEvents.toList.foldl (loadEvent now) (compacted, 0) = load at hloaded ⊢
  obtain ⟨loaded, maxEventId⟩ := load
  obtain ⟨hle, hempty⟩ := hloaded
  have hnone : ∀ inviteId, inviteId ∉ loaded.inviteStore := by
    intro inviteId hmem
    rw [show loaded.inviteStore = ∅ from hempty] at hmem
    exact ExtTreeMap.not_mem_empty hmem
  dsimp only at hle ⊢
  split
  · exact ⟨fun eventId hmem => Nat.lt_succ_of_le (hle eventId hmem),
      fun inviteId hmem => absurd hmem (hnone inviteId)⟩
  · split
    · exact ⟨fun eventId hmem => Nat.lt_succ_of_le (hle eventId hmem),
        fun inviteId hmem => absurd hmem (hnone inviteId)⟩
    · have hsorted : (loaded.calendarInvites.toList.map (·.1)).Pairwise (· < ·) := by
        rw [ExtTreeMap.map_fst_toList_eq_keys]
        exact pairwise_keys _
      refine ⟨fun eventId hmem => ?_, fun inviteId hmem => ?_⟩
      · refine lt_of_lt_of_eq ?_ eventGuids_loadInvites.symm
        exact Nat.lt_succ_of_le (hle eventId (eventStore_loadInvites hmem))
      · refine Nat.lt_succ_of_le (loadInvites_le hsorted ?_ ?_ (.inl (Nat.zero_le _)) inviteId hmem)
        · exact fun inviteId hmem => absurd hmem (hnone inviteId)
        · exact fun inviteId hmem => absurd hmem (hnone inviteId)

private theorem compactedBy_self (hsome : m.calendarEvents.isEmpty) :
    CompactedBy delaySec now (fun k => k) (fun k => k) m m := by
  have hempty := ExtTreeMap.isEmpty_iff.mp hsome
  have hkept : m.keptEvents delaySec now = m.calendarEvents := by
    refine ExtTreeMap.ext_getElem? fun k => ?_
    rw [keptEvents, hempty, ExtTreeMap.getElem?_filter', ExtTreeMap.getElem?_empty]
    rfl
  have hremaining : m.remainingInvites delaySec now = m.calendarInvites := by
    refine ExtTreeMap.ext_getElem? fun k => Option.ext fun row => ?_
    rw [remaining_iff, hempty]
    exact and_iff_left fun hmem => absurd hmem ExtTreeMap.not_mem_empty
  refine ⟨strictMonoOn_id, strictMonoOn_id, ?_, ?_, fun inviteId row hrow => ?_⟩
  · rw [hkept]
    exact .refl _
  · rw [hremaining]
    exact (Set.image_id' _).symm
  · rw [hremaining] at hrow
    exact ⟨row.eventId, hrow, fun a _ => Iff.rfl⟩

/-- The numbering leaves all as it was exactly when there are no events, or no number given is the id of an
event that an invite names without its being there, and of the ids that begin at 0 without a gap at most one
remains. -/
theorem compaction_iff (delaySec now : Int) (m : CalendarMgr) :
    ((∃ m', m.dbRemoveExpiredEventsAndRemapData delaySec now = some m' ∧
        ∃ f g, CompactedBy delaySec now f g m m') ∧ NextIdsFree (m.loadFromDB delaySec now)) ↔
      m.calendarEvents.isEmpty ∨ Compactable delaySec now m := by
  rw [and_iff_left nextIdsFree_loadFromDB]
  cases hsome : m.calendarEvents.isEmpty with
  | true =>
    refine iff_of_true ⟨m, ?_, _, _, compactedBy_self hsome⟩ (.inl rfl)
    rw [dbRemoveExpiredEventsAndRemapData, if_pos hsome]
  | false =>
    constructor
    · rintro ⟨m', hdone, f, g, hcompacted⟩
      exact .inr (compactable_of_compactedBy hsome hdone hcompacted)
    · rintro (hempty | hcompactable)
      · cases hempty
      · obtain ⟨m', hdone⟩ := Option.isSome_iff_exists.mp
          ((isSome_dbRemoveExpiredEventsAndRemapData_iff hsome).mpr
            ⟨hcompactable.events, hcompactable.invites⟩)
        exact ⟨m', hdone, _, _, compactedBy_of_compactable hcompactable hsome hdone⟩

/-- One event with the id 5, and an invite for an event 1 that is not there. -/
def strayInvite : CalendarMgr where
  calendarEvents := (∅ : ExtTreeMap Nat EventRow).insert 5
    { creatorGuid := 10, guildId := 0, type := 0, flags := 0, dungeonId := -1, eventTime := 100,
      title := "", description := "" }
  calendarInvites := (∅ : ExtTreeMap Nat InviteRow).insert 1
    { eventId := 1, inviteeGuid := 11, senderGuid := 10, status := 0, lastUpdateTime := 0, rank := 0 }

/-- The event gets the id 1, and the invite is for it then. -/
theorem strayInvite_not_compacted : ¬ ((∃ m', strayInvite.dbRemoveExpiredEventsAndRemapData (-1) 0 = some m' ∧
        ∃ f g, CompactedBy (-1) 0 f g strayInvite m') ∧ NextIdsFree (strayInvite.loadFromDB (-1) 0)) := by
  rintro ⟨⟨m', hdone, f, g, hcompacted⟩, -⟩
  have hcompactable := compactable_of_compactedBy (by decide +kernel) hdone hcompacted
  exact hcompactable.dangling 1 _ rfl (by decide +kernel) (by decide +kernel)

end CalendarMgr

end Mangos
