import Mangos.Lfg.Finder

/-!
# Queues of the dungeon finder and their entries

Whatever is added to the queues and taken from them, each pointer in a queue is that of a live entry, and
each entry has its pointer in exactly one queue: that of its kind of guid and of its type.
-/

namespace Mangos

/-- The queues of players and of groups for a type of dungeons. -/
inductive QueueName
  | players (type : LFGType)
  | groups (type : LFGType)
  deriving DecidableEq, Repr

def LFGGuid.queueName : LFGGuid → LFGType → QueueName
  | .player _, type => .players type
  | .group _, type => .groups type

namespace LFGMgr

open Framework

variable {m m' : LFGMgr}

def queue (m : LFGMgr) : QueueName → List Nat
  | .players type => m.playerQueue type
  | .groups type => m.groupQueue type

/-- Each entry has its own id, which is in the queue that it belongs to; what is in a queue is the id of
such an entry. -/
structure QueueSound (m : LFGMgr) : Prop where
  entry : ∀ guid info, m.queueInfo guid = some info →
    info.guid = guid ∧ info.queueID ≤ m.queueID ∧ info.queueID ∈ m.queue (guid.queueName info.type)
  pointer : ∀ name q, q ∈ m.queue name →
    ∃ guid info, m.queueInfo guid = some info ∧ info.queueID = q ∧ guid.queueName info.type = name
  unique : ∀ guid guid' info info', m.queueInfo guid = some info → m.queueInfo guid' = some info' →
    info.queueID = info'.queueID → guid = guid'

theorem QueueSound.congr (h : QueueSound m) (hinfo : m'.queueInfo = m.queueInfo)
    (hid : m'.queueID = m.queueID) (hplayers : m'.playerQueue = m.playerQueue)
    (hgroups : m'.groupQueue = m.groupQueue) : QueueSound m' := by
  have hqueue : ∀ name, m'.queue name = m.queue name := by
    intro name
    cases name with
    | players type => simp [queue, hplayers]
    | groups type => simp [queue, hgroups]
  constructor
  case entry =>
    intro guid info hguid
    rw [hinfo] at hguid
    rw [hid, hqueue]
    exact h.entry guid info hguid
  case pointer =>
    intro name q hq
    rw [hqueue] at hq
    rw [hinfo]
    exact h.pointer name q hq
  case unique =>
    rw [hinfo]
    exact h.unique

theorem QueueSound.once (h : QueueSound m) {guid : LFGGuid} {info : LFGQueueInfo}
    (hguid : m.queueInfo guid = some info) : ∃! name, info.queueID ∈ m.queue name := by
  refine ⟨guid.queueName info.type, (h.entry guid info hguid).2.2, ?_⟩
  intro name hname
  obtain ⟨guid', info', hguid', hid, rfl⟩ := h.pointer name _ hname
  obtain rfl := h.unique guid' guid info' info hguid' hguid hid
  rw [hguid] at hguid'
  cases hguid'
  rfl

theorem queueInfo_removeFromQueue (m : LFGMgr) (guid : LFGGuid) :
    (m.removeFromQueue guid).queueInfo = Function.update m.queueInfo guid none := by
  unfold removeFromQueue
  split
  next hnone => rw [← hnone, Function.update_eq_self]
  next => cases guid <;> rfl

theorem queueID_removeFromQueue (m : LFGMgr) (guid : LFGGuid) : (m.removeFromQueue guid).queueID = m.queueID := by
  unfold removeFromQueue
  split
  · rfl
  · cases guid <;> rfl

theorem queue_removeFromQueue {guid : LFGGuid} {info : LFGQueueInfo}
    (h : m.queueInfo guid = some info) (name : QueueName) : (m.removeFromQueue guid).queue name =
      if name = guid.queueName info.type then (m.queue name).filter (· ≠ info.queueID) else m.queue name := by
  unfold removeFromQueue
  rw [h]
  cases guid <;> cases name <;> simp [queue, LFGGuid.queueName, Function.update_apply] <;>
    split <;> simp_all

theorem removeFromQueue_of_none {guid : LFGGuid} (h : m.queueInfo guid = none) : m.removeFromQueue guid = m := by
  simp [removeFromQueue, h]

theorem queueInfo_insertInQueue (m : LFGMgr) (guid : LFGGuid) (type : LFGType) :
    (m.insertInQueue guid type).queueInfo = Function.update m.queueInfo guid (some ⟨guid, type, m.queueID + 1⟩) := by
  cases guid <;> rfl

theorem queueID_insertInQueue (m : LFGMgr) (guid : LFGGuid) (type : LFGType) :
    (m.insertInQueue guid type).queueID = m.queueID + 1 := by
  cases guid <;> rfl

theorem queue_insertInQueue (m : LFGMgr) (guid : LFGGuid) (type : LFGType) (name : QueueName) :
    (m.insertInQueue guid type).queue name =
      if name = guid.queueName type then (m.queue name).insert (m.queueID + 1) else m.queue name := by
  cases guid <;> cases name <;> simp [insertInQueue, queue, LFGGuid.queueName, Function.update_apply] <;>
    split <;> simp_all

theorem QueueSound.removeFromQueue (h : QueueSound m) (guid : LFGGuid) : QueueSound (m.removeFromQueue guid) := by
  cases hguid : m.queueInfo guid with
  | none => rwa [removeFromQueue_of_none hguid]
  | some info =>
    have hother : ∀ guid' info', (m.removeFromQueue guid).queueInfo guid' = some info' →
        guid' ≠ guid ∧ m.queueInfo guid' = some info' := by
      intro guid' info' hinfo'
      rw [queueInfo_removeFromQueue, Function.update_apply] at hinfo'
      split at hinfo'
      next => cases hinfo'
      next hne => exact ⟨hne, hinfo'⟩
    constructor
    case entry =>
      intro guid' info' hinfo'
      obtain ⟨hne, hinfo'⟩ := hother guid' info' hinfo'
      obtain ⟨hself, hle, hmem⟩ := h.entry guid' info' hinfo'
      refine ⟨hself, by rwa [queueID_removeFromQueue], ?_⟩
      rw [queue_removeFromQueue hguid]
      split
      · refine List.mem_filter.mpr ⟨hmem, ?_⟩
        have hid : info'.queueID ≠ info.queueID := fun heq =>
          hne (h.unique guid' guid info' info hinfo' hguid heq)
        simpa using hid
      · exact hmem
    case pointer =>
      intro name q hq
      have hold : q ∈ m.queue name ∧ (name = guid.queueName info.type → q ≠ info.queueID) := by
        rw [queue_removeFromQueue hguid] at hq
        split at hq
        next => exact ⟨List.mem_of_mem_filter hq, fun _ => by simpa using List.of_mem_filter hq⟩
        next hne => exact ⟨hq, fun heq => absurd heq hne⟩
      obtain ⟨guid', info', hinfo', hid, hname⟩ := h.pointer name q hold.1
      have hne : guid' ≠ guid := by
        rintro rfl
        rw [hguid] at hinfo'
        cases hinfo'
        exact hold.2 hname.symm hid.symm
      refine ⟨guid', info', ?_, hid, hname⟩
      rw [queueInfo_removeFromQueue, Function.update_of_ne hne]
      exact hinfo'
    case unique =>
      intro guid₁ guid₂ info₁ info₂ h₁ h₂ heq
      exact h.unique guid₁ guid₂ info₁ info₂ (hother _ _ h₁).2 (hother _ _ h₂).2 heq

theorem QueueSound.insertInQueue (h : QueueSound m) {guid : LFGGuid} (hguid : m.queueInfo guid = none)
    (type : LFGType) : QueueSound (m.insertInQueue guid type) := by
  have hcases : ∀ guid' info', (m.insertInQueue guid type).queueInfo guid' = some info' →
      (guid' = guid ∧ info' = ⟨guid, type, m.queueID + 1⟩) ∨ m.queueInfo guid' = some info' := by
    intro guid' info' hinfo'
    rw [queueInfo_insertInQueue, Function.update_apply] at hinfo'
    split at hinfo'
    next heq => exact .inl ⟨heq, (Option.some.inj hinfo').symm⟩
    next => exact .inr hinfo'
  have hold : ∀ {name q}, q ∈ m.queue name → q ∈ (m.insertInQueue guid type).queue name := by
    intro name q hq
    rw [queue_insertInQueue]
    split
    · exact List.mem_insert_of_mem hq
    · exact hq
  have hfresh : ∀ guid' info', m.queueInfo guid' = some info' → info'.queueID ≠ m.queueID + 1 := by
    intro guid' info' hinfo'
    have hle := (h.entry guid' info' hinfo').2.1
    omega
  constructor
  case entry =>
    intro guid' info' hinfo'
    rw [queueID_insertInQueue]
    rcases hcases guid' info' hinfo' with ⟨rfl, rfl⟩ | hinfo'
    · refine ⟨rfl, Nat.le_refl _, ?_⟩
      simp [queue_insertInQueue]
    · obtain ⟨hself, hle, hmem⟩ := h.entry guid' info' hinfo'
      exact ⟨hself, by omega, hold hmem⟩
  case pointer =>
    intro name q hq
    have hq' : q ∈ m.queue name ∨ (name = guid.queueName type ∧ q = m.queueID + 1) := by
      rw [queue_insertInQueue] at hq
      split at hq
      next hname =>
        rcases List.mem_insert_iff.mp hq with heq | hq
        · exact .inr ⟨hname, heq⟩
        · exact .inl hq
      next => exact .inl hq
    rcases hq' with hq | ⟨rfl, rfl⟩
    · obtain ⟨guid', info', hinfo', hid, hname⟩ := h.pointer name q hq
      have hne : guid' ≠ guid := by
        rintro rfl
        rw [hguid] at hinfo'
        cases hinfo'
      refine ⟨guid', info', ?_, hid, hname⟩
      rw [queueInfo_insertInQueue, Function.update_of_ne hne]
      exact hinfo'
    · refine ⟨guid, ⟨guid, type, m.queueID + 1⟩, ?_, rfl, rfl⟩
      rw [queueInfo_insertInQueue, Function.update_self]
  case unique =>
    intro guid₁ guid₂ info₁ info₂ h₁ h₂ heq
    rcases hcases guid₁ info₁ h₁ with ⟨rfl, rfl⟩ | hold₁
    · rcases hcases guid₂ info₂ h₂ with ⟨rfl, rfl⟩ | hold₂
      · rfl
      · exact absurd heq.symm (hfresh guid₂ info₂ hold₂)
    · rcases hcases guid₂ info₂ h₂ with ⟨rfl, rfl⟩ | hold₂
      · exact absurd heq (hfresh guid₁ info₁ hold₁)
      · exact h.unique guid₁ guid₂ info₁ info₂ hold₁ hold₂ heq

theorem QueueSound.addToQueue (h : QueueSound m) (guid : LFGGuid) (type : LFGType) :
    QueueSound (m.addToQueue guid type) := by
  unfold LFGMgr.addToQueue
  split
  · exact h
  · apply (h.removeFromQueue guid).insertInQueue
    rw [queueInfo_removeFromQueue, Function.update_self]

end LFGMgr

end Mangos
