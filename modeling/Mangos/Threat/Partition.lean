import Mathlib.Data.List.Nodup
import Mangos.Framework.Run
import Mangos.Threat.Manager

/-!
# The two lists of references

A reference is in the list that its flag says, a unit has one reference at most, and the victim is online.
-/

namespace Mangos

def HostileReference.goOnline {T : Type*} (r : HostileReference T) : HostileReference T :=
  { r with online := true }

def HostileReference.goOffline {T : Type*} (r : HostileReference T) : HostileReference T :=
  { r with online := false, accessible := false }

open HostileReference

namespace ThreatManager

variable {T : Type*} {m m' m'' : ThreatManager T} {w : ThreatWorld T} {id : Nat}

/-- Each reference in its list, which are two parts of one. -/
structure Partitioned (m : ThreatManager T) : Prop where
  fresh : ∀ id ∈ m.listed, id < m.next
  guids : (m.listed.map fun id => (m.refs id).unitGuid).Nodup
  online : ∀ id ∈ m.online, (m.refs id).online = true
  offline : ∀ id ∈ m.offline, (m.refs id).online = false
  valid : ∀ id ∈ m.online, (m.refs id).valid = true
  victim : ∀ id, m.currentVictim = some id → id ∈ m.online

theorem Partitioned.nodup (h : m.Partitioned) : m.listed.Nodup := h.guids.of_map _

theorem Partitioned.mem_online (h : m.Partitioned) (hid : id ∈ m.listed)
    (honline : (m.refs id).online = true) : id ∈ m.online := by
  rcases List.mem_append.mp hid with hid | hid
  · exact hid
  · rw [h.offline id hid] at honline
    cases honline

theorem Partitioned.mem_offline (h : m.Partitioned) (hid : id ∈ m.listed)
    (honline : (m.refs id).online = false) : id ∈ m.offline := by
  rcases List.mem_append.mp hid with hid | hid
  · rw [h.online id hid] at honline
    cases honline
  · exact hid

/-- The same references, perhaps in other places. -/
structure Moved (m m' : ThreatManager T) : Prop where
  listed : m'.listed.Perm m.listed
  unitGuid : ∀ id, (m'.refs id).unitGuid = (m.refs id).unitGuid
  next : m'.next = m.next

theorem Moved.refl (m : ThreatManager T) : m.Moved m := ⟨.refl _, fun _ => rfl, rfl⟩

theorem Moved.trans (h : m.Moved m') (h' : m'.Moved m'') : m.Moved m'' :=
  ⟨h'.listed.trans h.listed, fun id => (h'.unitGuid id).trans (h.unitGuid id), h'.next.trans h.next⟩

theorem Moved.mem (h : m.Moved m') : id ∈ m'.listed ↔ id ∈ m.listed := h.listed.mem_iff

theorem Moved.fresh (h : m.Moved m') (hm : m.Partitioned) : ∀ id ∈ m'.listed, id < m'.next := by
  intro id hid
  rw [h.next]
  exact hm.fresh id (h.mem.mp hid)

theorem Moved.guids (h : m.Moved m') (hm : m.Partitioned) : (m'.listed.map fun id => (m'.refs id).unitGuid).Nodup := by
  simp only [h.unitGuid]
  exact (h.listed.map _).nodup_iff.mpr hm.guids

/-- The reference stays in its list. -/
structure Steady (f : HostileReference T → HostileReference T) : Prop where
  unitGuid : ∀ r, (f r).unitGuid = r.unitGuid
  online : ∀ r, (f r).online = r.online
  valid : ∀ r, r.valid = true → (f r).valid = true

theorem refs_updateRef (m : ThreatManager T) (id : Nat) (f : HostileReference T → HostileReference T) (x : Nat) :
    (m.updateRef id f).refs x = if x = id then f (m.refs x) else m.refs x := by
  by_cases hx : x = id
  · subst hx
    simp [updateRef]
  · simp [updateRef, hx]

theorem moved_updateRef {f : HostileReference T → HostileReference T}
    (hguid : ∀ r, (f r).unitGuid = r.unitGuid) : m.Moved (m.updateRef id f) := by
  refine ⟨.refl _, fun x => ?_, rfl⟩
  rw [refs_updateRef]
  split
  · exact hguid _
  · rfl

theorem Partitioned.updateRef (h : m.Partitioned) {f : HostileReference T → HostileReference T}
    (hf : Steady f) : (m.updateRef id f).Partitioned := by
  have hmoved : m.Moved (m.updateRef id f) := moved_updateRef hf.unitGuid
  refine ⟨hmoved.fresh h, hmoved.guids h, fun x hx => ?_, fun x hx => ?_, fun x hx => ?_, h.victim⟩
  · rw [refs_updateRef]
    split
    · exact (hf.online _).trans (h.online x hx)
    · exact h.online x hx
  · rw [refs_updateRef]
    split
    · exact (hf.online _).trans (h.offline x hx)
    · exact h.offline x hx
  · rw [refs_updateRef]
    split
    · exact hf.valid _ (h.valid x hx)
    · exact h.valid x hx

variable [ThreatFloat T]

theorem setAccessibleState_eq (m : ThreatManager T) (id : Nat) (isAccessible : Bool) :
    m.setAccessibleState id isAccessible = m.updateRef id fun r => { r with accessible := isAccessible } := by
  rw [setAccessibleState]
  split
  next h =>
    rw [updateRef]
    rw [show ({ m.refs id with accessible := isAccessible } : HostileReference T) = m.refs id by
      rw [← h], Function.update_eq_self]
  next => rfl

omit [ThreatFloat T] in
theorem filter_ne_eq_erase {l : List Nat} (hl : l.Nodup) (id : Nat) : l.filter (· ≠ id) = l.erase id := by
  rw [hl.erase_eq_filter]
  apply List.filter_congr
  intro x _
  simp [bne, beq_eq_decide]

theorem perm_move {a b : List Nat} (hb : b.Nodup) (hid : id ∈ b) :
    ((a ++ [id]) ++ b.filter (· ≠ id)).Perm (a ++ b) := by
  rw [List.append_assoc, List.perm_append_left_iff, filter_ne_eq_erase hb]
  exact (List.perm_cons_erase hid).symm

theorem setOnlineOfflineState_true (h : (m.refs id).online = false) : m.setOnlineOfflineState id true =
      { m.updateRef id goOnline with
        dirty := m.dirty || m.currentVictim.any fun victim =>
          ThreatFloat.c110 * (m.refs victim).threat < (m.refs id).threat
        online := m.online ++ [id]
        offline := m.offline.filter (· ≠ id) } := by
  have hthreat : ∀ x, ((m.updateRef id goOnline).refs x).threat = (m.refs x).threat := by
    intro x
    rw [refs_updateRef]
    split <;> rfl
  have honline : ((m.updateRef id goOnline).refs id).online = true := by
    rw [refs_updateRef, if_pos rfl]
    rfl
  have hrun : m.setOnlineOfflineState id true =
      (m.updateRef id goOnline).processThreatEvent id .onlineStatus := by
    rw [setOnlineOfflineState, if_neg (by simp [h])]
    rfl
  rw [hrun, processThreatEvent, if_pos honline]
  simp only [hthreat]
  rfl

theorem setOnlineOfflineState_false (h : (m.refs id).online = true) : m.setOnlineOfflineState id false =
      { m.updateRef id goOffline with
        dirty := m.dirty || m.currentVictim = some id
        currentVictim := if m.currentVictim = some id then none else m.currentVictim
        online := m.online.filter (· ≠ id)
        offline := m.offline ++ [id] } := by
  have hrefs : ((m.updateRef id fun r => { r with online := false }).setAccessibleState id false) =
      m.updateRef id goOffline := by
    rw [setAccessibleState_eq]
    simp [updateRef, goOffline]
  have honline : ((m.updateRef id goOffline).refs id).online = false := by
    rw [refs_updateRef, if_pos rfl]
    rfl
  have hrun : m.setOnlineOfflineState id false =
      (m.updateRef id goOffline).processThreatEvent id .onlineStatus := by
    rw [setOnlineOfflineState, if_neg (by simp [h]), ← hrefs]
    rfl
  rw [hrun, processThreatEvent, if_neg (by simp [honline])]
  rfl

theorem Partitioned.setOnlineOfflineState (h : m.Partitioned) (hid : id ∈ m.listed)
    (isOnline : Bool) (hvalid : isOnline = true → (m.refs id).valid = true) :
    (m.setOnlineOfflineState id isOnline).Partitioned ∧ m.Moved (m.setOnlineOfflineState id isOnline) := by
  have hnodup := List.nodup_append.mp h.nodup
  by_cases hsame : (m.refs id).online = isOnline
  · rw [ThreatManager.setOnlineOfflineState, if_pos hsame]
    exact ⟨h, .refl m⟩
  cases isOnline with
  | true =>
    have hfalse : (m.refs id).online = false := Bool.not_eq_true _ ▸ hsame
    have hoffline := h.mem_offline hid hfalse
    have hmoved : m.Moved (m.setOnlineOfflineState id true) := by
      rw [setOnlineOfflineState_true hfalse]
      exact ⟨perm_move hnodup.2.1 hoffline, (moved_updateRef (f := goOnline) fun _ => rfl).unitGuid, rfl⟩
    refine ⟨⟨hmoved.fresh h, hmoved.guids h, fun x hx => ?_, fun x hx => ?_, fun x hx => ?_,
      fun x hx => ?_⟩, hmoved⟩
    all_goals rw [setOnlineOfflineState_true hfalse] at hx ⊢
    · change ((m.updateRef id goOnline).refs x).online = true
      rw [refs_updateRef]
      split
      · rfl
      next hne =>
        rcases List.mem_append.mp hx with hx | hx
        · exact h.online x hx
        · exact absurd (List.mem_singleton.mp hx) hne
    · obtain ⟨hx, hne⟩ := List.mem_filter.mp hx
      change ((m.updateRef id goOnline).refs x).online = false
      rw [refs_updateRef, if_neg (by simpa using hne)]
      exact h.offline x hx
    · change ((m.updateRef id goOnline).refs x).valid = true
      rw [refs_updateRef]
      rcases List.mem_append.mp hx with hx | hx
      · split
        · exact h.valid x hx
        · exact h.valid x hx
      · rw [List.mem_singleton.mp hx, if_pos rfl]
        exact hvalid rfl
    · exact List.mem_append_left _ (h.victim x hx)
  | false =>
    have htrue : (m.refs id).online = true := Bool.not_eq_false _ ▸ hsame
    have honline := h.mem_online hid htrue
    have hmoved : m.Moved (m.setOnlineOfflineState id false) := by
      rw [setOnlineOfflineState_false htrue]
      refine ⟨?_, (moved_updateRef (f := goOffline) fun _ => rfl).unitGuid, rfl⟩
      refine List.perm_append_comm.trans ((perm_move hnodup.1 honline).trans ?_)
      exact List.perm_append_comm
    refine ⟨⟨hmoved.fresh h, hmoved.guids h, fun x hx => ?_, fun x hx => ?_, fun x hx => ?_,
      fun x hx => ?_⟩, hmoved⟩
    all_goals rw [setOnlineOfflineState_false htrue] at hx ⊢
    · obtain ⟨hx, hne⟩ := List.mem_filter.mp hx
      change ((m.updateRef id goOffline).refs x).online = true
      rw [refs_updateRef, if_neg (by simpa using hne)]
      exact h.online x hx
    · change ((m.updateRef id goOffline).refs x).online = false
      rw [refs_updateRef]
      split
      · rfl
      next hne =>
        rcases List.mem_append.mp hx with hx | hx
        · exact h.offline x hx
        · exact absurd (List.mem_singleton.mp hx) hne
    · obtain ⟨hx, hne⟩ := List.mem_filter.mp hx
      change ((m.updateRef id goOffline).refs x).valid = true
      rw [refs_updateRef, if_neg (by simpa using hne)]
      exact h.valid x hx
    · dsimp only at hx ⊢
      split at hx
      · cases hx
      next hne =>
        refine List.mem_filter.mpr ⟨h.victim x hx, ?_⟩
        simp only [decide_eq_true_eq]
        rintro rfl
        exact hne hx

theorem Partitioned.setAccessibleState (h : m.Partitioned) (id : Nat) (isAccessible : Bool) :
    (m.setAccessibleState id isAccessible).Partitioned ∧ m.Moved (m.setAccessibleState id isAccessible) := by
  rw [setAccessibleState_eq]
  exact ⟨h.updateRef ⟨fun _ => rfl, fun _ => rfl, fun _ h => h⟩, moved_updateRef fun _ => rfl⟩

theorem refs_setAccessibleState (id : Nat) (isAccessible : Bool) (x : Nat) :
    ((m.setAccessibleState id isAccessible).refs x).valid = (m.refs x).valid := by
  rw [setAccessibleState_eq, refs_updateRef]
  split <;> rfl

omit [ThreatFloat T] in
theorem valid_of_onlineStatus {r : HostileReference T} (h : (onlineStatus w r).1 = true) : r.valid = true := by
  rw [onlineStatus] at h
  split at h
  next hvalid =>
    simp only [Bool.and_eq_true] at hvalid
    exact hvalid.1
  next => cases h

theorem Partitioned.updateOnlineStatus (h : m.Partitioned) (w : ThreatWorld T) (hid : id ∈ m.listed) :
    (m.updateOnlineStatus w id).Partitioned ∧ m.Moved (m.updateOnlineStatus w id) := by
  rw [ThreatManager.updateOnlineStatus]
  generalize hm₁ : m.updateRef id _ = m₁
  have hfirst : m₁.Partitioned ∧ m.Moved m₁ := by
    rw [← hm₁]
    refine ⟨h.updateRef ⟨fun _ => rfl, fun _ => rfl, fun r hr => ?_⟩, moved_updateRef fun _ => rfl⟩
    simp [hr]
  obtain ⟨hpart, hmoved⟩ := hfirst.1.setAccessibleState id (onlineStatus w (m₁.refs id)).2
  have hall := hfirst.2.trans hmoved
  obtain ⟨hlast, hlastMoved⟩ := hpart.setOnlineOfflineState (hall.mem.mpr hid)
    (onlineStatus w (m₁.refs id)).1 (by
      intro honline
      rw [refs_setAccessibleState]
      exact valid_of_onlineStatus honline)
  exact ⟨hlast, hall.trans hlastMoved⟩

theorem Partitioned.invalidate (h : m.Partitioned) (hid : id ∈ m.listed) :
    (m.invalidate id).Partitioned ∧ m.Moved (m.invalidate id) ∧ ((m.invalidate id).refs id).online = false := by
  obtain ⟨hpart, hmoved⟩ := h.setOnlineOfflineState hid false (by simp)
  have honline : ((m.setOnlineOfflineState id false).refs id).online = false := by
    rw [ThreatManager.setOnlineOfflineState]
    split
    next hfalse => exact hfalse
    next htrue =>
      have hrun := setOnlineOfflineState_false (Bool.not_eq_false _ ▸ htrue)
      rw [ThreatManager.setOnlineOfflineState, if_neg htrue] at hrun
      rw [hrun]
      change ((m.updateRef id goOffline).refs id).online = false
      rw [refs_updateRef, if_pos rfl]
      rfl
  refine ⟨⟨?_, ?_, fun x hx => ?_, fun x hx => ?_, fun x hx => ?_, hpart.victim⟩,
    hmoved.trans (moved_updateRef fun _ => rfl), ?_⟩
  · exact Moved.fresh (moved_updateRef fun _ => rfl) hpart
  · have hlast : (m.setOnlineOfflineState id false).Moved (m.invalidate id) :=
      moved_updateRef fun _ => rfl
    exact hlast.guids hpart
  · rw [ThreatManager.invalidate, refs_updateRef]
    split <;> exact hpart.online x hx
  · rw [ThreatManager.invalidate, refs_updateRef]
    split <;> exact hpart.offline x hx
  · rw [ThreatManager.invalidate, refs_updateRef]
    split
    next heq =>
      have hx' := hpart.online x hx
      rw [heq, honline] at hx'
      cases hx'
    next => exact hpart.valid x hx
  · rw [ThreatManager.invalidate, refs_updateRef, if_pos rfl]
    exact honline

theorem Partitioned.removeReference (h : m.Partitioned) (hid : id ∈ m.listed) : (m.removeReference id).Partitioned := by
  obtain ⟨hpart, hmoved, honline⟩ := h.invalidate hid
  have hvictim : (m.invalidate id).currentVictim ≠ some id := by
    intro hvictim
    have hon := hpart.online id (hpart.victim id hvictim)
    rw [honline] at hon
    cases hon
  have heq : m.removeReference id = { m.invalidate id with
      offline := (m.invalidate id).offline.filter (· ≠ id) } := by
    rw [ThreatManager.removeReference, processThreatEvent]
    simp [honline, hvictim]
  rw [heq]
  have hsub : ((m.invalidate id).online ++ (m.invalidate id).offline.filter (· ≠ id)).Sublist
      (m.invalidate id).listed := List.Sublist.append (.refl _) List.filter_sublist
  exact ⟨fun x hx => hpart.fresh x (hsub.subset hx), (hsub.map _).nodup hpart.guids, hpart.online,
    fun x hx => hpart.offline x (List.mem_filter.mp hx).1, hpart.valid, hpart.victim⟩

theorem processThreatEvent_threatChange (id : Nat) (value : T) :
    ∃ dirty, m.processThreatEvent id (.threatChange value) = { m with dirty := dirty } := by
  rw [processThreatEvent]
  split
  · exact ⟨true, rfl⟩
  · exact ⟨m.dirty, rfl⟩

omit [ThreatFloat T] in
theorem Partitioned.mark (h : m.Partitioned) (dirty : Bool) :
    ({ m with dirty := dirty } : ThreatManager T).Partitioned ∧ m.Moved { m with dirty := dirty } :=
  ⟨⟨h.fresh, h.guids, h.online, h.offline, h.valid, h.victim⟩, .refl _, fun _ => rfl, rfl⟩

theorem Partitioned.changeThreat (h : m.Partitioned) (w : ThreatWorld T) (hid : id ∈ m.listed)
    (mod : T) : (m.changeThreat w id mod).Partitioned ∧ m.Moved (m.changeThreat w id mod) := by
  rw [ThreatManager.changeThreat]
  generalize hm₁ : m.updateRef id _ = m₁
  have hfirst : m₁.Partitioned ∧ m.Moved m₁ := by
    rw [← hm₁]
    exact ⟨h.updateRef ⟨fun _ => rfl, fun _ => rfl, fun _ h => h⟩, moved_updateRef fun _ => rfl⟩
  have hsecond : (if (m₁.refs id).online then m₁ else m₁.updateOnlineStatus w id).Partitioned ∧
      m.Moved (if (m₁.refs id).online then m₁ else m₁.updateOnlineStatus w id) := by
    split
    · exact hfirst
    · obtain ⟨hpart, hmoved⟩ := hfirst.1.updateOnlineStatus w (hfirst.2.mem.mpr hid)
      exact ⟨hpart, hfirst.2.trans hmoved⟩
  split
  · obtain ⟨dirty, heq⟩ := processThreatEvent_threatChange
      (m := if (m₁.refs id).online then m₁ else m₁.updateOnlineStatus w id) id mod
    rw [heq]
    obtain ⟨hpart, hmoved⟩ := hsecond.1.mark dirty
    exact ⟨hpart, hsecond.2.trans hmoved⟩
  · exact hsecond

/-- All references are still there. -/
structure Grown (m m' : ThreatManager T) : Prop where
  partitioned : m'.Partitioned
  listed : m.listed ⊆ m'.listed

omit [ThreatFloat T] in
theorem Grown.of_moved (h : m'.Partitioned) (hmoved : m.Moved m') : m.Grown m' :=
  ⟨h, fun _ hx => hmoved.mem.mpr hx⟩

omit [ThreatFloat T] in
theorem Grown.trans (h : m.Grown m') (h' : m'.Grown m'') : m.Grown m'' :=
  ⟨h'.partitioned, fun _ hx => h'.listed (h.listed hx)⟩

def Assists (assist : ThreatManager T → ThreatManager T) : Prop :=
  ∀ m : ThreatManager T, m.Partitioned → m.Grown (assist m)

theorem grown_refAddThreat (h : m.Partitioned) (w : ThreatWorld T)
    {assist : ThreatManager T → ThreatManager T} (hassist : Assists assist) (hid : id ∈ m.listed)
    (mod : T) : m.Grown (m.refAddThreat w assist id mod) := by
  obtain ⟨hpart, hmoved⟩ := h.changeThreat w hid mod
  have hgrown := Grown.of_moved hpart hmoved
  rw [refAddThreat]
  split
  · exact hgrown.trans (hassist _ hpart)
  · exact hgrown

omit [ThreatFloat T] in
theorem mem_of_getReferenceByTarget {list : List Nat} {victim : UnitGuid}
    (h : m.getReferenceByTarget list victim = some id) : id ∈ list ∧ (m.refs id).unitGuid = victim :=
  ⟨List.mem_of_find?_eq_some h, by simpa using List.find?_some h⟩

theorem grown_newReference (h : m.Partitioned) {victim : UnitGuid}
    (honline : m.getReferenceByTarget m.online victim = none)
    (hoffline : m.getReferenceByTarget m.offline victim = none) :
    m.Grown (m.newReference victim) ∧ m.next ∈ (m.newReference victim).listed := by
  have hlisted : (m.newReference victim).listed.Perm (m.next :: m.listed) := by
    change ((m.online ++ [m.next]) ++ m.offline).Perm _
    rw [List.append_assoc]
    exact List.perm_middle
  have hold : ∀ x ∈ m.listed, (m.newReference victim).refs x = m.refs x := by
    intro x hx
    exact Function.update_of_ne (Nat.ne_of_lt (h.fresh x hx)) ..
  have hnew : (m.newReference victim).refs m.next =
      { unitGuid := victim, threat := 0, tempThreatModifyer := 0 } := by
    simp [newReference]
  have hfree : ∀ x ∈ m.listed, (m.refs x).unitGuid ≠ victim := by
    intro x hx
    rcases List.mem_append.mp hx with hx | hx
    · simpa using List.find?_eq_none.mp honline x hx
    · simpa using List.find?_eq_none.mp hoffline x hx
  have hin : ∀ {x}, x ∈ m.online → x ∈ m.listed := List.mem_append_left _
  have hout : ∀ {x}, x ∈ m.offline → x ∈ m.listed := List.mem_append_right _
  refine ⟨⟨⟨fun x hx => ?_, ?_, fun x hx => ?_, fun x hx => ?_, fun x hx => ?_, fun x hx => ?_⟩,
    fun x hx => hlisted.mem_iff.mpr (List.mem_cons_of_mem _ hx)⟩, hlisted.mem_iff.mpr List.mem_cons_self⟩
  · rcases List.mem_cons.mp (hlisted.mem_iff.mp hx) with rfl | hx
    · exact Nat.lt_succ_self _
    · exact Nat.lt_succ_of_lt (h.fresh x hx)
  · refine (hlisted.map _).nodup_iff.mpr ?_
    rw [List.map_cons, hnew, List.map_congr_left fun x hx => congrArg unitGuid (hold x hx)]
    refine List.nodup_cons.mpr ⟨fun hmem => ?_, h.guids⟩
    obtain ⟨x, hx, heq⟩ := List.mem_map.mp hmem
    exact hfree x hx heq
  · rcases List.mem_append.mp hx with hx | hx
    · rw [hold x (hin hx)]
      exact h.online x hx
    · rw [List.mem_singleton.mp hx, hnew]
  · rw [hold x (hout hx)]
    exact h.offline x hx
  · rcases List.mem_append.mp hx with hx | hx
    · rw [hold x (hin hx)]
      exact h.valid x hx
    · rw [List.mem_singleton.mp hx, hnew]
  · exact List.mem_append_left _ (h.victim x hx)

theorem grown_addThreatDirectly (h : m.Partitioned) (w : ThreatWorld T)
    {assist : ThreatManager T → ThreatManager T} (hassist : Assists assist) (victim : UnitGuid)
    (threat : T) : m.Grown (m.addThreatDirectly w assist victim threat) := by
  rw [addThreatDirectly]
  split
  · exact ⟨h, fun _ hx => hx⟩
  · split
    next id honline =>
      exact grown_refAddThreat h w hassist
        (List.mem_append_left _ (mem_of_getReferenceByTarget honline).1) threat
    next honline =>
      split
      next id hoffline =>
        exact grown_refAddThreat h w hassist
          (List.mem_append_right _ (mem_of_getReferenceByTarget hoffline).1) threat
      next hoffline =>
        obtain ⟨hnew, hid⟩ := grown_newReference h honline hoffline
        have hadded := grown_refAddThreat hnew.partitioned w hassist hid threat
        dsimp only
        split
        · obtain ⟨hpart, hmoved⟩ := hadded.partitioned.setOnlineOfflineState (hadded.listed hid) false
            (by simp)
          exact (hnew.trans hadded).trans (.of_moved hpart hmoved)
        · exact hnew.trans hadded

theorem assists_assistOwners (w : ThreatWorld T) (owners : List UnitGuid) : Assists (assistOwners w owners) := by
  induction owners with
  | nil => exact fun m h => ⟨h, fun _ hx => hx⟩
  | cons victimOwner owners ih =>
    intro m h
    rw [assistOwners]
    split
    · exact grown_addThreatDirectly h w ih victimOwner 0
    · exact ⟨h, fun _ hx => hx⟩

theorem grown_hate (h : m.Partitioned) (w : ThreatWorld T) (victim : UnitGuid) (threat : T) :
    m.Grown (m.hate w victim threat) :=
  grown_addThreatDirectly h w (assists_assistOwners w _) victim threat

theorem Partitioned.addThreat (h : m.Partitioned) (w : ThreatWorld T) (victim : UnitGuid)
    (threat : T) : (m.addThreat w victim threat).Partitioned := by
  rw [ThreatManager.addThreat]
  split
  · dsimp only
    split
    · exact (grown_hate h w victim _).partitioned
    next redirectedMod redirectedTarget _ =>
      have hfirst := grown_hate h w redirectedTarget
        (calcThreat w victim threat * redirectedMod)
      exact (grown_hate hfirst.partitioned w victim _).partitioned
  · exact h

theorem grown_addThreatPercent (h : m.Partitioned) (w : ThreatWorld T) (hid : id ∈ m.listed)
    (percent : Int) : m.Grown (m.addThreatPercent w id percent) :=
  grown_refAddThreat h w (assists_assistOwners w _) hid _

theorem Partitioned.modifyThreatPercent (h : m.Partitioned) (w : ThreatWorld T) (victim : UnitGuid)
    (percent : Int) : (m.modifyThreatPercent w victim percent).Partitioned := by
  rw [ThreatManager.modifyThreatPercent]
  split
  · exact h
  next id honline =>
    have hid : id ∈ m.listed := List.mem_append_left _ (mem_of_getReferenceByTarget honline).1
    split
    · exact h.removeReference hid
    · exact (grown_addThreatPercent h w hid percent).partitioned

theorem Partitioned.tauntApply (h : m.Partitioned) (w : ThreatWorld T) (taunter : UnitGuid) :
    (m.tauntApply w taunter).Partitioned := by
  rw [ThreatManager.tauntApply]
  split
  next id victim honline _ =>
    have hid : id ∈ m.listed := List.mem_append_left _ (mem_of_getReferenceByTarget honline).1
    split
    · rw [setTempThreat]
      generalize hm₁ : m.updateRef id _ = m₁
      have hfirst : m₁.Partitioned ∧ m.Moved m₁ := by
        rw [← hm₁]
        exact ⟨h.updateRef ⟨fun _ => rfl, fun _ => rfl, fun _ h => h⟩, moved_updateRef fun _ => rfl⟩
      split
      · exact (grown_refAddThreat hfirst.1 w (assists_assistOwners w _) (hfirst.2.mem.mpr hid)
          _).partitioned
      · exact hfirst.1
    · exact h
  next => exact h

theorem Partitioned.tauntFadeOut (h : m.Partitioned) (w : ThreatWorld T) (taunter : UnitGuid) :
    (m.tauntFadeOut w taunter).Partitioned := by
  rw [ThreatManager.tauntFadeOut]
  split
  · exact h
  next id honline =>
    have hid : id ∈ m.listed := List.mem_append_left _ (mem_of_getReferenceByTarget honline).1
    rw [resetTempThreat]
    split
    · have hadded := grown_refAddThreat h w
        (assists_assistOwners w (w.owners (m.refs id).unitGuid)) hid (-(m.refs id).tempThreatModifyer)
      exact hadded.partitioned.updateRef ⟨fun _ => rfl, fun _ => rfl, fun _ h => h⟩
    · exact h

theorem Partitioned.update (h : m.Partitioned) : m.update.Partitioned := by
  rw [ThreatManager.update]
  split
  · have hperm := List.perm_insertionSort
      (fun a b => (m.refs b).threat ≤ (m.refs a).threat) m.online
    have hlisted := hperm.append_right m.offline
    exact ⟨fun x hx => h.fresh x (hlisted.mem_iff.mp hx), (hlisted.map _).nodup_iff.mpr h.guids,
      fun x hx => h.online x (hperm.mem_iff.mp hx), h.offline,
      fun x hx => h.valid x (hperm.mem_iff.mp hx), fun x hx => hperm.mem_iff.mpr (h.victim x hx)⟩
  · exact h

theorem selectLoop_mem {P : Nat → Prop} {only : Bool} {restart : Option Nat → Bool → Option Nat}
    (hrestart : ∀ victim checked, (∀ v, victim = some v → P v) →
      ∀ r, restart victim checked = some r → P r) (list : List Nat) (hlist : ∀ x ∈ list, P x)
    (victim : Option Nat) (hvictim : ∀ v, victim = some v → P v) (checked : Bool) (r : Nat)
    (h : m.selectLoop w only restart list victim checked = some r) : P r := by
  induction list generalizing victim checked with
  | nil => cases h
  | cons id rest ih =>
    have hid := hlist id List.mem_cons_self
    have hrest : ∀ x ∈ rest, P x := fun x hx => hlist x (List.mem_cons_of_mem id hx)
    simp only [selectLoop] at h
    split at h
    · have hnext : ∀ v, (if victim = some id then none else victim) = some v → P v := by
        intro v hv
        split at hv
        · cases hv
        · exact hvictim v hv
      split at h
      · exact hrestart _ checked hnext r h
      · exact ih hrest _ hnext checked h
    · split at h
      · exact ih hrest victim hvictim checked h
      · cases victim with
        | none =>
          cases h
          exact hid
        | some v =>
          have hv := hvictim v rfl
          dsimp only at h
          split at h
          · cases h
            exact hid
          · split at h
            · cases h
              exact hid
            · split at h
              · cases h
                exact hv
              · split at h
                · cases h
                  exact hid
                · exact ih hrest (some v) hvictim true h

theorem selectNextVictim_mem (h : ∀ v, m.currentVictim = some v → v ∈ m.online) {r : Nat}
    (hr : m.selectNextVictim w m.currentVictim = some r) : r ∈ m.online := by
  refine selectLoop_mem (P := (· ∈ m.online)) (fun victim checked hvictim r hr => ?_) m.online
    (fun _ hx => hx) m.currentVictim h false r hr
  refine selectLoop_mem (P := (· ∈ m.online)) (fun _ _ _ _ hnone => ?_) m.online (fun _ hx => hx)
    victim hvictim checked r hr
  cases hnone

theorem Partitioned.getHostileTarget (h : m.Partitioned) (w : ThreatWorld T) : (m.getHostileTarget w).Partitioned := by
  have hupdate := h.update
  exact ⟨hupdate.fresh, hupdate.guids, hupdate.online, hupdate.offline, hupdate.valid,
    fun v hv => selectNextVictim_mem hupdate.victim hv⟩

omit [ThreatFloat T] in
theorem Partitioned.onReference (h : m.Partitioned) {id : Nat} {f : ThreatManager T → ThreatManager T}
    (hf : id ∈ m.listed → (m.refs id).valid = true → (f m).Partitioned) : (m.onReference id f).Partitioned := by
  rw [ThreatManager.onReference]
  split
  next hid => exact hf hid.1 hid.2
  next => exact h

theorem Partitioned.step (h : m.Partitioned) (call : ThreatCall T) : (m.step call).Partitioned := by
  cases call with
  | addThreat w victim threat => exact h.addThreat w victim threat
  | addThreatDirectly w victim threat => exact (grown_hate h w victim threat).partitioned
  | modifyThreatPercent w victim percent => exact h.modifyThreatPercent w victim percent
  | tauntApply w taunter => exact h.tauntApply w taunter
  | tauntFadeOut w taunter => exact h.tauntFadeOut w taunter
  | getHostileTarget w => exact h.getHostileTarget w
  | clearReferences =>
    exact ⟨fun x hx => (by cases hx), .nil, fun x hx => (by cases hx), fun x hx => (by cases hx),
      fun x hx => (by cases hx), fun x hx => (by cases hx)⟩
  | addThreatPercent w id percent =>
    exact Partitioned.onReference (f := (·.addThreatPercent w id percent)) h
      fun hid _ => (grown_addThreatPercent h w hid percent).partitioned
  | setOnlineOfflineState id isOnline =>
    exact Partitioned.onReference (f := (·.setOnlineOfflineState id isOnline)) h
      fun hid hvalid => (h.setOnlineOfflineState hid isOnline fun _ => hvalid).1
  | updateOnlineStatus w id =>
    exact Partitioned.onReference (f := (·.updateOnlineStatus w id)) h
      fun hid _ => (h.updateOnlineStatus w hid).1
  | invalidate id =>
    exact Partitioned.onReference (f := (·.invalidate id)) h fun hid _ => (h.invalidate hid).1
  | removeReference id =>
    exact Partitioned.onReference (f := (·.removeReference id)) h fun hid _ => h.removeReference hid

theorem partitioned_init (owner : UnitGuid) : (init owner : ThreatManager T).Partitioned :=
  ⟨fun x hx => (by cases hx), .nil, fun x hx => (by cases hx), fun x hx => (by cases hx),
    fun x hx => (by cases hx), fun x hx => (by cases hx)⟩

theorem partitioned_run (owner : UnitGuid) (calls : List (ThreatCall T)) :
    (Framework.run step (init owner) calls).Partitioned := by
  have hinv : ∀ (m : ThreatManager T) (call : ThreatCall T), True → m.Partitioned →
      (m.step call).Partitioned := fun m call _ h => h.step call
  exact Framework.run_invariant hinv (Framework.guarded_of_forall (fun _ _ => trivial) _ _)
    (partitioned_init owner)

end ThreatManager

open ThreatManager

/-- After any calls a unit has one reference at most in both containers, a reference is in the one that
its flag says, and the victim is online. -/
theorem threatReferences_partitioned {T : Type*} [ThreatFloat T] (owner : UnitGuid) (calls : List (ThreatCall T)) :
    let m := Framework.run step (init owner : ThreatManager T) calls
    ((m.online ++ m.offline).map fun id => (m.refs id).unitGuid).Nodup ∧
      (∀ id ∈ m.online ++ m.offline, id ∈ m.online ↔ (m.refs id).online = true) ∧
      ∀ id, m.currentVictim = some id → id ∈ m.online := by
  intro m
  have h : m.Partitioned := partitioned_run owner calls
  exact ⟨h.guids, fun id hid => ⟨h.online id, h.mem_online hid⟩, h.victim⟩

end Mangos
