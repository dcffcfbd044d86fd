import Mangos.Group.SubGroups

/-!
# The counters of the subgroups are right

No one is in a group twice, groups and subgroups have a size that they do not exceed, and each counter of a
raid is the number of members its subgroup has.
-/

namespace Mangos

open Framework

namespace Group

variable {grp : Group} {guid : Nat}

/-- The members are distinct and not too many, and the counters of a raid are right. -/
structure Bounded (grp : Group) : Prop where
  distinct : (grp.memberSlots.map (·.guid)).Nodup
  party : grp.groupType.raid = false → grp.memberSlots.length ≤ maxGroupSize
  raid : grp.groupType.raid = true → grp.memberSlots.length ≤ maxRaidSize
  counted : grp.groupType.raid = true → ∃ counts, grp.subGroupsCounts = some counts ∧
    ∀ g, g < maxRaidSubgroups → counts[g]? = some (grp.memberSlots.countP (·.group = g)) ∧
        grp.memberSlots.countP (·.group = g) ≤ maxGroupSize

/-- A party: it has no counters, and all members are in the first subgroup. -/
structure IsParty (grp : Group) : Prop where
  normal : grp.groupType = .normal
  size : grp.memberSlots.length ≤ maxGroupSize
  counts : grp.subGroupsCounts = none
  group : ∀ slot ∈ grp.memberSlots, slot.group = 0

/-- A raid whose counters are right. -/
structure IsRaid (grp : Group) : Prop where
  raid : grp.groupType.raid = true
  lfd : grp.groupType.lfd = false
  size : grp.memberSlots.length ≤ maxRaidSize
  counts : grp.subGroupsCounts = some (countsOf (·.group) maxRaidSubgroups grp.memberSlots)
  group : ∀ slot ∈ grp.memberSlots, slot.group < maxRaidSubgroups
  subGroup : ∀ g, grp.memberSlots.countP (·.group = g) ≤ maxGroupSize

/-- What all events keep. -/
structure Balanced (grp : Group) : Prop where
  distinct : (grp.memberSlots.map (·.guid)).Nodup
  kind : grp.IsParty ∨ grp.IsRaid

theorem Balanced.bounded (h : grp.Balanced) : grp.Bounded := by
  rcases h.kind with hparty | hraid
  · have hnot : grp.groupType.raid = false := by simp [hparty.normal, GroupType.normal]
    exact ⟨h.distinct, fun _ => hparty.size, fun hr => absurd (hnot ▸ hr) Bool.false_ne_true,
      fun hr => absurd (hnot ▸ hr) Bool.false_ne_true⟩
  · have hyes := hraid.raid
    refine ⟨h.distinct, fun hr => absurd (hr ▸ hyes) Bool.false_ne_true, fun _ => hraid.size,
      fun _ => ⟨_, hraid.counts, fun g hg => ⟨getElem?_countsOf hg, hraid.subGroup g⟩⟩⟩

theorem Bounded.counts_eq (h : grp.Bounded) (hraid : grp.groupType.raid = true) {counts : List Nat}
    (hcounts : grp.subGroupsCounts = some counts) {g : Nat} (hg : g < maxRaidSubgroups) :
    counts[g]? = some (grp.memberSlots.countP (·.group = g)) := by
  obtain ⟨counts', heq, hall⟩ := h.counted hraid
  obtain rfl := Option.some.inj (heq.symm.trans hcounts)
  exact (hall g hg).1

theorem distinct_pushMember (h : (grp.memberSlots.map (·.guid)).Nodup) {slot : MemberSlot}
    (hnew : grp.isMember slot.guid = false) : ((grp.pushMember slot).memberSlots.map (·.guid)).Nodup := by
  rw [isMember_eq_false_iff] at hnew
  simp only [pushMember, List.map_append, List.map_cons, List.map_nil]
  refine List.nodup_append.mpr ⟨h, List.nodup_singleton _, fun a ha b hb heq => ?_⟩
  rw [List.mem_singleton] at hb
  exact hnew (by rw [← hb, ← heq]; exact ha)

theorem IsRaid.freeSubGroup (h : grp.IsRaid) {subGroup : Nat} (hfree : grp.freeSubGroup = some subGroup) :
    subGroup < maxRaidSubgroups ∧ grp.memberSlots.countP (·.group = subGroup) < maxGroupSize := by
  rw [Group.freeSubGroup, h.counts] at hfree
  obtain ⟨hlt, hroom, -⟩ := List.findIdx?_eq_some_iff_getElem.mp hfree
  rw [length_countsOf] at hlt
  refine ⟨hlt, ?_⟩
  simpa [countsOf] using hroom

theorem Balanced.pushMember (h : grp.Balanced) {subGroup : Nat} (hnew : grp.isMember guid = false)
    (hfree : grp.freeSubGroup = some subGroup) (hfull : grp.isFull = false) :
    (grp.pushMember { guid, group := subGroup }).Balanced := by
  refine ⟨distinct_pushMember h.distinct hnew, ?_⟩
  rcases h.kind with hparty | hraid
  · left
    have hzero : subGroup = 0 := by
      rw [freeSubGroup, hparty.counts] at hfree
      exact (Option.some.inj hfree).symm
    have hroom : grp.memberSlots.length < maxGroupSize := by
      simpa [isFull, hparty.normal] using hfull
    refine ⟨hparty.normal, ?_, by simp [Group.pushMember, hparty.counts], ?_⟩
    · simpa [Group.pushMember] using Nat.succ_le_of_lt hroom
    · intro slot hslot
      rcases List.mem_append.mp hslot with hold | hlast
      · exact hparty.group slot hold
      · rw [List.mem_singleton.mp hlast]
        exact hzero
  · right
    obtain ⟨hlt, hfew⟩ := hraid.freeSubGroup hfree
    have hnormal : grp.groupType ≠ .normal := by
      intro heq
      have hr := hraid.raid
      rw [heq] at hr
      cases hr
    have hroom : grp.memberSlots.length < maxRaidSize := by
      simpa [isFull, isLFGGroup, hraid.lfd, hnormal] using hfull
    refine ⟨hraid.raid, hraid.lfd, ?_, ?_, ?_, ?_⟩
    · simpa [Group.pushMember] using Nat.succ_le_of_lt hroom
    · simp only [Group.pushMember, hraid.counts, Option.map_some]
      rw [countsOf_append]
      refine Nat.mod_eq_of_lt ?_
      simp only [maxGroupSize] at hfew
      exact Nat.lt_of_lt_of_le (Nat.succ_lt_succ hfew) (by decide)
    · intro slot hslot
      rcases List.mem_append.mp hslot with hold | hlast
      · exact hraid.group slot hold
      · rw [List.mem_singleton.mp hlast]
        exact hlt
    · intro g
      have hold := hraid.subGroup g
      simp only [Group.pushMember, List.countP_append, List.countP_singleton]
      by_cases hg : subGroup = g
      · subst hg
        simpa using Nat.succ_le_of_lt hfew
      · simpa [hg] using hold

theorem Balanced.eraseMember (h : grp.Balanced) (guid : Nat) : (grp.eraseMember guid).Balanced := by
  unfold Group.eraseMember
  cases hfind : grp.memberSlots.find? (·.guid = guid) with
  | none => exact h
  | some slot =>
    have hsub := List.eraseP_sublist (p := fun slot : MemberSlot => decide (slot.guid = guid))
      (l := grp.memberSlots)
    refine ⟨h.distinct.sublist (hsub.map _), ?_⟩
    rcases h.kind with hparty | hraid
    · left
      exact ⟨hparty.normal, hsub.length_le.trans hparty.size, by simp [hparty.counts],
        fun slot hslot => hparty.group slot (hsub.subset hslot)⟩
    · right
      refine ⟨hraid.raid, hraid.lfd, hsub.length_le.trans hraid.size, ?_,
        fun slot hslot => hraid.group slot (hsub.subset hslot),
        fun g => (hsub.countP_le).trans (hraid.subGroup g)⟩
      simp only [hraid.counts, Option.map_some]
      rw [countsOf_eraseP hfind]
      intro c hpos hle
      have hfew := hraid.subGroup slot.group
      simp only [maxGroupSize] at hfew
      omega

theorem Balanced.setLeader (h : grp.Balanced) (guid : Nat) : (grp.setLeader guid).Balanced := by
  unfold Group.setLeader
  split
  · exact ⟨h.distinct, h.kind.imp (fun hp => ⟨hp.normal, hp.size, hp.counts, hp.group⟩)
      fun hr => ⟨hr.raid, hr.lfd, hr.size, hr.counts, hr.group, hr.subGroup⟩⟩
  · exact h

theorem Balanced.convertToRaid (h : grp.Balanced) : ({ grp with groupType := { grp.groupType with raid := true } } :
      Group).initRaidSubGroupsCounter.Balanced := by
  refine ⟨h.distinct, .inr ?_⟩
  rcases h.kind with hparty | hraid
  · refine ⟨rfl, by simp [initRaidSubGroupsCounter, hparty.normal, GroupType.normal],
      hparty.size.trans (by decide), rfl, fun slot hslot => ?_, fun g => ?_⟩
    · rw [hparty.group slot hslot]
      decide
    · exact List.countP_le_length.trans hparty.size
  · exact ⟨rfl, hraid.lfd, hraid.size, rfl, hraid.group, hraid.subGroup⟩

theorem countP_setMembersGroup {slot : MemberSlot} (hslot : grp.getMemberSlot guid = some slot)
    (prev group g : Nat) : (grp.setMembersGroup guid prev group).memberSlots.countP (·.group = g) +
        (if slot.group = g then 1 else 0) =
      grp.memberSlots.countP (·.group = g) + if group = g then 1 else 0 := by
  have hcount := countP_changeFirst (q := fun slot : MemberSlot => decide (slot.group = g))
    (f := fun slot => { slot with group }) hslot
  simp only [decide_eq_true_eq] at hcount
  exact hcount

theorem distinct_setMembersGroup (h : (grp.memberSlots.map (·.guid)).Nodup) (prev group : Nat) :
    ((grp.setMembersGroup guid prev group).memberSlots.map (·.guid)).Nodup := by
  have hsame : (grp.setMembersGroup guid prev group).memberSlots.map (·.guid) =
      grp.memberSlots.map (·.guid) := map_changeFirst _ fun _ => rfl
  rw [hsame]
  exact h

theorem IsRaid.getElem?_counts_setMembersGroup (h : grp.IsRaid) (guid prev group : Nat) {g : Nat}
    (hg : g < maxRaidSubgroups) :
    ∃ counts, (grp.setMembersGroup guid prev group).subGroupsCounts = some counts ∧ counts[g]? = some
        (let raised := if group = g then (grp.memberSlots.countP (·.group = g) + 1) % 256
          else grp.memberSlots.countP (·.group = g)
        if prev = g then (raised + 255) % 256 else raised) := by
  refine ⟨_, by rw [setMembersGroup, h.counts, Option.map_some], ?_⟩
  rw [List.getElem?_modify, List.getElem?_modify, getElem?_countsOf hg]
  by_cases hgroup : group = g <;> by_cases hprev : prev = g <;> simp [hgroup, hprev]

theorem Balanced.setMembersGroup (h : grp.Balanced) (hraid : grp.IsRaid) {slot : MemberSlot} {group : Nat}
    (hslot : grp.getMemberSlot guid = some slot) (hgroup : group < maxRaidSubgroups)
    (hroom : grp.memberSlots.countP (·.group = group) < maxGroupSize) :
    (grp.setMembersGroup guid slot.group group).Balanced := by
  refine ⟨distinct_setMembersGroup h.distinct _ _, .inr ⟨hraid.raid, hraid.lfd, ?_, ?_, ?_, ?_⟩⟩
  · have hguids : (grp.setMembersGroup guid slot.group group).memberSlots.map (·.guid) =
        grp.memberSlots.map (·.guid) := map_changeFirst _ fun _ => rfl
    have hlen := congrArg List.length hguids
    rw [List.length_map, List.length_map] at hlen
    exact hlen.trans_le hraid.size
  · simp only [Group.setMembersGroup, hraid.counts, Option.map_some]
    rw [countsOf_changeFirst hslot hraid.subGroup]
    · intro c hc
      simp only [maxGroupSize] at hc
      omega
    · intro c hc
      simp only [maxGroupSize] at hc
      omega
  · intro slot' hslot'
    rcases mem_changeFirst hslot' with hold | ⟨old, -, rfl⟩
    · exact hraid.group slot' hold
    · exact hgroup
  · intro g
    have hcount := countP_setMembersGroup hslot slot.group group g
    have hfew := hraid.subGroup g
    by_cases hg : group = g
    · subst hg
      simp only [if_true] at hcount
      omega
    · simp only [hg, if_false] at hcount
      omega

theorem IsRaid.not_bounded_setMembersGroup (h : grp.IsRaid) {slot : MemberSlot} {prev : Nat}
    (hslot : grp.getMemberSlot guid = some slot) (hprev : prev ≠ slot.group) (group : Nat) :
    ¬ (grp.setMembersGroup guid prev group).Bounded := by
  intro hbounded
  have hin := List.mem_of_find?_eq_some hslot
  have hlt := h.group slot hin
  obtain ⟨counts, hcounts, hget⟩ := h.getElem?_counts_setMembersGroup guid prev group hlt
  rw [hbounded.counts_eq h.raid hcounts hlt, Option.some.injEq, if_neg hprev] at hget
  have hcount := countP_setMembersGroup hslot prev group slot.group
  have hpos : 0 < grp.memberSlots.countP (·.group = slot.group) :=
    List.countP_pos_iff.mpr ⟨slot, hin, by simp⟩
  have hfew := h.subGroup slot.group
  simp only [maxGroupSize] at hfew
  by_cases hgroup : group = slot.group
  · simp only [hgroup, if_true] at hget hcount
    omega
  · simp only [hgroup, if_true, if_false] at hget hcount
    omega

def cleared (grp : Group) : Group :=
  { grp with memberSlots := [], leaderGuid := 0, invitees := [] }

theorem Balanced.cleared (h : grp.Balanced)
    (hempty : grp.groupType.raid = true → grp.memberSlots = []) : grp.cleared.Balanced := by
  refine ⟨List.nodup_nil, h.kind.imp (fun hp => ?_) fun hr => ?_⟩
  · exact ⟨hp.normal, Nat.zero_le _, hp.counts, fun slot hslot => by cases hslot⟩
  · have hcounts := hr.counts
    rw [hempty hr.raid] at hcounts
    exact ⟨hr.raid, hr.lfd, Nat.zero_le _, hcounts, fun slot hslot => (by cases hslot),
      fun g => Nat.zero_le _⟩

theorem IsRaid.not_bounded_cleared (h : grp.IsRaid) (hmembers : grp.memberSlots ≠ []) : ¬ grp.cleared.Bounded := by
  intro hbounded
  obtain ⟨slot, hslot⟩ := List.exists_mem_of_ne_nil _ hmembers
  have hlt := h.group slot hslot
  have hcounts : grp.cleared.subGroupsCounts = _ := h.counts
  have hzero := hbounded.counts_eq h.raid hcounts hlt
  rw [getElem?_countsOf hlt, Option.some.injEq] at hzero
  have hpos : 0 < grp.memberSlots.countP (·.group = slot.group) :=
    List.countP_pos_iff.mpr ⟨slot, hslot, by simp⟩
  exact Nat.ne_of_gt hpos hzero

theorem Balanced.isRaid (h : grp.Balanced) (hraid : grp.groupType.raid = true) : grp.IsRaid := by
  rcases h.kind with hparty | hr
  · rw [hparty.normal] at hraid
    cases hraid
  · exact hr

end Group

namespace RaidState

variable {s : RaidState} {guid group : Nat}

@[simp] theorem linkMember_grp (subGroup : Nat) : (s.linkMember guid subGroup).grp = s.grp := by
  unfold linkMember
  split
  · rfl
  split
  · rfl
  · split <;> rfl

@[simp] theorem unlinkMember_grp : (s.unlinkMember guid).grp = s.grp := by
  unfold unlinkMember
  split
  · rfl
  split
  · rfl
  split
  · rfl
  · split <;> rfl

theorem disband_grp : s.disband.grp = s.grp.cleared := by
  have hfold : ∀ (slots : List MemberSlot) (s : RaidState),
      (slots.foldl (fun s slot => s.unlinkMember slot.guid) s).grp = s.grp := by
    intro slots
    induction slots with
    | nil => exact fun _ => rfl
    | cons slot slots ih =>
      intro s
      rw [List.foldl_cons, ih, unlinkMember_grp]
  simp only [disband, hfold, Group.cleared]

theorem addMember_balanced (h : s.grp.Balanced) (guid : Nat) : (s.addMember guid).grp.Balanced := by
  unfold addMember
  split
  · exact h
  next hnew =>
    split
    · exact h
    next subGroup hfree =>
      split
      · exact h
      next hroom =>
        simp only [Bool.or_eq_true, decide_eq_true_eq, not_or, Bool.not_eq_true] at hroom
        rw [linkMember_grp]
        exact h.pushMember (Bool.eq_false_iff.mpr hnew) hfree hroom.1

theorem removeMember_grp (logout : Bool) (newLeader : Option Nat) :
    (s.removeMember guid logout newLeader).grp = if logout && s.grp.isLeader guid then s.grp
      else if s.grp.disbandSize < s.grp.memberSlots.length then if s.grp.isLeader guid then
          (newLeader.map (s.grp.eraseMember guid).setLeader).getD (s.grp.eraseMember guid)
        else s.grp.eraseMember guid else s.grp.cleared := by
  unfold removeMember
  split
  · rfl
  split
  · rfl
  · exact disband_grp

theorem lt_of_canChangeTo (h : s.canChangeTo group = true) : group < maxRaidSubgroups := by
  simp only [canChangeTo, Bool.and_eq_true, decide_eq_true_eq] at h
  exact h.1

theorem room_of_canChangeTo (h : s.canChangeTo group = true) (hraid : s.grp.IsRaid) :
    s.grp.memberSlots.countP (·.group = group) < maxGroupSize := by
  have hlt := lt_of_canChangeTo h
  simp only [canChangeTo, Bool.and_eq_true, Group.hasFreeSlotSubGroup, hraid.counts,
    getElem?_countsOf hlt, Option.any_some, decide_eq_true_eq] at h
  exact h.2

theorem changePlayersGroup_grp {p : RaidPlayer} {slot : MemberSlot}
    (hslot : s.grp.getMemberSlot guid = some slot) (hne : p.group.subGroup ≠ group) :
    (s.changePlayersGroup guid p group).grp = s.grp.setMembersGroup guid (s.prevSubGroup p) group := by
  unfold changePlayersGroup
  rw [if_neg hne, hslot]
  dsimp only
  split <;> rfl

end RaidState

/-- When an event keeps the counters right: a moved player's reference has the subgroup of the slot, and no raid is
disbanded while it has members. -/
def RaidOk (s : RaidState) : RaidEvent → Prop
  | .changeMembersGroup guid group =>
    s.canChangeTo group → s.grp.groupType.raid →
      ∀ p slot, s.inWorldPlayer guid = some p → s.grp.getMemberSlot guid = some slot →
        p.group.subGroup ≠ group → s.prevSubGroup p = slot.group
  | .removeMember guid logout _ =>
    s.grp.groupType.raid → s.grp.memberSlots ≠ [] → (logout && s.grp.isLeader guid) = false →
      s.grp.disbandSize < s.grp.memberSlots.length
  | _ => True

namespace RaidState

variable {s : RaidState}

theorem changeMembersGroup_balanced (h : s.grp.Balanced) {guid group : Nat}
    (hok : RaidOk s (.changeMembersGroup guid group)) (hcan : s.canChangeTo group = true) :
    (s.changeMembersGroup guid group).grp.Balanced := by
  unfold changeMembersGroup
  split
  · exact h
  next hraid =>
    have hraid : s.grp.groupType.raid = true := by simpa using hraid
    have hr := h.isRaid hraid
    cases hslot : s.grp.getMemberSlot guid with
    | none =>
      cases hp : s.inWorldPlayer guid with
      | none => exact h
      | some p =>
        dsimp only [changePlayersGroup]
        rw [hslot]
        split <;> exact h
    | some slot =>
      have hmoved := h.setMembersGroup hr hslot (lt_of_canChangeTo hcan)
        (room_of_canChangeTo hcan hr)
      cases hp : s.inWorldPlayer guid with
      | none =>
        dsimp only
        split
        · exact h
        · exact hmoved
      | some p =>
        dsimp only
        by_cases hne : p.group.subGroup = group
        · simpa [changePlayersGroup, hne] using h
        · rw [changePlayersGroup_grp hslot hne, hok hcan hraid p slot hp hslot hne]
          exact hmoved

theorem raidStep_balanced (e : RaidEvent) (hok : RaidOk s e) (h : s.grp.Balanced) : (raidStep s e).grp.Balanced := by
  cases e with
  | addMember guid => exact addMember_balanced h guid
  | removeMember guid logout newLeader =>
    dsimp only [raidStep]
    rw [removeMember_grp]
    split
    · exact h
    next hstays =>
      split
      · have herased := h.eraseMember guid
        split
        · cases newLeader with
          | none => exact herased
          | some l => exact herased.setLeader l
        · exact herased
      next hsmall =>
        refine h.cleared fun hraid => ?_
        by_contra hmembers
        exact hsmall (hok hraid hmembers (Bool.eq_false_iff.mpr hstays))
  | convertToRaid => exact h.convertToRaid
  | changeMembersGroup guid group =>
    dsimp only [raidStep]
    split
    next hcan => exact changeMembersGroup_balanced h hok hcan
    · exact h
  | setPlayer guid player => exact h
  | setOther group isKnown => exact h

theorem raidStep_not_bounded (e : RaidEvent) (hbad : ¬ RaidOk s e) (h : s.grp.Balanced) :
    ¬ (raidStep s e).grp.Bounded := by
  cases e with
  | changeMembersGroup guid group =>
    simp only [RaidOk, Classical.not_imp, not_forall] at hbad
    obtain ⟨hcan, hraid, p, slot, hp, hslot, hne, hprev⟩ := hbad
    have hr := h.isRaid hraid
    have hgrp : (s.changeMembersGroup guid group).grp =
        s.grp.setMembersGroup guid (s.prevSubGroup p) group := by
      unfold changeMembersGroup
      rw [hraid, hp, if_neg (by decide)]
      exact changePlayersGroup_grp hslot hne
    dsimp only [raidStep]
    rw [if_pos hcan, hgrp]
    exact hr.not_bounded_setMembersGroup hslot hprev group
  | removeMember guid logout newLeader =>
    simp only [RaidOk, Classical.not_imp] at hbad
    obtain ⟨hraid, hmembers, hstays, hsmall⟩ := hbad
    dsimp only [raidStep]
    rw [removeMember_grp, if_neg (by simp [hstays]), if_neg hsmall]
    exact (h.isRaid hraid).not_bounded_cleared hmembers
  | addMember => exact absurd trivial hbad
  | convertToRaid => exact absurd trivial hbad
  | setPlayer => exact absurd trivial hbad
  | setOther => exact absurd trivial hbad

theorem create_balanced (guid : Nat) (bgGroup : Bool) (leader : Nat)
    (players : Nat → Option RaidPlayer) (others : Nat → Bool) :
    (create guid bgGroup leader players others).grp.Balanced := by
  refine addMember_balanced ?_ leader
  cases bgGroup with
  | false =>
    exact ⟨List.nodup_nil, .inl ⟨rfl, Nat.zero_le _, rfl, fun slot hslot => by cases hslot⟩⟩
  | true =>
    exact ⟨List.nodup_nil, .inr ⟨rfl, rfl, Nat.zero_le _, rfl,
      fun slot hslot => (by cases hslot), fun g => Nat.zero_le _⟩⟩

end RaidState

/-- The bounds hold throughout a run exactly when each move counts down the subgroup of the member's slot, and no raid
is disbanded while it has members. -/
theorem raid_bounded_iff (guid : Nat) (bgGroup : Bool) (leader : Nat)
    (players : Nat → Option RaidPlayer) (others : Nat → Bool) (es : List RaidEvent) : (∀ fs, fs <+: es →
        (run raidStep (RaidState.create guid bgGroup leader players others) fs).grp.Bounded) ↔
      Guarded raidStep RaidOk (RaidState.create guid bgGroup leader players others) es :=
  run_always_iff (P := fun s : RaidState => s.grp.Bounded)
    (fun s (h : s.grp.Balanced) => h.bounded) (fun _ e hok h => RaidState.raidStep_balanced e hok h)
    (fun _ e hbad h => RaidState.raidStep_not_bounded e hbad h)
    (RaidState.create_balanced guid bgGroup leader players others)

/-- One of two players is moved to the second subgroup while he changes maps, and to the third when he has arrived:
the counter of the first, where he was no more, goes to 0 and that of the second stays. -/
theorem raid_miscounted :
    let players : Nat → Option RaidPlayer := fun guid => if guid < 3 then some {} else none
    ¬ (run raidStep (RaidState.create 100 false 1 players fun _ => false)
        [.addMember 2, .convertToRaid, .setPlayer 2 (some { inWorld := false, group := ⟨100, 0⟩ }),
          .changeMembersGroup 2 1, .setPlayer 2 (some { group := ⟨100, 0⟩ }),
          .changeMembersGroup 2 2]).grp.Bounded := by
  intro players h
  have hcount := @Group.Bounded.counts_eq _ h (by decide +kernel) [0, 1, 1, 0, 0, 0, 0, 0]
    (by decide +kernel) 1 (by decide)
  revert hcount
  decide +kernel

end Mangos
