import Mangos.Group.SubGroupCounts

/-!
# Moves of members who are online or not

A member in the world is moved through the player object, any other through the guid.
-/

namespace Mangos

open Framework

namespace Group

/-- A raid with distinct members in its subgroups, and counters that are right. -/
structure Counted (grp : Group) : Prop where
  raid : grp.groupType.raid = true
  distinct : (grp.memberSlots.map (·.guid)).Nodup
  size : grp.memberSlots.length ≤ maxRaidSize
  group : ∀ slot ∈ grp.memberSlots, slot.group < maxRaidSubgroups
  counts : grp.subGroupsCounts = some (countsOf (·.group) maxRaidSubgroups grp.memberSlots)

variable {grp : Group} {guid prev group : Nat} {slot : MemberSlot}

theorem getMemberSlot_setMembersGroup (hslot : grp.getMemberSlot guid = some slot) :
    (grp.setMembersGroup guid prev group).getMemberSlot guid = some { slot with group } := by
  have hguid := List.find?_some hslot
  exact find?_changeFirst (f := fun slot => { slot with group }) hslot hguid

theorem memberSlots_setMembersGroup_self (hslot : grp.getMemberSlot guid = some slot) :
    (grp.setMembersGroup guid prev slot.group).memberSlots = grp.memberSlots :=
  changeFirst_eq_self hslot rfl

theorem eq_of_modify_eq {f : Nat → Nat} {l : List Nat} {i j c : Nat} (hi : l[i]? = some c)
    (hne : f c ≠ c) (h : l.modify j f = l.modify i f) : j = i := by
  by_contra hji
  have hat := congrArg (·[i]?) h
  simp only [List.getElem?_modify, hi, hji, if_true, if_false, Option.map_eq_map, Option.map_some,
    Option.some.injEq] at hat
  exact hne hat.symm

theorem lower_ne (c : Nat) : (c + 255) % 256 ≠ c := by omega

theorem getElem?_raised (grp : Group) (group : Nat) {g : Nat} (hg : g < maxRaidSubgroups) :
    ∃ c, ((countsOf (·.group) maxRaidSubgroups grp.memberSlots).modify group fun n => (n + 1) % 256)[g]? = some c := by
  rw [← Option.isSome_iff_exists, List.getElem?_modify, getElem?_countsOf hg]
  rfl

namespace Counted

variable (h : grp.Counted)

include h

theorem count_lt (g : Nat) : grp.memberSlots.countP (·.group = g) < 256 :=
  lt_of_le_of_lt (List.countP_le_length.trans h.size) (by decide)

theorem counts_setMembersGroup (guid prev group : Nat) : (grp.setMembersGroup guid prev group).subGroupsCounts =
      some (((countsOf (·.group) maxRaidSubgroups grp.memberSlots).modify group
        fun n => (n + 1) % 256).modify prev fun n => (n + 255) % 256) := by
  rw [setMembersGroup, h.counts, Option.map_some]

theorem prev_eq (hslot : grp.getMemberSlot guid = some slot)
    (heq : grp.setMembersGroup guid prev group = grp.setMembersGroup guid slot.group group) : prev = slot.group := by
  obtain ⟨c, hc⟩ := getElem?_raised grp group (h.group slot (List.mem_of_find?_eq_some hslot))
  have hcounts := congrArg Group.subGroupsCounts heq
  rw [h.counts_setMembersGroup, h.counts_setMembersGroup, Option.some.injEq] at hcounts
  exact eq_of_modify_eq hc (lower_ne c) hcounts

theorem setMembersGroup_self (hslot : grp.getMemberSlot guid = some slot) :
    grp.setMembersGroup guid slot.group slot.group = grp := by
  have hmembers : (grp.setMembersGroup guid slot.group slot.group).memberSlots = grp.memberSlots :=
    memberSlots_setMembersGroup_self hslot
  have hcounts : (grp.setMembersGroup guid slot.group slot.group).subGroupsCounts = grp.subGroupsCounts := by
    rw [h.counts_setMembersGroup, h.counts, Option.some.injEq]
    apply List.ext_getElem?
    intro g
    have hlt := h.count_lt g
    rw [List.getElem?_modify, List.getElem?_modify]
    by_cases hg : g < maxRaidSubgroups
    · rw [getElem?_countsOf hg]
      by_cases hgroup : slot.group = g
      · simp only [hgroup, if_true, Option.map_eq_map, Option.map_some, Option.some.injEq]
        omega
      · simp [hgroup]
    · rw [List.getElem?_eq_none (by simpa using Nat.not_lt.mp hg)]
      rfl
  calc grp.setMembersGroup guid slot.group slot.group
      = { grp with
          memberSlots := (grp.setMembersGroup guid slot.group slot.group).memberSlots
          subGroupsCounts := (grp.setMembersGroup guid slot.group slot.group).subGroupsCounts } := rfl
    _ = grp := by rw [hmembers, hcounts]

theorem counts_move (hslot : grp.getMemberSlot guid = some slot) :
    (grp.setMembersGroup guid slot.group group).subGroupsCounts = some (countsOf (·.group) maxRaidSubgroups
        (grp.setMembersGroup guid slot.group group).memberSlots) := by
  rw [h.counts_setMembersGroup, Option.some.injEq]
  symm
  apply countsOf_changeFirst (n := maxRaidSubgroups)
    (f := fun slot => { slot with group }) (m := maxRaidSize) hslot
  · intro k
    exact List.countP_le_length.trans h.size
  · intro c hc
    simp only [maxRaidSize] at hc
    omega
  · intro c hc
    simp only [maxRaidSize] at hc
    omega

end Counted

end Group

namespace RaidState

def withoutPlayer (s : RaidState) (guid : Nat) : RaidState :=
  { s with players := Function.update s.players guid none }

/-- Moved through the player object, the member is in the subgroup, the counters are right, and the group is what it
is after a move through the guid, online or not. -/
structure MovesAgree (s : RaidState) (guid : Nat) (p : RaidPlayer) (group : Nat) : Prop where
  offline : (s.changePlayersGroup guid p group).grp = ((s.withoutPlayer guid).changeMembersGroup guid group).grp
  online : p.inWorld = true → s.players guid = some p →
    (s.changePlayersGroup guid p group).grp = (s.changeMembersGroup guid group).grp
  inSubGroup : ((s.changePlayersGroup guid p group).grp.getMemberSlot guid).map (·.group) = some group
  counted : (s.changePlayersGroup guid p group).grp.subGroupsCounts =
    some (countsOf (·.group) maxRaidSubgroups (s.changePlayersGroup guid p group).grp.memberSlots)

variable {s : RaidState} {guid group : Nat} {slot : MemberSlot}

theorem changeMembersGroup_online {p : RaidPlayer} (hraid : s.grp.groupType.raid = true)
    (hin : p.inWorld = true) (hp : s.players guid = some p) :
    s.changeMembersGroup guid group = s.changePlayersGroup guid p group := by
  have hplayer : s.inWorldPlayer guid = some p := by
    rw [inWorldPlayer, hp, Option.filter_some, if_pos hin]
  simp only [changeMembersGroup, hraid, hplayer]
  rfl

theorem changeMembersGroup_offline (hraid : s.grp.groupType.raid = true)
    (hslot : s.grp.getMemberSlot guid = some slot) : ((s.withoutPlayer guid).changeMembersGroup guid group).grp =
      if slot.group = group then s.grp else s.grp.setMembersGroup guid slot.group group := by
  have hgrp : (s.withoutPlayer guid).grp = s.grp := rfl
  have hplayer : (s.withoutPlayer guid).inWorldPlayer guid = none := by
    simp [inWorldPlayer, withoutPlayer]
  simp only [changeMembersGroup, hgrp, hraid, hplayer, hslot]
  by_cases hsame : slot.group = group
  · simp [hsame, hgrp]
  · simp [hsame]

theorem changeMembersGroup_offline_eq (h : s.grp.Counted) (hslot : s.grp.getMemberSlot guid = some slot) :
    ((s.withoutPlayer guid).changeMembersGroup guid group).grp = s.grp.setMembersGroup guid slot.group group := by
  rw [changeMembersGroup_offline h.raid hslot]
  split_ifs with hsame
  · rw [← hsame, h.setMembersGroup_self hslot]
  · rfl

theorem movesAgree_of_prevSubGroup (h : s.grp.Counted) (hslot : s.grp.getMemberSlot guid = some slot)
    {p : RaidPlayer} (hne : p.group.subGroup ≠ group) (hprev : s.prevSubGroup p = slot.group) :
    s.MovesAgree guid p group := by
  have hgrp := changePlayersGroup_grp (s := s) hslot hne
  rw [hprev] at hgrp
  refine ⟨?_, fun hin hp => by rw [changeMembersGroup_online h.raid hin hp], ?_, ?_⟩
  · rw [hgrp, changeMembersGroup_offline_eq h hslot]
  · rw [hgrp, Group.getMemberSlot_setMembersGroup hslot]
    rfl
  · rw [hgrp]
    exact h.counts_move hslot

/-- A move through the player object is right and like one through the guid exactly if it is given up only for a
member who is in the subgroup, and lowers the counter of the slot's subgroup otherwise. -/
theorem movesAgree_iff (s : RaidState) (h : s.grp.Counted) (guid : Nat) (slot : MemberSlot)
    (hslot : s.grp.getMemberSlot guid = some slot) (p : RaidPlayer) (group : Nat) :
    s.MovesAgree guid p group ↔ (p.group.subGroup = group → slot.group = group) ∧
        (p.group.subGroup ≠ group → s.prevSubGroup p = slot.group) := by
  by_cases htop : p.group.subGroup = group
  · have hnothing : s.changePlayersGroup guid p group = s := by
      rw [changePlayersGroup, if_pos htop]
    constructor
    · intro hagree
      have hin := hagree.inSubGroup
      rw [hnothing, hslot] at hin
      exact ⟨fun _ => Option.some.inj hin, fun hne => absurd htop hne⟩
    · rintro ⟨hsame, -⟩
      have hgroup := hsame htop
      refine ⟨?_, fun hin hp => by rw [changeMembersGroup_online h.raid hin hp], ?_, ?_⟩
      · rw [hnothing, changeMembersGroup_offline h.raid hslot, if_pos hgroup]
      · rw [hnothing, hslot, ← hgroup]
        rfl
      · rw [hnothing]
        exact h.counts
  · constructor
    · intro hagree
      have hoffline := hagree.offline
      rw [changePlayersGroup_grp hslot htop, changeMembersGroup_offline_eq h hslot] at hoffline
      exact ⟨fun hyes => absurd hyes htop, fun _ => h.prev_eq hslot hoffline⟩
    · rintro ⟨-, hprev⟩
      exact movesAgree_of_prevSubGroup h hslot htop (hprev htop)

def raidOfTwo : RaidState :=
  { guid := 100
    grp :=
      { groupType := { raid := true }, leaderGuid := 1
        memberSlots := [{ guid := 1, group := 0 }, { guid := 2, group := 0 }]
        subGroupsCounts := some [2, 0, 0, 0, 0, 0, 0, 0] }
    players := fun guid => if guid = 2 then some { group := ⟨200, 3⟩, originalGroup := ⟨100, 0⟩ } else none
    others := fun _ => true }

theorem counted_raidOfTwo : raidOfTwo.grp.Counted :=
  ⟨by decide, by decide, by decide, by decide, by decide⟩

/-- A member who is in the fourth subgroup of a battleground raid is not moved to the fourth subgroup of the
raid. -/
theorem battleground_blocks_move : ¬ ∀ (s : RaidState) (guid : Nat) (p : RaidPlayer) (group : Nat),
    s.grp.Counted → s.grp.isMember guid = true → s.players guid = some p → group < maxRaidSubgroups →
      s.MovesAgree guid p group := by
  intro h
  have hagree := h raidOfTwo 2 { group := ⟨200, 3⟩, originalGroup := ⟨100, 0⟩ } 3 counted_raidOfTwo
    (by decide) (by decide) (by decide)
  exact absurd hagree.inSubGroup (by decide)

/-- To the third subgroup the same member is moved. -/
theorem movesAgree_raidOfTwo : raidOfTwo.MovesAgree 2 { group := ⟨200, 3⟩, originalGroup := ⟨100, 0⟩ } 2 :=
  (movesAgree_iff raidOfTwo counted_raidOfTwo 2 { guid := 2, group := 0 } (by decide) _ 2).mpr
    ⟨by decide, by decide⟩

end RaidState

end Mangos
