import Mangos.Group.Invite

/-!
# Answering an invite

A player's invite and the list of the inviting group agree in every reachable state.
-/

namespace Mangos

open Framework

/-- A player invited to a group in the map is in the group's list of invitees, and group guids
are made in order. -/
structure InvitesListed (w : GroupWorld) : Prop where
  listed : ∀ guid p grp, w.players guid = some p → w.groups p.groupInvite = some grp → ⟨guid, p.login⟩ ∈ grp.invitees
  invite_lt : ∀ guid p, w.players guid = some p → p.groupInvite < w.nextGroup
  group_lt : ∀ g grp, w.groups g = some grp → g ≠ 0 ∧ g < w.nextGroup
  next_pos : 0 < w.nextGroup

namespace InvitesListed

variable {w : GroupWorld}

theorem noGroup_zero (h : InvitesListed w) : w.groups 0 = none := by
  cases hgrp : w.groups 0 with
  | none => rfl
  | some grp => exact absurd rfl (h.group_lt 0 grp hgrp).1

def KeepsInvite (f : GroupPlayer → GroupPlayer) : Prop :=
  ∀ p, (f p).login = p.login ∧ ((f p).groupInvite = p.groupInvite ∨ (f p).groupInvite = 0)

theorem updatePlayer (h : InvitesListed w) (guid : Nat) {f : GroupPlayer → GroupPlayer}
    (hf : KeepsInvite f) : InvitesListed (w.updatePlayer guid f) := by
  have hplayer : ∀ guid' p', (w.updatePlayer guid f).players guid' = some p' →
      ∃ p, w.players guid' = some p ∧ p'.login = p.login ∧ (p'.groupInvite = p.groupInvite ∨ p'.groupInvite = 0) := by
    intro guid' p' hp'
    by_cases heq : guid' = guid
    · subst heq
      simp only [GroupWorld.updatePlayer, Function.update_self, Option.map_eq_some_iff] at hp'
      obtain ⟨p, hp, rfl⟩ := hp'
      exact ⟨p, hp, hf p⟩
    · simp only [GroupWorld.updatePlayer, Function.update_of_ne heq] at hp'
      exact ⟨p', hp', rfl, .inl rfl⟩
  constructor
  · intro guid' p' grp hp' hgrp
    obtain ⟨p, hp, hlogin, hinvite⟩ := hplayer guid' p' hp'
    have hgrp' : w.groups p'.groupInvite = some grp := hgrp
    rcases hinvite with hsame | hnone
    · rw [hsame] at hgrp'
      rw [hlogin]
      exact h.listed guid' p grp hp hgrp'
    · rw [hnone, h.noGroup_zero] at hgrp'
      cases hgrp'
  · intro guid' p' hp'
    obtain ⟨p, hp, -, hinvite⟩ := hplayer guid' p' hp'
    have hlt := h.invite_lt guid' p hp
    show p'.groupInvite < w.nextGroup
    omega
  · exact h.group_lt
  · exact h.next_pos

theorem setGroupInvite_zero (h : InvitesListed w) (guid : Nat) : InvitesListed (w.setGroupInvite guid 0) :=
  h.updatePlayer guid fun _ => ⟨rfl, .inr rfl⟩

theorem setGroup (h : InvitesListed w) (guid g : Nat) : InvitesListed (w.setGroup guid g) :=
  h.updatePlayer guid fun _ => ⟨rfl, .inl rfl⟩

theorem setOriginalGroup (h : InvitesListed w) (guid g : Nat) : InvitesListed (w.setOriginalGroup guid g) :=
  h.updatePlayer guid fun _ => ⟨rfl, .inl rfl⟩

theorem clearInvite (h : InvitesListed w) (ref : PlayerRef) : InvitesListed (w.clearInvite ref) := by
  refine h.updatePlayer ref.guid fun p => ?_
  by_cases hlogin : p.login = ref.login
  · simp [hlogin]
  · simp [hlogin]

theorem updateGroup_of_listed (h : InvitesListed w) (g : Nat) {f : Group → Group}
    (hf : ∀ grp guid p, w.groups g = some grp → w.players guid = some p → p.groupInvite = g →
      ⟨guid, p.login⟩ ∈ (f grp).invitees) : InvitesListed (w.updateGroup g f) := by
  constructor
  · intro guid p grp' hp hgrp'
    by_cases heq : p.groupInvite = g
    · simp only [GroupWorld.updateGroup, heq, Function.update_self, Option.map_eq_some_iff] at hgrp'
      obtain ⟨grp, hgrp, rfl⟩ := hgrp'
      exact hf grp guid p hgrp hp heq
    · simp only [GroupWorld.updateGroup, Function.update_of_ne heq] at hgrp'
      exact h.listed guid p grp' hp hgrp'
  · exact h.invite_lt
  · intro g' grp' hgrp'
    by_cases heq : g' = g
    · subst heq
      simp only [GroupWorld.updateGroup, Function.update_self, Option.map_eq_some_iff] at hgrp'
      obtain ⟨grp, hgrp, -⟩ := hgrp'
      exact h.group_lt g' grp hgrp
    · simp only [GroupWorld.updateGroup, Function.update_of_ne heq] at hgrp'
      exact h.group_lt g' grp' hgrp'
  · exact h.next_pos

theorem updateGroup (h : InvitesListed w) (g : Nat) {f : Group → Group}
    (hf : ∀ grp, (f grp).invitees = grp.invitees) : InvitesListed (w.updateGroup g f) := by
  refine h.updateGroup_of_listed g fun grp guid p hgrp hp hinvite => ?_
  rw [hf]
  exact h.listed guid p grp hp (hinvite ▸ hgrp)

theorem removeGroup (h : InvitesListed w) (g : Nat) : InvitesListed (w.removeGroup g) := by
  have hgroup : ∀ g' grp, (w.removeGroup g).groups g' = some grp → w.groups g' = some grp := by
    intro g' grp hgrp
    by_cases heq : g' = g
    · simp [GroupWorld.removeGroup, heq] at hgrp
    · simpa [GroupWorld.removeGroup, heq] using hgrp
  exact ⟨fun guid p grp hp hgrp => h.listed guid p grp hp (hgroup _ _ hgrp), h.invite_lt,
    fun g' grp hgrp => h.group_lt g' grp (hgroup _ _ hgrp), h.next_pos⟩

theorem removeInvite (h : InvitesListed w) (g guid : Nat) : InvitesListed (w.removeInvite g guid) := by
  unfold GroupWorld.removeInvite
  split
  · exact h
  next p hp =>
    -- once the invite is taken back the list may lose the player
    refine (h.setGroupInvite_zero guid).updateGroup_of_listed g ?_
    intro grp guid' p' hgrp hp' hinvite
    have hne : guid' ≠ guid := by
      intro heq
      subst heq
      simp only [GroupWorld.setGroupInvite, GroupWorld.updatePlayer, Function.update_self, hp,
        Option.map_some, Option.some.injEq] at hp'
      subst hp'
      have hzero : w.groups g = some grp := hgrp
      rw [← hinvite, h.noGroup_zero] at hzero
      cases hzero
    have hlisted := (h.setGroupInvite_zero guid).listed guid' p' grp hp' (hinvite ▸ hgrp)
    simp [hlisted, hne]

theorem foldl_clearInvite (refs : List PlayerRef) (w : GroupWorld) {guid : Nat} {p' : GroupPlayer}
    (hp' : (refs.foldl GroupWorld.clearInvite w).players guid = some p') :
    ∃ p, w.players guid = some p ∧ p'.login = p.login ∧ (⟨guid, p.login⟩ ∈ refs → p'.groupInvite = 0) ∧
      (p'.groupInvite = p.groupInvite ∨ p'.groupInvite = 0) := by
  induction refs generalizing w with
  | nil => exact ⟨p', hp', rfl, by simp, .inl rfl⟩
  | cons ref refs ih =>
    obtain ⟨q, hq, hlogin, hlisted, hinvite⟩ := ih (w.clearInvite ref) hp'
    by_cases hguid : guid = ref.guid
    · subst hguid
      simp only [GroupWorld.clearInvite, GroupWorld.updatePlayer, Function.update_self, Option.map_eq_some_iff] at hq
      obtain ⟨p, hp, rfl⟩ := hq
      by_cases hold : p.login = ref.login
      · simp only [hold, if_true] at hlogin hinvite
        have hzero : p'.groupInvite = 0 := by simpa using hinvite
        exact ⟨p, hp, hlogin.trans hold.symm, fun _ => hzero, .inr hzero⟩
      · simp only [hold, if_false] at hlogin hlisted hinvite
        refine ⟨p, hp, hlogin, fun hmem => hlisted ?_, hinvite⟩
        rcases List.mem_cons.mp hmem with heq | hmem
        · exact absurd (congrArg PlayerRef.login heq) hold
        · exact hmem
    · simp only [GroupWorld.clearInvite, GroupWorld.updatePlayer, Function.update_of_ne hguid] at hq
      refine ⟨q, hq, hlogin, fun hmem => hlisted ?_, hinvite⟩
      rcases List.mem_cons.mp hmem with heq | hmem
      · exact absurd (congrArg PlayerRef.guid heq) hguid
      · exact hmem

theorem foldl {α : Type*} {step : GroupWorld → α → GroupWorld} (h : InvitesListed w)
    (hstep : ∀ w a, InvitesListed w → InvitesListed (step w a)) (as : List α) : InvitesListed (as.foldl step w) := by
  induction as generalizing w with
  | nil => exact h
  | cons a as ih => exact ih (hstep w a h)

theorem removeAllInvites (h : InvitesListed w) (g : Nat) : InvitesListed (w.removeAllInvites g) := by
  unfold GroupWorld.removeAllInvites
  split
  · exact h
  next grp hgrp =>
    have hcleared := h.foldl (fun _ ref hw => hw.clearInvite ref) grp.invitees
    refine hcleared.updateGroup_of_listed g fun grp' guid p' _ hp' hinvite => ?_
    obtain ⟨p, hp, -, hlisted, hsame⟩ := foldl_clearInvite grp.invitees w hp'
    have hzero : p'.groupInvite = 0 := by
      rcases hsame with hsame | hzero
      · exact hlisted (h.listed guid p grp hp (by rw [← hsame, hinvite]; exact hgrp))
      · exact hzero
    rw [← hinvite, hzero, h.noGroup_zero] at hgrp
    cases hgrp

theorem unlinkMember (h : InvitesListed w) (g guid : Nat) (bgGroup : Bool) :
    InvitesListed (w.unlinkMember g guid bgGroup) := by
  unfold GroupWorld.unlinkMember
  split
  · exact h
  split
  · exact (h.setGroup _ _).setOriginalGroup _ _
  split
  · exact h.setOriginalGroup _ _
  · exact h.setGroup _ _

theorem disband (h : InvitesListed w) (g : Nat) : InvitesListed (w.disband g) := by
  unfold GroupWorld.disband
  split
  · exact h
  next grp hgrp =>
    have hleft := h.foldl (fun _ slot hw => hw.unlinkMember g slot.guid grp.bgGroup)
      grp.memberSlots
    exact (hleft.removeAllInvites g).removeGroup g

theorem removeMember (h : InvitesListed w) (g guid : Nat) (logout : Bool)
    (newLeader : Option Nat) : InvitesListed (w.removeMember g guid logout newLeader).1 := by
  unfold GroupWorld.removeMember
  split
  · exact h
  next grp hgrp =>
    generalize (if grp.bgGroup || grp.groupType.lfd then 1 else 2) = least
    split
    · exact h
    split
    · have hunlinked := h.unlinkMember g guid grp.bgGroup
      refine hunlinked.updateGroup_of_listed g fun grp' guid' p hgrp' hp hinvite => ?_
      have hsame : grp' = grp := by
        have hgroups : (w.unlinkMember g guid grp.bgGroup).groups = w.groups := by
          unfold GroupWorld.unlinkMember
          split
          · rfl
          split
          · rfl
          split
          · rfl
          · rfl
        rw [hgroups, hgrp] at hgrp'
        exact (Option.some.inj hgrp').symm
      have hlisted := hunlinked.listed guid' p grp' hp (hinvite ▸ hgrp')
      rw [hsame] at hlisted
      split
      · cases newLeader with
        | none => simpa [Group.eraseMember_invitees] using hlisted
        | some l => simpa [Group.eraseMember_invitees, Group.setLeader_invitees] using hlisted
      · simpa [Group.eraseMember_invitees] using hlisted
    · exact h.disband g

theorem removeFromGroup (h : InvitesListed w) (guid : Nat) (logout : Bool)
    (newLeader : Option Nat) : InvitesListed (w.removeFromGroup guid logout newLeader) := by
  unfold GroupWorld.removeFromGroup
  split
  · exact h
  next p hp =>
    split
    · exact h.setGroup guid 0
    · have hremoved := h.removeMember p.group guid logout newLeader
      dsimp only
      split
      · exact hremoved.removeGroup p.group
      · exact hremoved

theorem uninviteFromGroup (h : InvitesListed w) (guid : Nat) : InvitesListed (w.uninviteFromGroup guid) := by
  unfold GroupWorld.uninviteFromGroup
  split
  · exact h
  next p hp =>
    split
    · exact h.setGroupInvite_zero guid
    · have hremoved := h.removeInvite p.groupInvite guid
      dsimp only
      split
      · exact ((hremoved.removeAllInvites _).disband _).removeGroup _
      · exact hremoved

theorem addMember (h : InvitesListed w) {g guid : Nat} {w' : GroupWorld}
    (hadd : w.addMember g guid = some w') : InvitesListed w' := by
  unfold GroupWorld.addMember at hadd
  split at hadd
  · cases hadd
  split at hadd
  · cases hadd
  split at hadd
  · cases hadd
  next subgroup hsub =>
    split at hadd
    · cases hadd
    split at hadd
    · cases hadd
    have hpushed := (h.updateGroup g (f := (·.pushMember { guid, group := subgroup }))
      fun _ => rfl).setGroupInvite_zero guid
    have hw' := Option.some.inj hadd
    subst hw'
    split
    · exact hpushed
    split
    · exact (hpushed.setOriginalGroup _ _).setGroup _ _
    split
    · exact hpushed.setOriginalGroup _ _
    · exact hpushed.setGroup _ _

theorem addMember_getD (h : InvitesListed w) (g guid : Nat) : InvitesListed ((w.addMember g guid).getD w) := by
  cases hadd : w.addMember g guid with
  | none => exact h
  | some w' => exact h.addMember hadd

theorem create (h : InvitesListed w) (g leader : Nat) : InvitesListed (w.create g leader).1 := by
  have hstart : InvitesListed (w.updateGroup g fun grp =>
      let grp := { grp with
        leaderGuid := leader
        groupType := if grp.bgGroup then .bgRaid else .normal }
      if grp.groupType.raid then grp.initRaidSubGroupsCounter else grp) := by
    refine h.updateGroup g fun grp => ?_
    dsimp only
    split
    · rfl
    · rfl
  unfold GroupWorld.create
  dsimp only
  split
  · exact hstart
  next w' hadd => exact hstart.addMember hadd

theorem addInvite (h : InvitesListed w) {g guid : Nat} {grp grp' : Group} {w' : GroupWorld}
    (hgrp : w.groups g = some grp) (hadd : w.addInvite g grp guid = some (w', grp')) :
    InvitesListed (w'.addGroup g grp') := by
  unfold GroupWorld.addInvite at hadd
  split at hadd
  · cases hadd
  next p hp =>
    split at hadd
    · cases hadd
    split at hadd
    · cases hadd
    cases hadd
    constructor
    · intro guid' p' grp'' hp' hgrp''
      by_cases hguid : guid' = guid
      · subst hguid
        simp only [GroupWorld.addGroup, GroupWorld.setGroupInvite, GroupWorld.updatePlayer,
          Function.update_self, hp, Option.map_some, Option.some.injEq] at hp' hgrp''
        subst hp'
        simp only [Function.update_self, Option.some.injEq] at hgrp''
        subst hgrp''
        simp
      · simp only [GroupWorld.addGroup, GroupWorld.setGroupInvite, GroupWorld.updatePlayer,
          Function.update_of_ne hguid] at hp' hgrp''
        by_cases hg : p'.groupInvite = g
        · rw [hg, Function.update_self, Option.some.injEq] at hgrp''
          have hlisted := h.listed guid' p' grp hp' (hg ▸ hgrp)
          subst hgrp''
          simp [hlisted, hguid]
        · rw [Function.update_of_ne hg] at hgrp''
          exact h.listed guid' p' grp'' hp' hgrp''
    · intro guid' p' hp'
      have hlt := (h.group_lt g grp hgrp).2
      by_cases hguid : guid' = guid
      · subst hguid
        simp only [GroupWorld.addGroup, GroupWorld.setGroupInvite, GroupWorld.updatePlayer,
          Function.update_self, hp, Option.map_some, Option.some.injEq] at hp'
        subst hp'
        exact hlt
      · simp only [GroupWorld.addGroup, GroupWorld.setGroupInvite, GroupWorld.updatePlayer,
          Function.update_of_ne hguid] at hp'
        exact h.invite_lt guid' p' hp'
    · intro g' grp'' hgrp''
      by_cases hg : g' = g
      · subst hg
        exact h.group_lt g' grp hgrp
      · simp only [GroupWorld.addGroup, GroupWorld.setGroupInvite, GroupWorld.updatePlayer,
          Function.update_of_ne hg] at hgrp''
        exact h.group_lt g' grp'' hgrp''
    · exact h.next_pos

theorem addNewGroup (h : InvitesListed w) (grp : Group) :
    InvitesListed { w.addGroup w.nextGroup grp with nextGroup := w.nextGroup + 1 } := by
  constructor
  · intro guid p grp' hp hgrp'
    have hne : p.groupInvite ≠ w.nextGroup := Nat.ne_of_lt (h.invite_lt guid p hp)
    simp only [GroupWorld.addGroup, Function.update_of_ne hne] at hgrp'
    exact h.listed guid p grp' hp hgrp'
  · intro guid p hp
    exact Nat.lt_succ_of_lt (h.invite_lt guid p hp)
  · intro g grp' hgrp'
    by_cases hg : g = w.nextGroup
    · subst hg
      exact ⟨Nat.ne_of_gt h.next_pos, Nat.lt_succ_self _⟩
    · simp only [GroupWorld.addGroup, Function.update_of_ne hg] at hgrp'
      obtain ⟨hne, hlt⟩ := h.group_lt g grp' hgrp'
      exact ⟨hne, Nat.lt_succ_of_lt hlt⟩
  · exact Nat.succ_pos _

theorem addLeaderInvite (h : InvitesListed w) {grp grp' : Group} {guid g : Nat} {w' : GroupWorld}
    (hadd : w.addLeaderInvite grp guid = some (w', g, grp')) : InvitesListed w' ∧ w'.groups g = some grp' := by
  unfold GroupWorld.addLeaderInvite at hadd
  split at hadd
  · cases hadd
  next invited grp₁ hinvite =>
    have hinvited : invited = w.setGroupInvite guid 0 := by
      unfold GroupWorld.addInvite at hinvite
      split at hinvite
      · cases hinvite
      split at hinvite
      · cases hinvite
      split at hinvite
      · cases hinvite
      exact (congrArg Prod.fst (Option.some.inj hinvite)).symm
    cases hadd
    subst hinvited
    have hnew := (h.setGroupInvite_zero guid).addNewGroup { grp₁ with leaderGuid := guid }
    exact ⟨hnew, by simp [GroupWorld.addGroup]⟩

theorem handleGroupInvite (h : InvitesListed w) (inviter target : Nat) (checks : InviteChecks) :
    InvitesListed (w.handleGroupInvite inviter target checks).1 := by
  unfold GroupWorld.handleGroupInvite
  split
  · exact h
  · exact h
  next asker asked _ _ =>
    dsimp only
    split
    · exact h
    split
    · exact h
    split
    · exact h
    split
    · exact h
    split
    · exact h
    split
    · exact h
    split
    · split
      · exact h
      next w' g' grp hlead =>
        have hnew := h.addLeaderInvite hlead
        split
        · exact hnew.1.removeGroup g'
        next w'' grp' hadd => exact hnew.1.addInvite hnew.2 hadd
    next grp hgrp =>
      split
      · exact h
      split
      · exact h
      split
      · exact h
      next w' grp' hadd => exact h.addInvite hgrp hadd

theorem acceptInvite (h : InvitesListed w) (g : Nat) (grp : Group) (guid : Nat) :
    InvitesListed (w.acceptInvite g grp guid).1 := by
  have hremoved := h.removeInvite g guid
  unfold GroupWorld.acceptInvite
  dsimp only
  split
  · exact hremoved
  split
  · exact hremoved
  split
  · exact (hremoved.removeInvite g grp.leaderGuid).create g grp.leaderGuid
  · exact hremoved

theorem handleGroupInviteResponse (h : InvitesListed w) (guid : Nat) (accepted : Bool) :
    InvitesListed (w.handleGroupInviteResponse guid accepted).1 := by
  unfold GroupWorld.handleGroupInviteResponse
  split
  · exact h
  next p hp =>
    split
    · exact h
    next grp hgrp =>
      have haccept := h.acceptInvite p.groupInvite grp guid
      cases accepted with
      | true =>
        dsimp only
        rw [if_pos rfl]
        split
        · exact haccept.addMember_getD p.groupInvite guid
        · exact haccept
      | false => exact h.addMember_getD p.groupInvite guid

theorem handleGroupUninviteGuid (h : InvitesListed w) (guid target : Nat) (checks : InviteChecks)
    (newLeader : Option Nat) : InvitesListed (w.handleGroupUninviteGuid guid target checks newLeader).1 := by
  unfold GroupWorld.handleGroupUninviteGuid
  split
  · exact h
  split
  · exact h
  split
  · exact h
  split
  · exact h
  split
  · exact h
  split
  · exact h
  split
  · split
    · exact h
    · exact h.removeMember _ _ _ _
  split
  · split
    · exact h
    · exact h.uninviteFromGroup target
  · exact h

theorem login (h : InvitesListed w) (guid : Nat) : InvitesListed (w.login guid) := by
  unfold GroupWorld.login
  split
  · constructor
    · intro guid' p grp hp hgrp
      by_cases hguid : guid' = guid
      · subst hguid
        simp only [Function.update_self, Option.some.injEq] at hp
        subst hp
        exact absurd hgrp (by simp [h.noGroup_zero])
      · simp only [Function.update_of_ne hguid] at hp
        exact h.listed guid' p grp hp hgrp
    · intro guid' p hp
      by_cases hguid : guid' = guid
      · subst hguid
        simp only [Function.update_self, Option.some.injEq] at hp
        subst hp
        exact h.next_pos
      · simp only [Function.update_of_ne hguid] at hp
        exact h.invite_lt guid' p hp
    · exact h.group_lt
    · exact h.next_pos
  · exact h

theorem logout (h : InvitesListed w) (guid : Nat) (normal : Bool) (newLeader : Option Nat) :
    InvitesListed (w.logout guid normal newLeader) := by
  have hgone : ∀ {w : GroupWorld}, InvitesListed w →
      InvitesListed { w with players := Function.update w.players guid none } := by
    intro w h
    have hplayer : ∀ guid' p, Function.update w.players guid none guid' = some p →
        w.players guid' = some p := by
      intro guid' p hp
      by_cases hguid : guid' = guid
      · simp [hguid] at hp
      · simpa [hguid] using hp
    exact ⟨fun guid' p grp hp hgrp => h.listed guid' p grp (hplayer _ _ hp) hgrp,
      fun guid' p hp => h.invite_lt guid' p (hplayer _ _ hp), h.group_lt, h.next_pos⟩
  have huninvited := h.uninviteFromGroup guid
  unfold GroupWorld.logout
  refine hgone ?_
  split
  · exact huninvited
  split
  · exact huninvited
  split
  · exact huninvited.removeFromGroup guid true newLeader
  · exact huninvited

theorem createGroup (h : InvitesListed w) (groupType : GroupType) (bgGroup : Bool)
    (leader : Nat) : InvitesListed (w.createGroup groupType bgGroup leader) :=
  (h.addNewGroup { groupType, bgGroup }).create w.nextGroup leader

theorem step (h : InvitesListed w) (e : GroupEvent) : InvitesListed (groupStep w e) := by
  cases e with
  | invite inviter target checks => exact h.handleGroupInvite inviter target checks
  | response guid accepted => exact h.handleGroupInviteResponse guid accepted
  | uninvite guid target checks newLeader =>
    exact h.handleGroupUninviteGuid guid target checks newLeader
  | leave guid newLeader => exact h.removeFromGroup guid false newLeader
  | login guid => exact h.login guid
  | logout guid normal newLeader => exact h.logout guid normal newLeader
  | loadGroup guid g =>
    simp only [groupStep]
    split
    · exact h.setGroup guid g
    · exact h
  | createGroup groupType bgGroup leader => exact h.createGroup groupType bgGroup leader
  | addMember g guid => exact h.addMember_getD g guid
  | removeMember g guid newLeader => exact h.removeMember g guid false newLeader
  | disband g => exact h.disband g
  | convertToRaid g => exact h.updateGroup g fun _ => rfl
  | setLeader g guid => exact h.updateGroup g fun grp => grp.setLeader_invitees guid
  | setAssistant g guid assistant => exact h.updateGroup g fun _ => rfl
  | setGroupType g groupType => exact h.updateGroup g fun _ => rfl

theorem initial (loaded : List Group) : InvitesListed (.initial loaded) where
  listed guid p grp hp := by cases hp
  invite_lt guid p hp := by cases hp
  group_lt g grp hgrp := by
    simp only [GroupWorld.initial] at hgrp ⊢
    split at hgrp
    · cases hgrp
    · obtain ⟨found, hfound, -⟩ := Option.map_eq_some_iff.mp hgrp
      have hlt := (List.getElem?_eq_some_iff.mp hfound).1
      omega
  next_pos := Nat.succ_pos _

end InvitesListed

/-- What an invited player who declines asks for: the members of the created groups stay, and the
inviting group forgets the invite. -/
def DeclineHonoured (w : GroupWorld) (guid : Nat) (p : GroupPlayer) : Prop :=
  let w' := (w.handleGroupInviteResponse guid false).1
  (∀ g grp, w.groups g = some grp → grp.isCreated →
    ∃ grp', w'.groups g = some grp' ∧ grp'.memberSlots = grp.memberSlots) ∧
  ∀ grp', w'.groups p.groupInvite = some grp' → ⟨guid, p.login⟩ ∉ grp'.invitees

section Declining

variable {w : GroupWorld} {guid : Nat} {p : GroupPlayer} {grp : Group}

private theorem handleGroupInviteResponse_decline (hp : w.players guid = some p)
    (hgrp : w.groups p.groupInvite = some grp) :
    (w.handleGroupInviteResponse guid false).1 = (w.addMember p.groupInvite guid).getD w := by
  simp [GroupWorld.handleGroupInviteResponse, hp, hgrp]

private theorem addMember_groups {g : Nat} {w' : GroupWorld} (hgrp : w.groups g = some grp)
    (hadd : w.addMember g guid = some w') :
    ∃ slot : MemberSlot, slot.guid = guid ∧ w'.groups g = some (grp.pushMember slot) := by
  unfold GroupWorld.addMember at hadd
  rw [hgrp] at hadd
  dsimp only at hadd
  split at hadd
  · cases hadd
  split at hadd
  · cases hadd
  next subgroup hsub =>
    split at hadd
    · cases hadd
    split at hadd
    · cases hadd
    refine ⟨{ guid, group := subgroup }, rfl, ?_⟩
    have hpushed : (w.updateGroup g (·.pushMember { guid, group := subgroup })).groups g =
        some (grp.pushMember { guid, group := subgroup }) := by
      simp [GroupWorld.updateGroup, hgrp]
    have hw' := Option.some.inj hadd
    subst hw'
    split
    · exact hpushed
    split
    · exact hpushed
    split
    · exact hpushed
    · exact hpushed

theorem decline_keepsInvite (h : InvitesListed w) (hp : w.players guid = some p)
    (hgrp : w.groups p.groupInvite = some grp) :
    ∃ grp', (w.handleGroupInviteResponse guid false).1.groups p.groupInvite = some grp' ∧
      ⟨guid, p.login⟩ ∈ grp'.invitees := by
  have hlisted := h.listed guid p grp hp hgrp
  rw [handleGroupInviteResponse_decline hp hgrp]
  cases hadd : w.addMember p.groupInvite guid with
  | none => exact ⟨grp, hgrp, hlisted⟩
  | some w' =>
    obtain ⟨slot, -, hgroup⟩ := addMember_groups hgrp hadd
    exact ⟨_, hgroup, hlisted⟩

end Declining

/-- In no reachable state does declining an invite do what it asks for. -/
theorem groupInvite_decline_never (loaded : List Group) (es : List GroupEvent) (guid : Nat)
    (p : GroupPlayer) (grp : Group) (hp : (run groupStep (.initial loaded) es).players guid = some p)
    (hgrp : (run groupStep (.initial loaded) es).groups p.groupInvite = some grp) :
    ¬ DeclineHonoured (run groupStep (.initial loaded) es) guid p := by
  have hlisted : InvitesListed (run groupStep (.initial loaded) es) :=
    InvitesListed.foldl (.initial loaded) (fun _ e h => h.step e) es
  obtain ⟨grp', hgrp', hmem⟩ := decline_keepsInvite hlisted hp hgrp
  intro hhonoured
  exact hhonoured.2 grp' hgrp' hmem

/-! Player 1 forms a group with player 2 and invites player 3. -/

private def invitedThird : List GroupEvent :=
  [.login 1, .login 2, .login 3, .invite 1 2 {}, .response 2 true, .invite 1 3 {}]

private def groupOfTwo : Group where
  leaderGuid := 1
  memberSlots := [{ guid := 1, group := 0 }, { guid := 2, group := 0 }]
  invitees := [⟨3, 3⟩]

theorem groupInvite_decline_third : ¬ DeclineHonoured (run groupStep (.initial []) invitedThird) 3 ⟨3, 1, 0, 0⟩ :=
  groupInvite_decline_never [] invitedThird 3 ⟨3, 1, 0, 0⟩ groupOfTwo (by decide +kernel)
    (by decide +kernel)

/-- Player 3 declines and is the third member. -/
theorem groupInvite_decline_adds :
    ¬ ∀ (loaded : List Group) (es : List GroupEvent) (guid : Nat) (p : GroupPlayer) (grp : Group),
      (run groupStep (.initial loaded) es).players guid = some p →
      (run groupStep (.initial loaded) es).groups p.groupInvite = some grp →
      DeclineHonoured (run groupStep (.initial loaded) es) guid p := by
  intro h
  have hhonoured := h [] invitedThird 3 ⟨3, 1, 0, 0⟩ groupOfTwo (by decide +kernel)
    (by decide +kernel)
  obtain ⟨grp', hgrp', hmembers⟩ := hhonoured.1 1 groupOfTwo (by decide +kernel) (by decide)
  have hthird : (((run groupStep (.initial []) invitedThird).handleGroupInviteResponse 3 false).1.groups
      1).map (·.memberSlots.map (·.guid)) = some [1, 2, 3] := by decide +kernel
  rw [hgrp', Option.map_some, hmembers] at hthird
  revert hthird
  decide

end Mangos
