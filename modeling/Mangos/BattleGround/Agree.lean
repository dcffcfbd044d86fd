import Mangos.BattleGround.Queue

/-!
# The structures of the queue agree

The invariant is stated for a team of each group that may run ahead of the one recorded in the group:
in a rated match a group stands in the queue of the other faction before it gets the team of it.
-/

namespace Mangos

open Framework Function

namespace BattleGroundQueue

variable {s s' : BattleGroundQueue} {team team' : Nat → Team} {g : Nat} {place : QueuePlace}

/-- Each queued player is led to a group that holds him and stands once in the lists, in one of its team; each listed
group has players, who are led back to it. -/
structure Agrees (s : BattleGroundQueue) : Prop where
  player : ∀ guid g, s.queuedPlayers.lookup guid = some g →
    ∃ ginfo place, s.groups g = some ginfo ∧ guid ∈ ginfo.players ∧
      OnceAt s.queuedGroups g place ∧ place.type.team = ginfo.groupTeam
  group : ∀ place g, g ∈ s.queuedGroups place → ∃ ginfo, s.groups g = some ginfo ∧ ginfo.players.Nonempty ∧
      ∀ guid ∈ ginfo.players, s.queuedPlayers.lookup guid = some g

/-- The structures agree with `team` for the teams of the groups, and the next group is a new one. -/
structure Placed (team : Nat → Team) (s : BattleGroundQueue) : Prop where
  player : ∀ guid g, s.queuedPlayers.lookup guid = some g →
    ∃ ginfo place, s.groups g = some ginfo ∧ guid ∈ ginfo.players ∧
      OnceAt s.queuedGroups g place ∧ place.type.team = team g
  group : ∀ place g, g ∈ s.queuedGroups place →
    g < s.nextGroup ∧ ∃ ginfo, s.groups g = some ginfo ∧ ginfo.players.Nonempty ∧
      ∀ guid ∈ ginfo.players, s.queuedPlayers.lookup guid = some g

def teamOf (s : BattleGroundQueue) (g : Nat) : Team := (s.groups g).elim .alliance (·.groupTeam)

theorem teamOf_eq {ginfo : GroupQueueInfo} (h : s.groups g = some ginfo) : s.teamOf g = ginfo.groupTeam := by
  rw [teamOf, h, Option.elim_some]

theorem Placed.agrees (h : Placed s.teamOf s) : s.Agrees where
  player guid g hguid := by
    obtain ⟨ginfo, place, hg, hmem, honce, hteam⟩ := h.player guid g hguid
    exact ⟨ginfo, place, hg, hmem, honce, hteam.trans (teamOf_eq hg)⟩
  group place g hmem := (h.group place g hmem).2

theorem placed_empty : Placed empty.teamOf empty where
  player guid g h := by
    rw [empty, AList.lookup_empty] at h
    cases h
  group place g h := by cases h

theorem Placed.once (h : Placed team s) (hg : g ∈ s.queuedGroups place) :
    OnceAt s.queuedGroups g place ∧ place.type.team = team g := by
  obtain ⟨-, ginfo, hginfo, ⟨guid, hguid⟩, hback⟩ := h.group place g hg
  obtain ⟨-, place', -, -, honce, hteam⟩ := h.player guid g (hback guid hguid)
  have hsame := honce.eq_of_mem hg
  subst hsame
  exact ⟨honce, hteam⟩

theorem Placed.nodup (h : Placed team s) (place : QueuePlace) : (s.queuedGroups place).Nodup := by
  apply List.nodup_iff_count_eq_one.mpr
  intro g hg
  rw [(h.once hg).1 place, if_pos rfl]

theorem Placed.transfer (h : Placed team s) (hplayers : s'.queuedPlayers = s.queuedPlayers)
    (hnext : s'.nextGroup = s.nextGroup) (hgroups : ∀ g ginfo, s.groups g = some ginfo →
      ∃ ginfo', s'.groups g = some ginfo' ∧ ginfo'.players = ginfo.players)
    (honce : ∀ g place, OnceAt s.queuedGroups g place → place.type.team = team g →
      ∃ place', OnceAt s'.queuedGroups g place' ∧ place'.type.team = team' g)
    (hmem : ∀ place g, g ∈ s'.queuedGroups place → ∃ place', g ∈ s.queuedGroups place') : Placed team' s' where
  player guid g hguid := by
    rw [hplayers] at hguid
    obtain ⟨ginfo, place, hg, hmem, hplace, hteam⟩ := h.player guid g hguid
    obtain ⟨ginfo', hg', hsame⟩ := hgroups g ginfo hg
    obtain ⟨place', hplace', hteam'⟩ := honce g place hplace hteam
    exact ⟨ginfo', place', hg', hsame ▸ hmem, hplace', hteam'⟩
  group place g hg := by
    obtain ⟨place', hg'⟩ := hmem place g hg
    obtain ⟨hlt, ginfo, hginfo, hnonempty, hback⟩ := h.group place' g hg'
    obtain ⟨ginfo', hginfo', hsame⟩ := hgroups g ginfo hginfo
    refine ⟨hnext ▸ hlt, ginfo', hginfo', hsame ▸ hnonempty, ?_⟩
    intro guid hguid
    rw [hplayers]
    exact hback guid (hsame ▸ hguid)

theorem groups_modifyGroup (s : BattleGroundQueue) (g g' : Nat)
    (change : GroupQueueInfo → GroupQueueInfo) : (s.modifyGroup g change).groups g' =
      if g' = g then (s.groups g').map change else s.groups g' := by
  unfold modifyGroup
  by_cases hg : g' = g
  · subst hg
    rw [if_pos rfl]
    exact update_self _ _ _
  · rw [if_neg hg]
    exact update_of_ne hg _ _

theorem Placed.modifyGroup (h : Placed team s) (change : GroupQueueInfo → GroupQueueInfo)
    (hchange : ∀ ginfo, (change ginfo).players = ginfo.players) (g : Nat) : Placed team (s.modifyGroup g change) := by
  refine h.transfer rfl rfl ?_ ?_ ?_
  · intro g' ginfo hginfo
    rw [groups_modifyGroup]
    split
    · exact ⟨change ginfo, by rw [hginfo]; rfl, hchange ginfo⟩
    · exact ⟨ginfo, hginfo, rfl⟩
  · exact fun g' place honce hteam => ⟨place, honce, hteam⟩
  · exact fun place g' hg' => ⟨place, hg'⟩

theorem Placed.move (h : Placed team s) {i j : QueuePlace} (hg : g ∈ s.queuedGroups i) (hne : i ≠ j) :
    Placed (update team g j.type.team) { s with queuedGroups := Framework.move s.queuedGroups i j g } := by
  refine h.transfer rfl rfl ?_ ?_ ?_
  · exact fun g' ginfo hginfo => ⟨ginfo, hginfo, rfl⟩
  · intro g' place honce hteam
    by_cases hsame : g' = g
    · subst hsame
      exact ⟨j, (h.once hg).1.move hne, by rw [update_self]⟩
    · refine ⟨place, honce.congr (count_move (Ne.symm hsame)), ?_⟩
      rw [update_of_ne hsame]
      exact hteam
  · intro place g' hg'
    by_cases hsame : g' = g
    · exact ⟨i, hsame ▸ hg⟩
    · refine ⟨place, ?_⟩
      rw [← List.count_pos_iff] at hg' ⊢
      rwa [count_move (Ne.symm hsame)] at hg'

theorem foldl_addMember (members : List Nat) {ginfo : GroupQueueInfo} (hg : s.groups g = some ginfo) :
    let filled := members.foldl (addMember g) s
    (∃ ginfo', filled.groups g = some ginfo' ∧ ginfo'.groupTeam = ginfo.groupTeam ∧
      ∀ guid, guid ∈ ginfo'.players ↔ guid ∈ ginfo.players ∨ guid ∈ members) ∧
    (∀ g', g' ≠ g → filled.groups g' = s.groups g') ∧ (∀ guid, filled.queuedPlayers.lookup guid =
      if guid ∈ members then some g else s.queuedPlayers.lookup guid) ∧
    filled.queuedGroups = s.queuedGroups ∧ filled.nextGroup = s.nextGroup := by
  induction members generalizing s ginfo with
  | nil => exact ⟨⟨ginfo, hg, rfl, by simp⟩, fun _ _ => rfl, by simp, rfl, rfl⟩
  | cons member members ih =>
    have hjoined : (addMember g s member).groups g =
        some { ginfo with players := insert member ginfo.players } := by
      rw [addMember, groups_modifyGroup, if_pos rfl, hg]
      rfl
    have hothers : ∀ g', g' ≠ g → (addMember g s member).groups g' = s.groups g' := by
      intro g' hne
      rw [addMember, groups_modifyGroup, if_neg hne]
    obtain ⟨⟨ginfo', hginfo', hteam, hplayers⟩, hrest, hlookup, hlists, hnext⟩ := ih hjoined
    refine ⟨⟨ginfo', hginfo', hteam, ?_⟩, ?_, ?_, hlists, hnext⟩
    · intro guid
      rw [hplayers guid, Finset.mem_insert, List.mem_cons]
      tauto
    · intro g' hne
      exact (hrest g' hne).trans (hothers g' hne)
    · intro guid
      have hinsert : (addMember g s member).queuedPlayers.lookup guid =
          if guid = member then some g else s.queuedPlayers.lookup guid := by
        show (s.queuedPlayers.insert member g).lookup guid = _
        by_cases hguid : guid = member
        · rw [if_pos hguid, hguid, AList.lookup_insert]
        · rw [if_neg hguid, AList.lookup_insert_ne hguid]
      rw [List.foldl_cons, hlookup guid, hinsert]
      by_cases hin : guid ∈ members
      · simp [hin]
      · by_cases hguid : guid = member <;> simp [hin, hguid]

theorem Placed.join (h : Placed s.teamOf s) {ginfo : GroupQueueInfo}
    (hteam : place.type.team = ginfo.groupTeam) (hnonempty : ginfo.players.Nonempty)
    (hnew : ∀ guid ∈ ginfo.players, s.queuedPlayers.lookup guid = none)
    (hplayers : ∀ guid, s'.queuedPlayers.lookup guid =
      if guid ∈ ginfo.players then some s.nextGroup else s.queuedPlayers.lookup guid)
    (hginfo : s'.groups s.nextGroup = some ginfo)
    (hothers : ∀ g, g ≠ s.nextGroup → s'.groups g = s.groups g) (hlists : s'.queuedGroups =
      update s.queuedGroups place (s.queuedGroups place ++ [s.nextGroup]))
    (hnext : s'.nextGroup = s.nextGroup + 1) : Placed s'.teamOf s' := by
  have hnowhere : ∀ place, s.nextGroup ∉ s.queuedGroups place := by
    intro place hmem
    exact absurd (h.group place _ hmem).1 (Nat.lt_irrefl _)
  constructor
  · intro guid g hguid
    rw [hplayers guid] at hguid
    split at hguid
    next hmem =>
      cases hguid
      refine ⟨ginfo, place, hginfo, hmem, ?_, hteam.trans (teamOf_eq hginfo).symm⟩
      rw [hlists]
      exact onceAt_concat hnowhere
    next hmem =>
      obtain ⟨ginfo', place', hg, hin, honce, hplace⟩ := h.player guid g hguid
      have hne : g ≠ s.nextGroup := by
        rintro rfl
        exact hnowhere place' honce.mem
      have hg' : s'.groups g = some ginfo' := (hothers g hne).trans hg
      refine ⟨ginfo', place', hg', hin, ?_, ?_⟩
      · rw [hlists]
        exact honce.congr (count_concat_shelf hne.symm)
      · rw [hplace, teamOf_eq hg, teamOf_eq hg']
  · intro place' g hg
    by_cases hsame : g = s.nextGroup
    · subst hsame
      refine ⟨by omega, ginfo, hginfo, hnonempty, fun guid hguid => ?_⟩
      rw [hplayers guid, if_pos hguid]
    · have hold : g ∈ s.queuedGroups place' := by
        rw [hlists] at hg
        rw [← List.count_pos_iff] at hg ⊢
        rwa [count_concat_shelf (Ne.symm hsame)] at hg
      obtain ⟨hlt, ginfo', hginfo', hnonempty', hback⟩ := h.group place' g hold
      refine ⟨by omega, ginfo', (hothers g hsame).trans hginfo', hnonempty', fun guid hguid => ?_⟩
      have hqueued := hback guid hguid
      have hnot : guid ∉ ginfo.players := by
        intro hmem
        rw [hnew guid hmem] at hqueued
        cases hqueued
      rw [hplayers guid, if_neg hnot, hqueued]

theorem placed_addGroup (h : Placed s.teamOf s) (bracketId : Fin maxBattlegroundBrackets)
    (party : QueueParty) (hnew : ∀ guid ∈ party.members, s.queuedPlayers.lookup guid = none)
    (isRated isPremade : Bool) (joinTime arenaRating arenaTeamId : Nat) :
    Placed (s.addGroup bracketId party isRated isPremade joinTime arenaRating arenaTeamId).teamOf
      (s.addGroup bracketId party isRated isPremade joinTime arenaRating arenaTeamId) := by
  let start : GroupQueueInfo :=
    { players := ∅, groupTeam := party.team, isRated, arenaTeamId, joinTime, removeInviteTime := 0,
      isInvitedToBGInstanceGUID := 0, arenaTeamRating := arenaRating, opponentsTeamRating := 0 }
  let created : BattleGroundQueue :=
    { s with groups := update s.groups s.nextGroup (some start), nextGroup := s.nextGroup + 1 }
  have hcreated : created.groups s.nextGroup = some start := update_self _ _ _
  obtain ⟨⟨ginfo, hginfo, hteam, hplayers⟩, hothers, hlookup, hlists, hnext⟩ :=
    foldl_addMember party.members hcreated
  have hmembers : ∀ guid, guid ∈ ginfo.players ↔ guid ∈ party.members := by
    intro guid
    rw [hplayers guid]
    simp [start]
  have hteam' : (QueuePlace.mk bracketId
      (if !isRated && !isPremade then .normal party.team else .premade party.team)).type.team =
      ginfo.groupTeam := by
    rw [hteam]
    dsimp only
    split
    · exact QueueGroupType.team_normal _
    · exact QueueGroupType.team_premade _
  refine h.join hteam' ?_ ?_ ?_ hginfo ?_ ?_ hnext
  · exact ⟨party.leader, (hmembers _).mpr party.leader_mem_members⟩
  · exact fun guid hguid => hnew guid ((hmembers guid).mp hguid)
  · intro guid
    simp only [hmembers]
    exact hlookup guid
  · intro g hne
    exact (hothers g hne).trans (update_of_ne hne _ _)
  · show update _ _ _ = _
    rw [hlists]

theorem findGroup_mem {group : Nat} {t : Team} (h : s.findGroup group t = some place) :
    group ∈ s.queuedGroups place := by
  obtain ⟨bracketId, -, hfound⟩ := List.exists_of_findSome?_eq_some h
  split at hfound
  next hmem =>
    cases hfound
    exact hmem
  split at hfound
  next hmem =>
    cases hfound
    exact hmem
  · cases hfound

theorem lookup_leaveGroup (s : BattleGroundQueue) (guid g guid' : Nat) :
    (s.leaveGroup guid g).queuedPlayers.lookup guid' =
      if guid' = guid then none else s.queuedPlayers.lookup guid' := by
  show (s.queuedPlayers.erase guid).lookup guid' = _
  by_cases hguid : guid' = guid
  · rw [if_pos hguid, hguid, AList.lookup_erase]
  · rw [if_neg hguid, AList.lookup_erase_ne hguid]

theorem groups_leaveGroup (s : BattleGroundQueue) (guid g g' : Nat) : (s.leaveGroup guid g).groups g' =
      if g' = g then (s.groups g').map fun ginfo =>
        { ginfo with players := ginfo.players.erase guid } else s.groups g' :=
  groups_modifyGroup _ g g' _

theorem placed_leaveGroup (h : Placed s.teamOf s) {guid : Nat} {ginfo : GroupQueueInfo}
    (hguid : s.queuedPlayers.lookup guid = some g) (hg : s.groups g = some ginfo)
    (hrest : (ginfo.players.erase guid).Nonempty) : Placed (s.leaveGroup guid g).teamOf (s.leaveGroup guid g) := by
  have hleft : (s.leaveGroup guid g).groups g = some { ginfo with players := ginfo.players.erase guid } := by
    rw [groups_leaveGroup, if_pos rfl, hg]
    rfl
  have hothers : ∀ g', g' ≠ g → (s.leaveGroup guid g).groups g' = s.groups g' := by
    intro g' hne
    rw [groups_leaveGroup, if_neg hne]
  have hteam : ∀ g', (s.leaveGroup guid g).teamOf g' = s.teamOf g' := by
    intro g'
    by_cases hsame : g' = g
    · subst hsame
      rw [teamOf_eq hleft, teamOf_eq hg]
    · rw [teamOf, teamOf, hothers g' hsame]
  constructor
  · intro guid' g' hguid'
    rw [lookup_leaveGroup] at hguid'
    split at hguid'
    · cases hguid'
    next hne =>
      obtain ⟨ginfo', place, hg', hmem, honce, hplace⟩ := h.player guid' g' hguid'
      rw [← hteam] at hplace
      by_cases hsame : g' = g
      · subst hsame
        rw [hg, Option.some.injEq] at hg'
        subst hg'
        exact ⟨_, place, hleft, Finset.mem_erase.mpr ⟨hne, hmem⟩, honce, hplace⟩
      · exact ⟨ginfo', place, (hothers g' hsame).trans hg', hmem, honce, hplace⟩
  · intro place g' hmem
    obtain ⟨hlt, ginfo', hg', hnonempty, hback⟩ := h.group place g' hmem
    refine ⟨hlt, ?_⟩
    by_cases hsame : g' = g
    · subst hsame
      rw [hg, Option.some.injEq] at hg'
      subst hg'
      refine ⟨_, hleft, hrest, fun guid' hguid' => ?_⟩
      obtain ⟨hne, hin⟩ := Finset.mem_erase.mp hguid'
      rw [lookup_leaveGroup, if_neg hne, hback guid' hin]
    · refine ⟨ginfo', (hothers g' hsame).trans hg', hnonempty, fun guid' hguid' => ?_⟩
      have hne : guid' ≠ guid := by
        rintro rfl
        rw [hback guid' hguid', Option.some.injEq] at hguid
        exact hsame hguid
      rw [lookup_leaveGroup, if_neg hne, hback guid' hguid']

theorem placed_deleteGroup (h : Placed s.teamOf s) {guid : Nat} {ginfo : GroupQueueInfo}
    (hguid : s.queuedPlayers.lookup guid = some g) (hg : s.groups g = some ginfo)
    (hrest : ginfo.players.erase guid = ∅) (hplace : g ∈ s.queuedGroups place) :
    Placed ((s.leaveGroup guid g).deleteGroup place g).teamOf ((s.leaveGroup guid g).deleteGroup place g) := by
  have hothers : ∀ g', g' ≠ g → ((s.leaveGroup guid g).deleteGroup place g).groups g' = s.groups g' := by
    intro g' hne
    refine (update_of_ne hne _ _).trans ?_
    rw [groups_leaveGroup, if_neg hne]
  have hteam : ∀ g', g' ≠ g → ((s.leaveGroup guid g).deleteGroup place g).teamOf g' = s.teamOf g' := by
    intro g' hne
    rw [teamOf, teamOf, hothers g' hne]
  constructor
  · intro guid' g' hguid'
    have hlookup := lookup_leaveGroup s guid g guid'
    rw [show (s.leaveGroup guid g).queuedPlayers.lookup guid' = some g' from hguid'] at hlookup
    split at hlookup
    · cases hlookup
    next hne =>
      obtain ⟨ginfo', place', hg', hmem, honce, hplace'⟩ := h.player guid' g' hlookup.symm
      have hsame : g' ≠ g := by
        rintro rfl
        rw [hg, Option.some.injEq] at hg'
        subst hg'
        have hstays := Finset.mem_erase.mpr ⟨hne, hmem⟩
        rw [hrest] at hstays
        exact Finset.notMem_empty guid' hstays
      rw [← hteam g' hsame] at hplace'
      exact ⟨ginfo', place', (hothers g' hsame).trans hg', hmem, honce.congr (count_erase_shelf hsame.symm), hplace'⟩
  · intro place' g' hmem
    have hsame : g' ≠ g := by
      rintro rfl
      exact (h.once hplace).1.not_mem_erase place' hmem
    have hold : g' ∈ s.queuedGroups place' := by
      rw [← List.count_pos_iff] at hmem ⊢
      rwa [← count_erase_shelf hsame.symm]
    obtain ⟨hlt, ginfo', hg', hnonempty, hback⟩ := h.group place' g' hold
    refine ⟨hlt, ginfo', (hothers g' hsame).trans hg', hnonempty, fun guid' hguid' => ?_⟩
    have hne : guid' ≠ guid := by
      rintro rfl
      rw [hback guid' hguid', Option.some.injEq] at hguid
      exact hsame hguid
    have hlookup := lookup_leaveGroup s guid g guid'
    rw [if_neg hne, hback guid' hguid'] at hlookup
    exact hlookup

private theorem nonempty_of_sort_head {players : Finset Nat} {next : Nat}
    (h : (players.sort (· ≤ ·)).head? = some next) : players.Nonempty :=
  ⟨next, (Finset.mem_sort _).mp (List.mem_of_head? h)⟩

private theorem eq_empty_of_sort_head {players : Finset Nat}
    (h : (players.sort (· ≤ ·)).head? = none) : players = ∅ := by
  have hnil := List.head?_eq_none_iff.mp h
  rw [← Finset.card_eq_zero, ← Finset.length_sort (· ≤ ·), hnil, List.length_nil]

theorem placed_removePlayer (h : Placed s.teamOf s) (guid : Nat) :
    Placed (s.removePlayer guid).teamOf (s.removePlayer guid) := by
  fun_induction removePlayer s guid with
  | case1 s guid hnone => exact h
  | case2 s guid g hguid hg => exact h
  | case3 s guid g hguid ginfo hg hplace => exact h
  | case4 s guid g hguid ginfo hg place hplace left hempty =>
    exact placed_deleteGroup h hguid hg (eq_empty_of_sort_head hempty) (findGroup_mem hplace)
  | case5 s guid g hguid ginfo hg place hplace left next hnext hrated ih =>
    exact ih (placed_leaveGroup h hguid hg (nonempty_of_sort_head hnext))
  | case6 s guid g hguid ginfo hg place hplace left next hnext hrated =>
    exact placed_leaveGroup h hguid hg (nonempty_of_sort_head hnext)

theorem teamOf_modifyGroup {change : GroupQueueInfo → GroupQueueInfo} {ginfo : GroupQueueInfo}
    {t : Team} (hg : s.groups g = some ginfo) (hchange : (change ginfo).groupTeam = t) :
    (s.modifyGroup g change).teamOf = update s.teamOf g t := by
  funext g'
  by_cases hsame : g' = g
  · subst hsame
    rw [update_self, teamOf, groups_modifyGroup, if_pos rfl, hg, Option.map_some, Option.elim_some, hchange]
  · rw [update_of_ne hsame, teamOf, groups_modifyGroup, if_neg hsame, teamOf]

theorem Placed.inviteGroupToBG (h : Placed team s) (g : Nat) (side : Option Team)
    (instanceId removeInviteTime : Nat) : Placed team (s.inviteGroupToBG g side instanceId removeInviteTime) := by
  apply h.modifyGroup
  intro ginfo
  cases side <;> dsimp only <;> split <;> rfl

theorem teamOf_inviteGroupToBG {ginfo : GroupQueueInfo} (hg : s.groups g = some ginfo) (t : Team)
    (instanceId removeInviteTime : Nat) :
    (s.inviteGroupToBG g (some t) instanceId removeInviteTime).teamOf = update s.teamOf g t := by
  apply teamOf_modifyGroup hg
  dsimp only
  split <;> rfl

theorem placed_inviteGroupToBG (h : Placed s.teamOf s) (g instanceId removeInviteTime : Nat) :
    let s' := s.inviteGroupToBG g ((s.groups g).map (·.groupTeam)) instanceId removeInviteTime
    Placed s'.teamOf s' := by
  intro s'
  have hplaced : Placed s.teamOf s' := h.inviteGroupToBG g _ instanceId removeInviteTime
  have hteam : s'.teamOf = s.teamOf := by
    cases hg : s.groups g with
    | none =>
      funext g'
      have hsame : s'.groups g' = s.groups g' := by
        refine (groups_modifyGroup s g g' _).trans ?_
        split
        next heq => rw [heq, hg, Option.map_none]
        · rfl
      rw [teamOf, teamOf, hsame]
    | some ginfo =>
      have hset : s' = s.inviteGroupToBG g (some ginfo.groupTeam) instanceId removeInviteTime := by
        simp only [s', hg, Option.map_some]
      rw [hset, teamOf_inviteGroupToBG hg, ← teamOf_eq hg, update_eq_self]
  rwa [hteam]

end BattleGroundQueue

end Mangos
