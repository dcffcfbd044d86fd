import Mangos.BattleGround.Agree
import Mangos.BattleGround.Match
import Mangos.Framework.Run

/-!
# Moving groups between the lists

The moves that get a match together keep the structures of the queue in agreement, and so does every
run of the queue.
-/

namespace Mangos

open Framework Function

namespace BattleGroundQueue

variable {s : BattleGroundQueue} {team : Nat → Team} {g : Nat}

theorem placed_movePremade (h : Placed s.teamOf s) (bracketId : Fin maxBattlegroundBrackets)
    (minPlayers timeBefore : Nat) (t : Team) : Placed (movePremade bracketId minPlayers timeBefore s t).teamOf
      (movePremade bracketId minPlayers timeBefore s t) := by
  unfold movePremade
  split
  · exact h
  next g groups hlist =>
    have hg : g ∈ s.queuedGroups ⟨bracketId, .premade t⟩ := by
      rw [hlist]
      exact List.mem_cons_self
    have hne : (⟨bracketId, .premade t⟩ : QueuePlace) ≠ ⟨bracketId, .normal t⟩ := by
      intro heq
      exact QueueGroupType.premade_ne_normal t t (congrArg QueuePlace.type heq)
    have hteam : (QueueGroupType.normal t).team = s.teamOf g := by
      rw [QueueGroupType.team_normal, ← (h.once hg).2, QueueGroupType.team_premade]
    split
    · exact h
    · split
      · have hmoved := h.move hg hne
        rw [hteam, update_eq_self] at hmoved
        exact hmoved
      · exact h

theorem placed_checkPremadeMatch (h : Placed s.teamOf s)
    (bracketId : Fin maxBattlegroundBrackets) (minPlayers maxPlayers timeBefore : Nat) :
    let s' := (s.checkPremadeMatch bracketId minPlayers maxPlayers timeBefore).1
    Placed s'.teamOf s' := by
  unfold checkPremadeMatch
  dsimp only
  split
  · exact h
  · exact placed_movePremade (placed_movePremade h bracketId minPlayers timeBefore .alliance)
      bracketId minPlayers timeBefore .horde

/-- What comes after `ginfo` in a list. -/
def behind (ginfo : Nat) (groups : List Nat) : List Nat := (groups.dropWhile (· ≠ ginfo)).tail

theorem behind_sublist (ginfo : Nat) (groups : List Nat) : (behind ginfo groups).Sublist groups :=
  (List.tail_sublist _).trans (List.dropWhile_sublist _)

theorem behind_cons_self (ginfo : Nat) (groups : List Nat) : behind ginfo (ginfo :: groups) = groups := by
  simp [behind]

theorem behind_cons_of_ne {ginfo first : Nat} (h : first ≠ ginfo) (groups : List Nat) :
    behind ginfo (first :: groups) = behind ginfo groups := by
  simp [behind, h]

theorem ne_of_mem_behind {ginfo g : Nat} {groups : List Nat} (hnodup : groups.Nodup)
    (h : g ∈ behind ginfo groups) : g ≠ ginfo := by
  induction groups with
  | nil => cases h
  | cons first groups ih =>
    rw [List.nodup_cons] at hnodup
    by_cases hfirst : first = ginfo
    · subst hfirst
      rw [behind_cons_self] at h
      rintro rfl
      exact hnodup.1 h
    · rw [behind_cons_of_ne hfirst] at h
      exact ih hnodup.2 h

theorem behind_eraseAfter (ginfo g : Nat) (groups : List Nat) :
    behind ginfo (eraseAfter ginfo g groups) = (behind ginfo groups).erase g := by
  induction groups with
  | nil => rfl
  | cons first groups ih =>
    rw [eraseAfter]
    by_cases hfirst : first = ginfo
    · rw [if_pos hfirst, hfirst, behind_cons_self, behind_cons_self]
    · rw [if_neg hfirst, behind_cons_of_ne hfirst, behind_cons_of_ne hfirst, ih]

theorem eraseAfter_eq_erase {ginfo g : Nat} {groups : List Nat} (hnodup : groups.Nodup)
    (h : g ∈ behind ginfo groups) : eraseAfter ginfo g groups = groups.erase g := by
  induction groups with
  | nil => rfl
  | cons first groups ih =>
    have hin : g ∈ groups := by
      by_cases hfirst : first = ginfo
      · subst hfirst
        rwa [behind_cons_self] at h
      · rw [behind_cons_of_ne hfirst] at h
        exact (behind_sublist ginfo groups).subset h
    rw [List.nodup_cons] at hnodup
    have hne : first ≠ g := by
      rintro rfl
      exact hnodup.1 hin
    rw [eraseAfter, List.erase_cons_tail (by simpa using hne)]
    by_cases hfirst : first = ginfo
    · rw [if_pos hfirst]
    · rw [behind_cons_of_ne hfirst] at h
      rw [if_neg hfirst, ih hnodup.2 h]

theorem addToPool_cases (s : BattleGroundQueue) (pool : SelectionPool) (g desiredCount : Nat) :
    (s.addToPool pool g desiredCount).1 = pool ∨
      ∃ ginfo, s.groups g = some ginfo ∧ ginfo.isInvitedToBGInstanceGUID = 0 ∧
        pool.playerCount + ginfo.players.card ≤ desiredCount ∧ s.addToPool pool g desiredCount =
          (⟨pool.selectedGroups ++ [g], pool.playerCount + ginfo.players.card⟩, true) := by
  cases hg : s.groups g with
  | none => exact .inl (by simp [addToPool, hg])
  | some ginfo =>
    by_cases hroom : ginfo.isInvitedToBGInstanceGUID = 0 ∧ pool.playerCount + ginfo.players.card ≤ desiredCount
    · exact .inr ⟨ginfo, rfl, hroom.1, hroom.2, by simp [addToPool, hg, hroom]⟩
    · exact .inl (by simp [addToPool, hg, hroom])

theorem fillPool_sublist (s : BattleGroundQueue) (desiredCount : Nat) (pool : SelectionPool) (groups : List Nat) :
    ∃ added, (s.fillPool desiredCount pool groups).selectedGroups = pool.selectedGroups ++ added ∧
      added.Sublist groups := by
  induction groups generalizing pool with
  | nil => exact ⟨[], by simp [fillPool], List.Sublist.refl _⟩
  | cons g groups ih =>
    have hadd : (s.addToPool pool g desiredCount).1.selectedGroups = pool.selectedGroups ∨
        (s.addToPool pool g desiredCount).1.selectedGroups = pool.selectedGroups ++ [g] := by
      cases s.addToPool_cases pool g desiredCount with
      | inl hsame => exact .inl (by rw [hsame])
      | inr hadded =>
        obtain ⟨ginfo, -, -, -, hpool⟩ := hadded
        exact .inr (by rw [hpool])
    rw [fillPool]
    split
    · dsimp only
      split
      · obtain ⟨added, hselected, hsub⟩ := ih (s.addToPool pool g desiredCount).1
        rcases hadd with hsame | hpushed
        · exact ⟨added, by rw [hselected, hsame], hsub.cons g⟩
        · exact ⟨g :: added, by rw [hselected, hpushed, List.append_assoc]; rfl, hsub.cons_cons g⟩
      · rcases hadd with hsame | hpushed
        · exact ⟨[], by rw [hsame, List.append_nil], List.nil_sublist _⟩
        · exact ⟨[g], hpushed, (List.nil_sublist _).cons_cons g⟩
    · obtain ⟨added, hselected, hsub⟩ := ih pool
      exact ⟨added, hselected, hsub.cons g⟩

theorem placed_splitGroup (h : Placed s.teamOf s) {bracketId : Fin maxBattlegroundBrackets}
    {t : Team} {ginfo : Nat} (hg : g ∈ behind ginfo (s.queuedGroups ⟨bracketId, .normal t⟩)) :
    Placed (splitGroup bracketId t ginfo s g).teamOf (splitGroup bracketId t ginfo s g) ∧
      behind ginfo ((splitGroup bracketId t ginfo s g).queuedGroups ⟨bracketId, .normal t⟩) =
        (behind ginfo (s.queuedGroups ⟨bracketId, .normal t⟩)).erase g := by
  have hne : (⟨bracketId, .normal t⟩ : QueuePlace) ≠ ⟨bracketId, .normal t.other⟩ := by
    intro heq
    have htype := congrArg QueuePlace.type heq
    cases t <;> cases htype
  have hin := (behind_sublist ginfo _).subset hg
  have hpushed : update s.queuedGroups ⟨bracketId, .normal t.other⟩
      (g :: s.queuedGroups ⟨bracketId, .normal t.other⟩) ⟨bracketId, .normal t⟩ =
      s.queuedGroups ⟨bracketId, .normal t⟩ := update_of_ne hne _ _
  have hlists : (splitGroup bracketId t ginfo s g).queuedGroups =
      move s.queuedGroups ⟨bracketId, .normal t⟩ ⟨bracketId, .normal t.other⟩ g := by
    simp only [splitGroup, move, hpushed, eraseAfter_eq_erase (h.nodup _) hg]
  obtain ⟨-, info, hinfo, -⟩ := h.group _ g hin
  have hmoved := (h.move hin hne).modifyGroup
    (fun ginfo => { ginfo with groupTeam := t.other }) (fun _ => rfl) g
  have hsplit : splitGroup bracketId t ginfo s g = ({ s with
      queuedGroups := move s.queuedGroups ⟨bracketId, .normal t⟩ ⟨bracketId, .normal t.other⟩ g } :
        BattleGroundQueue).modifyGroup g fun ginfo => { ginfo with groupTeam := t.other } := by
    rw [← hlists]
    rfl
  have hteam : (splitGroup bracketId t ginfo s g).teamOf = update s.teamOf g t.other :=
    teamOf_modifyGroup (s := s) hinfo rfl
  refine ⟨?_, ?_⟩
  · rw [hteam, hsplit]
    rw [QueueGroupType.team_normal] at hmoved
    exact hmoved
  · rw [hlists, ← behind_eraseAfter, eraseAfter_eq_erase (h.nodup _) hg, move, update_self, hpushed]

theorem placed_splitGroups {bracketId : Fin maxBattlegroundBrackets} {t : Team} {ginfo : Nat}
    {selected : List Nat} (h : Placed s.teamOf s) (hnodup : selected.Nodup)
    (hbehind : ∀ g ∈ selected, g ∈ behind ginfo (s.queuedGroups ⟨bracketId, .normal t⟩)) :
    Placed (selected.foldl (splitGroup bracketId t ginfo) s).teamOf
      (selected.foldl (splitGroup bracketId t ginfo) s) := by
  induction selected generalizing s with
  | nil => exact h
  | cons g selected ih =>
    rw [List.nodup_cons] at hnodup
    obtain ⟨hplaced, hrest⟩ := placed_splitGroup h (hbehind g List.mem_cons_self)
    apply ih hplaced hnodup.2
    intro g' hg'
    have hne : g' ≠ g := by
      rintro rfl
      exact hnodup.1 hg'
    rw [hrest]
    exact (List.mem_erase_of_ne hne).mpr (hbehind g' (List.mem_cons_of_mem g hg'))

theorem placed_checkSkirmish (h : Placed s.teamOf s) (bracketId : Fin maxBattlegroundBrackets)
    (pools : Team → SelectionPool) (minPlayers : Nat) :
    let s' := (s.checkSkirmishForSameFaction bracketId pools minPlayers).1
    Placed s'.teamOf s' := by
  unfold checkSkirmishForSameFaction
  dsimp only
  split
  · exact h
  · generalize (if (pools .horde).playerCount = minPlayers then Team.horde else .alliance) = t
    split
    · exact h
    next ginfo _ =>
      split
      · exact h
      · split
        · exact h
        · obtain ⟨added, hselected, hsub⟩ := fillPool_sublist s minPlayers .init
            (behind ginfo (s.queuedGroups ⟨bracketId, .normal t⟩))
          have hadded : (s.fillPool minPlayers .init
              (behind ginfo (s.queuedGroups ⟨bracketId, .normal t⟩))).selectedGroups = added :=
            hselected
          have hnodup := hsub.nodup ((behind_sublist ginfo _).nodup (h.nodup _))
          have hplaced := placed_splitGroups h hnodup fun g hg => hsub.subset hg
          rw [← hadded] at hplaced
          exact hplaced

private theorem mem_of_filter_find {eligible fits : Nat → Bool} {groups : List Nat}
    (h : (groups.find? eligible).filter fits = some g) : g ∈ groups := by
  obtain ⟨hfound, -⟩ := Option.filter_eq_some_iff.mp h
  exact List.mem_of_find?_eq_some hfound

theorem ratedTeams_mem (h : Placed team s) {bracketId : Fin maxBattlegroundBrackets}
    {eligible : Nat → Bool} {maxPlayers ali horde : Nat}
    (hteams : s.ratedTeams bracketId eligible maxPlayers = some (ali, horde)) :
    (∃ t, ali ∈ s.queuedGroups ⟨bracketId, .premade t⟩) ∧
      (∃ t, horde ∈ s.queuedGroups ⟨bracketId, .premade t⟩) ∧ ali ≠ horde := by
  unfold ratedTeams at hteams
  dsimp only at hteams
  split at hteams
  next a b hali hhorde =>
    cases hteams
    have hali' := mem_of_filter_find hali
    have hhorde' := mem_of_filter_find hhorde
    refine ⟨⟨.alliance, hali'⟩, ⟨.horde, hhorde'⟩, ?_⟩
    rintro rfl
    have hsame := (h.once hali').1.eq_of_mem hhorde'
    cases hsame
  next b hali hhorde =>
    obtain ⟨a, hnext, hpair⟩ := Option.map_eq_some_iff.mp hteams
    cases hpair
    have hbehind : ali ∈ behind horde (s.queuedGroups ⟨bracketId, .premade .horde⟩) :=
      mem_of_filter_find hnext
    exact ⟨⟨.horde, (behind_sublist _ _).subset hbehind⟩, ⟨.horde, mem_of_filter_find hhorde⟩,
      ne_of_mem_behind (h.nodup _) hbehind⟩
  next a hali hhorde =>
    obtain ⟨b, hnext, hpair⟩ := Option.map_eq_some_iff.mp hteams
    cases hpair
    have hbehind : horde ∈ behind ali (s.queuedGroups ⟨bracketId, .premade .alliance⟩) :=
      mem_of_filter_find hnext
    exact ⟨⟨.alliance, mem_of_filter_find hali⟩, ⟨.alliance, (behind_sublist _ _).subset hbehind⟩,
      (ne_of_mem_behind (h.nodup _) hbehind).symm⟩
  · cases hteams

theorem Placed.moveRated (h : Placed team s) {bracketId : Fin maxBattlegroundBrackets} {t' : Team}
    (hg : g ∈ s.queuedGroups ⟨bracketId, .premade t'⟩) (hteam : s.teamOf g = team g) (t : Team) :
    Placed (update team g t) (s.moveRated bracketId t g) := by
  have hown : t' = team g := by
    rw [← (h.once hg).2, QueueGroupType.team_premade]
  obtain ⟨-, ginfo, hginfo, -⟩ := h.group _ g hg
  rw [teamOf_eq hginfo, ← hown] at hteam
  simp only [BattleGroundQueue.moveRated, hginfo, hteam]
  split
  next hother =>
    have hother' : t.other = t' := by
      cases t <;> cases t' <;> first | rfl | exact absurd rfl hother
    have hne : (⟨bracketId, .premade t'⟩ : QueuePlace) ≠ ⟨bracketId, .premade t⟩ := by
      intro heq
      have htype := congrArg (fun place => place.type.team) heq
      simp only [QueueGroupType.team_premade] at htype
      exact hother htype
    have hmoved := h.move hg hne
    rw [hother']
    rwa [QueueGroupType.team_premade] at hmoved
  next hsame =>
    rw [not_not] at hsame
    rw [← hsame, hown, update_eq_self]
    exact h

theorem groups_moveRated (s : BattleGroundQueue) (bracketId : Fin maxBattlegroundBrackets)
    (t : Team) (g : Nat) : (s.moveRated bracketId t g).groups = s.groups := by
  unfold moveRated
  split
  · rfl
  · split <;> rfl

theorem mem_moveRated {bracketId : Fin maxBattlegroundBrackets} {t : Team} {g' : Nat}
    {place : QueuePlace} (hne : g ≠ g') (h : g' ∈ s.queuedGroups place) :
    g' ∈ (s.moveRated bracketId t g).queuedGroups place := by
  unfold moveRated
  split
  · exact h
  · split
    · apply List.count_pos_iff.mp
      show 0 < (move s.queuedGroups _ _ g place).count g'
      rw [count_move hne]
      exact List.count_pos_iff.mpr h
    · exact h

theorem placed_startRated (h : Placed s.teamOf s) {bracketId : Fin maxBattlegroundBrackets}
    {ali horde : Nat} {t t' : Team} (hali : ali ∈ s.queuedGroups ⟨bracketId, .premade t⟩)
    (hhorde : horde ∈ s.queuedGroups ⟨bracketId, .premade t'⟩) (hne : ali ≠ horde) (instanceId removeInviteTime : Nat) :
    let s' := s.startRated bracketId ali horde instanceId removeInviteTime
    Placed s'.teamOf s' := by
  unfold startRated
  dsimp only
  generalize (s.groups ali).elim 0 (·.arenaTeamRating) = aliRating
  generalize (s.groups horde).elim 0 (·.arenaTeamRating) = hordeRating
  let rated := (s.modifyGroup ali fun ginfo =>
    { ginfo with opponentsTeamRating := hordeRating }).modifyGroup horde fun ginfo =>
      { ginfo with opponentsTeamRating := aliRating }
  have hrated : Placed s.teamOf rated := by
    have hali' := h.modifyGroup (fun ginfo =>
      { ginfo with opponentsTeamRating := hordeRating }) (fun _ => rfl) ali
    exact hali'.modifyGroup (fun ginfo =>
      { ginfo with opponentsTeamRating := aliRating }) (fun _ => rfl) horde
  have hsame : rated.teamOf = s.teamOf := by
    obtain ⟨-, ginfo, hginfo, -⟩ := h.group _ ali hali
    obtain ⟨-, ginfo', hginfo', -⟩ := (h.modifyGroup (fun ginfo =>
      { ginfo with opponentsTeamRating := hordeRating }) (fun _ => rfl) ali).group _ horde hhorde
    rw [teamOf_modifyGroup hginfo' rfl, ← teamOf_eq hginfo', update_eq_self,
      teamOf_modifyGroup hginfo rfl, ← teamOf_eq hginfo, update_eq_self]
  let movedAli := rated.moveRated bracketId .alliance ali
  have hmovedAli : Placed (update s.teamOf ali .alliance) movedAli :=
    hrated.moveRated hali (by rw [hsame]) .alliance
  have hhorde' : horde ∈ movedAli.queuedGroups ⟨bracketId, .premade t'⟩ :=
    mem_moveRated hne hhorde
  have hgroups : (movedAli.moveRated bracketId .horde horde).groups = rated.groups := by
    rw [groups_moveRated, groups_moveRated]
  have hmoved : Placed (update (update s.teamOf ali .alliance) horde .horde)
      (movedAli.moveRated bracketId .horde horde) := by
    refine hmovedAli.moveRated hhorde' ?_ .horde
    rw [update_of_ne hne.symm, ← hsame, teamOf, teamOf, groups_moveRated]
  obtain ⟨-, aliInfo, haliInfo, -⟩ := hrated.group _ ali hali
  have hinvited := hmoved.inviteGroupToBG ali (some .alliance) instanceId removeInviteTime
  obtain ⟨-, hordeInfo, hhordeInfo, -⟩ := hrated.group _ horde hhorde
  have hstays : ((movedAli.moveRated bracketId .horde horde).inviteGroupToBG ali (some .alliance)
      instanceId removeInviteTime).groups horde = some hordeInfo := by
    refine (groups_modifyGroup _ ali horde _).trans ?_
    rw [if_neg hne.symm, hgroups, hhordeInfo]
  have hteam : (((movedAli.moveRated bracketId .horde horde).inviteGroupToBG ali (some .alliance)
      instanceId removeInviteTime).inviteGroupToBG horde (some .horde) instanceId
      removeInviteTime).teamOf = update (update s.teamOf ali .alliance) horde .horde := by
    rw [teamOf_inviteGroupToBG hstays, teamOf_inviteGroupToBG (hgroups ▸ haliInfo), ← hsame]
    congr 2
    funext g'
    rw [teamOf, teamOf, hgroups]
  have hfinal := hinvited.inviteGroupToBG horde (some .horde) instanceId removeInviteTime
  rw [← hteam] at hfinal
  exact hfinal

theorem placed_updateRated (h : Placed s.teamOf s) (bracketId : Fin maxBattlegroundBrackets)
    (arenaRating maxRatingDifference : Nat) (discardTime : Int) (maxPlayers : Nat)
    (arena : Option Nat) (removeInviteTime : Nat) :
    let s' := s.updateRated bracketId arenaRating maxRatingDifference discardTime maxPlayers arena
      removeInviteTime
    Placed s'.teamOf s' := by
  unfold updateRated
  split
  · exact h
  · dsimp only
    split
    next ali horde instanceId hteams =>
      obtain ⟨⟨t, hali⟩, ⟨t', hhorde⟩, hne⟩ := ratedTeams_mem h hteams
      exact placed_startRated h hali hhorde hne instanceId removeInviteTime
    · exact h

end BattleGroundQueue

def JoinsNew (s : BattleGroundQueue) : QueueEvent → Prop
  | .addGroup _ party _ _ _ _ _ => ∀ guid ∈ party.members, s.queuedPlayers.lookup guid = none
  | _ => True

instance (s : BattleGroundQueue) : ∀ e, Decidable (JoinsNew s e)
  | .addGroup _ party _ _ _ _ _ =>
    inferInstanceAs (Decidable (∀ guid ∈ party.members, s.queuedPlayers.lookup guid = none))
  | .removePlayer _ => .isTrue trivial
  | .inviteGroupToBG _ _ _ => .isTrue trivial
  | .checkPremadeMatch _ _ _ _ => .isTrue trivial
  | .checkSkirmish _ _ _ _ => .isTrue trivial
  | .updateRated _ _ _ _ _ _ _ => .isTrue trivial

theorem placed_queueStep (s : BattleGroundQueue) (e : QueueEvent) (hnew : JoinsNew s e)
    (h : BattleGroundQueue.Placed s.teamOf s) : BattleGroundQueue.Placed (queueStep s e).teamOf (queueStep s e) := by
  cases e with
  | addGroup bracketId party isRated isPremade joinTime arenaRating arenaTeamId =>
    exact BattleGroundQueue.placed_addGroup h bracketId party hnew isRated isPremade joinTime
      arenaRating arenaTeamId
  | removePlayer guid => exact BattleGroundQueue.placed_removePlayer h guid
  | inviteGroupToBG g instanceId removeInviteTime =>
    exact BattleGroundQueue.placed_inviteGroupToBG h g instanceId removeInviteTime
  | checkPremadeMatch bracketId minPlayers maxPlayers timeBefore =>
    exact BattleGroundQueue.placed_checkPremadeMatch h bracketId minPlayers maxPlayers timeBefore
  | checkSkirmish bracketId minPlayers maxPlayers invitationType =>
    exact BattleGroundQueue.placed_checkSkirmish h bracketId _ minPlayers
  | updateRated bracketId arenaRating maxRatingDifference discardTime maxPlayers arena
      removeInviteTime =>
      exact BattleGroundQueue.placed_updateRated h bracketId arenaRating maxRatingDifference
        discardTime maxPlayers arena removeInviteTime

/-- The structures of the queue agree in every state that is reached. -/
theorem queue_agrees (es : List QueueEvent) (hnew : Guarded queueStep JoinsNew BattleGroundQueue.empty es) :
    (run queueStep BattleGroundQueue.empty es).Agrees := by
  have hplaced := run_invariant placed_queueStep hnew BattleGroundQueue.placed_empty
  exact hplaced.agrees

private theorem brackets_pos : 0 < maxBattlegroundBrackets := by decide

private def firstBracket : Fin maxBattlegroundBrackets := ⟨0, brackets_pos⟩

private def joinArena (leader : Nat) : QueueEvent :=
  .addGroup firstBracket (.alone leader .alliance) false false 0 0 0

/-- Two players of one faction get a skirmish, and one of them leaves. -/
theorem queue_agrees_skirmish : (run queueStep BattleGroundQueue.empty [joinArena 1, joinArena 2,
      .checkSkirmish firstBracket 1 1 0, .inviteGroupToBG 0 7 80, .inviteGroupToBG 1 7 80, .removePlayer 2]).Agrees :=
  queue_agrees _ (by decide)

example : (run queueStep BattleGroundQueue.empty [joinArena 1, joinArena 2,
    .checkSkirmish firstBracket 1 1 0]).queuedGroups ⟨firstBracket, .normalHorde⟩ = [1] := by decide

end Mangos
