import Mangos.BattleGround.Booked

/-!
# The teams of a match that starts

Each pool is a part of a premade group and the normal queue of its team, or of the groups behind the other
pool in the same queue.
-/

namespace Mangos

open Framework Function

namespace BattleGroundQueue

variable {s s' : BattleGroundQueue} {bracketId : Fin maxBattlegroundBrackets} {queue rest : List Nat}
  {minPlayers maxPlayers desiredCount slots g : Nat} {pool : SelectionPool}
  {pools : Team → SelectionPool}

/-- The pools have no group in common, count the players of their groups, and have room for them; their
groups stand in the bracket and are not invited. -/
structure TeamsOf (s : BattleGroundQueue) (bracketId : Fin maxBattlegroundBrackets)
    (maxPlayers : Nat) (pools : Team → SelectionPool) : Prop where
  apart : ∀ g ∈ (pools .alliance).selectedGroups, g ∉ (pools .horde).selectedGroups
  holds : ∀ team, s.Holds maxPlayers (pools team)
  queued : ∀ team, ∀ g ∈ (pools team).selectedGroups, ∃ type, g ∈ s.queuedGroups ⟨bracketId, type⟩

theorem playerCount_le_addToPool (pool : SelectionPool) (g desiredCount : Nat) :
    pool.playerCount ≤ (s.addToPool pool g desiredCount).1.playerCount := by
  cases s.addToPool_cases pool g desiredCount with
  | inl hsame => rw [hsame]
  | inr hadded =>
    obtain ⟨ginfo, -, -, -, hpool⟩ := hadded
    rw [hpool]
    exact Nat.le_add_right _ _

theorem playerCount_le_fillPool (desiredCount : Nat) (pool : SelectionPool) (groups : List Nat) :
    pool.playerCount ≤ (s.fillPool desiredCount pool groups).playerCount := by
  induction groups generalizing pool with
  | nil => exact Nat.le_refl _
  | cons g groups ih =>
    have hadd := s.playerCount_le_addToPool pool g desiredCount
    rw [fillPool]
    split
    · dsimp only
      split
      · exact hadd.trans (ih _)
      · exact hadd
    · exact ih pool

theorem Booked.skip (h : s.Booked queue slots ⟨pool, g :: rest⟩) : s.Booked queue slots ⟨pool, rest⟩ where
  holds := h.holds
  inOrder := ((List.Sublist.refl _).append (List.sublist_cons_self g rest)).trans h.inOrder

theorem Booked.fillPool (h : s.Booked queue slots ⟨pool, rest⟩) (hdesired : desiredCount ≤ slots) :
    ∃ rest', s.Booked queue slots ⟨s.fillPool desiredCount pool rest, rest'⟩ := by
  induction rest generalizing pool with
  | nil => exact ⟨[], h⟩
  | cons g rest ih =>
    have hadded := (h.addToPool hdesired).1
    rw [BattleGroundQueue.fillPool]
    split
    · dsimp only
      split
      · exact ih hadded
      · exact ⟨rest, hadded⟩
    · exact ih h.skip

theorem Booked.fillUntil (h : s.Booked queue slots ⟨pool, rest⟩) (hmax : maxPlayers ≤ slots) :
    s.Booked queue slots ⟨(s.fillUntil minPlayers maxPlayers pool rest).1,
      (s.fillUntil minPlayers maxPlayers pool rest).2⟩ := by
  induction rest generalizing pool with
  | nil => exact h
  | cons g rest ih =>
    have hadded := (h.addToPool hmax).1
    rw [BattleGroundQueue.fillUntil]
    split
    · dsimp only
      split
      · exact hadded
      · exact ih hadded
    · exact ih h.skip

theorem Booked.mem {fill : TeamFill} (h : s.Booked queue slots fill) (hg : g ∈ fill.pool.selectedGroups) : g ∈ queue :=
  h.inOrder.subset (List.mem_append_left _ hg)

theorem teamsOf_of_booked (queues : Team → List Nat)
    (honce : ∀ place g, g ∈ s.queuedGroups place → OnceAt s.queuedGroups g place)
    (hqueues : ∀ team, ∀ g ∈ queues team, ∃ type : QueueGroupType, type.team = team ∧
      g ∈ s.queuedGroups ⟨bracketId, type⟩) (h : ∀ team, ∃ rest, s.Booked (queues team) maxPlayers ⟨pools team, rest⟩) :
    s.TeamsOf bracketId maxPlayers pools := by
  have hmem : ∀ team, ∀ g ∈ (pools team).selectedGroups, ∃ type : QueueGroupType,
      type.team = team ∧ g ∈ s.queuedGroups ⟨bracketId, type⟩ := by
    intro team g hg
    obtain ⟨rest, hbooked⟩ := h team
    exact hqueues team g (hbooked.mem hg)
  refine ⟨fun g hali hhorde => ?_, fun team => ?_, fun team g hg => ?_⟩
  · obtain ⟨type, htype, hg⟩ := hmem .alliance g hali
    obtain ⟨type', htype', hg'⟩ := hmem .horde g hhorde
    have hplace := (honce _ g hg).eq_of_mem hg'
    have hsame : type' = type := congrArg QueuePlace.type hplace
    rw [hsame, htype] at htype'
    cases htype'
  · obtain ⟨rest, hbooked⟩ := h team
    exact hbooked.holds
  · obtain ⟨type, -, hg'⟩ := hmem team g hg
    exact ⟨type, hg'⟩

theorem teamsOf_of_normal (honce : ∀ place g, g ∈ s.queuedGroups place → OnceAt s.queuedGroups g place)
    (h : ∀ team, ∃ rest, s.Booked (s.queuedGroups ⟨bracketId, .normal team⟩) maxPlayers
      ⟨pools team, rest⟩) : s.TeamsOf bracketId maxPlayers pools :=
  teamsOf_of_booked _ honce
    (fun team _ hg => ⟨.normal team, QueueGroupType.team_normal team, hg⟩) h

private theorem booked_premade (g most : Nat) (queue : List Nat) (hmost : most ≤ maxPlayers) :
    ∃ rest, s.Booked (g :: queue) maxPlayers ⟨s.fillPool most (s.addToPool .init g maxPlayers).1 queue, rest⟩ :=
  ((booked_init s maxPlayers (g :: queue)).addToPool (Nat.le_refl _)).1.fillPool hmost

theorem checkPremadeMatch_some {timeBefore : Nat}
    (h : s.checkPremadeMatch bracketId minPlayers maxPlayers timeBefore = (s', some pools)) :
    ∃ first : Team → Nat, (∀ team, (s.queuedGroups ⟨bracketId, .premade team⟩).find? s.notInvited = some (first team)) ∧
      ∃ most ≤ maxPlayers, ∀ team, pools team = s.fillPool most
        (s.addToPool .init (first team) maxPlayers).1 (s.queuedGroups ⟨bracketId, .normal team⟩) := by
  unfold checkPremadeMatch at h
  dsimp only at h
  have hfits : ∀ g, (s.addToPool .init g maxPlayers).1.playerCount ≤ maxPlayers := fun g =>
    ((booked_init s maxPlayers [g]).addToPool (Nat.le_refl _)).1.holds.fits
  split at h
  next ali horde hali hhorde =>
    cases h
    refine ⟨fun team => if team = .alliance then ali else horde, fun team => ?_, _,
      max_le (hfits ali) (hfits horde), fun team => ?_⟩
    · cases team with
      | alliance => exact hali
      | horde => exact hhorde
    · cases team with
      | alliance => rfl
      | horde => rfl
  · cases h

theorem checkPremadeMatch_teamsOf {timeBefore : Nat}
    (honce : ∀ place g, g ∈ s.queuedGroups place → OnceAt s.queuedGroups g place)
    (h : s.checkPremadeMatch bracketId minPlayers maxPlayers timeBefore = (s', some pools)) :
    s.TeamsOf bracketId maxPlayers pools := by
  obtain ⟨first, hfirst, most, hmost, hpools⟩ := checkPremadeMatch_some h
  refine teamsOf_of_booked (fun team => first team :: s.queuedGroups ⟨bracketId, .normal team⟩) honce
    (fun team g hg => ?_) fun team => ?_
  · rcases List.mem_cons.mp hg with rfl | hnormal
    · exact ⟨.premade team, QueueGroupType.team_premade team, List.mem_of_find?_eq_some (hfirst team)⟩
    · exact ⟨.normal team, QueueGroupType.team_normal team, hnormal⟩
  · rw [hpools team]
    exact booked_premade _ most _ hmost

theorem le_playerCount_premade {timeBefore : Nat}
    (h : s.checkPremadeMatch bracketId minPlayers maxPlayers timeBefore = (s', some pools)) (team : Team)
    (hsize : ∀ g ∈ (s.queuedGroups ⟨bracketId, .premade team⟩).find? s.notInvited,
      minPlayers ≤ s.groupSize g ∧ s.groupSize g ≤ maxPlayers) : minPlayers ≤ (pools team).playerCount := by
  obtain ⟨first, hfirst, most, -, hpools⟩ := checkPremadeMatch_some h
  obtain ⟨hmin, hmax⟩ := hsize _ (hfirst team)
  have hnot := List.find?_some (hfirst team)
  obtain ⟨ginfo, hginfo, hinvited⟩ := (Option.any_eq_true _ _).mp hnot
  have hadded : (s.addToPool .init (first team) maxPlayers).1.playerCount = s.groupSize (first team) := by
    rw [groupSize_eq hginfo] at hmax ⊢
    have hroom : 0 + ginfo.players.card ≤ maxPlayers := by omega
    simp [BattleGroundQueue.addToPool, hginfo, of_decide_eq_true hinvited, SelectionPool.init, hmax]
  rw [hpools team]
  exact (hmin.trans hadded.ge).trans (playerCount_le_fillPool _ _ _)

theorem checkNormalMatch_booked (s : BattleGroundQueue) (bracketId : Fin maxBattlegroundBrackets)
    (minPlayers maxPlayers invitationType : Nat) (testing : Bool) (team : Team) :
    ∃ rest, s.Booked (s.queuedGroups ⟨bracketId, .normal team⟩) maxPlayers
      ⟨(s.checkNormalMatch bracketId minPlayers maxPlayers invitationType testing).1 team, rest⟩ := by
  have hfilled : ∀ team, s.Booked (s.queuedGroups ⟨bracketId, .normal team⟩) maxPlayers
      ⟨(s.fillUntil minPlayers maxPlayers .init (s.queuedGroups ⟨bracketId, .normal team⟩)).1,
        (s.fillUntil minPlayers maxPlayers .init (s.queuedGroups ⟨bracketId, .normal team⟩)).2⟩ :=
    fun team => (booked_init s maxPlayers _).fillUntil (Nat.le_refl _)
  unfold checkNormalMatch
  simp only [apply_ite Prod.fst, ite_self]
  generalize (if
      (s.fillUntil minPlayers maxPlayers .init (s.queuedGroups ⟨bracketId, .normal .horde⟩)).1.playerCount <
        (s.fillUntil minPlayers maxPlayers .init
          (s.queuedGroups ⟨bracketId, .normal .alliance⟩)).1.playerCount
    then Team.horde else .alliance) = fewer
  split
  · by_cases hteam : team = fewer
    · subst hteam
      rw [update_self]
      exact (hfilled team).fillPool (hfilled team.other).holds.fits
    · rw [update_of_ne hteam]
      exact ⟨_, hfilled team⟩
  · exact ⟨_, hfilled team⟩

private theorem enough_of_true {far any : Bool} {balanced : Team → SelectionPool}
    (h : (if far then (balanced, false) else if false && any then (balanced, true)
      else (balanced, decide (minPlayers ≤ (balanced .alliance).playerCount) &&
        decide (minPlayers ≤ (balanced .horde).playerCount))) = (pools, true)) (team : Team) :
    minPlayers ≤ (pools team).playerCount := by
  cases far with
  | true => cases h
  | false =>
    obtain ⟨hpools, henough⟩ := Prod.mk.inj h
    rw [hpools] at henough
    simp only [Bool.and_eq_true, decide_eq_true_eq] at henough
    cases team with
    | alliance => exact henough.1
    | horde => exact henough.2

theorem checkNormalMatch_true {invitationType : Nat} {testing : Bool}
    (h : s.checkNormalMatch bracketId minPlayers maxPlayers invitationType testing = (pools, true))
    (htesting : testing = false) (team : Team) : minPlayers ≤ (pools team).playerCount := by
  subst htesting
  exact enough_of_true h team

theorem notMem_behind {groups picked : List Nat} {ginfo : Nat} (hnodup : groups.Nodup)
    (hsub : picked.Sublist groups) (hlast : picked.getLast? = some ginfo) : ∀ g ∈ picked, g ∉ behind ginfo groups := by
  induction groups generalizing picked with
  | nil =>
    intro g hg
    rw [List.sublist_nil.mp hsub] at hg
    cases hg
  | cons a groups ih =>
    obtain ⟨ha, hrest⟩ := List.nodup_cons.mp hnodup
    by_cases heq : a = ginfo
    · subst heq
      rw [behind_cons_self]
      intro g hg hmem
      cases hsub with
      | cons _ hsub => exact ha (hsub.subset (List.mem_of_getLast? hlast))
      | cons_cons _ hsub =>
        rename_i picked
        cases picked with
        | nil => exact ha (List.mem_singleton.mp hg ▸ hmem)
        | cons b picked =>
          rw [List.getLast?_cons_cons] at hlast
          exact ha (hsub.subset (List.mem_of_getLast? hlast))
    · rw [behind_cons_of_ne heq]
      cases hsub with
      | cons _ hsub => exact ih hrest hsub hlast
      | cons_cons _ hsub =>
        rename_i picked
        cases picked with
        | nil => exact absurd (Option.some.inj hlast) heq
        | cons b picked =>
          rw [List.getLast?_cons_cons] at hlast
          intro g hg
          rcases List.mem_cons.mp hg with rfl | hg
          · exact fun hmem => ha ((behind_sublist ginfo groups).subset hmem)
          · exact ih hrest hsub hlast g hg

theorem checkSkirmish_true {pools' : Team → SelectionPool}
    (h : s.checkSkirmishForSameFaction bracketId pools minPlayers = (s', pools', true)) :
    ∃ team ginfo, (team = .horde ∧ (pools .horde).playerCount = minPlayers ∨
        team = .alliance ∧ (pools .horde).playerCount ≠ minPlayers) ∧
      ¬ ((pools .alliance).playerCount < minPlayers ∧ (pools .horde).playerCount < minPlayers) ∧
      (pools team).selectedGroups.getLast? = some ginfo ∧ pools' = update pools team.other (s.fillPool minPlayers .init
        (behind ginfo (s.queuedGroups ⟨bracketId, .normal team⟩))) ∧ (pools' team.other).playerCount = minPlayers := by
  unfold checkSkirmishForSameFaction at h
  dsimp only at h
  split at h
  · cases h
  next hsome =>
    have hteam : ∀ team, (if (pools .horde).playerCount = minPlayers then Team.horde
        else Team.alliance) = team → (team = .horde ∧ (pools .horde).playerCount = minPlayers ∨
          team = .alliance ∧ (pools .horde).playerCount ≠ minPlayers) := by
      rintro team rfl
      split
      next hhorde => exact .inl ⟨rfl, hhorde⟩
      next hhorde => exact .inr ⟨rfl, hhorde⟩
    generalize hdef : (if (pools .horde).playerCount = minPlayers then Team.horde
      else Team.alliance) = team at h
    have hcase := hteam team hdef
    split at h
    · cases h
    next ginfo hlast =>
      split at h
      · cases h
      · split at h
        · cases h
        next hcount =>
          cases h
          refine ⟨team, ginfo, hcase, by simpa using hsome, hlast, rfl, ?_⟩
          rw [update_self]
          exact not_not.mp hcount

theorem checkSkirmish_teamsOf {pools' : Team → SelectionPool}
    (honce : ∀ place g, g ∈ s.queuedGroups place → OnceAt s.queuedGroups g place)
    (hpools : ∀ team, ∃ rest, s.Booked (s.queuedGroups ⟨bracketId, .normal team⟩) maxPlayers
      ⟨pools team, rest⟩) (hle : minPlayers ≤ maxPlayers)
    (h : s.checkSkirmishForSameFaction bracketId pools minPlayers = (s', pools', true)) :
    s.TeamsOf bracketId maxPlayers pools' := by
  obtain ⟨team, ginfo, -, -, hlast, rfl, -⟩ := checkSkirmish_true h
  obtain ⟨rest, hown⟩ := hpools team
  obtain ⟨rest', hother⟩ := (booked_init s minPlayers
    (behind ginfo (s.queuedGroups ⟨bracketId, .normal team⟩))).fillPool (Nat.le_refl _)
  have hnodup : (s.queuedGroups ⟨bracketId, .normal team⟩).Nodup := by
    refine List.nodup_iff_count_eq_one.mpr fun g hg => ?_
    rw [(honce _ g hg) ⟨bracketId, .normal team⟩, if_pos rfl]
  have hapart : ∀ g ∈ (pools team).selectedGroups, g ∉ (s.fillPool minPlayers .init
      (behind ginfo (s.queuedGroups ⟨bracketId, .normal team⟩))).selectedGroups := by
    intro g hg hmem
    have hsub := (List.sublist_append_left _ _).trans hown.inOrder
    exact notMem_behind hnodup hsub hlast g hg (hother.mem hmem)
  have hne := other_ne team
  have hsides : ∀ team', team' = team ∨ team' = team.other := by
    intro team'
    cases team' <;> cases team <;> simp [Team.other]
  refine ⟨?_, fun team' => ?_, fun team' g hg => ⟨.normal team, ?_⟩⟩
  · cases team with
    | alliance =>
      rw [Team.other, update_self, update_of_ne (by decide)]
      exact hapart
    | horde =>
      rw [Team.other, update_self, update_of_ne (by decide)]
      exact fun g hg hmem => hapart g hmem hg
  · rcases hsides team' with rfl | rfl
    · rw [update_of_ne hne.symm]
      exact hown.holds
    · rw [update_self]
      exact ⟨hother.holds.count, hother.holds.fits.trans hle, hother.holds.waiting⟩
  · rcases hsides team' with rfl | rfl
    · rw [update_of_ne hne.symm] at hg
      exact hown.mem hg
    · rw [update_self] at hg
      exact (behind_sublist _ _).subset (hother.mem hg)

theorem le_playerCount_skirmish {pools' : Team → SelectionPool}
    (h : s.checkSkirmishForSameFaction bracketId pools minPlayers = (s', pools', true))
    (hsides : (pools .alliance).playerCount < minPlayers → (pools .horde).playerCount ≤ minPlayers)
    (team : Team) : minPlayers ≤ (pools' team).playerCount := by
  obtain ⟨own, ginfo, hcase, hsome, -, hpools, hcount⟩ := checkSkirmish_true h
  have hown : minPlayers ≤ (pools own).playerCount := by
    rcases hcase with ⟨rfl, hhorde⟩ | ⟨rfl, hhorde⟩
    · exact hhorde.ge
    · by_contra hfewer
      have hle := hsides (by omega)
      exact hsome ⟨by omega, by omega⟩
  by_cases hteam : team = own.other
  · rw [hteam, hcount]
  · rw [hpools, update_of_ne hteam]
    have hsame : team = own := by
      cases team <;> cases own <;> simp_all [Team.other]
    rw [hsame]
    exact hown

end BattleGroundQueue

/-- The pools of a match that starts have no group in common, only groups that stand in the bracket and are not
invited, and count their players, at most as many as may play. These are enough for a match of premade groups
that may play alone, for a normal match that is not a test, and for a skirmish if the pools of the normal match
were not too small on the side of the alliance and too large on the other. -/
theorem match_teams (s : BattleGroundQueue) (bracketId : Fin maxBattlegroundBrackets)
    (minPlayers maxPlayers timeBefore invitationType : Nat) (testing : Bool)
    (honce : ∀ place g, g ∈ s.queuedGroups place → OnceAt s.queuedGroups g place) (hle : minPlayers ≤ maxPlayers) :
    (∀ s' pools, s.checkPremadeMatch bracketId minPlayers maxPlayers timeBefore = (s', some pools) →
      s.TeamsOf bracketId maxPlayers pools ∧ ∀ team,
        (∀ g ∈ (s.queuedGroups ⟨bracketId, .premade team⟩).find? s.notInvited,
          minPlayers ≤ s.groupSize g ∧ s.groupSize g ≤ maxPlayers) → minPlayers ≤ (pools team).playerCount) ∧
    (∀ pools, s.checkNormalMatch bracketId minPlayers maxPlayers invitationType testing = (pools, true) →
      s.TeamsOf bracketId maxPlayers pools ∧ (testing = false → ∀ team, minPlayers ≤ (pools team).playerCount)) ∧
    ∀ pools, (s.checkNormalMatch bracketId minPlayers maxPlayers invitationType testing).1 = pools →
      ∀ s' pools', s.checkSkirmishForSameFaction bracketId pools minPlayers = (s', pools', true) →
      s.TeamsOf bracketId maxPlayers pools' ∧
        (((pools .alliance).playerCount < minPlayers → (pools .horde).playerCount ≤ minPlayers) →
          ∀ team, minPlayers ≤ (pools' team).playerCount) := by
  have hnormal := s.checkNormalMatch_booked bracketId minPlayers maxPlayers invitationType testing
  refine ⟨fun s' pools h => ⟨?_, ?_⟩, fun pools h => ⟨?_, ?_⟩, ?_⟩
  · exact BattleGroundQueue.checkPremadeMatch_teamsOf honce h
  · exact BattleGroundQueue.le_playerCount_premade h
  · rw [h] at hnormal
    exact BattleGroundQueue.teamsOf_of_normal honce hnormal
  · exact BattleGroundQueue.checkNormalMatch_true h
  · rintro pools rfl s' pools' h
    exact ⟨BattleGroundQueue.checkSkirmish_teamsOf honce hnormal hle h, BattleGroundQueue.le_playerCount_skirmish h⟩

private def thirdBracket : Fin maxBattlegroundBrackets := ⟨2, by decide⟩

private def waitAlone (leader : Nat) (team : Team) : QueueEvent :=
  .addGroup thirdBracket (.alone leader team) false false 0 0 0

private theorem once_of_run {es : List QueueEvent} (hnew : Guarded queueStep JoinsNew .empty es) :
    ∀ place g, g ∈ (run queueStep .empty es).queuedGroups place →
      OnceAt (run queueStep .empty es).queuedGroups g place :=
  fun _ _ hg => ((run_invariant placed_queueStep hnew BattleGroundQueue.placed_empty).once hg).1

/-- One against one. -/
theorem match_teams_duel : (run queueStep .empty [waitAlone 1 .alliance, waitAlone 2 .horde]).TeamsOf thirdBracket 5
      ((run queueStep .empty [waitAlone 1 .alliance, waitAlone 2 .horde]).checkNormalMatch
        thirdBracket 1 5 0 false).1 := by
  have hteams := match_teams (run queueStep .empty [waitAlone 1 .alliance, waitAlone 2 .horde])
    thirdBracket 1 5 0 0 false (once_of_run (by decide)) (by decide)
  have henough : ((run queueStep .empty [waitAlone 1 .alliance, waitAlone 2 .horde]).checkNormalMatch
      thirdBracket 1 5 0 false).2 = true := by decide +kernel
  exact (hteams.2.1 _ (Prod.ext rfl henough)).1

/-- A battleground that is tested starts for a player alone. -/
theorem match_one_against_none :
    ¬ ∀ pools, (run queueStep .empty [waitAlone 1 .alliance]).checkNormalMatch thirdBracket 1 5 0
        true = (pools, true) → ∀ team, 1 ≤ (pools team).playerCount := by
  intro h
  have hstarts : ((run queueStep .empty [waitAlone 1 .alliance]).checkNormalMatch thirdBracket 1 5 0
      true).2 = true := by decide +kernel
  exact absurd (h _ (Prod.ext rfl hstarts) .horde) (by decide +kernel)

end Mangos
