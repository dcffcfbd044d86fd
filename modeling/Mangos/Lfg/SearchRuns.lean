import Mangos.Lfg.Searchable

/-!
# Runs that keep the search matrix in step with the queue

A failed proposal puts those who had agreed back into the queue without listing them, and drops the others
from the queue without looking at the search matrix.
-/

namespace Mangos.LFGMgr

open Framework Std

variable {m m' : LFGMgr}

/-- Whoever had agreed is already considered by the search, and nobody else of the proposal is. -/
def Settled (m : LFGMgr) (p : LFGProposal) : Prop :=
  ∀ g ∈ p.players, m.world g = true → ((m.players g).answer = .agree ↔ m.isSearched g = true)

instance (p : LFGProposal) : Decidable (m.Settled p) := by
  unfold Settled
  infer_instance

/-- Nothing has changed that a failing proposal looks at. -/
structure Steady (m m' : LFGMgr) : Prop where
  world : m'.world = m.world
  answer : ∀ g, (m'.players g).answer = (m.players g).answer
  searched : ∀ g, m'.isSearched g = m.isSearched g
  players : ∀ (id : Nat) (p' : LFGProposal), m'.proposals[id]? = some p' →
    ∃ p : LFGProposal, m.proposals[id]? = some p ∧ p'.players = p.players

theorem Steady.refl (m : LFGMgr) : Steady m m where
  world := rfl
  answer _ := rfl
  searched _ := rfl
  players _ p hp := ⟨p, hp, rfl⟩

theorem Steady.trans {m'' : LFGMgr} (h : Steady m m') (h' : Steady m' m'') : Steady m m'' where
  world := h'.world.trans h.world
  answer g := (h'.answer g).trans (h.answer g)
  searched g := (h'.searched g).trans (h.searched g)
  players id p'' hp'' := by
    obtain ⟨p', hp', hplayers'⟩ := h'.players id p'' hp''
    obtain ⟨p, hp, hplayers⟩ := h.players id p' hp'
    exact ⟨p, hp, hplayers'.trans hplayers⟩

theorem Settled.steady {p p' : LFGProposal} (h : m.Settled p) (hsteady : Steady m m')
    (hplayers : p'.players = p.players) : m'.Settled p' := by
  intro g hg hworld
  rw [hsteady.world] at hworld
  rw [hsteady.answer, hsteady.searched]
  exact h g (hplayers ▸ hg) hworld

theorem steady_setDeleted (m : LFGMgr) (id : Nat) : Steady m (m.setProposal id ({ · with deleted := true })) where
  world := rfl
  answer _ := rfl
  searched _ := rfl
  players j p' hp' := by
    rw [setProposal, lookup_modify] at hp'
    split at hp'
    next heq =>
      obtain ⟨p, hp, rfl⟩ := Option.map_eq_some_iff.mp hp'
      exact ⟨p, hp, rfl⟩
    next => exact ⟨p', hp', rfl⟩

theorem steady_eraseProposal (m : LFGMgr) (id : Nat) : Steady m { m with proposals := m.proposals.erase id } where
  world := rfl
  answer _ := rfl
  searched _ := rfl
  players j p' hp' := by
    simp only [ExtTreeMap.getElem?_erase] at hp'
    split at hp'
    · cases hp'
    · exact ⟨p', hp', rfl⟩

theorem setQueued_looking {guid : Nat} (hlooking : (m.players guid).isLooking = true) :
    Tidied m (m.setState [guid] .queued) ∧ Steady m (m.setState [guid] .queued) := by
  have hsame : ∀ g, ((m.setState [guid] .queued).players g).isLooking = (m.players g).isLooking := by
    intro g
    by_cases heq : g = guid
    · subst heq
      simpa [setState, setPlayers, LFGPlayerState.isLooking] using hlooking.symm
    · simp [setState, setPlayers, heq]
  constructor
  · apply Tidied.of_players
    intro g
    refine .inl ⟨hsame g, ?_⟩
    by_cases heq : g = guid <;> simp [heq]
  · constructor
    case world => rfl
    case answer =>
      intro g
      by_cases heq : g = guid <;> simp [setState, setPlayers, heq]
    case searched =>
      intro g
      rw [isSearched, hsame g]
      rfl
    case players => exact fun _ p hp => ⟨p, hp, rfl⟩

theorem SameBesidesQueue.steady (h : SameBesidesQueue m m')
    (hqueued : ∀ g, m'.isSearched g = m.isSearched g) : Steady m m' where
  world := h.world
  answer g := by rw [h.players]
  searched := hqueued
  players id p' hp' := ⟨p', h.proposals ▸ hp', rfl⟩

theorem queueAgain {guid : Nat} (hq : m.isQueued guid = true) (type : LFGType) :
    Tidied m (m.addToQueue (.player guid) type) ∧ Steady m (m.addToQueue (.player guid) type) := by
  obtain ⟨hrest, hmatrix⟩ := sameBesidesQueue_addToQueue m (.player guid) type
  have hqueued : ∀ g, (m.addToQueue (.player guid) type).isQueued g = m.isQueued g := by
    intro g
    by_cases htype : type = .none
    · simp [addToQueue, htype]
    · rw [isQueued_addToQueue m _ htype]
      by_cases heq : guid = g
      · simp [← heq, hq]
      · simp [heq]
  constructor
  · apply hrest.tidied
    · exact fun g => .inl ⟨hqueued g, by simp [listed, hmatrix]⟩
    · exact fun h => h.addToQueue _ type
  · apply hrest.steady
    intro g
    rw [isSearched, isSearched, hqueued, hrest.players]

theorem unqueueUnsearched (hinv : Inv m) {guid : Nat} (hsearched : m.isSearched guid = false) :
    Tidied m (m.removeFromQueue (.player guid)) ∧ Steady m (m.removeFromQueue (.player guid)) := by
  obtain ⟨hrest, hmatrix⟩ := sameBesidesQueue_removeFromQueue m (.player guid)
  have hqueued := isQueued_removeFromQueue m (.player guid)
  constructor
  · apply hrest.tidied
    · intro g
      by_cases heq : g = guid
      · subst heq
        right
        apply Idle.parked
        constructor
        case unlisted =>
          intro dungeon hlisted
          rw [listed, hmatrix] at hlisted
          exact (hinv.placed g).unlisted hsearched dungeon hlisted
        case notQueued => simp [hqueued]
      · exact .inl ⟨by simp [hqueued, Ne.symm heq], by simp [listed, hmatrix]⟩
    · exact fun h => h.removeFromQueue _
  · apply hrest.steady
    intro g
    rw [isSearched, hqueued, hrest.players]
    by_cases heq : g = guid
    · subst heq
      simp [hsearched]
    · simp [isSearched, Ne.symm heq]

theorem requeuePlayer_settled (hinv : Inv m) {guid : Nat}
    (h : m.world guid = true → ((m.players guid).answer = .agree ↔ m.isSearched guid = true))
    (type : LFGType) : Tidied m (m.requeuePlayer type guid) ∧ Steady m (m.requeuePlayer type guid) := by
  unfold requeuePlayer
  split
  next hworld =>
    split
    next hagree =>
      have hsearched := (h hworld).mp hagree
      simp only [isSearched, Bool.and_eq_true] at hsearched
      obtain ⟨htidied, hsteady⟩ := queueAgain hsearched.1 type
      have hplayers := (sameBesidesQueue_addToQueue m (.player guid) type).1.players
      have hset := @setQueued_looking (m.addToQueue (.player guid) type) guid (hplayers ▸ hsearched.2)
      exact ⟨htidied.trans hset.1, hsteady.trans hset.2⟩
    next hagree =>
      apply unqueueUnsearched hinv
      simpa using fun hsearched => hagree ((h hworld).mpr hsearched)
  next => exact ⟨Tidied.refl m, Steady.refl m⟩

theorem requeueGroup_steady (m : LFGMgr) (type : LFGType) (gid : Nat) :
    Tidied m (m.requeueGroup type gid) ∧ Steady m (m.requeueGroup type gid) := by
  have hstate : Tidied m (m.setPartyState gid fun lfg =>
      { lfg with proposal := none, state := .queued }) := Tidied.setPartyState m gid _
  have hsteady : Steady m (m.setPartyState gid fun lfg =>
      { lfg with proposal := none, state := .queued }) := ⟨rfl, fun _ => rfl, fun _ => rfl,
    fun _ p hp => ⟨p, hp, rfl⟩⟩
  unfold requeueGroup
  simp only
  split
  · have hadd := Tidied.addGroupToQueue (m.setPartyState gid fun lfg =>
      { lfg with proposal := none, state := .queued }) gid type
    refine ⟨hstate.trans hadd, hsteady.trans ?_⟩
    apply (sameBesidesQueue_addToQueue _ (.group gid) type).1.steady
    intro g
    have hplayers := (sameBesidesQueue_addToQueue (m.setPartyState gid fun lfg =>
      { lfg with proposal := none, state := .queued }) (.group gid) type).1.players
    rw [isSearched, isSearched, hplayers]
    by_cases htype : type = .none
    · simp [addToQueue, htype]
    · simp [isQueued_addToQueue _ _ htype]
  · exact ⟨hstate, hsteady⟩

theorem run_settled {α : Type*} {f : LFGMgr → α → LFGMgr} {ok : LFGMgr → α → Prop}
    (hok : ∀ m m' a, ok m a → Steady m m' → ok m' a)
    (h : ∀ m a, Inv m → ok m a → Tidied m (f m a) ∧ Steady m (f m a)) {l : List α}
    (hinv : Inv m) (hl : ∀ a ∈ l, ok m a) : Tidied m (run f m l) ∧ Steady m (run f m l) := by
  induction l generalizing m with
  | nil => exact ⟨Tidied.refl m, Steady.refl m⟩
  | cons a l ih =>
    obtain ⟨htidied, hsteady⟩ := h m a hinv (hl a List.mem_cons_self)
    have hrest := ih (hinv.tidied htidied) fun b hb =>
      hok m (f m a) b (hl b (List.mem_cons_of_mem a hb)) hsteady
    exact ⟨htidied.trans hrest.1, hsteady.trans hrest.2⟩

theorem failProposal_settled (hinv : Inv m) {id : Nat}
    (h : ∀ p : LFGProposal, m.proposals[id]? = some p → m.Settled p) :
    Tidied m (m.failProposal id) ∧ Steady m (m.failProposal id) := by
  unfold failProposal
  split
  · exact ⟨Tidied.refl m, Steady.refl m⟩
  next p hp =>
    have hdeleted : Tidied m (m.setProposal id ({ · with deleted := true })) := Tidied.setProposal m id _
    have hplayers := @run_settled (m.setProposal id ({ · with deleted := true })) _
      (fun m guid => m.requeuePlayer p.dungeon.type guid)
      (fun m g => m.world g = true → ((m.players g).answer = .agree ↔ m.isSearched g = true))
      (fun m m' g hg hsteady => by rwa [hsteady.world, hsteady.answer, hsteady.searched])
      (fun m g hinv hg => requeuePlayer_settled hinv hg p.dungeon.type) p.players
      (hinv.tidied hdeleted) (h p hp)
    have htidied := hdeleted.trans hplayers.1
    have hsteady := (steady_setDeleted m id).trans hplayers.2
    cases m.proposalGroup p with
    | none =>
      exact ⟨htidied.trans (Tidied.eraseProposal _ id), hsteady.trans (steady_eraseProposal _ id)⟩
    | some gid =>
      obtain ⟨hgroup, hgroup'⟩ := requeueGroup_steady _ p.dungeon.type gid
      exact ⟨(htidied.trans hgroup).trans (Tidied.eraseProposal _ id),
        (hsteady.trans hgroup').trans (steady_eraseProposal _ id)⟩

def due (m : LFGMgr) (type : LFGType) : List (Nat × LFGProposal) :=
  m.proposals.toList.filter fun e => e.2.dungeon.type = type ∧ (m.isExpired e.2 ∨ e.2.deleted)

theorem tidy_cleanupProposals {type : LFGType} (h : ∀ e ∈ m.due type, m.Settled e.2) :
    Tidy m (m.cleanupProposals type) := by
  intro hinv
  unfold cleanupProposals
  split
  · exact Tidied.refl m
  · have hdue := @run_settled m _ failProposal
      (fun m id => ∀ p : LFGProposal, m.proposals[id]? = some p → m.Settled p)
      (fun m m' id hid hsteady p' hp' => by
        obtain ⟨p, hp, hplayers⟩ := hsteady.players id p' hp'
        exact (hid p hp).steady hsteady hplayers)
      (fun m id hinv hid => failProposal_settled hinv hid)
    refine (hdue hinv fun id hid p hp => ?_).1
    obtain ⟨⟨id', p'⟩, he, rfl⟩ := List.mem_map.mp hid
    have hmem := (List.mem_filter.mp he).1
    rw [ExtTreeMap.mem_toList_iff_getElem?_eq_some] at hmem
    simp only [hmem] at hp
    cases hp
    exact h _ he

theorem Inv.setState_notQueued (h : Inv m) {guids : List Nat} (hguids : ∀ g ∈ guids, m.isQueued g = false)
    (state : LFGState) : Tidied m (m.setState guids state) :=
  Tidied.setPlayers (fun g hg => (h.placed g).idle (hguids g hg)) _

@[simp] theorem isQueued_setState (m : LFGMgr) (guids : List Nat) (state : LFGState) (g : Nat) :
    (m.setState guids state).isQueued g = m.isQueued g := rfl

@[simp] theorem isQueued_setPartyState (m : LFGMgr) (gid : Nat) (f : PartyState → PartyState) (g : Nat) :
    (m.setPartyState gid f).isQueued g = m.isQueued g := rfl

@[simp] theorem isQueued_addGroupToQueue (m : LFGMgr) (gid : Nat) (type : LFGType) (g : Nat) :
    (m.addToQueue (.group gid) type).isQueued g = m.isQueued g := by
  by_cases htype : type = .none
  · simp [addToQueue, htype]
  · simp [isQueued_addToQueue m _ htype]

theorem Inv.notQueued_present (h : Inv m) {gid g : Nat} (hg : g ∈ m.present gid) : m.isQueued g = false :=
  ((h.placed g).idle_of_group (mem_present_getGroup hg).2).notQueued

theorem tidy_startRoleCheck (m : LFGMgr) (gid leader : Nat) : Tidy m (m.startRoleCheck gid leader) := by
  intro hinv
  have hstate : Tidied m (m.setPartyState gid fun lfg => { lfg with state := .rolecheck }) :=
    Tidied.setPartyState m gid _
  have hmembers : Tidied _ ((m.setPartyState gid fun lfg => { lfg with state := .rolecheck }).setState
      ((m.present gid).filter (· ≠ leader)) .rolecheck) :=
    (hinv.tidied hstate).setState_notQueued
      (fun g hg => hinv.notQueued_present (List.mem_filter.mp hg).1) _
  have hleader := @Inv.setState_notQueued _ (hinv.tidied (hstate.trans hmembers))
    ((m.present gid).filter (· = leader))
    (fun g hg => hinv.notQueued_present (List.mem_filter.mp hg).1) .queued
  exact (hstate.trans hmembers).trans hleader

theorem enlistMembers_notQueued {guids : List Nat} (h : ∀ g ∈ guids, m.isQueued g = false)
    (joined : LFGState) : m.enlistMembers guids joined = m.setState guids joined := by
  have hrun : run (fun m guid => m.removeFromQueue (.player guid)) m guids = m := by
    induction guids with
    | nil => rfl
    | cons g guids ih =>
      have hnone : m.queueInfo (.player g) = none := by
        simpa [isQueued] using h g List.mem_cons_self
      rw [run_cons, removeFromQueue_of_none hnone]
      exact ih fun j hj => h j (List.mem_cons_of_mem g hj)
  rw [enlistMembers, hrun]

theorem tidy_joinAsGroup (m : LFGMgr) (gid : Nat) (party : Party) (type : LFGType) (extend : Bool) :
    Tidy m (m.joinAsGroup gid party type extend) := by
  intro hinv
  have hadd := Tidied.addGroupToQueue m gid type
  have hstart : ∀ joined : LFGState, Tidied m
      (((m.addToQueue (.group gid) type).setPartyState gid fun lfg =>
        { lfg with state := joined, status := .notSaved }).enlistMembers (m.present gid) joined) := by
    intro joined
    have hset := hadd.trans (Tidied.setPartyState (m.addToQueue (.group gid) type) gid fun lfg =>
      { lfg with state := joined, status := .notSaved })
    have hqueued : ∀ g ∈ m.present gid, ((m.addToQueue (.group gid) type).setPartyState gid fun lfg =>
        { lfg with state := joined, status := .notSaved }).isQueued g = false := by
      intro g hg
      simpa using hinv.notQueued_present hg
    rw [enlistMembers_notQueued hqueued]
    exact hset.trans ((hinv.tidied hset).setState_notQueued hqueued joined)
  have hagain : Tidied m (((m.addToQueue (.group gid) type).setState (m.present gid) .lfg).setPartyState
      gid fun lfg => { lfg with status := .notSaved }) := by
    have hstate := @Inv.setState_notQueued _ (hinv.tidied hadd) (m.present gid)
      (fun g hg => by simpa using hinv.notQueued_present hg) .lfg
    exact (hadd.trans hstate).trans (Tidied.setPartyState _ gid _)
  have hjoined : Tidied m _ := hstart (if type = .raid then .lfr else .lfg)
  unfold joinAsGroup
  simp only
  split
  · split
    · exact hjoined.trans (Tidied.setParty _ gid fun _ h => lfd_convertToLFG h)
    · exact hjoined.trans (tidy_startRoleCheck _ gid party.leader (hinv.tidied hjoined))
  · split
    · exact hjoined.trans (Tidied.setParty _ gid fun _ h => lfd_convertToLFG h)
    · exact hjoined.trans (tidy_startRoleCheck _ gid party.leader (hinv.tidied hjoined))
  · split
    · exact hadd
    · exact hagain.trans (tidy_startRoleCheck _ gid party.leader (hinv.tidied hagain))
  · exact Tidied.refl m

theorem tidy_join {guid : Nat} (hgroup : m.getGroup guid ≠ none) (allowed : List Nat) (extend : Bool) :
    Tidy m (m.join guid allowed extend) := by
  intro hinv
  obtain ⟨⟨gid, party⟩, hsome⟩ := Option.ne_none_iff_exists'.mp hgroup
  have hremoved := Tidied.removeGroupFromQueue m gid
  have hinv' := hinv.tidied hremoved
  unfold join
  simp only [hsome]
  split
  · exact Tidied.refl m
  · split
    · exact hremoved
    · split
      · exact hremoved.trans (tidy_joinAsGroup _ gid party _ extend hinv')
      · apply hremoved.trans
        apply Tidied.setPlayer
        apply (hinv'.placed guid).idle
        rw [isQueued_removeFromQueue, ((hinv.placed guid).idle_of_group hgroup).notQueued]
        rfl

theorem getGroup_setPlayer (m : LFGMgr) (guid g : Nat) (f : LFGPlayerState → LFGPlayerState) :
    (m.setPlayer guid f).getGroup g = m.getGroup g := rfl

theorem tidy_joinInGroup {guid : Nat} (hgroup : m.getGroup guid ≠ none)
    (dungeons : List LFGDungeonEntry) (allowed : List Nat) (extend : Bool) :
    Tidy m (m.handleLfgJoin guid dungeons allowed extend) := by
  intro hinv
  have hset : Tidied m (m.setPlayer guid (·.setDungeons dungeons)) :=
    Tidied.setPlayer ((hinv.placed guid).idle_of_group hgroup) _
  obtain ⟨⟨gid, party⟩, hsome⟩ := Option.ne_none_iff_exists'.mp hgroup
  unfold handleLfgJoin
  simp only [hsome]
  split
  · have hparty := hset.trans (Tidied.setPartyState (m.setPlayer guid (·.setDungeons dungeons)) gid
      fun lfg => { lfg with dungeons := dungeons, type := typeOfDungeons dungeons })
    refine hparty.trans (tidy_join ?_ allowed extend (hinv.tidied hparty))
    rwa [ne_eq, getGroup_setPartyState]
  · refine hset.trans (tidy_join ?_ allowed extend (hinv.tidied hset))
    rw [getGroup_setPlayer]
    exact hgroup

theorem isQueued_addToSearchMatrix (m : LFGMgr) (guid g : Nat) :
    (m.addToSearchMatrix guid).isQueued g = m.isQueued g := by
  unfold addToSearchMatrix
  split <;> rfl

theorem sameBesidesQueue_addToSearchMatrix (m : LFGMgr) (guid : Nat) :
    SameBesidesQueue m (m.addToSearchMatrix guid) := by
  unfold addToSearchMatrix
  split <;> exact ⟨rfl, rfl, rfl, rfl, rfl, rfl⟩

/-- What a player without a group needs to be queued and listed: he is neither yet, and no entry of the
search matrix is there for his dungeons without players. -/
structure CanEnlist (m : LFGMgr) (guid : Nat) (type : LFGType) : Prop where
  idle : Idle m guid
  world : m.world guid = true
  solo : m.getGroup guid = none
  valid : type ≠ .none
  ofDungeons : type = typeOfDungeons (m.players guid).dungeons
  fresh : ∀ dungeon ∈ (m.players guid).dungeons, m.searchMatrix dungeon ≠ some []

variable {guid : Nat} {type : LFGType}

theorem sameBesidesQueue_enlist (m : LFGMgr) (guid : Nat) (type : LFGType) :
    SameBesidesQueue m ((m.addToQueue (.player guid) type).addToSearchMatrix guid) := by
  obtain ⟨⟨h₁, h₂, h₃, h₄, h₅, h₆⟩, -⟩ := sameBesidesQueue_addToQueue m (.player guid) type
  obtain ⟨h₁', h₂', h₃', h₄', h₅', h₆'⟩ :=
    sameBesidesQueue_addToSearchMatrix (m.addToQueue (.player guid) type) guid
  exact ⟨h₁'.trans h₁, h₂'.trans h₂, h₃'.trans h₃, h₄'.trans h₄, h₅'.trans h₅, h₆'.trans h₆⟩

theorem isQueued_joinAsPlayer (htype : type ≠ .none) (g : Nat) :
    (m.joinAsPlayer guid type).isQueued g = (m.isQueued g || decide (guid = g)) := by
  rw [joinAsPlayer, isQueued_setState, isQueued_addToSearchMatrix, isQueued_addToQueue m _ htype]
  simp

theorem CanEnlist.listed_joinAsPlayer (h : m.CanEnlist guid type) {g : Nat}
    {dungeon : LFGDungeonEntry} : (m.joinAsPlayer guid type).listed dungeon g ↔
      m.listed dungeon g ∨ (dungeon ∈ (m.players guid).dungeons ∧ g = guid) := by
  obtain ⟨hrest, hmatrix⟩ := sameBesidesQueue_addToQueue m (.player guid) type
  have hadd := @listed_addToSearchMatrix (m.addToQueue (.player guid) type) guid g dungeon
  rw [hrest.world, hrest.players, hmatrix] at hadd
  have hlisted : (m.addToQueue (.player guid) type).listed dungeon g ↔ m.listed dungeon g := by
    simp [listed, hmatrix]
  rw [hlisted] at hadd
  refine hadd.trans (or_congr_right ?_)
  constructor
  · rintro ⟨-, hdungeon, heq, -⟩
    exact ⟨hdungeon, heq⟩
  · rintro ⟨hdungeon, heq⟩
    exact ⟨h.world, hdungeon, heq, h.fresh dungeon hdungeon⟩

theorem players_joinAsPlayer_self (m : LFGMgr) (guid : Nat) (type : LFGType) : (m.joinAsPlayer guid type).players guid =
      { m.players guid with state := if type = .raid then .lfr else .queued } := by
  simp [joinAsPlayer, setState, setPlayers, (sameBesidesQueue_enlist m guid type).players]

theorem players_joinAsPlayer_of_ne {g : Nat} (h : g ≠ guid) : (m.joinAsPlayer guid type).players g = m.players g := by
  simp [joinAsPlayer, setState, setPlayers, h, (sameBesidesQueue_enlist m guid type).players]

theorem CanEnlist.inv (h : m.CanEnlist guid type) (hinv : Inv m) : Inv (m.joinAsPlayer guid type) := by
  have hrest := sameBesidesQueue_enlist m guid type
  constructor
  case placed =>
    intro g
    by_cases heq : g = guid
    · subst heq
      constructor
      case searched =>
        intro _ _ _ dungeon hdungeon
        rw [players_joinAsPlayer_self] at hdungeon
        exact h.listed_joinAsPlayer.mpr (.inr ⟨hdungeon, rfl⟩)
      case listed =>
        intro dungeon hlisted
        rw [players_joinAsPlayer_self]
        rcases h.listed_joinAsPlayer.mp hlisted with hold | ⟨hdungeon, -⟩
        · exact absurd hold (h.idle.unlisted dungeon)
        · refine ⟨by simp [isQueued_joinAsPlayer h.valid], ?_, hdungeon⟩
          by_cases hraid : type = .raid <;> simp [LFGPlayerState.isLooking, hraid]
      case raid =>
        intro _ hstate
        rw [players_joinAsPlayer_self] at hstate ⊢
        by_cases hraid : type = .raid
        · exact h.ofDungeons.symm.trans hraid
        · simp [hraid] at hstate
      case solo => exact fun _ => (hrest.getGroup g).trans h.solo
    · apply (hinv.placed g).same
      · exact congrFun hrest.world g
      · apply Same.of_player
        case hplayer => exact players_joinAsPlayer_of_ne heq
        case hqueued => simp [isQueued_joinAsPlayer h.valid, Ne.symm heq]
        case hlisted => simp [h.listed_joinAsPlayer, heq]
        case hsolo => exact fun hsolo => (hrest.getGroup g).trans hsolo
  case groupOf =>
    intro g gid hgid
    have hgroupOf : (m.joinAsPlayer guid type).groupOf = m.groupOf := hrest.groupOf
    rw [hgroupOf] at hgid
    exact (hinv.groupOf g gid hgid).trans_le hrest.nextGroup.ge
  case groups =>
    intro gid hgid
    have hgroups : (m.joinAsPlayer guid type).groups = m.groups := hrest.groups
    rw [hgroups] at hgid
    exact (hinv.groups gid hgid).trans_le hrest.nextGroup.ge
  case queue =>
    have hadd := hinv.queue.addToQueue (.player guid) type
    unfold joinAsPlayer addToSearchMatrix
    split <;> exact hadd.congr rfl rfl rfl rfl

theorem isSearched_setPlayer (m : LFGMgr) (guid : Nat) {f : LFGPlayerState → LFGPlayerState} (hf : ∀ lfg, (f lfg).state = lfg.state)
    (g : Nat) : (m.setPlayer guid f).isSearched g = m.isSearched g := by
  rw [isSearched, isSearched, isQueued_setPlayer]
  by_cases heq : g = guid
  · subst heq
    simp [setPlayer, LFGPlayerState.isLooking, hf]
  · rw [players_setPlayer_of_ne heq]

def letsIn (m : LFGMgr) (guid : Nat) (dungeons : List LFGDungeonEntry) (allowed : List Nat) : Bool :=
  !m.isQueued guid && guid ∈ allowed && typeOfDungeons dungeons ≠ .none

theorem inv_joinAlone (hinv : Inv m) (hworld : m.world guid = true) (hsolo : m.getGroup guid = none)
    (hsearched : m.isSearched guid = false) {dungeons : List LFGDungeonEntry} {allowed : List Nat}
    (hfresh : m.letsIn guid dungeons allowed = true → ∀ d ∈ dungeons, m.searchMatrix d ≠ some [])
    (extend : Bool) : Inv (m.handleLfgJoin guid dungeons allowed extend) := by
  have hset : Tidied m (m.setPlayer guid (·.setDungeons dungeons)) :=
    hinv.setPlayer_unsearched hsearched fun _ => rfl
  have hinv' := hinv.tidied hset
  have hplayer : (m.setPlayer guid (·.setDungeons dungeons)).players guid =
      (m.players guid).setDungeons dungeons := by simp [setPlayer]
  have hsearched' : (m.setPlayer guid (·.setDungeons dungeons)).isSearched guid = false := by
    rwa [isSearched_setPlayer m guid (f := (·.setDungeons dungeons)) fun _ => rfl]
  unfold handleLfgJoin
  simp only [hsolo]
  unfold join
  rw [getGroup_setPlayer, hsolo, hplayer]
  simp only
  split
  · exact hinv'
  next htype =>
    split
    · exact hinv'.tidied (unqueueUnsearched hinv' hsearched').1
    next hqueued =>
      have hidle : Idle (m.setPlayer guid (·.setDungeons dungeons)) guid :=
        (hinv'.placed guid).idle (by simpa [isQueued] using hqueued)
      split
      next hallowed =>
        have hnotQueued : m.isQueued guid = false := hidle.notQueued
        apply CanEnlist.inv _ hinv'
        constructor
        case idle => exact hidle
        case world => exact hworld
        case solo => exact hsolo
        case ofDungeons => rw [hplayer]; rfl
        case valid => exact htype
        case fresh =>
          rw [hplayer]
          apply hfresh
          have hvalid : typeOfDungeons dungeons ≠ .none := htype
          simp [letsIn, hnotQueued, hallowed.1, hvalid]
      next => exact hinv'.tidied (Tidied.setPlayer hidle _)

theorem inv_lfrLeave (hinv : Inv m) (hworld : m.world guid = true) {dungeon : LFGDungeonEntry}
    (h : m.getGroup guid = none → m.isSearched guid = true → dungeon ∉ (m.players guid).dungeons) :
    Inv (m.handleLfrLeave guid dungeon) := by
  unfold handleLfrLeave
  split
  next hsolo =>
    have hset : Tidied m (m.setPlayer guid (·.removeDungeon dungeon)) := by
      cases hsearched : m.isSearched guid with
      | false => exact hinv.setPlayer_unsearched hsearched fun _ => rfl
      | true =>
        have hkept : ∀ d ∈ (m.players guid).dungeons, ¬ d = dungeon := fun d hd heq =>
          h hsolo hsearched (heq ▸ hd)
        apply Tidied.of_players
        intro g
        by_cases heq : g = guid
        · subst heq
          left
          simpa [LFGPlayerState.removeDungeon, LFGPlayerState.setDungeons, LFGPlayerState.isLooking]
            using hkept
        · simp [heq]
    have hinv' := hinv.tidied hset
    simp only
    split
    · exact hinv'.tidied (tidy_leave hworld hinv')
    · exact hinv'
  next => exact hinv

theorem inv_clearLFRList (hinv : Inv m) (h : m.isSearched guid = false) : Inv (m.clearLFRList guid) := by
  have hset : Tidied m (m.setPlayer guid (·.setDungeons [])) :=
    hinv.setPlayer_unsearched h fun _ => rfl
  have hinv' := hinv.tidied hset
  apply hinv'.tidied
  apply (unqueueUnsearched hinv' _).1
  rwa [isSearched_setPlayer m guid (f := (·.setDungeons [])) fun _ => rfl]

theorem tidy_updateRoleCheck (m : LFGMgr) (gid : Nat) (chosen : List Nat) (fit : Bool) :
    Tidy m (m.updateRoleCheck gid chosen fit) := by
  unfold updateRoleCheck
  split
  · exact Tidy.refl m
  · split
    · have hready : ∀ test : Nat → Bool, Tidy m (m.setState ((m.present gid).filter test) .queued) :=
        fun test => Tidy.setPlayers_present gid (List.filter_subset_self _) _
      simp only
      split
      · exact (hready _).trans fun _ => Tidied.setPartyState _ gid _
      · exact hready _
    · exact Tidy.refl m

theorem tidied_cleanupRoleCheck (m : LFGMgr) (gid : Nat) : Tidied m (m.cleanupRoleCheck gid) := by
  unfold cleanupRoleCheck
  split
  · exact (Tidied.setPartyState m gid _).trans (Tidied.removeGroupFromQueue _ gid)
  · exact Tidied.refl m

theorem tidy_tryCreateGroup (m : LFGMgr) (entry : LFGDungeonEntry) (picked : List Nat)
    (dungeon : LFGDungeonEntry) : Tidy m (m.tryCreateGroup entry picked dungeon) := by
  unfold tryCreateGroup
  split
  · exact tidy_createProposal m dungeon none picked
  · exact Tidy.refl m

theorem tidy_tryCompleteGroup (m : LFGMgr) (type : LFGType) (gid : Nat) (picked : List Nat)
    (dungeon : LFGDungeonEntry) : Tidy m (m.tryCompleteGroup type gid picked dungeon) := by
  unfold tryCompleteGroup
  split
  · exact Tidy.refl m
  · split
    · exact tidy_createProposal m dungeon (some gid) picked
    · exact Tidy.refl m

theorem listed_cleanupSearchMatrix {g : Nat} {dungeon : LFGDungeonEntry} :
    m.cleanupSearchMatrix.listed dungeon g ↔ m.listed dungeon g ∧ m.world g = true := by
  unfold cleanupSearchMatrix listed
  cases h : m.searchMatrix dungeon <;> simp [h]

theorem inv_cleanupSearchMatrix (hinv : Inv m) : Inv m.cleanupSearchMatrix where
  placed g :=
    { searched := fun hworld hq hlooking dungeon hdungeon =>
        listed_cleanupSearchMatrix.mpr ⟨(hinv.placed g).searched hworld hq hlooking dungeon hdungeon, hworld⟩
      listed := fun dungeon hlisted =>
        (hinv.placed g).listed dungeon (listed_cleanupSearchMatrix.mp hlisted).1
      raid := (hinv.placed g).raid
      solo := (hinv.placed g).solo }
  groupOf := hinv.groupOf
  groups := hinv.groups
  queue := hinv.queue.congr rfl rfl rfl rfl

theorem inv_setWorld (hinv : Inv m) {world : Nat → Bool}
    (h : ∀ g, world g = true → m.world g = false → m.isSearched g = true →
      ∀ dungeon ∈ (m.players g).dungeons, m.listed dungeon g) : Inv { m with world := world } where
  placed g :=
    { searched := by
        intro hworld hq hlooking dungeon hdungeon
        cases hold : m.world g with
        | true => exact (hinv.placed g).searched hold hq hlooking dungeon hdungeon
        | false =>
          have hqueued : m.isQueued g = true := hq
          exact h g hworld hold (by simp [isSearched, hqueued, hlooking]) dungeon hdungeon
      listed := (hinv.placed g).listed
      raid := (hinv.placed g).raid
      solo := (hinv.placed g).solo }
  groupOf := hinv.groupOf
  groups := hinv.groups
  queue := hinv.queue.congr rfl rfl rfl rfl

theorem inv_leaveWorld (hinv : Inv m) (guid : Nat) : Inv { m with world := Function.update m.world guid false } := by
  apply inv_setWorld hinv
  intro g hworld hold
  by_cases heq : g = guid
  · simp [heq] at hworld
  · simp [heq, hold] at hworld

theorem inv_enterWorld (hinv : Inv m)
    (h : m.isSearched guid = true → ∀ dungeon ∈ (m.players guid).dungeons, m.listed dungeon guid) :
    Inv { m with world := Function.update m.world guid true } := by
  apply inv_setWorld hinv
  intro g hworld hold
  by_cases heq : g = guid
  · exact heq ▸ h
  · simp [heq, hold] at hworld

theorem inv_logout (hinv : Inv m) (guid : Nat) (regular : Bool) : Inv (m.logout guid regular) := by
  unfold logout
  apply inv_leaveWorld
  split
  · exact hinv.tidied (tidy_removeFromGroup m guid true hinv)
  · exact hinv

theorem tidied_wait (m : LFGMgr) (time : Nat) : Tidied m { m with now := time } := by
  apply Tidied.of_groups
  case hgroups => exact fun _ party h => ⟨party, h, fun h => h⟩
  all_goals simp

/-- The steps that do without what the code leaves out. Nobody who is searched for joins again, leaves the raid finder
for a dungeon of his or clears his list; no emptied entry of the search matrix is in the way of who joins. Of a
proposal that is cleaned up, the players who had agreed are searched for already and the others are not. The group
that a last answer completes can become one of the dungeon finder. Whoever comes back and is searched for is still
listed. -/
def Orderly (m : LFGMgr) : Op → Prop
  | .join guid dungeons allowed _ =>
    m.getGroup guid = none → m.isSearched guid = false ∧
      (m.letsIn guid dungeons allowed = true → ∀ d ∈ dungeons, m.searchMatrix d ≠ some [])
  | .lfrLeave guid dungeon =>
    m.getGroup guid = none → m.isSearched guid = true → dungeon ∉ (m.players guid).dungeons
  | .clearLFRList guid => m.isSearched guid = false
  | .proposalResult _ id guid accept _ =>
    ((m.proposals[id]?).all fun p =>
      !accept || !m.admits p guid || !m.isLastAnswer p guid || m.canConvert p) = true
  | .cleanupProposals type =>
    m.playerQueue type = [] ∧ m.groupQueue type = [] ∨ ∀ e ∈ m.due type, m.Settled e.2
  | .enterWorld guid =>
    m.isSearched guid = true → ∀ dungeon ∈ (m.players guid).dungeons, m.listed dungeon guid
  | _ => True

instance (m : LFGMgr) (op : Op) : Decidable (Orderly m op) :=
  match op with
  | .join .. | .lfrLeave .. | .enterWorld .. => inferInstanceAs (Decidable (_ → _))
  | .clearLFRList .. | .proposalResult .. => inferInstanceAs (Decidable (_ = _))
  | .cleanupProposals .. => inferInstanceAs (Decidable (_ ∨ _))
  | .leave .. | .setRoles .. | .tryCreateGroup .. | .tryCompleteGroup .. | .cleanupRoleCheck ..
  | .cleanupSearchMatrix | .leaveWorld .. | .logout .. | .wait .. => inferInstanceAs (Decidable True)

theorem Inv.handle (hinv : Inv m) {op : Op} (hop : m.Orderly op)
    (hsender : op.sender.all (m.world ·) = true) : Inv (m.handle op) := by
  cases op with
  | join guid dungeons allowed extend =>
    have hworld : m.world guid = true := by simpa [Op.sender] using hsender
    by_cases hsolo : m.getGroup guid = none
    · exact inv_joinAlone hinv hworld hsolo (hop hsolo).1 (hop hsolo).2 extend
    · exact hinv.tidied (tidy_joinInGroup hsolo dungeons allowed extend hinv)
  | leave guid =>
    have hworld : m.world guid = true := by simpa [Op.sender] using hsender
    exact hinv.tidied (tidy_leave hworld hinv)
  | lfrLeave guid dungeon =>
    have hworld : m.world guid = true := by simpa [Op.sender] using hsender
    exact inv_lfrLeave hinv hworld hop
  | clearLFRList guid => exact inv_clearLFRList hinv hop
  | setRoles guid chosen fit =>
    unfold LFGMgr.handle
    simp only
    split
    · exact hinv
    · exact hinv.tidied (tidy_updateRoleCheck m _ chosen fit hinv)
  | tryCreateGroup entry picked dungeon =>
    exact hinv.tidied (tidy_tryCreateGroup m entry picked dungeon hinv)
  | tryCompleteGroup type gid picked dungeon =>
    exact hinv.tidied (tidy_tryCompleteGroup m type gid picked dungeon hinv)
  | proposalResult sender id guid accept draw =>
    refine hinv.tidied (tidy_updateProposal ?_ draw hinv)
    intro p hp haccept hadmits hlast
    simpa [Orderly, hp, haccept, hadmits, hlast] using hop
  | cleanupProposals type =>
    rcases hop with hempty | hsettled
    · simpa [LFGMgr.handle, cleanupProposals, hempty] using hinv
    · exact hinv.tidied (tidy_cleanupProposals hsettled hinv)
  | cleanupRoleCheck gid => exact hinv.tidied (tidied_cleanupRoleCheck m gid)
  | cleanupSearchMatrix => exact inv_cleanupSearchMatrix hinv
  | enterWorld guid => exact inv_enterWorld hinv hop
  | leaveWorld guid => exact inv_leaveWorld hinv guid
  | logout guid regular => exact inv_logout hinv guid regular
  | wait time => exact hinv.tidied (tidied_wait m _)

theorem Inv.step (hinv : Inv m) {op : Op} (hop : m.Orderly op) : Inv (m.step op) := by
  unfold LFGMgr.step
  split
  next hsender => exact hinv.handle hop hsender
  next => exact hinv

theorem inv_start (world : Nat → Bool) (parties : List Party) (debug : Bool) : Inv (start world parties debug) where
  placed guid :=
    { searched := by simp [isQueued, start]
      listed := by simp [LFGMgr.listed, start]
      raid := by simp [isQueued, start]
      solo := by simp [isQueued, start] }
  groupOf guid gid hgid := by
    obtain ⟨hlt, -⟩ := List.findIdx?_eq_some_iff_getElem.mp hgid
    exact hlt
  groups gid hgid := by
    simpa [start] using hgid
  queue :=
    { entry := by simp [start]
      pointer := by
        intro name q hq
        cases name <;> simp [queue, start] at hq
      unique := by simp [start] }

theorem Inv.inPlayerQueue (h : Inv m) (hq : m.isQueued guid = true) : m.inPlayerQueue guid := by
  obtain ⟨info, hinfo⟩ := Option.isSome_iff_exists.mp hq
  exact ⟨info, info.type, hinfo, (h.queue.entry _ info hinfo).2.2⟩

theorem Inv.agree (h : Inv m) : m.Agree LFGPlayerState.IsQueuedOrLooksForRaid where
  searchable guid hworld hwaiting dungeon hdungeon := by
    obtain ⟨info, type, hinfo, -⟩ := hwaiting.queue
    have hlooking : (m.players guid).isLooking = true := by
      rcases hwaiting.state with hstate | ⟨hstate, -⟩ <;> simp [LFGPlayerState.isLooking, hstate]
    exact (h.placed guid).searched hworld (by simp [isQueued, hinfo]) hlooking dungeon hdungeon
  waiting dungeon guid _ hlisted := by
    obtain ⟨hq, hlooking, hdungeon⟩ := (h.placed guid).listed dungeon hlisted
    refine ⟨⟨(h.placed guid).solo hq, h.inPlayerQueue hq, ?_⟩, hdungeon⟩
    simp only [LFGPlayerState.isLooking, Bool.or_eq_true, decide_eq_true_eq] at hlooking
    exact hlooking.imp_right fun hstate => ⟨hstate, (h.placed guid).raid hq hstate⟩
  pointer name q hq := by
    obtain ⟨guid, info, hinfo, hid, hname⟩ := h.queue.pointer name q hq
    exact ⟨guid, info, hinfo, hid, (h.queue.entry guid info hinfo).1, hname⟩
  once guid info hinfo := h.queue.once hinfo

/-- In a run of orderly steps the queues, their entries and the search matrix agree. -/
theorem agree_run (world : Nat → Bool) (parties : List Party) (debug : Bool) (ops : List Op)
    (horderly : Guarded step Orderly (start world parties debug) ops) :
    (run step (start world parties debug) ops).Agree LFGPlayerState.IsQueuedOrLooksForRaid :=
  (run_invariant (fun _ _ hop hm => hm.step hop) horderly (inv_start world parties debug)).agree

def raidJoin : Op := .join 6 [⟨2, .raid⟩] [6] false

/-- Five players are sent a proposal, the first agrees to it, the second declines, and it is cleaned up. -/
def firstAgreesSecondDeclines : List Op :=
  fiveJoin ++ [firstAnswer true 1, firstAnswer false 2, .cleanupProposals .dungeon]

theorem agree_run_allAgree : (run step (start (fun _ => true) [] false) (raidJoin :: allAgree)).listed ⟨2, .raid⟩ 6 ∧
      (run step (start (fun _ => true) [] false) (raidJoin :: allAgree)).Agree
        LFGPlayerState.IsQueuedOrLooksForRaid := by
  refine ⟨by decide +kernel, ?_⟩
  exact agree_run (fun _ => true) [] false (raidJoin :: allAgree) (by decide +kernel)

/-- Who looks for a raid is listed in a state of its own; the player who had agreed is queued again and is
listed nowhere. -/
theorem not_always_agree : ¬ (run step (start (fun _ => true) [] false) [raidJoin]).Agree LFGPlayerState.IsQueued ∧
      ¬ (run step (start (fun _ => true) [] false) firstAgreesSecondDeclines).Agree
        LFGPlayerState.IsQueued := by
  constructor
  · intro h
    have hstate := (h.waiting ⟨2, .raid⟩ 6 (by decide +kernel) (by decide +kernel)).1.state
    exact absurd hstate (by decide +kernel)
  · intro h
    have hqueue : (run step (start (fun _ => true) [] false) firstAgreesSecondDeclines).inPlayerQueue 1 :=
      ⟨⟨.player 1, .dungeon, 6⟩, .dungeon, by decide +kernel, by decide +kernel⟩
    have hlisted := h.searchable 1 (by decide +kernel)
      ⟨by decide +kernel, hqueue, by decide +kernel⟩ ⟨1, .dungeon⟩
      (by decide +kernel)
    exact absurd hlisted (by decide +kernel)

end Mangos.LFGMgr
