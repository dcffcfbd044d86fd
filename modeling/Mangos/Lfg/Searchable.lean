import Mangos.Lfg.Consent
import Mangos.Lfg.Queue

/-!
# Queued players are searchable

A player in the queue who waits for a group is to be listed in the search matrix under each dungeon that he
looks for, and nobody else is to be listed.
-/

namespace Mangos

namespace LFGPlayerState

def IsQueued (lfg : LFGPlayerState) : Prop := lfg.state = .queued

instance (lfg : LFGPlayerState) : Decidable lfg.IsQueued := inferInstanceAs (Decidable (lfg.state = .queued))

/-- The players who look for a raid are listed with those who are queued; their state is another. -/
def IsQueuedOrLooksForRaid (lfg : LFGPlayerState) : Prop :=
  lfg.state = .queued ∨ (lfg.state = .lfr ∧ typeOfDungeons lfg.dungeons = .raid)

def isLooking (lfg : LFGPlayerState) : Bool := lfg.state = .queued || lfg.state = .lfr

end LFGPlayerState

namespace LFGMgr

open Framework Std

variable {m m' : LFGMgr}

def listed (m : LFGMgr) (dungeon : LFGDungeonEntry) (guid : Nat) : Prop :=
  guid ∈ (m.searchMatrix dungeon).getD []

instance (dungeon : LFGDungeonEntry) (guid : Nat) : Decidable (m.listed dungeon guid) :=
  inferInstanceAs (Decidable (guid ∈ (m.searchMatrix dungeon).getD []))

def inPlayerQueue (m : LFGMgr) (guid : Nat) : Prop :=
  ∃ info type, m.queueInfo (.player guid) = some info ∧ info.queueID ∈ m.playerQueue type

/-- A player in no group who is queued and whose state says that he is to be found. -/
structure Waiting (m : LFGMgr) (waits : LFGPlayerState → Prop) (guid : Nat) : Prop where
  solo : m.getGroup guid = none
  queue : m.inPlayerQueue guid
  state : waits (m.players guid)

/-- The queue, its entries and the search matrix agree on who waits. -/
structure Agree (m : LFGMgr) (waits : LFGPlayerState → Prop) : Prop where
  searchable : ∀ guid, m.world guid = true → m.Waiting waits guid →
    ∀ dungeon ∈ (m.players guid).dungeons, m.listed dungeon guid
  waiting : ∀ dungeon guid, m.world guid = true → m.listed dungeon guid →
    m.Waiting waits guid ∧ dungeon ∈ (m.players guid).dungeons
  pointer : ∀ name q, q ∈ m.queue name → ∃ guid info, m.queueInfo guid = some info ∧
    info.queueID = q ∧ info.guid = guid ∧ guid.queueName info.type = name
  once : ∀ guid info, m.queueInfo guid = some info → ∃! name, info.queueID ∈ m.queue name

def isQueued (m : LFGMgr) (guid : Nat) : Bool := (m.queueInfo (.player guid)).isSome

def isSearched (m : LFGMgr) (guid : Nat) : Bool := m.isQueued guid && (m.players guid).isLooking

structure Placed (m : LFGMgr) (guid : Nat) : Prop where
  searched : m.world guid = true → m.isQueued guid = true → (m.players guid).isLooking = true →
    ∀ dungeon ∈ (m.players guid).dungeons, m.listed dungeon guid
  listed : ∀ dungeon, m.listed dungeon guid → m.isQueued guid = true ∧
    (m.players guid).isLooking = true ∧ dungeon ∈ (m.players guid).dungeons
  raid : m.isQueued guid = true → (m.players guid).state = .lfr → typeOfDungeons (m.players guid).dungeons = .raid
  solo : m.isQueued guid = true → m.getGroup guid = none

structure Inv (m : LFGMgr) : Prop where
  placed : ∀ guid, m.Placed guid
  groupOf : ∀ guid gid, m.groupOf guid = some gid → gid < m.nextGroup
  groups : ∀ gid, (m.groups gid).isSome → gid < m.nextGroup
  queue : m.QueueSound

/-- Nothing that the search depends on has changed for the player. -/
structure Same (m m' : LFGMgr) (guid : Nat) : Prop where
  looking : (m'.players guid).isLooking = (m.players guid).isLooking
  raid : (m'.players guid).state = .lfr → (m.players guid).state = .lfr
  dungeons : (m'.players guid).dungeons = (m.players guid).dungeons
  queued : m'.isQueued guid = m.isQueued guid
  listed : ∀ dungeon, m'.listed dungeon guid ↔ m.listed dungeon guid
  solo : m.getGroup guid = none → m'.getGroup guid = none

/-- The player is not listed, and if he is queued he is not to be found. -/
structure Parked (m : LFGMgr) (guid : Nat) : Prop where
  unlisted : ∀ dungeon, ¬ m.listed dungeon guid
  notSearched : m.isQueued guid = true → m.getGroup guid = none ∧ (m.players guid).isLooking = false

/-- Neither queued nor listed. -/
structure Idle (m : LFGMgr) (guid : Nat) : Prop where
  unlisted : ∀ dungeon, ¬ m.listed dungeon guid
  notQueued : m.isQueued guid = false

theorem Idle.parked {guid : Nat} (h : Idle m guid) : Parked m guid where
  unlisted := h.unlisted
  notSearched hq := absurd (h.notQueued.symm.trans hq) (by simp)

theorem Placed.idle {guid : Nat} (h : Placed m guid) (hq : m.isQueued guid = false) : Idle m guid where
  unlisted dungeon hlisted := absurd (hq.symm.trans (h.listed dungeon hlisted).1) (by simp)
  notQueued := hq

theorem Placed.idle_of_group {guid : Nat} (h : Placed m guid) (hgroup : m.getGroup guid ≠ none) : Idle m guid := by
  apply h.idle
  by_contra hq
  exact hgroup (h.solo (by simpa using hq))

theorem Placed.unlisted {guid : Nat} (h : Placed m guid) (hsearched : m.isSearched guid = false)
    (dungeon : LFGDungeonEntry) : ¬ m.listed dungeon guid := by
  intro hlisted
  obtain ⟨hq, hlooking, -⟩ := h.listed dungeon hlisted
  simp [isSearched, hq, hlooking] at hsearched

theorem Placed.same {guid : Nat} (h : Placed m guid) (hworld : m'.world guid = m.world guid)
    (hsame : Same m m' guid) : Placed m' guid where
  searched hw hq hlooking dungeon hdungeon := by
    rw [hsame.looking] at hlooking
    rw [hsame.dungeons] at hdungeon
    rw [hworld] at hw
    rw [hsame.queued] at hq
    exact (hsame.listed dungeon).mpr (h.searched hw hq hlooking dungeon hdungeon)
  listed dungeon hlisted := by
    rw [hsame.looking, hsame.dungeons, hsame.queued]
    exact h.listed dungeon ((hsame.listed dungeon).mp hlisted)
  raid hq hstate := by
    rw [hsame.queued] at hq
    rw [hsame.dungeons]
    exact h.raid hq (hsame.raid hstate)
  solo hq := hsame.solo (h.solo (hsame.queued.symm.trans hq))

theorem Parked.placed {guid : Nat} (h : Parked m guid) : Placed m guid where
  searched _ hq hlooking := absurd ((h.notSearched hq).2.symm.trans hlooking) (by simp)
  listed dungeon hlisted := absurd hlisted (h.unlisted dungeon)
  raid hq hstate := by
    have hlooking := (h.notSearched hq).2
    simp [LFGPlayerState.isLooking, hstate] at hlooking
  solo hq := (h.notSearched hq).1

theorem Same.refl (m : LFGMgr) (guid : Nat) : Same m m guid :=
  ⟨rfl, fun h => h, rfl, rfl, fun _ => Iff.rfl, fun h => h⟩

theorem Same.of_player {guid : Nat} (hplayer : m'.players guid = m.players guid)
    (hqueued : m'.isQueued guid = m.isQueued guid) (hlisted : ∀ dungeon, m'.listed dungeon guid ↔ m.listed dungeon guid)
    (hsolo : m.getGroup guid = none → m'.getGroup guid = none) : Same m m' guid where
  looking := by rw [hplayer]
  raid := by rw [hplayer]; exact fun h => h
  dungeons := by rw [hplayer]
  queued := hqueued
  listed := hlisted
  solo := hsolo

theorem Same.trans {m'' : LFGMgr} {guid : Nat} (h : Same m m' guid) (h' : Same m' m'' guid) : Same m m'' guid where
  looking := h'.looking.trans h.looking
  raid hstate := h.raid (h'.raid hstate)
  dungeons := h'.dungeons.trans h.dungeons
  queued := h'.queued.trans h.queued
  listed dungeon := (h'.listed dungeon).trans (h.listed dungeon)
  solo hsolo := h'.solo (h.solo hsolo)

theorem Parked.same {guid : Nat} (h : Parked m guid) (hsame : Same m m' guid) : Parked m' guid where
  unlisted dungeon hlisted := h.unlisted dungeon ((hsame.listed dungeon).mp hlisted)
  notSearched hq := by
    obtain ⟨hsolo, hlooking⟩ := h.notSearched (hsame.queued.symm.trans hq)
    rw [hsame.looking]
    exact ⟨hsame.solo hsolo, hlooking⟩

/-- A step that leaves each player as he is or parks him, and keeps the numbers of groups and the queues in
order. -/
structure Tidied (m m' : LFGMgr) : Prop where
  world : m'.world = m.world
  players : ∀ guid, Same m m' guid ∨ Parked m' guid
  groupOf : ∀ guid gid, m'.groupOf guid = some gid → m.groupOf guid = some gid ∨ gid < m'.nextGroup
  groups : ∀ gid party', m'.groups gid = some party' →
    (∃ party, m.groups gid = some party ∧ (party.lfd = true → party'.lfd = true)) ∨
      (m.nextGroup ≤ gid ∧ gid < m'.nextGroup)
  nextGroup : m.nextGroup ≤ m'.nextGroup
  queue : m.QueueSound → m'.QueueSound

theorem Inv.tidied (h : Inv m) (ht : Tidied m m') : Inv m' where
  placed guid := by
    rcases ht.players guid with hsame | hparked
    · exact (h.placed guid).same (congrFun ht.world guid) hsame
    · exact hparked.placed
  groupOf guid gid hgid := by
    rcases ht.groupOf guid gid hgid with hold | hnew
    · exact (h.groupOf guid gid hold).trans_le ht.nextGroup
    · exact hnew
  groups gid hgid := by
    obtain ⟨party', hparty'⟩ := Option.isSome_iff_exists.mp hgid
    rcases ht.groups gid party' hparty' with ⟨party, hparty, -⟩ | ⟨-, hnew⟩
    · exact (h.groups gid (by simp [hparty])).trans_le ht.nextGroup
    · exact hnew
  queue := ht.queue h.queue

theorem Tidied.refl (m : LFGMgr) : Tidied m m where
  world := rfl
  players guid := .inl (Same.refl m guid)
  groupOf _ _ h := .inl h
  groups _ party h := .inl ⟨party, h, fun h => h⟩
  nextGroup := Nat.le_refl _
  queue h := h

theorem Tidied.trans {m'' : LFGMgr} (h : Tidied m m') (h' : Tidied m' m'') : Tidied m m'' where
  world := h'.world.trans h.world
  players guid := by
    rcases h'.players guid with hsame' | hparked'
    · rcases h.players guid with hsame | hparked
      · exact .inl (hsame.trans hsame')
      · exact .inr (hparked.same hsame')
    · exact .inr hparked'
  groupOf guid gid hgid := by
    rcases h'.groupOf guid gid hgid with hold | hnew
    · rcases h.groupOf guid gid hold with hold | hnew
      · exact .inl hold
      · exact .inr (hnew.trans_le h'.nextGroup)
    · exact .inr hnew
  groups gid party'' hparty'' := by
    rcases h'.groups gid party'' hparty'' with ⟨party', hparty', hlfd'⟩ | ⟨hle, hlt⟩
    · rcases h.groups gid party' hparty' with ⟨party, hparty, hlfd⟩ | ⟨hle, hlt⟩
      · exact .inl ⟨party, hparty, fun h => hlfd' (hlfd h)⟩
      · exact .inr ⟨hle, hlt.trans_le h'.nextGroup⟩
    · exact .inr ⟨h.nextGroup.trans hle, hlt⟩
  nextGroup := h.nextGroup.trans h'.nextGroup
  queue h₀ := h'.queue (h.queue h₀)

def Tidy (m m' : LFGMgr) : Prop := Inv m → Tidied m m'

theorem Tidy.refl (m : LFGMgr) : Tidy m m := fun _ => Tidied.refl m

theorem Tidy.trans {m'' : LFGMgr} (h : Tidy m m') (h' : Tidy m' m'') : Tidy m m'' := fun hinv =>
  (h hinv).trans (h' (hinv.tidied (h hinv)))

theorem tidy_run {f : LFGMgr → Nat → LFGMgr} {l : List Nat}
    (h : ∀ g ∈ l, ∀ m₁, Tidied m m₁ → Tidy m₁ (f m₁ g)) : Tidy m (run f m l) := by
  induction l generalizing m with
  | nil => exact Tidy.refl m
  | cons g l ih =>
    intro hinv
    have hfirst := h g List.mem_cons_self m (Tidied.refl m) hinv
    have hrest : Tidy (f m g) (run f (f m g) l) := by
      apply ih
      intro j hj m₁ hm₁
      exact h j (List.mem_cons_of_mem g hj) m₁ (hfirst.trans hm₁)
    exact hfirst.trans (hrest (hinv.tidied hfirst))

theorem getGroup_eq_none {guid : Nat} :
    m.getGroup guid = none ↔ ∀ gid, m.groupOf guid = some gid → m.groups gid = none := by
  cases h : m.groupOf guid with
  | none => simp [getGroup, h]
  | some gid => simp [getGroup, h]

theorem Tidied.of_groups (hworld : m'.world = m.world) (hplayers : m'.players = m.players)
    (hinfo : m'.queueInfo = m.queueInfo) (hid : m'.queueID = m.queueID)
    (hpq : m'.playerQueue = m.playerQueue) (hgq : m'.groupQueue = m.groupQueue)
    (hmatrix : m'.searchMatrix = m.searchMatrix)
    (hgroupOf : ∀ guid gid, m'.groupOf guid = some gid → m.groupOf guid = some gid)
    (hgroups : ∀ gid party', m'.groups gid = some party' →
      ∃ party, m.groups gid = some party ∧ (party.lfd = true → party'.lfd = true))
    (hnext : m'.nextGroup = m.nextGroup) : Tidied m m' where
  world := hworld
  players guid := by
    left
    apply Same.of_player
    case hplayer => rw [hplayers]
    case hqueued => simp [isQueued, hinfo]
    case hlisted => simp [listed, hmatrix]
    intro hsolo
    rw [getGroup_eq_none] at hsolo ⊢
    intro gid hgid
    by_contra hsome
    obtain ⟨party', hparty'⟩ := Option.ne_none_iff_exists'.mp hsome
    obtain ⟨party, hparty, -⟩ := hgroups gid party' hparty'
    rw [hsolo gid (hgroupOf guid gid hgid)] at hparty
    cases hparty
  groupOf guid gid h := .inl (hgroupOf guid gid h)
  groups gid party' h := .inl (hgroups gid party' h)
  nextGroup := hnext.ge
  queue h := h.congr hinfo hid hpq hgq

theorem Tidied.of_proposals (m : LFGMgr) (proposals : ExtTreeMap Nat LFGProposal) (id : Nat)
    (log : List ProposalNote) : Tidied m { m with proposals := proposals, proposalID := id, log := log } := by
  apply Tidied.of_groups
  case hgroups => exact fun _ party h => ⟨party, h, fun h => h⟩
  all_goals simp

theorem Tidied.setProposal (m : LFGMgr) (id : Nat) (f : LFGProposal → LFGProposal) : Tidied m (m.setProposal id f) :=
  Tidied.of_proposals m _ m.proposalID m.log

theorem Tidied.note (m : LFGMgr) (n : ProposalNote) : Tidied m (m.note n) :=
  Tidied.of_proposals m m.proposals m.proposalID _

theorem Tidied.eraseProposal (m : LFGMgr) (id : Nat) : Tidied m { m with proposals := m.proposals.erase id } :=
  Tidied.of_proposals m _ m.proposalID m.log

theorem groups_setParty_self (m : LFGMgr) (gid : Nat) (f : Party → Party) :
    (m.setParty gid f).groups gid = (m.groups gid).map f :=
  Function.update_self gid _ _

theorem Tidied.setParty (m : LFGMgr) (gid : Nat) {f : Party → Party}
    (h : ∀ party, party.lfd = true → (f party).lfd = true) : Tidied m (m.setParty gid f) := by
  apply Tidied.of_groups
  case hgroups =>
    intro j party' hparty'
    by_cases hj : j = gid
    · subst hj
      have hmap : (m.groups j).map f = some party' := by simpa [LFGMgr.setParty] using hparty'
      obtain ⟨party, hparty, rfl⟩ := Option.map_eq_some_iff.mp hmap
      exact ⟨party, hparty, h party⟩
    · exact ⟨party', by simpa [LFGMgr.setParty, hj] using hparty', fun h => h⟩
  all_goals simp [LFGMgr.setParty]

theorem Tidied.setPartyState (m : LFGMgr) (gid : Nat) (f : PartyState → PartyState) :
    Tidied m (m.setPartyState gid f) :=
  Tidied.setParty m gid fun _ h => h

theorem Tidied.setGroup_none (m : LFGMgr) (guid : Nat) : Tidied m (m.setGroup guid none) := by
  apply Tidied.of_groups
  case hgroupOf =>
    intro g j hg
    by_cases heq : g = guid
    · simp [heq, LFGMgr.setGroup] at hg
    · simpa [heq, LFGMgr.setGroup] using hg
  case hgroups => exact fun _ party h => ⟨party, h, fun h => h⟩
  all_goals simp [LFGMgr.setGroup]

theorem Tidied.deleteGroup (m : LFGMgr) (gid : Nat) : Tidied m (m.deleteGroup gid) := by
  apply Tidied.of_groups
  case hgroupOf =>
    intro g j hg
    by_cases heq : m.groupOf g = some gid
    · simp [LFGMgr.deleteGroup, heq] at hg
    · simpa [LFGMgr.deleteGroup, heq] using hg
  case hgroups =>
    intro j party' hparty'
    by_cases heq : j = gid
    · simp [LFGMgr.deleteGroup, heq] at hparty'
    · exact ⟨party', by simpa [LFGMgr.deleteGroup, heq] using hparty', fun h => h⟩
  all_goals simp [LFGMgr.deleteGroup]

theorem Tidied.of_players {f : Nat → LFGPlayerState} (h : ∀ guid, ((f guid).isLooking = (m.players guid).isLooking ∧
      ((f guid).state = .lfr → (m.players guid).state = .lfr) ∧
      (f guid).dungeons = (m.players guid).dungeons) ∨ Parked { m with players := f } guid) :
    Tidied m { m with players := f } where
  world := rfl
  players guid := by
    rcases h guid with ⟨hlooking, hraid, hdungeons⟩ | hparked
    · exact .inl ⟨hlooking, hraid, hdungeons, rfl, fun _ => Iff.rfl, fun h => h⟩
    · exact .inr hparked
  groupOf _ _ h := .inl h
  groups _ party h := .inl ⟨party, h, fun h => h⟩
  nextGroup := Nat.le_refl _
  queue h := h.congr rfl rfl rfl rfl

theorem Idle.parked_players {guid : Nat} (h : Idle m guid) (f : Nat → LFGPlayerState) :
    Parked { m with players := f } guid :=
  Idle.parked ⟨h.unlisted, h.notQueued⟩

theorem Tidied.setPlayer {guid : Nat} (h : Idle m guid) (f : LFGPlayerState → LFGPlayerState) :
    Tidied m (m.setPlayer guid f) := by
  apply Tidied.of_players
  intro g
  by_cases heq : g = guid
  · subst heq
    exact .inr (h.parked_players _)
  · simp [heq]

theorem Tidied.setPlayers {guids : List Nat} (h : ∀ g ∈ guids, Idle m g)
    (f : LFGPlayerState → LFGPlayerState) : Tidied m (m.setPlayers guids f) := by
  apply Tidied.of_players
  intro g
  by_cases hg : g ∈ guids
  · exact .inr ((h g hg).parked_players _)
  · simp [hg]

theorem Inv.setPlayer_unsearched (hinv : Inv m) {guid : Nat} (hsearched : m.isSearched guid = false)
    {f : LFGPlayerState → LFGPlayerState} (hstate : ∀ lfg, (f lfg).state = lfg.state) :
    Tidied m (m.setPlayer guid f) := by
  apply Tidied.of_players
  intro g
  by_cases heq : g = guid
  · subst heq
    right
    constructor
    case unlisted => exact (hinv.placed g).unlisted hsearched
    case notSearched =>
      intro hq
      refine ⟨(hinv.placed g).solo hq, ?_⟩
      have hqueued : m.isQueued g = true := hq
      simp only [isSearched, hqueued, Bool.true_and] at hsearched
      simpa [LFGPlayerState.isLooking, hstate] using hsearched
  · simp [heq]

theorem mem_present_getGroup {gid g : Nat} (h : g ∈ m.present gid) : m.world g = true ∧ m.getGroup g ≠ none := by
  cases hparty : m.groups gid with
  | none => simp [present, hparty] at h
  | some party =>
    simp only [present, hparty, Option.map_some, Option.getD_some, List.mem_filter, Bool.and_eq_true, beq_iff_eq] at h
    refine ⟨h.2.1, ?_⟩
    simp [getGroup, h.2.2, hparty]

theorem Tidy.setPlayers_present (gid : Nat) {guids : List Nat} (h : guids ⊆ m.present gid)
    (f : LFGPlayerState → LFGPlayerState) : Tidy m (m.setPlayers guids f) := fun hinv =>
  Tidied.setPlayers (fun g hg => (hinv.placed g).idle_of_group (mem_present_getGroup (h hg)).2) f

@[simp] theorem isQueued_setPlayer (m : LFGMgr) (guid g : Nat) (f : LFGPlayerState → LFGPlayerState) :
    (m.setPlayer guid f).isQueued g = m.isQueued g := rfl

@[simp] theorem listed_setPlayer {guid g : Nat} {f : LFGPlayerState → LFGPlayerState}
    {dungeon : LFGDungeonEntry} : (m.setPlayer guid f).listed dungeon g ↔ m.listed dungeon g := Iff.rfl

@[simp] theorem isQueued_setGroup (m : LFGMgr) (guid g : Nat) (gid : Option Nat) :
    (m.setGroup guid gid).isQueued g = m.isQueued g := rfl

@[simp] theorem listed_setGroup {guid g : Nat} {gid : Option Nat} {dungeon : LFGDungeonEntry} :
    (m.setGroup guid gid).listed dungeon g ↔ m.listed dungeon g := Iff.rfl

theorem players_setPlayer_of_ne {guid g : Nat} (h : g ≠ guid) (f : LFGPlayerState → LFGPlayerState) :
    (m.setPlayer guid f).players g = m.players g := by
  simp [LFGMgr.setPlayer, h]

theorem isQueued_removeFromQueue (m : LFGMgr) (guid : LFGGuid) (g : Nat) :
    (m.removeFromQueue guid).isQueued g = (m.isQueued g && decide (guid ≠ .player g)) := by
  rw [isQueued, queueInfo_removeFromQueue, Function.update_apply]
  by_cases h : LFGGuid.player g = guid
  · simp [h]
  · simp [h, Ne.symm h, isQueued]

theorem isQueued_addToQueue (m : LFGMgr) (guid : LFGGuid) {type : LFGType} (htype : type ≠ .none)
    (g : Nat) : (m.addToQueue guid type).isQueued g = (m.isQueued g || decide (guid = .player g)) := by
  rw [isQueued, LFGMgr.addToQueue, if_neg htype, queueInfo_insertInQueue, Function.update_apply]
  by_cases h : LFGGuid.player g = guid
  · simp [h]
  · have hremoved := isQueued_removeFromQueue m guid g
    simp only [isQueued] at hremoved ⊢
    simp [h, hremoved, Ne.symm h]

/-- The rest of the state is the same. -/
structure SameBesidesQueue (m m' : LFGMgr) : Prop where
  world : m'.world = m.world
  players : m'.players = m.players
  groupOf : m'.groupOf = m.groupOf
  groups : m'.groups = m.groups
  nextGroup : m'.nextGroup = m.nextGroup
  proposals : m'.proposals = m.proposals

theorem sameBesidesQueue_removeFromQueue (m : LFGMgr) (guid : LFGGuid) :
    SameBesidesQueue m (m.removeFromQueue guid) ∧ (m.removeFromQueue guid).searchMatrix = m.searchMatrix := by
  unfold removeFromQueue
  split
  · exact ⟨⟨rfl, rfl, rfl, rfl, rfl, rfl⟩, rfl⟩
  · cases guid <;> exact ⟨⟨rfl, rfl, rfl, rfl, rfl, rfl⟩, rfl⟩

theorem sameBesidesQueue_addToQueue (m : LFGMgr) (guid : LFGGuid) (type : LFGType) :
    SameBesidesQueue m (m.addToQueue guid type) ∧ (m.addToQueue guid type).searchMatrix = m.searchMatrix := by
  unfold addToQueue
  split
  · exact ⟨⟨rfl, rfl, rfl, rfl, rfl, rfl⟩, rfl⟩
  · obtain ⟨⟨h₁, h₂, h₃, h₄, h₅, h₆⟩, h₇⟩ := sameBesidesQueue_removeFromQueue m guid
    cases guid <;> exact ⟨⟨h₁, h₂, h₃, h₄, h₅, h₆⟩, h₇⟩

theorem sameBesidesQueue_removeFromSearchMatrix (m : LFGMgr) (guid : Nat) :
    SameBesidesQueue m (m.removeFromSearchMatrix guid) := by
  unfold removeFromSearchMatrix
  split <;> exact ⟨rfl, rfl, rfl, rfl, rfl, rfl⟩

theorem SameBesidesQueue.getGroup (h : SameBesidesQueue m m') (guid : Nat) : m'.getGroup guid = m.getGroup guid := by
  simp only [LFGMgr.getGroup, h.groupOf, h.groups]

theorem SameBesidesQueue.tidied (h : SameBesidesQueue m m') (hplayers : ∀ guid, (m'.isQueued guid = m.isQueued guid ∧
      ∀ dungeon, m'.listed dungeon guid ↔ m.listed dungeon guid) ∨ Parked m' guid)
    (hqueue : m.QueueSound → m'.QueueSound) : Tidied m m' where
  world := h.world
  players guid := by
    rcases hplayers guid with ⟨hq, hlisted⟩ | hparked
    · exact .inl (Same.of_player (by rw [h.players]) hq hlisted fun hsolo => (h.getGroup guid).trans hsolo)
    · exact .inr hparked
  groupOf guid gid hgid := .inl (h.groupOf ▸ hgid)
  groups gid party hparty := .inl ⟨party, h.groups ▸ hparty, fun h => h⟩
  nextGroup := h.nextGroup.ge
  queue := hqueue

theorem Tidied.removeGroupFromQueue (m : LFGMgr) (gid : Nat) : Tidied m (m.removeFromQueue (.group gid)) := by
  obtain ⟨hrest, hmatrix⟩ := sameBesidesQueue_removeFromQueue m (.group gid)
  apply hrest.tidied
  · exact fun g => .inl ⟨by simp [isQueued_removeFromQueue], by simp [listed, hmatrix]⟩
  · exact fun h => h.removeFromQueue _

theorem Tidied.addGroupToQueue (m : LFGMgr) (gid : Nat) (type : LFGType) :
    Tidied m (m.addToQueue (.group gid) type) := by
  obtain ⟨hrest, hmatrix⟩ := sameBesidesQueue_addToQueue m (.group gid) type
  apply hrest.tidied
  · refine fun g => .inl ⟨?_, by simp [listed, hmatrix]⟩
    by_cases htype : type = .none
    · simp [LFGMgr.addToQueue, htype]
    · simp [isQueued_addToQueue m _ htype]
  · exact fun h => h.addToQueue _ type

theorem mem_dropApplicant {guid g : Nat} {guids : Option (List Nat)} :
    g ∈ (dropApplicant guid guids).getD [] ↔ g ∈ guids.getD [] ∧ g ≠ guid := by
  unfold dropApplicant
  split
  · simp
  · simp
  next guids _ =>
    simp only
    split
    next hempty =>
      have hnone : ¬ (g ∈ guids ∧ g ≠ guid) := by
        intro hg
        have hmem : g ∈ guids.filter (· ≠ guid) := List.mem_filter.mpr ⟨hg.1, by simpa using hg.2⟩
        rw [hempty] at hmem
        cases hmem
      simpa using hnone
    next => simp

theorem listed_removeFromSearchMatrix {guid g : Nat} {dungeon : LFGDungeonEntry} :
    (m.removeFromSearchMatrix guid).listed dungeon g ↔ m.listed dungeon g ∧
      ¬ (m.world guid = true ∧ dungeon ∈ (m.players guid).dungeons ∧ g = guid) := by
  unfold removeFromSearchMatrix listed
  by_cases hworld : m.world guid = true
  · by_cases hdungeon : dungeon ∈ (m.players guid).dungeons
    · simp [hworld, hdungeon, mem_dropApplicant]
    · simp [hworld, hdungeon]
  · simp [hworld]

theorem mem_addApplicant {guid g : Nat} {guids : Option (List Nat)} :
    g ∈ (addApplicant guid guids).getD [] ↔ g ∈ guids.getD [] ∨ (g = guid ∧ guids ≠ some []) := by
  unfold addApplicant
  split
  · simp
  · simp
  next guids hne =>
    have hsome : guids ≠ [] := fun h => hne h
    simp [hsome, or_comm]

theorem listed_addToSearchMatrix {guid g : Nat} {dungeon : LFGDungeonEntry} :
    (m.addToSearchMatrix guid).listed dungeon g ↔ m.listed dungeon g ∨
      (m.world guid = true ∧ dungeon ∈ (m.players guid).dungeons ∧ g = guid ∧ m.searchMatrix dungeon ≠ some []) := by
  unfold addToSearchMatrix listed
  by_cases hworld : m.world guid = true
  · by_cases hdungeon : dungeon ∈ (m.players guid).dungeons
    · simp [hworld, hdungeon, mem_addApplicant]
    · simp [hworld, hdungeon]
  · simp [hworld]

theorem sameBesidesQueue_unqueue (m : LFGMgr) (guid : Nat) : SameBesidesQueue m (m.unqueue guid) := by
  obtain ⟨⟨h₁, h₂, h₃, h₄, h₅, h₆⟩, -⟩ := sameBesidesQueue_removeFromQueue m (.player guid)
  obtain ⟨h₁', h₂', h₃', h₄', h₅', h₆'⟩ :=
    sameBesidesQueue_removeFromSearchMatrix (m.removeFromQueue (.player guid)) guid
  exact ⟨h₁'.trans h₁, h₂'.trans h₂, h₃'.trans h₃, h₄'.trans h₄, h₅'.trans h₅, h₆'.trans h₆⟩

theorem isQueued_unqueue (m : LFGMgr) (guid g : Nat) :
    (m.unqueue guid).isQueued g = (m.isQueued g && decide (g ≠ guid)) := by
  have hinfo : (m.unqueue guid).queueInfo = (m.removeFromQueue (.player guid)).queueInfo := by
    unfold LFGMgr.unqueue removeFromSearchMatrix
    split <;> rfl
  have hremoved := isQueued_removeFromQueue m (.player guid) g
  simp only [isQueued] at hremoved ⊢
  rw [hinfo, hremoved]
  simp [eq_comm]

theorem listed_unqueue {guid g : Nat} {dungeon : LFGDungeonEntry} :
    (m.unqueue guid).listed dungeon g ↔ m.listed dungeon g ∧
      ¬ (m.world guid = true ∧ dungeon ∈ (m.players guid).dungeons ∧ g = guid) := by
  obtain ⟨hrest, hmatrix⟩ := sameBesidesQueue_removeFromQueue m (.player guid)
  rw [LFGMgr.unqueue, listed_removeFromSearchMatrix, hrest.world, hrest.players]
  simp [listed, hmatrix]

theorem idle_unqueue {guid : Nat} (hworld : m.world guid = true)
    (hlisted : ∀ dungeon, m.listed dungeon guid → dungeon ∈ (m.players guid).dungeons) :
    Idle (m.unqueue guid) guid where
  unlisted dungeon h := by
    obtain ⟨hold, hnot⟩ := listed_unqueue.mp h
    exact hnot ⟨hworld, hlisted dungeon hold, rfl⟩
  notQueued := by simp [isQueued_unqueue]

theorem queueSound_unqueue (guid : Nat) (h : m.QueueSound) : (m.unqueue guid).QueueSound := by
  unfold LFGMgr.unqueue removeFromSearchMatrix
  split
  · exact (h.removeFromQueue (.player guid)).congr rfl rfl rfl rfl
  · exact h.removeFromQueue (.player guid)

theorem tidied_unqueue {guid : Nat} (hidle : Idle (m.unqueue guid) guid) : Tidied m (m.unqueue guid) := by
  apply (sameBesidesQueue_unqueue m guid).tidied
  · intro g
    by_cases heq : g = guid
    · exact .inr (heq ▸ hidle.parked)
    · exact .inl ⟨by simp [isQueued_unqueue, heq], fun _ => by simp [listed_unqueue, heq]⟩
  · exact queueSound_unqueue guid

theorem Inv.idle_unqueue (h : Inv m) {guid : Nat} (hworld : m.world guid = true) : Idle (m.unqueue guid) guid :=
  LFGMgr.idle_unqueue hworld fun dungeon hlisted => ((h.placed guid).listed dungeon hlisted).2.2

theorem Idle.setPlayer {guid : Nat} (h : Idle m guid) (f : LFGPlayerState → LFGPlayerState) :
    Idle (m.setPlayer guid f) guid :=
  ⟨h.unlisted, h.notQueued⟩

theorem tidy_leaveQueue {guid : Nat} (hworld : m.world guid = true) : Tidy m (m.leaveQueue guid) := by
  intro hinv
  have hidle := hinv.idle_unqueue hworld
  exact (tidied_unqueue hidle).trans (Tidied.setPlayer hidle _)

theorem tidy_leaveGroup (m : LFGMgr) (gid : Nat) (party : Party) : Tidy m (m.leaveGroup gid party) := by
  have hmembers : ∀ m₁ : LFGMgr, m₁.world = m.world →
      Tidy m₁ ((run leaveQueue m₁ (m.present gid)).setPartyState gid fun _ => {}) := by
    intro m₁ hworld
    have hrun : Tidy m₁ (run leaveQueue m₁ (m.present gid)) := by
      apply tidy_run
      intro g hg m₂ hworld₂
      apply tidy_leaveQueue
      rw [hworld₂.world, hworld]
      exact (mem_present_getGroup hg).1
    exact hrun.trans fun _ => Tidied.setPartyState _ gid _
  have hqueue := Tidied.removeGroupFromQueue m gid
  unfold leaveGroup
  dsimp only
  split
  next id _ _ =>
    have hstart := hqueue.trans (Tidied.setProposal _ id ({ · with deleted := true }))
    exact Tidy.trans (fun _ => hstart) (hmembers _ hstart.world)
  next => exact Tidy.trans (fun _ => hqueue) (hmembers _ hqueue.world)

theorem tidy_leave {guid : Nat} (hworld : m.world guid = true) : Tidy m (m.leave guid) := by
  unfold leave
  split
  · exact tidy_leaveQueue hworld
  · split
    · exact tidy_leaveGroup m _ _
    · exact Tidy.refl m

theorem tidy_leaveAsLeader (m : LFGMgr) (gid : Nat) : Tidy m (m.leaveAsLeader gid) := by
  unfold leaveAsLeader
  split
  · exact Tidy.refl m
  · split
    next hworld => exact tidy_leave hworld
    next => exact Tidy.refl m

theorem Tidied.offerContinue (m : LFGMgr) (gid : Nat) : Tidied m (m.offerContinue gid) :=
  Tidied.setPartyState m gid _

theorem getGroup_setPartyState {gid guid : Nat} {f : PartyState → PartyState} :
    (m.setPartyState gid f).getGroup guid = none ↔ m.getGroup guid = none := by
  rw [getGroup_eq_none, getGroup_eq_none]
  have hgroups : ∀ j, (m.setPartyState gid f).groups j = none ↔ m.groups j = none := by
    intro j
    by_cases heq : j = gid
    · subst heq
      simp [LFGMgr.setPartyState, LFGMgr.setParty]
    · simp [LFGMgr.setPartyState, LFGMgr.setParty, heq]
  simp only [hgroups]
  rfl

theorem tidy_removeMemberFromLFDGroup {gid guid : Nat} (hsolo : m.world guid = true → m.getGroup guid = none) :
    Tidy m (m.removeMemberFromLFDGroup gid guid) := by
  have hclear : ∀ m₁ : LFGMgr, m₁.world guid = true → m₁.getGroup guid = none →
      Tidy m₁ ((m₁.leave guid).setPlayer guid fun _ => {}) := by
    intro m₁ hworld hnone hinv
    have hidle : Idle (m₁.leaveQueue guid) guid := (hinv.idle_unqueue hworld).setPlayer _
    have hleave : m₁.leave guid = m₁.leaveQueue guid := by simp [leave, hnone]
    rw [hleave]
    exact (tidy_leaveQueue hworld hinv).trans (Tidied.setPlayer hidle _)
  unfold removeMemberFromLFDGroup
  split
  next hworld =>
    simp only
    split
    · exact hclear m hworld (hsolo hworld)
    · split
      · exact Tidy.trans (fun _ => Tidied.offerContinue m gid)
          (hclear _ hworld (getGroup_setPartyState.mpr (hsolo hworld)))
      · exact hclear m hworld (hsolo hworld)
  next => exact Tidy.refl m

theorem getGroup_setGroup_none (m : LFGMgr) (guid : Nat) : (m.setGroup guid none).getGroup guid = none := by
  simp [getGroup, LFGMgr.setGroup]

theorem tidy_disbandMember (m : LFGMgr) (gid : Nat) (lfd : Bool) (guid : Nat) :
    Tidy m (m.disbandMember gid lfd guid) := by
  have hunlink : Tidy m (m.setGroup guid none) := fun _ => Tidied.setGroup_none m guid
  unfold disbandMember
  split
  · cases lfd with
    | true =>
      exact hunlink.trans (tidy_removeMemberFromLFDGroup fun _ => getGroup_setGroup_none m guid)
    | false => exact hunlink
  · exact Tidy.refl m

theorem tidied_unlinkMember (m : LFGMgr) (gid guid : Nat) : Tidied m (m.unlinkMember gid guid) := by
  have hworld : Tidied m (if m.world guid then m.setGroup guid none else m) := by
    split
    · exact Tidied.setGroup_none m guid
    · exact Tidied.refl m
  exact hworld.trans (Tidied.setParty _ gid fun _ h => h)

theorem getGroup_unlinkMember {gid guid : Nat} (hworld : m.world guid = true) :
    (m.unlinkMember gid guid).getGroup guid = none := by
  simp [getGroup, unlinkMember, hworld, LFGMgr.setParty, LFGMgr.setGroup]

theorem tidy_loseMember (m : LFGMgr) (gid guid : Nat) (lfd : Bool) : Tidy m (m.loseMember gid guid lfd) := by
  have hunlink : Tidy m (m.unlinkMember gid guid) := fun _ => tidied_unlinkMember m gid guid
  cases lfd with
  | true =>
    apply hunlink.trans
    apply tidy_removeMemberFromLFDGroup
    intro hworld
    rw [(tidied_unlinkMember m gid guid).world] at hworld
    exact getGroup_unlinkMember hworld
  | false => exact hunlink

theorem tidy_removeMember (m : LFGMgr) (gid guid : Nat) (logout : Bool) : Tidy m (m.removeMember gid guid logout) := by
  unfold removeMember
  split
  · exact Tidy.refl m
  next party _ =>
    split
    · exact Tidy.refl m
    · split
      · have hlost := tidy_loseMember m gid guid party.lfd
        simp only
        split
        · exact hlost.trans fun _ => Tidied.deleteGroup _ gid
        · exact hlost
      · have hdisband : Tidy m (run (fun m g => m.disbandMember gid party.lfd g) m party.members) :=
          tidy_run fun g _ m₁ _ => tidy_disbandMember m₁ gid party.lfd g
        exact hdisband.trans fun _ => Tidied.deleteGroup _ gid

theorem tidy_removeFromGroup (m : LFGMgr) (guid : Nat) (logout : Bool) : Tidy m (m.removeFromGroup guid logout) := by
  unfold removeFromGroup
  split
  · exact Tidy.refl m
  · exact tidy_removeMember m _ guid logout

theorem tidy_addMemberToLFDGroup (m : LFGMgr) (guid : Nat) : Tidy m (m.addMemberToLFDGroup guid) := by
  unfold addMemberToLFDGroup
  split
  next hworld =>
    split
    · exact Tidy.refl m
    · intro hinv
      have hidle := hinv.idle_unqueue hworld
      exact (tidied_unqueue hidle).trans (Tidied.setPlayer hidle _)
  next => exact Tidy.refl m

theorem tidied_joinGroup (hinv : Inv m) {gid guid : Nat} (hworld : m.world guid = true)
    (hgid : (m.groups gid).isSome) : Tidied m ((m.setGroup guid (some gid)).addMemberToLFDGroup guid) := by
  obtain ⟨party, hparty⟩ := Option.isSome_iff_exists.mp hgid
  have hgroup : (m.setGroup guid (some gid)).getGroup guid = some (gid, party) := by
    simp [getGroup, LFGMgr.setGroup, hparty]
  have hidle : Idle ((m.setGroup guid (some gid)).unqueue guid) guid :=
    idle_unqueue hworld fun dungeon hlisted => ((hinv.placed guid).listed dungeon hlisted).2.2
  have hadd : (m.setGroup guid (some gid)).addMemberToLFDGroup guid =
      ((m.setGroup guid (some gid)).unqueue guid).setPlayer guid fun lfg =>
        { lfg with state := party.lfg.state } := by
    have hworld' : (m.setGroup guid (some gid)).world guid = true := hworld
    rw [addMemberToLFDGroup, if_pos hworld', hgroup]
  rw [hadd]
  have hrest := sameBesidesQueue_unqueue (m.setGroup guid (some gid)) guid
  constructor
  case world => exact hrest.world
  case nextGroup => exact hrest.nextGroup.ge
  case queue =>
    intro h
    have hset : (m.setGroup guid (some gid)).QueueSound := h.congr rfl rfl rfl rfl
    exact (queueSound_unqueue guid hset).congr rfl rfl rfl rfl
  case groups =>
    intro j party' hparty'
    have hsame : m.groups j = some party' := by rwa [LFGMgr.setPlayer, hrest.groups] at hparty'
    exact .inl ⟨party', hsame, fun h => h⟩
  case groupOf =>
    intro g j hg
    rw [LFGMgr.setPlayer, hrest.groupOf] at hg
    by_cases heq : g = guid
    · subst heq
      have hj : gid = j := by simpa [LFGMgr.setGroup] using hg
      exact .inr (hj ▸ hrest.nextGroup ▸ hinv.groups gid hgid)
    · exact .inl (by simpa [LFGMgr.setGroup, heq] using hg)
  case players =>
    intro g
    by_cases heq : g = guid
    · exact .inr (heq ▸ (hidle.setPlayer _).parked)
    · have hplayer : (((m.setGroup guid (some gid)).unqueue guid).setPlayer guid fun lfg =>
          { lfg with state := party.lfg.state }).players g = m.players g :=
        (players_setPlayer_of_ne heq _).trans (congrFun hrest.players g)
      refine .inl (Same.of_player hplayer ?_ (fun dungeon => ?_) fun hsolo => ?_)
      · have hq := isQueued_unqueue (m.setGroup guid (some gid)) guid g
        simpa [heq] using hq
      · have hl := @listed_unqueue (m.setGroup guid (some gid)) guid g dungeon
        simpa [heq] using hl
      · have hgetGroup := hrest.getGroup g
        have hset : (m.setGroup guid (some gid)).getGroup g = m.getGroup g := by
          simp [getGroup, LFGMgr.setGroup, heq]
        exact (hgetGroup.trans hset).trans hsolo

def IsLfd (m : LFGMgr) (gid : Nat) : Prop :=
  gid < m.nextGroup ∧ ∀ party, m.groups gid = some party → party.lfd = true

theorem IsLfd.tidied {gid : Nat} (h : m.IsLfd gid) (ht : Tidied m m') : m'.IsLfd gid := by
  refine ⟨h.1.trans_le ht.nextGroup, fun party' hparty' => ?_⟩
  rcases ht.groups gid party' hparty' with ⟨party, hparty, hlfd⟩ | ⟨hle, -⟩
  · exact hlfd (h.2 party hparty)
  · exact absurd h.1 (Nat.not_lt.mpr hle)

theorem tidy_addMember {gid guid : Nat} (hworld : m.world guid = true) (hlfd : m.IsLfd gid) :
    Tidy m (m.addMember gid guid) := by
  intro hinv
  unfold addMember
  split
  · exact Tidied.refl m
  next party hparty =>
    split
    · exact Tidied.refl m
    · have hset : Tidied m (m.setParty gid fun party =>
          { party with members := party.members ++ [guid] }) := Tidied.setParty m gid fun _ h => h
      have hinv' := hinv.tidied hset
      have hsome : ((m.setParty gid fun party =>
          { party with members := party.members ++ [guid] }).groups gid).isSome := by
        simp [LFGMgr.setParty, hparty]
      simp only [hlfd.2 party hparty, if_true]
      split
      · exact hset.trans (tidied_joinGroup hinv' hworld hsome)
      · exact hset.trans (tidy_addMemberToLFDGroup _ guid hinv')

theorem tidied_removeProposed (m : LFGMgr) (id guid : Nat) : Tidied m (m.removeProposed id guid) :=
  Tidied.setProposal m id _

theorem tidy_movePlayer {id gid guid : Nat} (hlfd : m.IsLfd gid) : Tidy m (m.movePlayer id gid guid) := by
  have hmove : Tidy m (if m.world guid ∧ m.groupOf guid ≠ some gid then
      (m.removeFromGroup guid false).addMember gid guid else m) := by
    intro hinv
    split
    next hcond =>
      have hleft := tidy_removeFromGroup m guid false hinv
      have hworld : (m.removeFromGroup guid false).world guid = true := by
        rw [hleft.world]
        exact hcond.1
      exact hleft.trans (tidy_addMember hworld (hlfd.tidied hleft) (hinv.tidied hleft))
    next => exact Tidied.refl m
  exact hmove.trans fun _ => tidied_removeProposed _ id guid

theorem tidy_fillGroup {id gid : Nat} (hlfd : m.IsLfd gid) (guids : List Nat) : Tidy m (m.fillGroup id gid guids) := by
  have hmove : Tidy m (run (fun m guid => m.movePlayer id gid guid) m guids) :=
    tidy_run fun g _ m₁ hm₁ => tidy_movePlayer (hlfd.tidied hm₁)
  apply hmove.trans
  intro _
  exact ((Tidied.eraseProposal _ id).trans (Tidied.setPartyState _ gid _)).trans
    (Tidied.removeGroupFromQueue _ gid)

theorem lfd_convertToLFG {party : Party} {type : LFGType} (h : party.lfd = true) :
    (party.convertToLFG type).lfd = true := by
  unfold Party.convertToLFG
  split
  · rfl
  · exact h
  · split
    · exact h
    · rfl

theorem lfd_convertToLFG_withState (party : Party) (lfg : PartyState) (type : LFGType) :
    (Party.convertToLFG { party with lfg := lfg } type).lfd = (party.convertToLFG type).lfd := by
  unfold Party.convertToLFG
  cases type <;> simp only <;> split <;> rfl

theorem tidied_convertGroup (hinv : Inv m) {gid : Nat} {p : LFGProposal} {party : Party}
    (hparty : m.groups gid = some party) (hlfd : (party.convertToLFG p.dungeon.type).lfd = true)
    (real : LFGDungeonEntry) : Tidied m (m.convertGroup gid p real) ∧ (m.convertGroup gid p real).IsLfd gid := by
  have hgid : gid < m.nextGroup := hinv.groups gid (by simp [hparty])
  have hstate : Tidied m (m.setPartyState gid fun lfg => { lfg with dungeon := some real }) :=
    Tidied.setPartyState m gid _
  have hset : (m.setPartyState gid fun lfg => { lfg with dungeon := some real }).groups gid =
      some { party with lfg := { party.lfg with dungeon := some real } } := by
    simp [LFGMgr.setPartyState, LFGMgr.setParty, hparty]
  unfold convertGroup
  simp only [hparty, Option.map_some, Option.getD_some]
  split
  next hisLFG =>
    refine ⟨hstate, hgid, fun party' hparty' => ?_⟩
    rw [hset] at hparty'
    cases hparty'
    simp only [Party.isLFGGroup, Bool.and_eq_true] at hisLFG
    exact hisLFG.1
  next =>
    have hconvert := Tidied.setParty
      (m.setPartyState gid fun lfg => { lfg with dungeon := some real }) gid
      (fun party : Party => @lfd_convertToLFG party p.dungeon.type)
    have hmembers : Tidy ((m.setPartyState gid fun lfg =>
        { lfg with dungeon := some real }).setParty gid fun party =>
          party.convertToLFG p.dungeon.type) _ :=
      @tidy_run _ addMemberToLFDGroup (m.present gid) fun g _ m₁ _ => tidy_addMemberToLFDGroup m₁ g
    have hlfd' : ((m.setPartyState gid fun lfg => { lfg with dungeon := some real }).setParty gid
        fun party => party.convertToLFG p.dungeon.type).IsLfd gid := by
      refine ⟨hgid, fun party' hparty' => ?_⟩
      rw [groups_setParty_self, hset, Option.map_some] at hparty'
      cases hparty'
      rwa [lfd_convertToLFG_withState]
    have hboth := hstate.trans hconvert
    have hrun := hmembers (hinv.tidied hboth)
    exact ⟨hboth.trans hrun, hlfd'.tidied hrun⟩

theorem tidied_newParty (hinv : Inv m) (party : Party) : Tidied m { m with
      groups := Function.update m.groups m.nextGroup (some party)
      nextGroup := m.nextGroup + 1 } where
  world := rfl
  players guid := by
    refine .inl (Same.of_player rfl rfl (fun _ => Iff.rfl) fun hsolo => ?_)
    rw [getGroup_eq_none] at hsolo ⊢
    intro gid hgid
    have hne : gid ≠ m.nextGroup := (hinv.groupOf guid gid hgid).ne
    simpa [hne] using hsolo gid hgid
  groupOf _ _ h := .inl h
  groups gid party' hparty' := by
    by_cases heq : gid = m.nextGroup
    · exact .inr ⟨heq.ge, by simp [heq]⟩
    · exact .inl ⟨party', by simpa [heq] using hparty', fun h => h⟩
  nextGroup := Nat.le_succ _
  queue h := h.congr rfl rfl rfl rfl

theorem tidied_createLFDGroup (hinv : Inv m) {id leader : Nat} {p : LFGProposal}
    (htype : p.dungeon.type ≠ .none) (hworld : m.world leader = true) (real : LFGDungeonEntry) :
    Tidied m (m.createLFDGroup id p real leader) ∧ (m.createLFDGroup id p real leader).IsLfd m.nextGroup := by
  let party : Party :=
    { Party.convertToLFG { leader, members := [leader] } p.dungeon.type with
      lfg := { state := .proposal, proposal := some id, dungeons := [p.dungeon], dungeon := some real } }
  have hlfd : party.lfd = true := by
    simp only [party]
    cases h : p.dungeon.type <;> simp_all [Party.convertToLFG]
  have hparty := tidied_newParty hinv party
  have hinv' := hinv.tidied hparty
  have hjoin := @tidied_joinGroup _ hinv' m.nextGroup leader hworld (by simp)
  have hend : Tidied _ (m.createLFDGroup id p real leader) :=
    hjoin.trans (tidied_removeProposed _ id leader)
  have hisLfd : ({ m with
      groups := Function.update m.groups m.nextGroup (some party)
      nextGroup := m.nextGroup + 1 } : LFGMgr).IsLfd m.nextGroup := by
    refine ⟨Nat.lt_succ_self _, fun party' hparty' => ?_⟩
    simp only [Function.update_self, Option.some.injEq] at hparty'
    exact hparty' ▸ hlfd
  exact ⟨hparty.trans hend, hisLfd.tidied hend⟩

def canConvert (m : LFGMgr) (p : LFGProposal) : Bool :=
  match m.proposalGroup p with
  | none => p.dungeon.type ≠ .none
  | some gid => (m.groups gid).all fun party => (party.convertToLFG p.dungeon.type).lfd

theorem leaderElection_world {guids : List Nat} {preferred leader : Nat}
    (h : m.leaderElection guids preferred = some leader) : m.world leader = true := by
  unfold leaderElection at h
  split at h
  next hpreferred =>
    cases h
    exact hpreferred.2
  next => simpa using List.find?_some h

theorem tidy_formGroup {id : Nat} {p : LFGProposal} (hconvert : m.canConvert p = true) (draw : Draw) :
    Tidy m (m.formGroup id p draw) := by
  intro hinv
  unfold formGroup
  split
  · exact Tidied.setProposal m id _
  next real gid _ hgid =>
    have hnote := Tidied.note m (.formed id (m.present gid))
    have hsome : (m.groups gid).isSome := (Option.filter_eq_some_iff.mp hgid).2
    obtain ⟨party, hparty⟩ := Option.isSome_iff_exists.mp hsome
    have hlfd : (party.convertToLFG p.dungeon.type).lfd = true := by
      simpa [canConvert, hgid, hparty] using hconvert
    have hinv' := hinv.tidied hnote
    have hparty' : (m.note (.formed id (m.present gid))).groups gid = some party := hparty
    obtain ⟨hconverted, hisLfd⟩ := tidied_convertGroup hinv' hparty' hlfd real
    exact (hnote.trans hconverted).trans (tidy_fillGroup hisLfd p.players (hinv'.tidied hconverted))
  next real _ hgid =>
    have htype : p.dungeon.type ≠ .none := by simpa [canConvert, hgid] using hconvert
    split
    · exact Tidied.setProposal m id _
    next leader hleader =>
      have hnote := Tidied.note m (.formed id [])
      have hleft := tidy_removeFromGroup (m.note (.formed id [])) leader false (hinv.tidied hnote)
      have hinv' := (hinv.tidied hnote).tidied hleft
      have hworld : ((m.note (.formed id [])).removeFromGroup leader false).world leader = true := by
        rw [hleft.world]
        exact leaderElection_world hleader
      obtain ⟨hcreated, hisLfd⟩ := @tidied_createLFDGroup _ hinv' id leader p htype hworld real
      exact ((hnote.trans hleft).trans hcreated).trans
        (tidy_fillGroup hisLfd p.players (hinv'.tidied hcreated))

theorem tidy_declineProposal {decliner : Nat} (hworld : m.world decliner = true) (id : Nat) :
    Tidy m (m.declineProposal decliner id) := by
  have hdeleted : Tidied m (m.setProposal id ({ · with deleted := true })) := Tidied.setProposal m id _
  have hleft : Tidy m (((m.setProposal id ({ · with deleted := true })).removeDecliner id
      decliner).leave decliner) := by
    have hremoved : Tidy m ((m.setProposal id ({ · with deleted := true })).removeDecliner id
        decliner) := fun _ => hdeleted.trans (Tidied.setProposal _ id _)
    exact hremoved.trans (tidy_leave hworld)
  unfold declineProposal
  split
  · exact Tidy.refl m
  · split
    · exact Tidy.refl m
    · simp only
      split
      next gid _ =>
        split
        · exact Tidy.trans (fun _ => hdeleted) (tidy_leaveAsLeader _ gid)
        · exact hleft
      · exact hleft

theorem tidied_setAnswer (m : LFGMgr) (guid : Nat) (answer : LFGAnswer) :
    Tidied m (m.setPlayer guid fun lfg => { lfg with answer := answer }) := by
  apply Tidied.of_players
  intro g
  by_cases heq : g = guid
  · subst heq
    simp [LFGPlayerState.isLooking]
  · simp [heq]

theorem tidy_updateProposal {sender id guid : Nat} {accept : Bool}
    (hconvert : ∀ p, m.proposals[id]? = some p → accept = true → m.admits p guid = true →
      m.isLastAnswer p guid = true → m.canConvert p = true) (draw : Draw) :
    Tidy m (m.updateProposal sender id guid accept draw) := by
  unfold updateProposal
  split
  · exact Tidy.refl m
  next p hp =>
    split
    next hadmits =>
      have hanswer : Tidied m ((m.setPlayer guid fun lfg =>
          { lfg with answer := if accept then .agree else .deny }).note
            (.answered id sender guid accept)) :=
        (tidied_setAnswer m guid _).trans (Tidied.note _ _)
      have hworld : m.world guid = true := by
        simp only [admits, Bool.and_eq_true] at hadmits
        exact hadmits.1
      cases accept with
      | false =>
        simp only [Bool.false_eq_true, if_false] at hanswer ⊢
        apply Tidy.trans fun _ => hanswer
        apply tidy_declineProposal
        exact hworld
      | true =>
        simp only [if_true] at hanswer ⊢
        split
        next hall =>
          apply Tidy.trans fun _ => hanswer
          apply tidy_formGroup
          exact hconvert p hp rfl hadmits (isLastAnswer_of_allAnswered hall)
        next => exact fun _ => hanswer
    next => exact Tidy.refl m

theorem isQueued_removeFromSearchMatrix (m : LFGMgr) (guid g : Nat) :
    (m.removeFromSearchMatrix guid).isQueued g = m.isQueued g := by
  unfold removeFromSearchMatrix
  split <;> rfl

def withdraw (m : LFGMgr) (guid : Nat) : LFGMgr :=
  (m.setPlayer guid fun lfg =>
    { lfg with state := .proposal, answer := .pending }).removeFromSearchMatrix guid

theorem isQueued_withdraw (m : LFGMgr) (guid g : Nat) : (m.withdraw guid).isQueued g = m.isQueued g := by
  simp [withdraw, isQueued_removeFromSearchMatrix]

theorem players_withdraw (m : LFGMgr) (guid : Nat) : (m.withdraw guid).players = (m.setPlayer guid fun lfg =>
      { lfg with state := .proposal, answer := .pending }).players :=
  (sameBesidesQueue_removeFromSearchMatrix _ guid).players

theorem getGroup_withdraw (m : LFGMgr) (guid g : Nat) : (m.withdraw guid).getGroup g = m.getGroup g :=
  (sameBesidesQueue_removeFromSearchMatrix _ guid).getGroup g

theorem listed_withdraw {guid g : Nat} {dungeon : LFGDungeonEntry} :
    (m.withdraw guid).listed dungeon g ↔ m.listed dungeon g ∧
      ¬ (m.world guid = true ∧ dungeon ∈ (m.players guid).dungeons ∧ g = guid) := by
  rw [withdraw, listed_removeFromSearchMatrix]
  simp [LFGMgr.setPlayer, listed]

theorem parked_withdraw (hinv : Inv m) {guid : Nat} (hworld : m.world guid = true) : Parked (m.withdraw guid) guid where
  unlisted dungeon hlisted := by
    obtain ⟨hold, hnot⟩ := listed_withdraw.mp hlisted
    exact hnot ⟨hworld, ((hinv.placed guid).listed dungeon hold).2.2, rfl⟩
  notSearched hq := by
    rw [isQueued_withdraw] at hq
    rw [getGroup_withdraw, players_withdraw]
    exact ⟨(hinv.placed guid).solo hq, by simp [LFGMgr.setPlayer, LFGPlayerState.isLooking]⟩

theorem tidied_withdraw (hinv : Inv m) {guid : Nat} (hworld : m.world guid = true) : Tidied m (m.withdraw guid) := by
  have hrest : SameBesidesQueue _ (m.withdraw guid) := sameBesidesQueue_removeFromSearchMatrix _ guid
  constructor
  case world => exact hrest.world
  case nextGroup => exact hrest.nextGroup.ge
  case groupOf =>
    intro g gid hgid
    rw [hrest.groupOf] at hgid
    exact .inl hgid
  case groups =>
    intro gid party hparty
    rw [hrest.groups] at hparty
    exact .inl ⟨party, hparty, fun h => h⟩
  case queue =>
    intro h
    unfold withdraw removeFromSearchMatrix
    split <;> exact h.congr rfl rfl rfl rfl
  case players =>
    intro g
    by_cases heq : g = guid
    · subst heq
      exact .inr (parked_withdraw hinv hworld)
    · have hplayer : (m.withdraw guid).players g = m.players g := by
        rw [players_withdraw, players_setPlayer_of_ne heq]
      have hlisted : ∀ dungeon, (m.withdraw guid).listed dungeon g ↔ m.listed dungeon g := by
        simp [listed_withdraw, heq]
      exact .inl (Same.of_player hplayer (isQueued_withdraw m guid g) hlisted
        fun hsolo => (getGroup_withdraw m guid g).trans hsolo)

theorem tidied_askPlayer (hinv : Inv m) {id guid : Nat} (hworld : m.world guid = true) :
    Tidied m (m.askPlayer id guid) := by
  have hset : Tidied m (m.setProposal id fun p =>
      { p with players := p.players.insert guid, cancelTime := m.now + lfgTimeProposal }) :=
    Tidied.setProposal m id _
  exact hset.trans (tidied_withdraw (hinv.tidied hset) hworld)

theorem Tidied.awaitAnswers (m : LFGMgr) (gid : Option Nat) : Tidied m (m.awaitAnswers gid) := by
  cases gid with
  | none => exact Tidied.refl m
  | some gid => exact Tidied.setPartyState m gid fun lfg => { lfg with state := .proposal }

theorem tidy_sendProposal (m : LFGMgr) (id guid : Nat) : Tidy m (m.sendProposal id guid) := by
  unfold sendProposal
  split
  · exact Tidy.refl m
  next p _ =>
    split
    next hworld =>
      intro hinv
      exact ((tidied_askPlayer hinv hworld).trans (Tidied.awaitAnswers _ _)).trans (Tidied.note _ _)
    next => exact Tidy.refl m

theorem tidy_askGroup (m : LFGMgr) (id : Nat) (gid : Option Nat) : Tidy m (m.askGroup id gid) := by
  cases gid with
  | none => exact Tidy.refl m
  | some gid =>
    intro hinv
    have hstate : Tidied m (m.setPartyState gid fun lfg =>
        { lfg with proposal := some id, state := .proposal }) := Tidied.setPartyState m gid _
    unfold askGroup
    apply hstate.trans
    apply Tidied.setPlayers
    intro g hg
    have hidle := (hinv.placed g).idle_of_group (mem_present_getGroup hg).2
    exact ⟨hidle.unlisted, hidle.notQueued⟩

theorem tidy_createProposal (m : LFGMgr) (dungeon : LFGDungeonEntry) (gid : Option Nat)
    (guids : List Nat) : Tidy m (m.createProposal dungeon gid guids) := by
  have henter : Tidy m (m.enterProposal (m.newProposalId gid) dungeon gid) := by
    unfold enterProposal
    simp only
    apply Tidy.trans (fun _ => Tidied.of_proposals m _ _ m.log)
    exact (tidy_askGroup _ _ gid).trans fun _ => Tidied.note _ _
  exact henter.trans (tidy_run fun g _ m₁ _ => tidy_sendProposal m₁ _ g)

end LFGMgr

end Mangos
