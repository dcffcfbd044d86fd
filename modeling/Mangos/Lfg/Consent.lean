import Mangos.Framework.Trace
import Mangos.Lfg.Proposal

/-!
# Groups of the dungeon finder form by consent

A group forms from a proposal when all who were ever put into it, and all members of its group in the world,
have agreed to it and nobody has declined it.
-/

namespace Mangos.LFGMgr

open Framework Std

variable {m m' : LFGMgr}

def since (id : Nat) (log : List ProposalNote) : List ProposalNote :=
  log.reverse.takeWhile (· ≠ .created id)

theorem since_concat (id : Nat) (log : List ProposalNote) (n : ProposalNote) :
    since id (log ++ [n]) = if n = .created id then [] else n :: since id log := by
  simp [since, List.takeWhile_cons]

/-- A group forms from a proposal only when everybody who is asked has agreed and nobody declined. -/
def Consent (before : List ProposalNote) : ProposalNote → Prop
  | .formed id present =>
    (∀ guid, .put id guid ∈ since id before → .answered id guid guid true ∈ since id before) ∧
      (∀ guid ∈ present, .answered id guid guid true ∈ since id before) ∧
      ∀ sender guid, .answered id sender guid false ∉ since id before
  | _ => True

def linked (m : LFGMgr) (gid : Nat) : List Nat :=
  ((m.groups gid).map (·.members)).getD [] |>.filter fun guid => m.groupOf guid == some gid

def involves (m : LFGMgr) (p : LFGProposal) (guid : Nat) : Bool :=
  guid ∈ p.players || p.group.any fun gid => guid ∈ m.linked gid

/-- An answer that somebody sends who is not involved in the proposal leaves everything as it is. -/
def ForeignHarmless (m : LFGMgr) : Op → Prop
  | .proposalResult sender id guid accept draw =>
    (∀ p, m.proposals[id]? = some p → m.involves p sender = false) →
      m.step (.proposalResult sender id guid accept draw) = m
  | _ => True

def othersSatisfy (m : LFGMgr) (id : Nat) (test : LFGProposal → Bool) : Bool :=
  m.proposals.toList.all fun e => e.1 = id || e.2.deleted || test e.2

/-- The players whose answers count, other than `guid`, stand as agreeing. -/
def isLastAnswer (m : LFGMgr) (p : LFGProposal) (guid : Nat) : Bool :=
  (p.players.all fun g => g = guid || !m.world g || (m.players g).answer = .agree) &&
    (((m.proposalGroup p).map m.present).getD []).all fun g =>
      g = guid || (m.players g).answer = .agree

/-- An answer that is let through is the sender's own, who is involved in the proposal, and when it agrees in no other
live one. When it is the last to agree, the proposal is not deleted, its players are all in the world, and no other
live proposal has its group. -/
def FairAnswer (m : LFGMgr) (sender id guid : Nat) (accept : Bool) (p : LFGProposal) : Prop :=
  sender = guid ∧ m.involves p guid = true ∧ (accept = true → m.othersSatisfy id (fun q => !m.involves q guid) = true ∧
      (m.isLastAnswer p guid = true → p.deleted = false ∧ (∀ g ∈ p.players, m.world g = true) ∧
          m.othersSatisfy id (fun q => q.group = none || q.group ≠ p.group) = true))

instance (sender id guid : Nat) (accept : Bool) (p : LFGProposal) :
    Decidable (m.FairAnswer sender id guid accept p) := by
  unfold FairAnswer
  infer_instance

/-- The steps that do without what the code leaves out: fair answers, and proposals for groups no member of which is
out of the world and still stands as agreeing. -/
def Fair (m : LFGMgr) : Op → Prop
  | .proposalResult sender id guid accept _ =>
    m.world sender = true → ((m.proposals[id]?).all fun p =>
        !m.admits p guid || decide (m.FairAnswer sender id guid accept p)) = true
  | .tryCompleteGroup _ gid _ _ =>
    ∀ g ∈ m.linked gid, m.world g = true ∨ (m.players g).answer ≠ .agree
  | _ => True

instance : ∀ (m : LFGMgr) (op : Op), Decidable (Fair m op) := by
  intro m op
  cases op <;> unfold Fair <;> infer_instance

/-- Nothing is noted, no answer becomes agreement, and no live proposal and no group gains anybody; the
proposal `id` and the group `gid` are left out of account. -/
structure QuietBut (id gid : Option Nat) (m m' : LFGMgr) : Prop where
  log : m'.log = m.log
  answers : ∀ g, (m'.players g).answer = .agree → (m.players g).answer = .agree
  proposals : ∀ i p', some i ≠ id → m'.proposals[i]? = some p' → p'.deleted = false →
    ∃ p, m.proposals[i]? = some p ∧ p.deleted = false ∧ p.players = p'.players ∧ p.group = p'.group
  linked : ∀ j g, some j ≠ gid → g ∈ m'.linked j → g ∈ m.linked j
  groups : ∀ j, some j ≠ gid → (m'.groups j).isSome → (m.groups j).isSome
  nextGroup : m.nextGroup ≤ m'.nextGroup

abbrev Quiet : LFGMgr → LFGMgr → Prop := QuietBut none none

theorem QuietBut.refl (id gid : Option Nat) (m : LFGMgr) : QuietBut id gid m m where
  log := rfl
  answers _ h := h
  proposals _ p' _ h hlive := ⟨p', h, hlive, rfl, rfl⟩
  linked _ _ _ h := h
  groups _ _ h := h
  nextGroup := Nat.le_refl _

theorem QuietBut.trans {id gid : Option Nat} {m m' m'' : LFGMgr} (h : QuietBut id gid m m')
    (h' : QuietBut id gid m' m'') : QuietBut id gid m m'' where
  log := h'.log.trans h.log
  answers g hg := h.answers g (h'.answers g hg)
  proposals i p'' hi hp'' hlive := by
    obtain ⟨p', hp', hlive', hplayers', hgroup'⟩ := h'.proposals i p'' hi hp'' hlive
    obtain ⟨p, hp, hliveₚ, hplayers, hgroup⟩ := h.proposals i p' hi hp' hlive'
    exact ⟨p, hp, hliveₚ, hplayers.trans hplayers', hgroup.trans hgroup'⟩
  linked j g hj hg := h.linked j g hj (h'.linked j g hj hg)
  groups j hj hg := h.groups j hj (h'.groups j hj hg)
  nextGroup := h.nextGroup.trans h'.nextGroup

theorem Quiet.but {id gid : Option Nat} (h : Quiet m m') : QuietBut id gid m m' where
  log := h.log
  answers := h.answers
  proposals i p' _ := h.proposals i p' (by simp)
  linked j g _ := h.linked j g (by simp)
  groups j _ := h.groups j (by simp)
  nextGroup := h.nextGroup

theorem quietBut_run {α : Type*} {id gid : Option Nat} {f : LFGMgr → α → LFGMgr}
    (h : ∀ m a, QuietBut id gid m (f m a)) (m : LFGMgr) (l : List α) : QuietBut id gid m (run f m l) :=
  run_rel (QuietBut.refl id gid) (fun _ _ _ => QuietBut.trans) h m l

theorem Quiet.of_eq (hlog : m'.log = m.log) (hplayers : m'.players = m.players)
    (hproposals : m'.proposals = m.proposals) (hgroupOf : m'.groupOf = m.groupOf)
    (hgroups : m'.groups = m.groups) (hnext : m'.nextGroup = m.nextGroup) : Quiet m m' where
  log := hlog
  answers g h := by rwa [hplayers] at h
  proposals i p' _ h hlive := ⟨p', hproposals ▸ h, hlive, rfl, rfl⟩
  linked j g _ h := by rwa [linked, hgroupOf, hgroups] at h
  groups j _ h := by rwa [hgroups] at h
  nextGroup := hnext.ge

theorem Quiet.of_players (f : Nat → LFGPlayerState)
    (h : ∀ g, (f g).answer = .agree → (m.players g).answer = .agree) : Quiet m { m with players := f } where
  log := rfl
  answers := h
  proposals _ p' _ hp hlive := ⟨p', hp, hlive, rfl, rfl⟩
  linked _ _ _ hg := hg
  groups _ _ hg := hg
  nextGroup := Nat.le_refl _

theorem Quiet.setPlayer (m : LFGMgr) (guid : Nat) {f : LFGPlayerState → LFGPlayerState}
    (h : ∀ lfg, (f lfg).answer = .agree → lfg.answer = .agree) : Quiet m (m.setPlayer guid f) := by
  apply Quiet.of_players
  intro g hg
  by_cases heq : g = guid
  · subst heq
    exact h _ (by simpa using hg)
  · simpa [heq] using hg

theorem Quiet.setPlayers (m : LFGMgr) (guids : List Nat) {f : LFGPlayerState → LFGPlayerState}
    (h : ∀ lfg, (f lfg).answer = .agree → lfg.answer = .agree) : Quiet m (m.setPlayers guids f) := by
  apply Quiet.of_players
  intro g hg
  by_cases heq : g ∈ guids
  · exact h _ (by simpa [heq] using hg)
  · simpa [heq] using hg

theorem mem_linked {gid g : Nat} :
    g ∈ m.linked gid ↔ ∃ party, m.groups gid = some party ∧ g ∈ party.members ∧ m.groupOf g = some gid := by
  cases h : m.groups gid with
  | none => simp [linked, h]
  | some party => simp [linked, h]

theorem QuietBut.of_groups {id gid : Option Nat} (hlog : m'.log = m.log)
    (hplayers : m'.players = m.players) (hproposals : m'.proposals = m.proposals)
    (hgroupOf : ∀ g j, some j ≠ gid → m'.groupOf g = some j → m.groupOf g = some j)
    (hgroups : ∀ j party', some j ≠ gid → m'.groups j = some party' →
      ∃ party, m.groups j = some party ∧ party'.members ⊆ party.members)
    (hnext : m.nextGroup ≤ m'.nextGroup) : QuietBut id gid m m' where
  log := hlog
  answers g h := by rwa [hplayers] at h
  proposals i p' _ h hlive := ⟨p', hproposals ▸ h, hlive, rfl, rfl⟩
  linked j g hj hg := by
    obtain ⟨party', hparty', hmem, hlink⟩ := mem_linked.mp hg
    obtain ⟨party, hparty, hsub⟩ := hgroups j party' hj hparty'
    exact mem_linked.mpr ⟨party, hparty, hsub hmem, hgroupOf g j hj hlink⟩
  groups j hj h := by
    obtain ⟨party', hparty'⟩ := Option.isSome_iff_exists.mp h
    obtain ⟨party, hparty, -⟩ := hgroups j party' hj hparty'
    exact Option.isSome_iff_exists.mpr ⟨party, hparty⟩
  nextGroup := hnext

theorem Quiet.setParty (m : LFGMgr) (gid : Nat) {f : Party → Party}
    (h : ∀ party, (f party).members ⊆ party.members) : Quiet m (m.setParty gid f) := by
  apply QuietBut.of_groups
  case hgroups =>
    intro j party' _ hparty'
    by_cases hj : j = gid
    · subst hj
      have hmap : (m.groups j).map f = some party' := by simpa [LFGMgr.setParty] using hparty'
      obtain ⟨party, hparty, rfl⟩ := Option.map_eq_some_iff.mp hmap
      exact ⟨party, hparty, h party⟩
    · exact ⟨party', by simpa [LFGMgr.setParty, hj] using hparty', fun _ h => h⟩
  all_goals simp [LFGMgr.setParty]

theorem Quiet.setPartyState (m : LFGMgr) (gid : Nat) (f : PartyState → PartyState) : Quiet m (m.setPartyState gid f) :=
  Quiet.setParty m gid fun _ _ h => h

theorem Quiet.setGroup_none (m : LFGMgr) (guid : Nat) : Quiet m (m.setGroup guid none) := by
  apply QuietBut.of_groups
  case hgroupOf =>
    intro g j _ hg
    by_cases heq : g = guid
    · simp [heq, setGroup] at hg
    · simpa [heq, setGroup] using hg
  case hgroups => exact fun _ party _ h => ⟨party, h, fun _ h => h⟩
  all_goals simp [setGroup]

theorem Quiet.deleteGroup (m : LFGMgr) (gid : Nat) : Quiet m (m.deleteGroup gid) := by
  apply QuietBut.of_groups
  case hgroupOf =>
    intro g j _ hg
    by_cases heq : m.groupOf g = some gid
    · simp [LFGMgr.deleteGroup, heq] at hg
    · simpa [LFGMgr.deleteGroup, heq] using hg
  case hgroups =>
    intro j party' _ hparty'
    by_cases heq : j = gid
    · simp [LFGMgr.deleteGroup, heq] at hparty'
    · exact ⟨party', by simpa [LFGMgr.deleteGroup, heq] using hparty', fun _ h => h⟩
  all_goals simp [LFGMgr.deleteGroup]

theorem QuietBut.setProposal {id gid : Option Nat} (m : LFGMgr) (i : Nat) {f : LFGProposal → LFGProposal}
    (h : some i ≠ id → ∀ p, m.proposals[i]? = some p → (f p).deleted = false →
      p.deleted = false ∧ p.players = (f p).players ∧ p.group = (f p).group) :
    QuietBut id gid m (m.setProposal i f) where
  log := rfl
  answers _ h := h
  proposals j p' hj hp' hlive := by
    rw [LFGMgr.setProposal, lookup_modify] at hp'
    split at hp'
    next heq =>
      subst heq
      obtain ⟨p, hp, rfl⟩ := Option.map_eq_some_iff.mp hp'
      exact ⟨p, hp, h hj p hp hlive⟩
    next => exact ⟨p', hp', hlive, rfl, rfl⟩
  linked _ _ _ h := h
  groups _ _ h := h
  nextGroup := Nat.le_refl _

theorem Quiet.deleteProposal (m : LFGMgr) (i : Nat) : Quiet m (m.setProposal i ({ · with deleted := true })) :=
  QuietBut.setProposal m i fun _ p _ hp => by simp at hp

theorem Quiet.setState (m : LFGMgr) (guids : List Nat) (state : LFGState) : Quiet m (m.setState guids state) :=
  Quiet.setPlayers m guids fun _ h => h

theorem removeFromQueue_frame (m : LFGMgr) (guid : LFGGuid) : ∃ info players groups, m.removeFromQueue guid =
      { m with queueInfo := info, playerQueue := players, groupQueue := groups } := by
  unfold removeFromQueue
  split
  · exact ⟨_, _, _, rfl⟩
  · cases guid <;> exact ⟨_, _, _, rfl⟩

theorem addToQueue_frame (m : LFGMgr) (guid : LFGGuid) (type : LFGType) :
    ∃ id info players groups, m.addToQueue guid type =
      { m with queueID := id, queueInfo := info, playerQueue := players, groupQueue := groups } := by
  unfold addToQueue
  split
  · exact ⟨_, _, _, _, rfl⟩
  · obtain ⟨info, players, groups, h⟩ := removeFromQueue_frame m guid
    rw [h]
    cases guid <;> exact ⟨_, _, _, _, rfl⟩

theorem Quiet.removeFromQueue (m : LFGMgr) (guid : LFGGuid) : Quiet m (m.removeFromQueue guid) := by
  obtain ⟨_, _, _, h⟩ := removeFromQueue_frame m guid
  rw [h]
  exact Quiet.of_eq rfl rfl rfl rfl rfl rfl

theorem Quiet.addToQueue (m : LFGMgr) (guid : LFGGuid) (type : LFGType) : Quiet m (m.addToQueue guid type) := by
  obtain ⟨_, _, _, _, h⟩ := addToQueue_frame m guid type
  rw [h]
  exact Quiet.of_eq rfl rfl rfl rfl rfl rfl

theorem Quiet.removeFromSearchMatrix (m : LFGMgr) (guid : Nat) : Quiet m (m.removeFromSearchMatrix guid) := by
  unfold LFGMgr.removeFromSearchMatrix
  split <;> exact Quiet.of_eq rfl rfl rfl rfl rfl rfl

theorem Quiet.addToSearchMatrix (m : LFGMgr) (guid : Nat) : Quiet m (m.addToSearchMatrix guid) := by
  unfold LFGMgr.addToSearchMatrix
  split <;> exact Quiet.of_eq rfl rfl rfl rfl rfl rfl

theorem Quiet.clear (m : LFGMgr) (guid : Nat) : Quiet m (m.setPlayer guid fun _ => {}) :=
  Quiet.setPlayer m guid fun _ h => by simp at h

theorem Quiet.unqueue (m : LFGMgr) (guid : Nat) : Quiet m (m.unqueue guid) :=
  (Quiet.removeFromQueue m _).trans (Quiet.removeFromSearchMatrix _ guid)

theorem Quiet.leaveQueue (m : LFGMgr) (guid : Nat) : Quiet m (m.leaveQueue guid) :=
  (Quiet.unqueue m guid).trans (Quiet.clear _ guid)

theorem Quiet.leaveGroup (m : LFGMgr) (gid : Nat) (party : Party) : Quiet m (m.leaveGroup gid party) := by
  have hmembers : ∀ m₁ : LFGMgr, Quiet m₁ ((run LFGMgr.leaveQueue m₁ (m.present gid)).setPartyState gid
      fun _ => {}) := fun m₁ =>
    (quietBut_run Quiet.leaveQueue m₁ _).trans (Quiet.setPartyState _ gid _)
  simp only [LFGMgr.leaveGroup]
  apply QuietBut.trans (Quiet.removeFromQueue m (.group gid))
  apply QuietBut.trans _ (hmembers _)
  split
  · exact Quiet.deleteProposal _ _
  · exact QuietBut.refl _ _ _

theorem Quiet.leave (m : LFGMgr) (guid : Nat) : Quiet m (m.leave guid) := by
  unfold LFGMgr.leave
  split
  · exact Quiet.leaveQueue m guid
  · split
    · exact Quiet.leaveGroup m _ _
    · exact QuietBut.refl _ _ m

theorem Quiet.leaveAsLeader (m : LFGMgr) (gid : Nat) : Quiet m (m.leaveAsLeader gid) := by
  unfold LFGMgr.leaveAsLeader
  split
  · exact QuietBut.refl _ _ m
  · split
    · exact Quiet.leave m _
    · exact QuietBut.refl _ _ m

theorem Quiet.addMemberToLFDGroup (m : LFGMgr) (guid : Nat) : Quiet m (m.addMemberToLFDGroup guid) := by
  unfold LFGMgr.addMemberToLFDGroup
  split
  · split
    · exact QuietBut.refl _ _ m
    next gid party _ =>
      have hstate : Quiet (m.unqueue guid) ((m.unqueue guid).setPlayer guid fun lfg =>
          { lfg with state := party.lfg.state }) := Quiet.setPlayer _ guid fun _ h => h
      exact (Quiet.unqueue m guid).trans hstate
  · exact QuietBut.refl _ _ m

theorem Quiet.removeMemberFromLFDGroup (m : LFGMgr) (gid guid : Nat) :
    Quiet m (m.removeMemberFromLFDGroup gid guid) := by
  have hclear : ∀ m₁ : LFGMgr, Quiet m₁ ((m₁.leave guid).setPlayer guid fun _ => {}) := fun m₁ =>
    (Quiet.leave m₁ guid).trans (Quiet.clear _ guid)
  unfold LFGMgr.removeMemberFromLFDGroup
  split
  · refine QuietBut.trans ?_ (hclear _)
    split
    · exact QuietBut.refl _ _ m
    · split
      · exact Quiet.setPartyState m gid _
      · exact QuietBut.refl _ _ m
  · exact QuietBut.refl _ _ m

theorem Quiet.disbandMember (m : LFGMgr) (gid : Nat) (lfd : Bool) (guid : Nat) :
    Quiet m (m.disbandMember gid lfd guid) := by
  unfold LFGMgr.disbandMember
  split
  · cases lfd with
    | true => exact (Quiet.setGroup_none m guid).trans (Quiet.removeMemberFromLFDGroup _ gid guid)
    | false => exact Quiet.setGroup_none m guid
  · exact QuietBut.refl _ _ m

theorem Quiet.unlinkMember (m : LFGMgr) (gid guid : Nat) : Quiet m (m.unlinkMember gid guid) := by
  have hworld : Quiet m (if m.world guid then m.setGroup guid none else m) := by
    split
    · exact Quiet.setGroup_none m guid
    · exact QuietBut.refl _ _ m
  apply hworld.trans
  apply Quiet.setParty
  intro party g hg
  exact List.mem_of_mem_filter hg

theorem Quiet.loseMember (m : LFGMgr) (gid guid : Nat) (lfd : Bool) : Quiet m (m.loseMember gid guid lfd) := by
  cases lfd with
  | true => exact (Quiet.unlinkMember m gid guid).trans (Quiet.removeMemberFromLFDGroup _ gid guid)
  | false => exact Quiet.unlinkMember m gid guid

theorem Quiet.removeMember (m : LFGMgr) (gid guid : Nat) (logout : Bool) :
    Quiet m (m.removeMember gid guid logout) := by
  unfold LFGMgr.removeMember
  split
  · exact QuietBut.refl _ _ m
  next party _ =>
    split
    · exact QuietBut.refl _ _ m
    · split
      · have hlost := Quiet.loseMember m gid guid party.lfd
        simp only
        split
        · exact hlost.trans (Quiet.deleteGroup _ gid)
        · exact hlost
      · have hdisband := quietBut_run (fun m g => Quiet.disbandMember m gid party.lfd g) m party.members
        exact hdisband.trans (Quiet.deleteGroup _ gid)

theorem Quiet.removeFromGroup (m : LFGMgr) (guid : Nat) (logout : Bool) : Quiet m (m.removeFromGroup guid logout) := by
  unfold LFGMgr.removeFromGroup
  split
  · exact QuietBut.refl _ _ m
  · exact Quiet.removeMember m _ guid logout

theorem Quiet.eraseProposal (m : LFGMgr) (id : Nat) : Quiet m { m with proposals := m.proposals.erase id } where
  log := rfl
  answers _ h := h
  proposals i p' _ hp' hlive := by
    simp only [lookup_erase] at hp'
    split at hp'
    next => cases hp'
    next => exact ⟨p', hp', hlive, rfl, rfl⟩
  linked _ _ _ h := h
  groups _ _ h := h
  nextGroup := Nat.le_refl _

theorem Quiet.requeuePlayer (m : LFGMgr) (type : LFGType) (guid : Nat) : Quiet m (m.requeuePlayer type guid) := by
  unfold LFGMgr.requeuePlayer
  split
  · split
    · exact (Quiet.addToQueue m _ type).trans (Quiet.setState _ _ _)
    · exact Quiet.removeFromQueue m _
  · exact QuietBut.refl _ _ m

theorem Quiet.requeueGroup (m : LFGMgr) (type : LFGType) (gid : Nat) : Quiet m (m.requeueGroup type gid) := by
  unfold LFGMgr.requeueGroup
  simp only
  split
  · exact (Quiet.setPartyState m gid _).trans (Quiet.addToQueue _ _ type)
  · exact Quiet.setPartyState m gid _

theorem Quiet.failProposal (m : LFGMgr) (id : Nat) : Quiet m (m.failProposal id) := by
  unfold LFGMgr.failProposal
  split
  · exact QuietBut.refl _ _ m
  next p _ =>
    have hplayers := (Quiet.deleteProposal m id).trans
      (quietBut_run (fun m g => Quiet.requeuePlayer m p.dungeon.type g) _ p.players)
    apply QuietBut.trans _ (Quiet.eraseProposal _ id)
    split
    · exact hplayers
    next gid _ => exact hplayers.trans (Quiet.requeueGroup _ _ gid)

theorem Quiet.cleanupProposals (m : LFGMgr) (type : LFGType) : Quiet m (m.cleanupProposals type) := by
  unfold LFGMgr.cleanupProposals
  split
  · exact QuietBut.refl _ _ m
  · exact quietBut_run Quiet.failProposal m _

theorem Quiet.removeDecliner (m : LFGMgr) (id decliner : Nat) :
    Quiet m ((m.setProposal id ({ · with deleted := true })).removeDecliner id decliner) := by
  apply (Quiet.deleteProposal m id).trans
  apply QuietBut.setProposal
  intro _ p hp hlive
  rw [LFGMgr.setProposal, lookup_modify, if_pos rfl] at hp
  obtain ⟨q, -, rfl⟩ := Option.map_eq_some_iff.mp hp
  simp at hlive

theorem Quiet.declineProposal (m : LFGMgr) (decliner id : Nat) : Quiet m (m.declineProposal decliner id) := by
  have hleft := (Quiet.removeDecliner m id decliner).trans (Quiet.leave _ decliner)
  unfold LFGMgr.declineProposal
  split
  · exact QuietBut.refl _ _ m
  · split
    · exact QuietBut.refl _ _ m
    · simp only
      split
      next gid _ =>
        split
        · exact (Quiet.deleteProposal m id).trans (Quiet.leaveAsLeader _ gid)
        · exact hleft
      · exact hleft

theorem Quiet.startRoleCheck (m : LFGMgr) (gid leader : Nat) : Quiet m (m.startRoleCheck gid leader) :=
  ((Quiet.setPartyState m gid _).trans (Quiet.setState _ _ _)).trans (Quiet.setState _ _ _)

theorem Quiet.enlistMembers (m : LFGMgr) (guids : List Nat) (joined : LFGState) :
    Quiet m (m.enlistMembers guids joined) :=
  (quietBut_run (fun m g => Quiet.removeFromQueue m (.player g)) m guids).trans
    (Quiet.setState _ guids joined)

theorem convertToLFG_members (type : LFGType) (party : Party) : (party.convertToLFG type).members ⊆ party.members := by
  unfold Party.convertToLFG
  split <;> try split
  all_goals exact fun _ h => h

theorem Quiet.joinAsGroup (m : LFGMgr) (gid : Nat) (party : Party) (type : LFGType) (extend : Bool) :
    Quiet m (m.joinAsGroup gid party type extend) := by
  have hqueue := Quiet.addToQueue m (.group gid) type
  have hfirst : ∀ joined, Quiet m (((m.addToQueue (.group gid) type).setPartyState gid fun lfg =>
      { lfg with state := joined, status := .notSaved }).enlistMembers (m.present gid) joined) :=
    fun joined => (hqueue.trans (Quiet.setPartyState _ gid _)).trans (Quiet.enlistMembers _ _ joined)
  have hagain := (hqueue.trans (Quiet.setState _ (m.present gid) .lfg)).trans
    (Quiet.setPartyState _ gid fun lfg => { lfg with status := .notSaved })
  have hconvert := convertToLFG_members type
  unfold LFGMgr.joinAsGroup
  simp only
  split
  · split
    · exact (hfirst _).trans (Quiet.setParty _ gid hconvert)
    · exact (hfirst _).trans (Quiet.startRoleCheck _ gid party.leader)
  · split
    · exact (hfirst _).trans (Quiet.setParty _ gid hconvert)
    · exact (hfirst _).trans (Quiet.startRoleCheck _ gid party.leader)
  · split
    · exact hqueue
    · exact hagain.trans (Quiet.startRoleCheck _ gid party.leader)
  · exact QuietBut.refl _ _ m

theorem Quiet.joinAsPlayer (m : LFGMgr) (guid : Nat) (type : LFGType) : Quiet m (m.joinAsPlayer guid type) :=
  ((Quiet.addToQueue m _ type).trans (Quiet.addToSearchMatrix _ guid)).trans (Quiet.setState _ _ _)

theorem Quiet.join (m : LFGMgr) (guid : Nat) (allowed : List Nat) (extend : Bool) :
    Quiet m (m.join guid allowed extend) := by
  unfold LFGMgr.join
  simp only
  split
  · split
    · exact QuietBut.refl _ _ m
    · split
      · exact Quiet.removeFromQueue m _
      · split
        · exact Quiet.joinAsPlayer m guid _
        · exact Quiet.clear m guid
  next gid party _ =>
    have hqueue := Quiet.removeFromQueue m (.group gid)
    split
    · exact QuietBut.refl _ _ m
    · split
      · exact hqueue
      · split
        · exact hqueue.trans (Quiet.joinAsGroup _ gid party _ extend)
        · exact hqueue.trans (Quiet.clear _ guid)

theorem Quiet.handleLfgJoin (m : LFGMgr) (guid : Nat) (dungeons : List LFGDungeonEntry)
    (allowed : List Nat) (extend : Bool) : Quiet m (m.handleLfgJoin guid dungeons allowed extend) := by
  have hset : Quiet m (m.setPlayer guid (·.setDungeons dungeons)) :=
    Quiet.setPlayer m guid fun _ h => h
  unfold LFGMgr.handleLfgJoin
  apply QuietBut.trans _ (Quiet.join _ guid allowed extend)
  split
  · exact hset
  · split
    · exact hset.trans (Quiet.setPartyState _ _ _)
    · exact hset

theorem Quiet.handleLfrLeave (m : LFGMgr) (guid : Nat) (dungeon : LFGDungeonEntry) :
    Quiet m (m.handleLfrLeave guid dungeon) := by
  have hset : Quiet m (m.setPlayer guid (·.removeDungeon dungeon)) :=
    Quiet.setPlayer m guid fun _ h => h
  unfold LFGMgr.handleLfrLeave
  split
  · simp only
    split
    · exact hset.trans (Quiet.leave _ guid)
    · exact hset
  · exact QuietBut.refl _ _ m

theorem Quiet.clearLFRList (m : LFGMgr) (guid : Nat) : Quiet m (m.clearLFRList guid) := by
  have hset : Quiet m (m.setPlayer guid (·.setDungeons [])) := Quiet.setPlayer m guid fun _ h => h
  exact hset.trans (Quiet.removeFromQueue _ _)

theorem Quiet.updateRoleCheck (m : LFGMgr) (gid : Nat) (chosen : List Nat) (fit : Bool) :
    Quiet m (m.updateRoleCheck gid chosen fit) := by
  unfold LFGMgr.updateRoleCheck
  split
  · exact QuietBut.refl _ _ m
  · split
    · simp only
      split
      · exact (Quiet.setState m _ _).trans (Quiet.setPartyState _ gid _)
      · exact Quiet.setState m _ _
    · exact QuietBut.refl _ _ m

theorem Quiet.cleanupRoleCheck (m : LFGMgr) (gid : Nat) : Quiet m (m.cleanupRoleCheck gid) := by
  unfold LFGMgr.cleanupRoleCheck
  split
  · exact (Quiet.setPartyState m gid _).trans (Quiet.removeFromQueue _ _)
  · exact QuietBut.refl _ _ m

theorem Quiet.logout (m : LFGMgr) (guid : Nat) (regular : Bool) : Quiet m (m.logout guid regular) := by
  have hworld : ∀ m₁ : LFGMgr, Quiet m₁ { m₁ with world := Function.update m₁.world guid false } :=
    fun _ => Quiet.of_eq rfl rfl rfl rfl rfl rfl
  unfold LFGMgr.logout
  apply QuietBut.trans _ (hworld _)
  split
  · exact Quiet.removeFromGroup m guid true
  · exact QuietBut.refl _ _ m

/-- Who was put into the proposal is in it, who is involved and stands as agreeing has agreed to it, and
nobody has declined it. -/
structure RecordOf (m : LFGMgr) (id : Nat) (p : LFGProposal) : Prop where
  put : ∀ g, .put id g ∈ since id m.log → g ∈ p.players
  agreed : ∀ g, m.involves p g = true → (m.players g).answer = .agree → .answered id g g true ∈ since id m.log
  undeclined : ∀ sender g, .answered id sender g false ∉ since id m.log
  group : ∀ gid, p.group = some gid → gid < m.nextGroup

/-- The record is right for each live proposal other than `ex`. -/
structure RecordedBut (ex : Option Nat) (m : LFGMgr) : Prop where
  live : ∀ id p, some id ≠ ex → m.proposals[id]? = some p → p.deleted = false → RecordOf m id p
  groups : ∀ gid, (m.groups gid).isSome → gid < m.nextGroup

abbrev Recorded : LFGMgr → Prop := RecordedBut none

theorem Recorded.but {ex : Option Nat} (h : Recorded m) : RecordedBut ex m where
  live id p _ := h.live id p (by simp)
  groups := h.groups

theorem RecordedBut.all {id : Nat} (h : RecordedBut (some id) m)
    (hid : ∀ p, m.proposals[id]? = some p → p.deleted = false → RecordOf m id p) : Recorded m where
  live i p _ hp hlive := by
    by_cases heq : i = id
    · subst heq
      exact hid p hp hlive
    · exact h.live i p (by simpa using heq) hp hlive
  groups := h.groups

theorem involves_iff {p : LFGProposal} {g : Nat} :
    m.involves p g = true ↔ g ∈ p.players ∨ ∃ gid, p.group = some gid ∧ g ∈ m.linked gid := by
  cases h : p.group with
  | none => simp [involves, h]
  | some gid => simp [involves, h]

theorem QuietBut.involves {id gid : Option Nat} (hquiet : QuietBut id gid m m') {p p' : LFGProposal}
    (hplayers : p.players = p'.players) (hgroup : p.group = p'.group)
    (hother : p.group = none ∨ p.group ≠ gid) {g : Nat} (h : m'.involves p' g = true) : m.involves p g = true := by
  rcases involves_iff.mp h with hmem | ⟨j, hj, hlinked⟩
  · exact involves_iff.mpr (.inl (hplayers ▸ hmem))
  · have hpj : p.group = some j := hgroup.trans hj
    have hne : some j ≠ gid := by
      rcases hother with hnone | hnot
      · rw [hpj] at hnone
        cases hnone
      · rwa [hpj] at hnot
    exact involves_iff.mpr (.inr ⟨j, hpj, hquiet.linked j g hne hlinked⟩)

theorem RecordedBut.quiet {ex gid : Option Nat} (h : RecordedBut ex m) (hquiet : QuietBut ex gid m m')
    (hgroup : ∀ id p, some id ≠ ex → m.proposals[id]? = some p → p.deleted = false →
      p.group = none ∨ p.group ≠ gid) (hnew : ∀ j, some j = gid → j < m'.nextGroup) : RecordedBut ex m' where
  live id p' hid hp' hlive' := by
    obtain ⟨p, hp, hlive, hplayers, hsame⟩ := hquiet.proposals id p' hid hp' hlive'
    have hrec := h.live id p hid hp hlive
    constructor
    case put =>
      intro g hg
      rw [hquiet.log] at hg
      exact hplayers ▸ hrec.put g hg
    case agreed =>
      intro g hg hanswer
      rw [hquiet.log]
      exact hrec.agreed g (hquiet.involves hplayers hsame (hgroup id p hid hp hlive) hg)
        (hquiet.answers g hanswer)
    case undeclined =>
      intro sender g hg
      rw [hquiet.log] at hg
      exact hrec.undeclined sender g hg
    case group =>
      intro j hj
      exact (hrec.group j (hsame.trans hj)).trans_le hquiet.nextGroup
  groups j hj := by
    by_cases heq : some j = gid
    · exact hnew j heq
    · exact (h.groups j (hquiet.groups j heq hj)).trans_le hquiet.nextGroup

theorem RecordedBut.of_quiet {ex : Option Nat} (h : RecordedBut ex m) (hquiet : QuietBut ex none m m') :
    RecordedBut ex m' :=
  h.quiet hquiet (fun _ p _ _ _ => by cases p.group <;> simp) (by simp)

theorem QuietBut.other_groups {ex gid : Option Nat} (hquiet : QuietBut ex gid m m') {j : Option Nat}
    (h : ∀ i p, some i ≠ ex → m.proposals[i]? = some p → p.deleted = false → p.group = none ∨ p.group ≠ j) :
    ∀ i p, some i ≠ ex → m'.proposals[i]? = some p → p.deleted = false → p.group = none ∨ p.group ≠ j := by
  intro i p' hi hp' hlive'
  obtain ⟨p, hp, hlive, -, hgroup⟩ := hquiet.proposals i p' hi hp' hlive'
  exact hgroup ▸ h i p hi hp hlive

theorem QuietBut.dead {ex gid : Option Nat} {id : Nat} (hquiet : QuietBut ex gid m m')
    (hid : some id ≠ ex) (hdead : ∀ p, m.proposals[id]? = some p → p.deleted = true) :
    ∀ p, m'.proposals[id]? = some p → p.deleted = true := by
  intro p' hp'
  by_contra hlive
  obtain ⟨p, hp, hliveₚ, -, -⟩ := hquiet.proposals id p' hid hp' (by simpa using hlive)
  rw [hdead p hp] at hliveₚ
  cases hliveₚ

theorem mem_since_concat {id : Nat} {log : List ProposalNote} {n x : ProposalNote}
    (hn : n ≠ .created id) : x ∈ since id (log ++ [n]) ↔ x = n ∨ x ∈ since id log := by
  rw [since_concat, if_neg hn, List.mem_cons]

theorem RecordedBut.note {id : Nat} {n : ProposalNote} (hid : n.id = id)
    (h : RecordedBut (some id) m) : RecordedBut (some id) (m.note n) where
  live i p hi hp hlive := by
    subst hid
    have hrec := h.live i p hi hp hlive
    have hne : n.id ≠ i := fun heq => hi (by rw [heq])
    have hsince : ∀ x : ProposalNote, x.id = i → (x ∈ since i (m.note n).log ↔ x ∈ since i m.log) := by
      intro x hx
      have hn : n ≠ .created i := by
        rintro rfl
        exact hne rfl
      have hxn : x ≠ n := by
        rintro rfl
        exact hne hx
      exact (mem_since_concat hn).trans (or_iff_right hxn)
    constructor
    case put => exact fun g hg => hrec.put g ((hsince _ rfl).mp hg)
    case agreed => exact fun g hg hanswer => (hsince _ rfl).mpr (hrec.agreed g hg hanswer)
    case undeclined => exact fun sender g hg => hrec.undeclined sender g ((hsince _ rfl).mp hg)
    case group => exact hrec.group
  groups := h.groups

@[simp] theorem removeFromSearchMatrix_players (m : LFGMgr) (guid : Nat) :
    (m.removeFromSearchMatrix guid).players = m.players := by
  unfold removeFromSearchMatrix
  split <;> rfl

@[simp] theorem removeFromSearchMatrix_proposals (m : LFGMgr) (guid : Nat) :
    (m.removeFromSearchMatrix guid).proposals = m.proposals := by
  unfold removeFromSearchMatrix
  split <;> rfl

theorem QuietBut.askPlayer (m : LFGMgr) (id guid : Nat) : QuietBut (some id) none m (m.askPlayer id guid) := by
  have hadd : ∀ f, QuietBut (some id) none m (m.setProposal id f) := fun f =>
    QuietBut.setProposal m id fun hne => absurd rfl hne
  have hask : ∀ m₁ : LFGMgr, Quiet m₁ (m₁.setPlayer guid fun lfg =>
      { lfg with state := .proposal, answer := .pending }) := fun m₁ =>
    Quiet.setPlayer m₁ guid fun _ hlfg => by simp at hlfg
  exact ((hadd _).trans (hask _).but).trans (Quiet.removeFromSearchMatrix _ guid).but

theorem askPlayer_answer (m : LFGMgr) (id guid : Nat) : ((m.askPlayer id guid).players guid).answer = .pending := by
  simp [askPlayer, LFGMgr.setPlayer]

theorem askPlayer_proposal {id guid : Nat} {p' : LFGProposal} (h : (m.askPlayer id guid).proposals[id]? = some p') :
    ∃ p, m.proposals[id]? = some p ∧ p'.players = p.players.insert guid ∧ p'.group = p.group ∧
      p'.deleted = p.deleted := by
  simp only [askPlayer, removeFromSearchMatrix_proposals, LFGMgr.setPlayer, LFGMgr.setProposal,
    lookup_modify, if_true] at h
  obtain ⟨p, hp, rfl⟩ := Option.map_eq_some_iff.mp h
  exact ⟨p, hp, rfl, rfl, rfl⟩

theorem Quiet.awaitAnswers (m : LFGMgr) (gid : Option Nat) : Quiet m (m.awaitAnswers gid) := by
  cases gid with
  | none => exact QuietBut.refl _ _ m
  | some gid => exact Quiet.setPartyState m gid fun lfg => { lfg with state := .proposal }

theorem Recorded.sendProposal (h : Recorded m) (id guid : Nat) : Recorded (m.sendProposal id guid) := by
  unfold LFGMgr.sendProposal
  split
  · exact h
  next p _ =>
    split
    next hworld =>
      have hask := QuietBut.askPlayer m id guid
      have hawait := Quiet.awaitAnswers (m.askPlayer id guid) (m.proposalGroup p)
      have hquiet := hask.trans hawait.but
      have hother : RecordedBut (some id) (((m.askPlayer id guid).awaitAnswers (m.proposalGroup p)).note
          (.put id guid)) :=
        RecordedBut.note rfl (h.but.of_quiet hquiet)
      apply hother.all
      intro p₂ hp₂ hlive₂
      obtain ⟨p₁, hp₁, hlive₁, hplayers₁, hgroup₁⟩ := hawait.proposals id p₂ (by simp) hp₂ hlive₂
      obtain ⟨p₀, hp₀, hplayers₀, hgroup₀, hlive₀⟩ := askPlayer_proposal hp₁
      have hplayers : p₂.players = p₀.players.insert guid := hplayers₁.symm.trans hplayers₀
      have hgroup : p₂.group = p₀.group := hgroup₁.symm.trans hgroup₀
      have hrec := h.live id p₀ (by simp) hp₀ (hlive₀.symm.trans hlive₁)
      have hsince : ∀ x, x ∈ since id (((m.askPlayer id guid).awaitAnswers
          (m.proposalGroup p)).note (.put id guid)).log ↔ x = .put id guid ∨ x ∈ since id m.log := by
        intro x
        rw [LFGMgr.note, hquiet.log]
        exact mem_since_concat (by simp)
      constructor
      case put =>
        intro g hg
        rw [hplayers]
        rcases (hsince _).mp hg with heq | hg
        · cases heq
          exact List.mem_insert_self
        · exact List.mem_insert_of_mem (hrec.put g hg)
      case agreed =>
        intro g hg hanswer
        have hne : g ≠ guid := by
          rintro rfl
          have hagree := hawait.answers g hanswer
          rw [askPlayer_answer] at hagree
          cases hagree
        refine (hsince _).mpr (.inr (hrec.agreed g ?_ (hquiet.answers g hanswer)))
        rcases involves_iff.mp hg with hmem | ⟨j, hj, hlinked⟩
        · rw [hplayers, List.mem_insert_iff] at hmem
          exact involves_iff.mpr (.inl (hmem.resolve_left hne))
        · exact involves_iff.mpr (.inr ⟨j, hgroup.symm.trans hj, hquiet.linked j g (by simp) hlinked⟩)
      case undeclined =>
        intro sender g hg
        rcases (hsince _).mp hg with heq | hg
        · cases heq
        · exact hrec.undeclined sender g hg
      case group =>
        intro j hj
        exact (hrec.group j (hgroup.symm.trans hj)).trans_le hquiet.nextGroup
    next => exact h

theorem mem_present {gid g : Nat} : g ∈ m.present gid ↔ g ∈ m.linked gid ∧ m.world g = true := by
  cases h : m.groups gid with
  | none => simp [present, linked, h]
  | some party => simp [present, linked, h, and_left_comm, and_comm]

theorem Quiet.askGroup (m : LFGMgr) (id : Nat) (gid : Option Nat) : Quiet m (m.askGroup id gid) := by
  cases gid with
  | none => exact QuietBut.refl _ _ m
  | some gid =>
    have hstate := Quiet.setPartyState m gid fun lfg =>
      { lfg with proposal := some id, state := .proposal }
    unfold LFGMgr.askGroup
    apply hstate.trans
    apply Quiet.setPlayers
    intro lfg hlfg
    cases hlfg

@[simp] theorem askGroup_proposals (m : LFGMgr) (id : Nat) (gid : Option Nat) :
    (m.askGroup id gid).proposals = m.proposals := by
  cases gid <;> rfl

theorem Recorded.enterProposal (h : Recorded m) (id : Nat) (dungeon : LFGDungeonEntry)
    {gid : Option Nat} (hgid : ∀ j, gid = some j → (m.groups j).isSome) (hstale : ∀ j, gid = some j →
      ∀ g ∈ m.linked j, m.world g = true ∨ (m.players g).answer ≠ .agree) :
    Recorded (m.enterProposal id dungeon gid) := by
  have hinsert : ∀ (p : LFGProposal) (n : Nat), QuietBut (some id) none m
      { m with proposals := m.proposals.insert id p, proposalID := n } := by
    intro p n
    constructor
    case proposals =>
      intro i p' hi hp' hlive
      rw [lookup_insert, if_neg (fun heq => hi (by rw [heq]))] at hp'
      exact ⟨p', hp', hlive, rfl, rfl⟩
    case log => rfl
    case answers => exact fun _ hg => hg
    case linked => exact fun _ _ _ hg => hg
    case groups => exact fun _ _ hg => hg
    case nextGroup => exact Nat.le_refl _
  have hask := Quiet.askGroup { m with
    proposals := m.proposals.insert id
      { dungeon, group := gid, cancelTime := m.now + lfgTimeProposal }
    proposalID := max m.proposalID id } id gid
  have hother : RecordedBut (some id) (m.enterProposal id dungeon gid) :=
    RecordedBut.note rfl (h.but.of_quiet ((hinsert _ _).trans hask.but))
  apply hother.all
  intro p' hp' _
  have heq : p' = { dungeon, group := gid, cancelTime := m.now + lfgTimeProposal } := by
    simpa [LFGMgr.enterProposal, LFGMgr.note, eq_comm] using hp'
  subst heq
  have hsince : since id (m.enterProposal id dungeon gid).log = [] := by
    simp [LFGMgr.enterProposal, LFGMgr.note, since_concat]
  constructor
  case put => simp [hsince]
  case agreed =>
    intro g hg hanswer
    exfalso
    rcases involves_iff.mp hg with hmem | ⟨j, hj, hlinked⟩
    · cases hmem
    · simp only at hj
      subst hj
      have hlinkedₘ : g ∈ m.linked j := hask.linked j g (by simp) hlinked
      have hagree : (m.players g).answer = .agree := hask.answers g hanswer
      have hworld : m.world g = true := (hstale j rfl g hlinkedₘ).resolve_right (not_not.mpr hagree)
      have hpresent : g ∈ m.present j := mem_present.mpr ⟨hlinkedₘ, hworld⟩
      have hpending : ((m.enterProposal id dungeon (some j)).players g).answer = .pending := by
        have hsame : ({ m with
            proposals := m.proposals.insert id
              { dungeon, group := some j, cancelTime := m.now + lfgTimeProposal }
            proposalID := max m.proposalID id } : LFGMgr).present j = m.present j := rfl
        simp [LFGMgr.enterProposal, LFGMgr.note, LFGMgr.askGroup, LFGMgr.setPlayers, hsame, hpresent]
      rw [hpending] at hanswer
      cases hanswer
  case undeclined => simp [hsince]
  case group =>
    intro j hj
    exact (h.groups j (hgid j hj)).trans_le hask.nextGroup

/-- The record is right, and the groups that formed did so by consent. -/
structure Consenting (m : LFGMgr) : Prop where
  recorded : Recorded m
  obeys : Obeys Consent m.log

theorem Consenting.quiet (h : Consenting m) (hquiet : Quiet m m') : Consenting m' :=
  ⟨h.recorded.of_quiet hquiet, hquiet.log ▸ h.obeys⟩

theorem Consenting.sendProposal (h : Consenting m) (id guid : Nat) : Consenting (m.sendProposal id guid) := by
  refine ⟨h.recorded.sendProposal id guid, ?_⟩
  unfold LFGMgr.sendProposal
  split
  · exact h.obeys
  next p _ =>
    split
    · have hawait := Quiet.awaitAnswers (m.askPlayer id guid) (m.proposalGroup p)
      rw [LFGMgr.note, hawait.log, (QuietBut.askPlayer m id guid).log]
      exact obeys_concat.mpr ⟨h.obeys, trivial⟩
    · exact h.obeys

theorem Consenting.createProposal (h : Consenting m) (dungeon : LFGDungeonEntry) {gid : Option Nat}
    (hgid : ∀ j, gid = some j → (m.groups j).isSome) (hstale : ∀ j, gid = some j →
      ∀ g ∈ m.linked j, m.world g = true ∨ (m.players g).answer ≠ .agree) (guids : List Nat) :
    Consenting (m.createProposal dungeon gid guids) := by
  have henter : Consenting (m.enterProposal (m.newProposalId gid) dungeon gid) := by
    refine ⟨h.recorded.enterProposal _ dungeon hgid hstale, ?_⟩
    rw [LFGMgr.enterProposal, LFGMgr.note, (Quiet.askGroup _ _ gid).log]
    exact obeys_concat.mpr ⟨h.obeys, trivial⟩
  exact run_invariant (fun _ g _ hm => hm.sendProposal _ g)
    (guarded_of_forall (fun _ _ => trivial) _ guids) henter

theorem QuietBut.setGroup (m : LFGMgr) (guid gid : Nat) : QuietBut none (some gid) m (m.setGroup guid (some gid)) := by
  apply QuietBut.of_groups
  case hgroupOf =>
    intro g j hj hg
    by_cases heq : g = guid
    · subst heq
      exact absurd (by simpa [LFGMgr.setGroup] using hg.symm) hj
    · simpa [LFGMgr.setGroup, heq] using hg
  case hgroups => exact fun _ party _ h => ⟨party, h, fun _ h => h⟩
  all_goals simp [LFGMgr.setGroup]

theorem QuietBut.addMember (m : LFGMgr) (gid guid : Nat) : QuietBut none (some gid) m (m.addMember gid guid) := by
  have hparty : QuietBut none (some gid) m (m.setParty gid fun party =>
      { party with members := party.members ++ [guid] }) := by
    apply QuietBut.of_groups
    case hgroups =>
      intro j party' hj hparty'
      have hne : j ≠ gid := fun heq => hj (by rw [heq])
      exact ⟨party', by simpa [LFGMgr.setParty, hne] using hparty', fun _ h => h⟩
    all_goals simp [LFGMgr.setParty]
  have hlink : QuietBut none (some gid) m
      (if m.groupOf guid = none then (m.setParty gid fun party =>
        { party with members := party.members ++ [guid] }).setGroup guid (some gid)
      else m.setParty gid fun party => { party with members := party.members ++ [guid] }) := by
    split
    · exact hparty.trans (QuietBut.setGroup _ guid gid)
    · exact hparty
  unfold LFGMgr.addMember
  split
  · exact QuietBut.refl _ _ m
  · split
    · exact QuietBut.refl _ _ m
    · simp only
      split
      · exact hlink.trans (Quiet.addMemberToLFDGroup _ guid).but
      · exact hlink

theorem QuietBut.removeProposed (m : LFGMgr) (id guid : Nat) : QuietBut (some id) none m (m.removeProposed id guid) :=
  QuietBut.setProposal m id fun hne => absurd rfl hne

theorem QuietBut.weaken {id gid : Option Nat} (h : QuietBut id none m m') : QuietBut id gid m m' where
  log := h.log
  answers := h.answers
  proposals := h.proposals
  linked j g _ := h.linked j g (by simp)
  groups j _ := h.groups j (by simp)
  nextGroup := h.nextGroup

theorem QuietBut.weaken_id {id gid : Option Nat} (h : QuietBut none gid m m') : QuietBut id gid m m' where
  log := h.log
  answers := h.answers
  proposals i p' _ := h.proposals i p' (by simp)
  linked := h.linked
  groups := h.groups
  nextGroup := h.nextGroup

theorem QuietBut.movePlayer (m : LFGMgr) (id gid guid : Nat) :
    QuietBut (some id) (some gid) m (m.movePlayer id gid guid) := by
  have hmove : QuietBut none (some gid) m (if m.world guid ∧ m.groupOf guid ≠ some gid then
      (m.removeFromGroup guid false).addMember gid guid else m) := by
    split
    · exact (Quiet.removeFromGroup m guid false).but.trans (QuietBut.addMember _ gid guid)
    · exact QuietBut.refl _ _ m
  exact hmove.weaken_id.trans (QuietBut.removeProposed _ id guid).weaken

theorem Quiet.convertGroup (m : LFGMgr) (gid : Nat) (p : LFGProposal) (real : LFGDungeonEntry) :
    Quiet m (m.convertGroup gid p real) := by
  have hstate := Quiet.setPartyState m gid fun lfg => { lfg with dungeon := some real }
  unfold LFGMgr.convertGroup
  simp only
  split
  · exact hstate
  · have hconvert := Quiet.setParty (m.setPartyState gid fun lfg => { lfg with dungeon := some real }) gid
      (convertToLFG_members p.dungeon.type)
    exact (hstate.trans hconvert).trans (quietBut_run Quiet.addMemberToLFDGroup _ _)

theorem QuietBut.newGroup (m : LFGMgr) (id : Nat) (p : LFGProposal) (real : LFGDungeonEntry)
    (leader : Nat) : QuietBut none (some m.nextGroup) m (m.newGroup id p real leader) := by
  apply QuietBut.of_groups
  case hgroupOf =>
    intro g j hj hg
    by_cases heq : g = leader
    · subst heq
      exact absurd (by simpa [LFGMgr.newGroup] using hg.symm) hj
    · simpa [LFGMgr.newGroup, heq] using hg
  case hgroups =>
    intro j party' hj hparty'
    have hne : j ≠ m.nextGroup := fun heq => hj (by rw [heq])
    exact ⟨party', by simpa [LFGMgr.newGroup, hne] using hparty', fun _ h => h⟩
  all_goals simp [LFGMgr.newGroup]

theorem QuietBut.createLFDGroup (m : LFGMgr) (id : Nat) (p : LFGProposal) (real : LFGDungeonEntry)
    (leader : Nat) : QuietBut (some id) (some m.nextGroup) m (m.createLFDGroup id p real leader) ∧
      m.nextGroup < (m.createLFDGroup id p real leader).nextGroup := by
  have hnew := QuietBut.newGroup m id p real leader
  have hadd := Quiet.addMemberToLFDGroup (m.newGroup id p real leader) leader
  have hrest := hadd.but.trans (QuietBut.removeProposed _ id leader)
  exact ⟨hnew.weaken_id.trans hrest.weaken, Nat.lt_of_succ_le hrest.nextGroup⟩

theorem RecordedBut.fillGroup {id gid : Nat} (h : RecordedBut (some id) m)
    (hgroup : ∀ i p, some i ≠ some id → m.proposals[i]? = some p → p.deleted = false →
      p.group = none ∨ p.group ≠ some gid) (hgid : gid < m.nextGroup) (guids : List Nat) :
    Recorded (m.fillGroup id gid guids) ∧ (m.fillGroup id gid guids).log = m.log := by
  have hmove := quietBut_run (fun m g => QuietBut.movePlayer m id gid g) m guids
  have hmoved := h.quiet hmove hgroup (by
    intro j hj
    cases hj
    exact hgid.trans_le hmove.nextGroup)
  unfold LFGMgr.fillGroup
  generalize run (fun m guid => m.movePlayer id gid guid) m guids = moved at hmove hmoved ⊢
  have herase := Quiet.eraseProposal moved id
  have hend : Quiet { moved with proposals := moved.proposals.erase id } _ :=
    (Quiet.setPartyState _ gid fun lfg => { lfg with status := .notSaved, state := .dungeon }).trans
      (Quiet.removeFromQueue _ (.group gid))
  have hdead := @QuietBut.dead _ _ none none id hend (by simp) (by simp)
  refine ⟨(hmoved.of_quiet (herase.but.trans hend.but)).all ?_, ?_⟩
  · intro p hp hlive
    rw [hdead p hp] at hlive
    cases hlive
  · exact hend.log.trans (herase.log.trans hmove.log)

theorem othersSatisfy_iff {id : Nat} {test : LFGProposal → Bool} : m.othersSatisfy id test = true ↔
      ∀ i p, i ≠ id → m.proposals[i]? = some p → p.deleted = false → test p = true := by
  simp only [othersSatisfy, List.all_eq_true, Prod.forall, ExtTreeMap.mem_toList_iff_getElem?_eq_some]
  constructor
  · intro h i p hi hp hlive
    simpa [hi, hlive] using h i p hp
  · intro h i p hp
    by_cases hi : i = id
    · simp [hi]
    · cases hlive : p.deleted with
      | true => simp
      | false => simp [h i p hi hp hlive]

theorem formGroup_consents {id : Nat} {p : LFGProposal} (h : Consenting m)
    (hp : m.proposals[id]? = some p) (hlive : p.deleted = false) (hworld : ∀ g ∈ p.players, m.world g = true)
    (hgroup : m.othersSatisfy id (fun q => q.group = none || q.group ≠ p.group) = true)
    (hall : m.allAnswered p = true) (draw : Draw) : Consenting (m.formGroup id p draw) := by
  obtain ⟨h, hobeys⟩ := h
  have hrec := h.live id p (by simp) hp hlive
  have hfail : Consenting (m.setProposal id ({ · with deleted := true })) :=
    ⟨h.of_quiet (Quiet.deleteProposal m id), hobeys⟩
  simp only [allAnswered, Bool.and_eq_true, List.all_eq_true] at hall
  have hplayers : ∀ g, .put id g ∈ since id m.log → .answered id g g true ∈ since id m.log := by
    intro g hg
    have hmem := hrec.put g hg
    have hanswer : (m.players g).answer = .agree := by simpa [hworld g hmem] using hall.1 g hmem
    exact hrec.agreed g (involves_iff.mpr (.inl hmem)) hanswer
  unfold LFGMgr.formGroup
  split
  · exact hfail
  next real gid _ hgid =>
    have hpgroup : p.group = some gid := (Option.filter_eq_some_iff.mp hgid).1
    have hpresent : ∀ g ∈ m.present gid, .answered id g g true ∈ since id m.log := by
      intro g hg
      have hanswer : (m.players g).answer = .agree := by simpa using hall.2 g (by simpa [hgid] using hg)
      exact hrec.agreed g (involves_iff.mpr (.inr ⟨gid, hpgroup, (mem_present.mp hg).1⟩)) hanswer
    have hconvert : QuietBut (some id) none (m.note (.formed id (m.present gid))) _ :=
      (Quiet.convertGroup _ gid p real).but
    have hnoted : RecordedBut (some id) (m.note (.formed id (m.present gid))) :=
      RecordedBut.note rfl h.but
    have hother : ∀ i q, some i ≠ some id →
        (m.note (.formed id (m.present gid))).proposals[i]? = some q → q.deleted = false →
          q.group = none ∨ q.group ≠ some gid := by
      intro i q hi hq hliveq
      have hne : i ≠ id := fun heq => hi (by rw [heq])
      have htest := othersSatisfy_iff.mp hgroup i q hne hq hliveq
      simpa [hpgroup] using htest
    have hgidlt : gid < m.nextGroup := h.groups gid (Option.filter_eq_some_iff.mp hgid).2
    have hfill := (hnoted.of_quiet hconvert).fillGroup (hconvert.other_groups hother)
      (hgidlt.trans_le hconvert.nextGroup) p.players
    refine ⟨hfill.1, ?_⟩
    rw [hfill.2, hconvert.log, LFGMgr.note]
    exact obeys_concat.mpr ⟨hobeys, hplayers, hpresent, hrec.undeclined⟩
  next real _ hgid =>
    split
    · exact hfail
    next leader _ =>
      have hnoted : RecordedBut (some id) (m.note (.formed id [])) := RecordedBut.note rfl h.but
      have hleft := Quiet.removeFromGroup (m.note (.formed id [])) leader false
      have hrecorded := hnoted.of_quiet hleft.but
      simp only
      generalize (m.note (.formed id [])).removeFromGroup leader false = m₁ at hleft hrecorded ⊢
      obtain ⟨hcreate, hnext⟩ := QuietBut.createLFDGroup m₁ id p real leader
      have hfresh : ∀ i q, some i ≠ some id → m₁.proposals[i]? = some q → q.deleted = false →
          q.group = none ∨ q.group ≠ some m₁.nextGroup := by
        intro i q hi hq hliveq
        refine .inr fun heq => ?_
        exact Nat.lt_irrefl _ ((hrecorded.live i q hi hq hliveq).group _ heq)
      have hcreated := hrecorded.quiet hcreate hfresh (by
        intro j hj
        cases hj
        exact hnext)
      have hfill := hcreated.fillGroup (hcreate.other_groups hfresh) hnext p.players
      refine ⟨hfill.1, ?_⟩
      rw [hfill.2, hcreate.log, hleft.log, LFGMgr.note]
      exact obeys_concat.mpr ⟨hobeys, hplayers, by simp, hrec.undeclined⟩

theorem Recorded.agree {id guid : Nat} {p : LFGProposal} (h : Recorded m) (hp : m.proposals[id]? = some p)
    (hothers : m.othersSatisfy id (fun q => !m.involves q guid) = true) :
    Recorded ((m.setPlayer guid ({ · with answer := .agree })).note (.answered id guid guid true)) := by
  have hanswer : ∀ g, g ≠ guid → (m.setPlayer guid ({ · with answer := .agree })).players g =
      m.players g := fun g hne => by simp [LFGMgr.setPlayer, hne]
  have hset : RecordedBut (some id) (m.setPlayer guid ({ · with answer := .agree })) := by
    constructor
    case groups => exact h.groups
    case live =>
      intro i q hi hq hlive
      have hrec := h.live i q (by simp) hq hlive
      have hne : i ≠ id := fun heq => hi (by rw [heq])
      have hnot : m.involves q guid = false := by
        simpa using othersSatisfy_iff.mp hothers i q hne hq hlive
      refine ⟨hrec.put, fun g hg hagree => ?_, hrec.undeclined, hrec.group⟩
      have hgne : g ≠ guid := by
        rintro rfl
        exact absurd (hnot.symm.trans hg) (by simp)
      exact hrec.agreed g hg (hanswer g hgne ▸ hagree)
  have hnoted : RecordedBut (some id) ((m.setPlayer guid ({ · with answer := .agree })).note
      (.answered id guid guid true)) := RecordedBut.note rfl hset
  apply hnoted.all
  intro q hq hlive
  have hqp : p = q := Option.some.inj (hp.symm.trans hq)
  subst hqp
  have hrec := h.live id p (by simp) hp hlive
  have hsince : ∀ x, x ∈ since id (m.log ++ [.answered id guid guid true]) ↔
      x = .answered id guid guid true ∨ x ∈ since id m.log := fun x => mem_since_concat (by simp)
  constructor
  case put => exact fun g hg => hrec.put g (((hsince _).mp hg).resolve_left (by simp))
  case agreed =>
    intro g hg hagree
    by_cases heq : g = guid
    · subst heq
      exact (hsince _).mpr (.inl rfl)
    · exact (hsince _).mpr (.inr (hrec.agreed g hg (hanswer g heq ▸ hagree)))
  case undeclined =>
    exact fun sender g hg => hrec.undeclined sender g (((hsince _).mp hg).resolve_left (by simp))
  case group => exact hrec.group

theorem isLastAnswer_of_allAnswered {p : LFGProposal} {guid : Nat} {n : ProposalNote}
    (h : ((m.setPlayer guid ({ · with answer := .agree })).note n).allAnswered p = true) :
    m.isLastAnswer p guid = true := by
  have hanswer : ∀ g, g ≠ guid →
      ((m.setPlayer guid ({ · with answer := .agree })).note n).players g = m.players g := fun g hne => by
    simp [LFGMgr.setPlayer, LFGMgr.note, hne]
  have hworld : ((m.setPlayer guid ({ · with answer := .agree })).note n).world = m.world := rfl
  simp only [allAnswered, hworld, Bool.and_eq_true, List.all_eq_true] at h
  simp only [isLastAnswer, Bool.and_eq_true, List.all_eq_true]
  constructor
  · intro g hg
    by_cases heq : g = guid
    · simp [heq]
    · simpa [heq, hanswer g heq] using h.1 g hg
  · intro g hg
    by_cases heq : g = guid
    · simp [heq]
    · simpa [heq, hanswer g heq] using h.2 g hg

theorem declineProposal_dead (decliner id : Nat) :
    ∀ p, (m.declineProposal decliner id).proposals[id]? = some p → p.deleted = true := by
  have hset : ∀ p, (m.setProposal id ({ · with deleted := true })).proposals[id]? = some p →
      p.deleted = true := by
    intro p hp
    rw [LFGMgr.setProposal, lookup_modify, if_pos rfl] at hp
    obtain ⟨q, -, rfl⟩ := Option.map_eq_some_iff.mp hp
    rfl
  have hremoved : Quiet (m.setProposal id ({ · with deleted := true }))
      ((m.setProposal id ({ · with deleted := true })).removeDecliner id decliner) := by
    apply QuietBut.setProposal
    intro _ p hp hlive
    exact absurd ((hset p hp).symm.trans hlive) (by simp)
  have hleft : ∀ p, (((m.setProposal id ({ · with deleted := true })).removeDecliner id
      decliner).leave decliner).proposals[id]? = some p → p.deleted = true :=
    QuietBut.dead (hremoved.trans (Quiet.leave _ decliner)) (by simp) hset
  unfold LFGMgr.declineProposal
  split
  next hnone => simp [hnone]
  next p hp =>
    split
    next hdeleted =>
      intro q hq
      have hqp : p = q := Option.some.inj (hp.symm.trans hq)
      rwa [← hqp]
    · simp only
      split
      next gid _ =>
        split
        · exact QuietBut.dead (Quiet.leaveAsLeader _ gid) (by simp) hset
        · exact hleft
      · exact hleft

theorem Consenting.updateProposal {sender id guid : Nat} {accept : Bool} (h : Consenting m)
    (hfair : ∀ p, m.proposals[id]? = some p → m.admits p guid = true →
      m.FairAnswer sender id guid accept p) (draw : Draw) :
    Consenting (m.updateProposal sender id guid accept draw) := by
  unfold LFGMgr.updateProposal
  split
  · exact h
  next p hp =>
    split
    next hadmits =>
      obtain ⟨rfl, -, hagree⟩ := hfair p hp hadmits
      have hnote : ∀ m₁ : LFGMgr, m₁.log = m.log →
          Obeys Consent (m₁.note (.answered id sender sender accept)).log := by
        intro m₁ hlog
        rw [LFGMgr.note, hlog]
        exact obeys_concat.mpr ⟨h.obeys, trivial⟩
      cases accept with
      | false =>
        have hset : QuietBut (some id) none m (m.setPlayer sender ({ · with answer := .deny })) :=
          (Quiet.setPlayer m sender fun _ hdeny => by simp at hdeny).but
        have hnoted : RecordedBut (some id) ((m.setPlayer sender ({ · with answer := .deny })).note
            (.answered id sender sender false)) :=
          RecordedBut.note rfl (h.recorded.but.of_quiet hset)
        have hdecline := Quiet.declineProposal ((m.setPlayer sender ({ · with answer := .deny })).note
          (.answered id sender sender false)) sender id
        simp only [Bool.false_eq_true, if_false]
        constructor
        · apply (hnoted.of_quiet hdecline.but).all
          intro q hq hlive
          exact absurd ((declineProposal_dead sender id q hq).symm.trans hlive) (by simp)
        · rw [hdecline.log]
          exact hnote _ rfl
      | true =>
        obtain ⟨hothers, hlast⟩ := hagree rfl
        have hagreed := h.recorded.agree hp hothers
        simp only [if_true]
        split
        next hall =>
          obtain ⟨hlive, hworld, hgroup⟩ := hlast (isLastAnswer_of_allAnswered hall)
          exact formGroup_consents ⟨hagreed, hnote _ rfl⟩ hp hlive hworld hgroup hall draw
        next => exact ⟨hagreed, hnote _ rfl⟩
    next => exact h

theorem Consenting.tryCreateGroup (h : Consenting m) (entry : LFGDungeonEntry) (picked : List Nat)
    (dungeon : LFGDungeonEntry) : Consenting (m.tryCreateGroup entry picked dungeon) := by
  unfold LFGMgr.tryCreateGroup
  split
  · exact h.createProposal dungeon (by simp) (by simp) picked
  · exact h

theorem Consenting.tryCompleteGroup (h : Consenting m) {gid : Nat}
    (hstale : ∀ g ∈ m.linked gid, m.world g = true ∨ (m.players g).answer ≠ .agree)
    (type : LFGType) (picked : List Nat) (dungeon : LFGDungeonEntry) :
    Consenting (m.tryCompleteGroup type gid picked dungeon) := by
  unfold LFGMgr.tryCompleteGroup
  split
  · exact h
  next party hparty =>
    split
    · apply h.createProposal dungeon
      · rintro j ⟨rfl⟩
        rw [hparty]
        rfl
      · rintro j ⟨rfl⟩
        exact hstale
    · exact h

theorem Consenting.step (h : Consenting m) {op : Op} (hfair : m.Fair op) : Consenting (m.step op) := by
  unfold LFGMgr.step
  split
  next hsender =>
    cases op with
    | join guid dungeons allowed extend => exact h.quiet (Quiet.handleLfgJoin m guid dungeons allowed extend)
    | leave guid => exact h.quiet (Quiet.leave m guid)
    | lfrLeave guid dungeon => exact h.quiet (Quiet.handleLfrLeave m guid dungeon)
    | clearLFRList guid => exact h.quiet (Quiet.clearLFRList m guid)
    | setRoles guid chosen fit =>
      simp only [handle]
      split
      · exact h
      next gid _ _ => exact h.quiet (Quiet.updateRoleCheck m gid chosen fit)
    | tryCreateGroup entry picked dungeon => exact h.tryCreateGroup entry picked dungeon
    | tryCompleteGroup type gid picked dungeon => exact h.tryCompleteGroup hfair type picked dungeon
    | proposalResult sender id guid accept draw =>
      apply h.updateProposal
      intro p hp hadmits
      have hworld : m.world sender = true := by simpa [Op.sender] using hsender
      simpa [hp, hadmits] using hfair hworld
    | cleanupProposals type => exact h.quiet (Quiet.cleanupProposals m type)
    | cleanupRoleCheck gid => exact h.quiet (Quiet.cleanupRoleCheck m gid)
    | cleanupSearchMatrix => exact h.quiet (Quiet.of_eq rfl rfl rfl rfl rfl rfl)
    | enterWorld guid => exact h.quiet (Quiet.of_eq rfl rfl rfl rfl rfl rfl)
    | leaveWorld guid => exact h.quiet (Quiet.of_eq rfl rfl rfl rfl rfl rfl)
    | logout guid regular => exact h.quiet (Quiet.logout m guid regular)
    | wait time => exact h.quiet (Quiet.of_eq rfl rfl rfl rfl rfl rfl)
  next => exact h

theorem consenting_start (world : Nat → Bool) (parties : List Party) (debug : Bool) :
    Consenting (start world parties debug) := by
  constructor
  · constructor
    case live => simp [start]
    case groups =>
      intro gid hgid
      simpa [start] using hgid
  · exact obeys_nil

theorem foreignHarmless_of_fair {op : Op} (h : m.Fair op) : m.ForeignHarmless op := by
  cases op with
  | proposalResult sender id guid accept draw =>
    intro hforeign
    unfold LFGMgr.step
    split
    next hsender =>
      have hworld : m.world sender = true := by simpa [Op.sender] using hsender
      simp only [handle, LFGMgr.updateProposal]
      split
      · rfl
      next p hp =>
        split
        next hadmits =>
          have hfair : m.FairAnswer sender id guid accept p := by
            simpa [hp, hadmits] using h hworld
          obtain ⟨rfl, hinvolved, -⟩ := hfair
          exact absurd ((hforeign p hp).symm.trans hinvolved) (by simp)
        next => rfl
    next => rfl
  | _ => trivial

/-- In a run of fair steps every group forms by consent, and the answers of players who are not involved
change nothing. -/
theorem formsByConsent_run (world : Nat → Bool) (parties : List Party) (debug : Bool) (ops : List Op)
    (hfair : Guarded step Fair (start world parties debug) ops) :
    Obeys Consent (run step (start world parties debug) ops).log ∧
      Guarded step ForeignHarmless (start world parties debug) ops := by
  have hrun : Consenting (run step (start world parties debug) ops) :=
    run_invariant (fun _ _ hop hm => hm.step hop) hfair (consenting_start world parties debug)
  exact ⟨hrun.obeys, guarded_of_invariant (fun _ _ hop hm => hm.step hop)
    (fun _ _ hop _ => foreignHarmless_of_fair hop) hfair (consenting_start world parties debug)⟩

def fiveJoin : List Op :=
  ([1, 2, 3, 4, 5].map fun guid => Op.join guid [⟨1, .dungeon⟩] [guid] false) ++
    [.tryCreateGroup ⟨1, .dungeon⟩ [1, 2, 3, 4, 5] ⟨1, .dungeon⟩]

def firstAnswer (accept : Bool) (guid : Nat) : Op := .proposalResult guid 1 guid accept ⟨none, 2⟩

def allAgree : List Op := fiveJoin ++ [1, 2, 3, 4, 5].map (firstAnswer true)

theorem formsByConsent_run_allAgree : .formed 1 [] ∈ (run step (start (fun _ => true) [] false) allAgree).log ∧
      Obeys Consent (run step (start (fun _ => true) [] false) allAgree).log ∧
      Guarded step ForeignHarmless (start (fun _ => true) [] false) allAgree := by
  refine ⟨by decide +kernel, ?_⟩
  exact formsByConsent_run (fun _ => true) [] false allAgree (by decide +kernel)

/-- One of five players declines the proposal, the others agree to it, and a group forms of them. -/
theorem not_always_formsByConsent : ¬ ∀ (world : Nat → Bool) (parties : List Party) (debug : Bool) (ops : List Op),
      Obeys Consent (run step (start world parties debug) ops).log ∧
        Guarded step ForeignHarmless (start world parties debug) ops := by
  intro h
  have hobeys := (h (fun _ => true) [] false
    (fiveJoin ++ firstAnswer false 1 :: [2, 3, 4, 5].map (firstAnswer true))).1
  have hlog : (run step (start (fun _ => true) [] false)
      (fiveJoin ++ firstAnswer false 1 :: [2, 3, 4, 5].map (firstAnswer true))).log =
      (.created 1 :: [1, 2, 3, 4, 5].map (ProposalNote.put 1)) ++
        [.answered 1 1 1 false, .answered 1 2 2 true, .answered 1 3 3 true, .answered 1 4 4 true,
          .answered 1 5 5 true] ++ [.formed 1 []] := by
    decide +kernel
  rw [hlog] at hobeys
  exact hobeys.last.2.2 1 1 (by decide)

end Mangos.LFGMgr
