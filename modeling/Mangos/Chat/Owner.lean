import Mangos.Chat.Channel
import Mangos.Framework.Run

/-!
# The owner of a channel

The owner of a channel is one of its members and the only one with the owner flag.
-/

namespace Mangos

open Framework Std

namespace Channel

/-- The owner of a channel is one of its members. -/
structure OwnerIsMember (c : Channel) : Prop where
  named : ∀ (guid : Nat) (info : MemberInfo), c.players[guid]? = some info → info.player = guid
  owner_isOn : c.ownerGuid ≠ 0 → c.isOn c.ownerGuid
  owner_flag : c.ownerGuid ≠ 0 →
    ∀ (guid : Nat) (info : MemberInfo), c.players[guid]? = some info → (info.isOwner ↔ guid = c.ownerGuid)
  deserted : c.players = ∅ → c.ownerGuid = 0
  not_banned : ∀ guid ∈ c.banned, c.isOn guid = false

def ThrowsOutSelf (c : Channel) (player : ChannelUser) (target : Option ChannelUser) : Prop :=
  c.isOn player.guid ∧ c.notModerator player = false ∧ player.guid = c.ownerGuid ∧
    (∃ t ∈ target, t.guid = player.guid) ∧ (c.players.erase player.guid).isEmpty = false

/-- The request is no kick or ban of the owner by himself that leaves members behind. -/
def KeepsOwner (c : Channel) (e : ChannelConfig × ChannelRequest) : Prop :=
  match e.2 with
  | .kick player target => ¬ c.ThrowsOutSelf player target
  | .ban player target => ¬ c.ThrowsOutSelf player target
  | _ => True

/-- Records are under their own guids, only the owner has the owner flag, and the banned are out. -/
structure Roster (c : Channel) : Prop where
  named : ∀ (guid : Nat) (info : MemberInfo), c.players[guid]? = some info → info.player = guid
  flagged : ∀ (guid : Nat) (info : MemberInfo), c.players[guid]? = some info → info.isOwner → guid = c.ownerGuid
  nonzero : c.players[0]? = none
  banned : ∀ guid ∈ c.banned, c.players[guid]? = none

/-- A roster whose owner, if there is one, is on and has the owner flag. -/
structure Sound (c : Channel) : Prop extends c.Roster where
  owned : c.ownerGuid ≠ 0 → ∃ info, c.players[c.ownerGuid]? = some info ∧ info.isOwner

variable {c : Channel} {player target : ChannelUser} {guid : Nat} {info : MemberInfo}

theorem isOn_iff : c.isOn guid ↔ ∃ info, c.players[guid]? = some info := by
  rw [isOn, decide_eq_true_iff, ← ExtTreeMap.isSome_getElem?_iff_mem, Option.isSome_iff_exists]

theorem isOn_eq_false_iff : c.isOn guid = false ↔ c.players[guid]? = none := by
  rw [← Bool.not_eq_true, isOn_iff]
  cases c.players[guid]? <;> simp

theorem index_of_isOn (h : c.isOn guid) : c.index guid = c := by
  obtain ⟨info, hinfo⟩ := isOn_iff.mp h
  rw [index, upsert_id hinfo]

theorem member_eq (h : c.players[guid]? = some info) : c.member guid = info := by
  simp [member, h]

theorem sound_new (channelId : Nat) (ch : Option (BitVec 32)) : (new channelId ch).Sound := by
  cases ch with
  | none => constructor <;> simp [new]; constructor <;> simp
  | some dbc => constructor <;> simp [new]; constructor <;> simp

theorem Sound.ownerIsMember (h : c.Sound) : c.OwnerIsMember where
  named := h.named
  owner_isOn hne := by
    obtain ⟨info, hinfo, -⟩ := h.owned hne
    exact isOn_iff.mpr ⟨info, hinfo⟩
  owner_flag hne guid info hinfo := by
    constructor
    · exact h.flagged guid info hinfo
    · rintro rfl
      obtain ⟨owner, howner, hflag⟩ := h.owned hne
      rw [hinfo] at howner
      cases howner
      exact hflag
  deserted hempty := by
    by_contra hne
    obtain ⟨info, hinfo, -⟩ := h.owned hne
    rw [hempty] at hinfo
    simp at hinfo
  not_banned guid hguid := isOn_eq_false_iff.mpr (h.banned guid hguid)

theorem Roster.index (h : c.Roster) (hinfo : c.players[guid]? = some info)
    {change : MemberInfo → MemberInfo} (hplayer : (change info).player = info.player)
    (hflag : (change info).isOwner = info.isOwner) : (c.index guid change).Roster := by
  have hlookup : ∀ a : Nat, (c.index guid change).players[a]? =
      if guid = a then some (change info) else c.players[a]? := by
    intro a
    simp [Channel.index, hinfo]
  constructor
  · intro a i hi
    rw [hlookup] at hi
    split at hi
    next ha =>
      cases hi
      rw [hplayer, ← ha]
      exact h.named guid info hinfo
    next => exact h.named a i hi
  · intro a i hi hown
    rw [hlookup] at hi
    split at hi
    next ha =>
      cases hi
      rw [hflag] at hown
      exact ha ▸ h.flagged guid info hinfo hown
    next => exact h.flagged a i hi hown
  · rw [hlookup, if_neg, h.nonzero]
    rintro rfl
    rw [h.nonzero] at hinfo
    cases hinfo
  · intro a ha
    rw [hlookup, if_neg, h.banned a ha]
    rintro rfl
    rw [h.banned guid ha] at hinfo
    cases hinfo

theorem Sound.index (h : c.Sound) (hinfo : c.players[guid]? = some info)
    {change : MemberInfo → MemberInfo} (hplayer : (change info).player = info.player)
    (hflag : (change info).isOwner = info.isOwner) : (c.index guid change).Sound where
  toRoster := h.toRoster.index hinfo hplayer hflag
  owned hne := by
    obtain ⟨owner, howner, hown⟩ := h.owned hne
    by_cases hguid : guid = c.ownerGuid
    · subst hguid
      rw [hinfo] at howner
      cases howner
      exact ⟨change info, by simp [Channel.index, hinfo], hflag.trans hown⟩
    · exact ⟨owner, by simp [Channel.index, hguid, howner], hown⟩

theorem Roster.erase (h : c.Roster) (guid : Nat) : { c with players := c.players.erase guid }.Roster := by
  have hold : ∀ (a : Nat) (i : MemberInfo), (c.players.erase guid)[a]? = some i → c.players[a]? = some i := by
    intro a i hi
    rw [lookup_erase] at hi
    split at hi
    · cases hi
    · exact hi
  constructor
  · exact fun a i hi => h.named a i (hold a i hi)
  · exact fun a i hi => h.flagged a i (hold a i hi)
  · simp [h.nonzero]
  · intro a ha
    simp [h.banned a ha]

theorem Sound.erase (h : c.Sound) (hne : guid ≠ c.ownerGuid) : { c with players := c.players.erase guid }.Sound where
  toRoster := h.toRoster.erase guid
  owned hown := by
    obtain ⟨owner, howner, hflag⟩ := h.owned hown
    exact ⟨owner, by simp [hne, howner], hflag⟩

theorem Roster.dropOwner (h : c.Roster) : c.dropOwner.Roster ∧
      (∀ (a : Nat) (i : MemberInfo), c.dropOwner.players[a]? = some i → i.isOwner = false) ∧
      (∀ a : Nat, c.players[a]? = none ↔ c.dropOwner.players[a]? = none) := by
  by_cases hzero : c.ownerGuid = 0
  · have hdrop : c.dropOwner = c := by simp [Channel.dropOwner, hzero]
    rw [hdrop]
    refine ⟨h, fun a i hi => ?_, fun a => Iff.rfl⟩
    by_contra hflag
    have ha := h.flagged a i hi (by simpa using hflag)
    rw [ha, hzero, h.nonzero] at hi
    cases hi
  · have hlookup : ∀ a : Nat, c.dropOwner.players[a]? =
        if c.ownerGuid = a then c.players[a]?.map (·.setOwner false) else c.players[a]? := by
      intro a
      simp [Channel.dropOwner, hzero]
    have hnone : ∀ a : Nat, c.players[a]? = none ↔ c.dropOwner.players[a]? = none := by
      intro a
      rw [hlookup]
      split <;> simp
    have hflag : ∀ (a : Nat) (i : MemberInfo), c.dropOwner.players[a]? = some i → i.isOwner = false := by
      intro a i hi
      rw [hlookup] at hi
      split at hi
      next =>
        obtain ⟨old, -, rfl⟩ := Option.map_eq_some_iff.mp hi
        simp
      next ha =>
        by_contra hown
        exact ha (h.flagged a i hi (by simpa using hown)).symm
    have hbanned : c.dropOwner.banned = c.banned := by simp [Channel.dropOwner, hzero]
    refine ⟨⟨?_, ?_, (hnone 0).mp h.nonzero, ?_⟩, hflag, hnone⟩
    · intro a i hi
      rw [hlookup] at hi
      split at hi
      next =>
        obtain ⟨old, hold, rfl⟩ := Option.map_eq_some_iff.mp hi
        exact h.named a old hold
      next => exact h.named a i hi
    · intro a i hi hown
      rw [hflag a i hi] at hown
      cases hown
    · rw [hbanned]
      exact fun a ha => (hnone a).mp (h.banned a ha)

theorem Roster.setOwner (h : c.Roster) (hon : guid ≠ 0 → c.isOn guid) : (c.setOwner guid).Sound := by
  obtain ⟨hroster, hflag, hnone⟩ := h.dropOwner
  have hnobody : { c.dropOwner with ownerGuid := guid }.Roster :=
    ⟨hroster.named, fun a i hi hown => absurd hown (by simp [hflag a i hi]), hroster.nonzero, hroster.banned⟩
  by_cases hzero : guid = 0
  · have hset : c.setOwner guid = { c.dropOwner with ownerGuid := guid } := by
      simp [Channel.setOwner, hzero]
    rw [hset]
    exact ⟨hnobody, fun hne => absurd hzero hne⟩
  · have hset : c.setOwner guid = { c.dropOwner with ownerGuid := guid }.index guid (·.setOwner true) := by
      simp [Channel.setOwner, hzero]
    have hhere : ∃ info, c.dropOwner.players[guid]? = some info := by
      obtain ⟨info, hinfo⟩ := isOn_iff.mp (hon hzero)
      by_contra hmiss
      have hgone := (hnone guid).mpr (by simpa [Option.eq_none_iff_forall_ne_some] using hmiss)
      rw [hinfo] at hgone
      cases hgone
    obtain ⟨info, hinfo⟩ := hhere
    have hlookup : ∀ a : Nat, (c.setOwner guid).players[a]? =
        if guid = a then some (info.setOwner true) else c.dropOwner.players[a]? := by
      intro a
      rw [hset]
      simp [Channel.index, hinfo]
    have howner : (c.setOwner guid).ownerGuid = guid := by rw [hset]; rfl
    have hbanned : (c.setOwner guid).banned = c.dropOwner.banned := by rw [hset]; rfl
    refine ⟨⟨?_, ?_, ?_, ?_⟩, ?_⟩
    · intro a i hi
      rw [hlookup] at hi
      split at hi
      next ha =>
        cases hi
        rw [← ha]
        exact hroster.named guid info hinfo
      next => exact hroster.named a i hi
    · intro a i hi hown
      rw [hlookup] at hi
      split at hi
      next ha => rw [howner, ha]
      next =>
        rw [hflag a i hi] at hown
        cases hown
    · rw [hlookup, if_neg hzero]
      exact hroster.nonzero
    · intro a ha
      rw [hbanned] at ha
      rw [hlookup, if_neg]
      · exact hroster.banned a ha
      · rintro rfl
        rw [hroster.banned guid ha] at hinfo
        cases hinfo
    · intro _
      rw [howner]
      exact ⟨info.setOwner true, by simp [hlookup], by simp⟩

theorem Roster.enter (h : c.Roster) (hoff : c.isOn guid = false) (hfree : guid ∉ c.banned)
    (hne : guid ≠ 0) : (c.enter guid).Roster := by
  have hnone := isOn_eq_false_iff.mp hoff
  have hlookup : ∀ a : Nat, (c.enter guid).players[a]? =
      if guid = a then some ⟨guid, 0⟩ else c.players[a]? := by
    intro a
    simp [Channel.enter, Channel.index]
  constructor
  · intro a i hi
    rw [hlookup] at hi
    split at hi
    next ha =>
      cases hi
      exact ha
    next => exact h.named a i hi
  · intro a i hi hown
    rw [hlookup] at hi
    split at hi
    next =>
      cases hi
      simp [MemberInfo.isOwner, MemberInfo.hasFlag] at hown
    next => exact h.flagged a i hi hown
  · rw [hlookup, if_neg hne]
    exact h.nonzero
  · intro a ha
    have hguid : guid ≠ a := by
      rintro rfl
      exact hfree ha
    rw [hlookup, if_neg hguid]
    exact h.banned a ha

theorem Sound.enter (h : c.Sound) (hoff : c.isOn guid = false) (hfree : guid ∉ c.banned)
    (hne : guid ≠ 0) : (c.enter guid).Sound where
  toRoster := h.toRoster.enter hoff hfree hne
  owned hown := by
    obtain ⟨info, hinfo, hflag⟩ := h.owned hown
    refine ⟨info, ?_, hflag⟩
    have hguid : guid ≠ c.ownerGuid := by
      rintro rfl
      rw [isOn_eq_false_iff.mp hoff] at hinfo
      cases hinfo
    simp [Channel.enter, Channel.index, hguid, hinfo]

theorem isOn_enter (guid : Nat) : (c.enter guid).isOn guid :=
  isOn_iff.mpr ⟨⟨guid, 0⟩, by simp [enter, index]⟩

theorem Sound.join (h : c.Sound) (cfg : ChannelConfig) (password : String) : (c.join cfg player password).Sound := by
  unfold Channel.join
  split
  next => exact h
  next hoff =>
    have hoff' : c.isOn player.guid = false := by simpa using hoff
    split
    next => exact h
    next hfree =>
      have hfree' : player.guid ∉ c.banned := by simpa [isBanned] using hfree
      split
      next => exact h
      next =>
        split
        next => exact h
        next =>
          split
          next => exact h
          next =>
            dsimp only
            split
            next =>
              have hsound : ((c.enter player.guid).setOwner player.guid).Sound :=
                (h.toRoster.enter hoff' hfree' player.guid_ne).setOwner fun _ => isOn_enter _
              have hset : ((c.enter player.guid).setOwner player.guid).ownerGuid = player.guid := by
                simp [Channel.setOwner, player.guid_ne, Channel.index]
              obtain ⟨info, hinfo, -⟩ := hsound.owned (by rw [hset]; exact player.guid_ne)
              rw [hset] at hinfo
              exact hsound.index hinfo (by simp) (by simp)
            next => exact h.enter hoff' hfree' player.guid_ne

theorem Sound.leave (h : c.Sound) : (c.leave player).Sound := by
  unfold Channel.leave
  split
  next => exact h
  next hon =>
    have hon' : c.isOn player.guid := by simpa using hon
    obtain ⟨info, hinfo⟩ := isOn_iff.mp hon'
    dsimp only
    rw [index_of_isOn hon', member_eq hinfo]
    have hroster := h.toRoster.erase player.guid
    split
    next =>
      split
      next p hp =>
        have hlookup := lookup_of_first? hp
        have hnamed := hroster.named p.1 p.2 hlookup
        rw [hnamed]
        exact hroster.setOwner fun _ => isOn_iff.mpr ⟨p.2, hlookup⟩
      next => exact hroster.setOwner fun hne => absurd rfl hne
    next hflag =>
      apply h.erase
      intro heq
      obtain ⟨owner, howner, hown⟩ := h.owned (heq ▸ player.guid_ne)
      rw [← heq, hinfo] at howner
      cases howner
      exact hflag hown

theorem Roster.expel (h : c.Roster) (guid : Nat) (ban : Bool) : (c.expel guid ban).Roster := by
  have hroster := h.erase guid
  refine ⟨hroster.named, hroster.flagged, hroster.nonzero, ?_⟩
  intro a ha
  simp only [Channel.expel] at ha ⊢
  split at ha
  next =>
    rcases Finset.mem_insert.mp ha with rfl | hold
    · simp
    · exact hroster.banned a hold
  next => exact hroster.banned a ha

theorem Sound.throwOut (h : c.Sound) (hon : c.isOn player.guid) (ban : Bool)
    (hother : c.ownerGuid = target.guid → (c.players.erase target.guid).isEmpty = false →
      player.guid ≠ target.guid) : (c.throwOut player target ban).Sound := by
  have hroster := h.toRoster.expel target.guid ban
  unfold Channel.throwOut
  dsimp only
  split
  next hown =>
    split
    next => exact hroster.setOwner fun hne => absurd rfl hne
    next hmore =>
      apply hroster.setOwner
      intro _
      obtain ⟨info, hinfo⟩ := isOn_iff.mp hon
      have hne := hother hown (by simpa [Channel.expel] using hmore)
      exact isOn_iff.mpr ⟨info, by simp [Channel.expel, hne.symm, hinfo]⟩
  next hown =>
    refine ⟨hroster, fun hne => ?_⟩
    obtain ⟨info, hinfo, hflag⟩ := h.owned hne
    exact ⟨info, by simp [Channel.expel, Ne.symm hown, hinfo], hflag⟩

theorem Sound.kickOrBan {target : Option ChannelUser} (h : c.Sound) (ban : Bool)
    (hself : ¬ c.ThrowsOutSelf player target) : (c.kickOrBan player target ban).Sound := by
  unfold Channel.kickOrBan
  split
  next => exact h
  next hon =>
    have hon' : c.isOn player.guid := by simpa using hon
    dsimp only
    rw [index_of_isOn hon']
    split
    next => exact h
    next hmod =>
      cases target with
      | none => exact h
      | some target =>
        dsimp only
        split
        next => exact h
        next =>
          split
          next => exact h
          next =>
            apply h.throwOut hon'
            intro hown hmore heq
            exact hself ⟨hon', by simpa using hmod, heq.trans hown.symm, ⟨target, rfl, heq.symm⟩, heq ▸ hmore⟩

theorem not_ownerIsMember_kickOrBan {target : Option ChannelUser} (ban : Bool)
    (hself : c.ThrowsOutSelf player target) : ¬ (c.kickOrBan player target ban).OwnerIsMember := by
  obtain ⟨hon, hmod, hown, ⟨t, rfl, heq⟩, hmore⟩ := hself
  have hkick : c.kickOrBan player (some t) ban = c.throwOut player t ban := by
    simp [kickOrBan, hon, index_of_isOn hon, hmod, heq, ← hown]
  have hlookup : (c.throwOut player t ban).players[player.guid]? =
      some (({} : MemberInfo).setOwner true) := by
    simp [throwOut, expel, heq, ← hown, hmore, setOwner, dropOwner, player.guid_ne, index]
  intro hmember
  have hnamed := hmember.named player.guid _ (by rw [hkick]; exact hlookup)
  exact player.guid_ne hnamed.symm

theorem Sound.unBan {target : Option ChannelUser} (h : c.Sound) : (c.unBan player target).Sound := by
  unfold Channel.unBan
  split
  next => exact h
  next hon =>
    dsimp only
    rw [index_of_isOn (by simpa using hon)]
    split
    next => exact h
    next =>
      cases target with
      | none => exact h
      | some target =>
        dsimp only
        split
        next => exact h
        next =>
          exact ⟨⟨h.named, h.flagged, h.nonzero,
            fun guid hguid => h.banned guid (Finset.mem_of_mem_erase hguid)⟩, h.owned⟩

theorem Sound.settings {c' : Channel} (h : c.Sound) (howner : c'.ownerGuid = c.ownerGuid)
    (hplayers : c'.players = c.players) (hbanned : c'.banned = c.banned) : c'.Sound := by
  refine ⟨⟨?_, ?_, ?_, ?_⟩, ?_⟩
  · rw [hplayers]
    exact h.named
  · rw [hplayers, howner]
    exact h.flagged
  · rw [hplayers]
    exact h.nonzero
  · rw [hplayers, hbanned]
    exact h.banned
  · rw [hplayers, howner]
    exact h.owned

theorem Sound.setPassword (h : c.Sound) (password : String) : (c.setPassword player password).Sound := by
  unfold Channel.setPassword
  split
  next => exact h
  next hon =>
    dsimp only
    rw [index_of_isOn (by simpa using hon)]
    split
    next => exact h
    next => exact h.settings rfl rfl rfl

theorem Sound.toggleAnnounce (h : c.Sound) : (c.toggleAnnounce player).Sound := by
  unfold Channel.toggleAnnounce
  split
  next => exact h
  next hon =>
    dsimp only
    rw [index_of_isOn (by simpa using hon)]
    split
    next => exact h
    next => exact h.settings rfl rfl rfl

theorem Sound.toggleModerate (h : c.Sound) : (c.toggleModerate player).Sound := by
  unfold Channel.toggleModerate
  split
  next => exact h
  next hon =>
    dsimp only
    rw [index_of_isOn (by simpa using hon)]
    split
    next => exact h
    next => exact h.settings rfl rfl rfl

theorem Sound.setModerator (h : c.Sound) (hon : c.isOn guid) (set : Bool) : (c.setModerator guid set).Sound := by
  obtain ⟨info, hinfo⟩ := isOn_iff.mp hon
  unfold Channel.setModerator
  dsimp only
  rw [index_of_isOn hon]
  split
  next => exact h
  next => exact h.index hinfo (by simp) (by simp)

theorem Sound.setMute (h : c.Sound) (hon : c.isOn guid) (set : Bool) : (c.setMute guid set).Sound := by
  obtain ⟨info, hinfo⟩ := isOn_iff.mp hon
  unfold Channel.setMute
  dsimp only
  rw [index_of_isOn hon]
  split
  next => exact h
  next => exact h.index hinfo (by simp) (by simp)

theorem Sound.setMode {target : Option ChannelUser} (h : c.Sound) (cfg : ChannelConfig)
    (moderator set : Bool) : (c.setMode cfg player target moderator set).Sound := by
  unfold Channel.setMode
  split
  next => exact h
  next hon =>
    dsimp only
    rw [index_of_isOn (by simpa using hon)]
    split
    next => exact h
    next =>
      cases target with
      | none => exact h
      | some target =>
        dsimp only
        split
        next => exact h
        next =>
          split
          next => exact h
          next hto =>
            have hto' : c.isOn target.guid := by simpa using hto
            split
            next => exact h
            next =>
              split
              next => exact h
              next =>
                split
                next => exact h.setModerator hto' set
                next => exact h.setMute hto' set

theorem Sound.setOwnerBy {target : Option ChannelUser} (h : c.Sound) (cfg : ChannelConfig) :
    (c.setOwnerBy cfg player target).Sound := by
  unfold Channel.setOwnerBy
  split
  next => exact h
  next =>
    split
    next => exact h
    next =>
      cases target with
      | none => exact h
      | some target =>
        dsimp only
        split
        next => exact h
        next hto =>
          obtain ⟨info, hinfo⟩ := isOn_iff.mp (by simpa using hto)
          split
          next => exact h
          next =>
            have hmoderator : (c.index target.guid (·.setModerator true)).Roster :=
              h.toRoster.index hinfo (by simp) (by simp)
            apply hmoderator.setOwner
            intro _
            exact isOn_iff.mpr ⟨info.setModerator true, by simp [Channel.index, hinfo]⟩

theorem Sound.handle (e : ChannelConfig × ChannelRequest) (hok : c.KeepsOwner e) (h : c.Sound) :
    (c.handle e).Sound := by
  obtain ⟨cfg, request⟩ := e
  cases request with
  | join player password => exact h.join cfg password
  | leave player => exact h.leave
  | kick player target => exact h.kickOrBan false hok
  | ban player target => exact h.kickOrBan true hok
  | unBan player target => exact h.unBan
  | password player password => exact h.setPassword password
  | setMode player target moderator set => exact h.setMode cfg moderator set
  | setOwner player target => exact h.setOwnerBy cfg
  | announce player => exact h.toggleAnnounce
  | moderate player => exact h.toggleModerate

theorem not_ownerIsMember_handle (e : ChannelConfig × ChannelRequest) (hbad : ¬ c.KeepsOwner e) :
    ¬ (c.handle e).OwnerIsMember := by
  obtain ⟨cfg, request⟩ := e
  cases request with
  | kick player target => exact not_ownerIsMember_kickOrBan false (not_not.mp hbad)
  | ban player target => exact not_ownerIsMember_kickOrBan true (not_not.mp hbad)
  | _ => exact absurd trivial hbad

/-- From a new channel on, the owner is a member in every state exactly when no owner throws himself
out of a channel that others are in. -/
theorem ownerIsMember_iff (channelId : Nat) (ch : Option (BitVec 32)) (es : List (ChannelConfig × ChannelRequest)) :
    (∀ fs, fs <+: es → (run handle (new channelId ch) fs).OwnerIsMember) ↔
      Guarded handle KeepsOwner (new channelId ch) es :=
  run_always_iff (fun _ h => h.ownerIsMember) (fun _ e hok h => h.handle e hok)
    (fun _ e hbad _ => not_ownerIsMember_handle e hbad) (sound_new channelId ch)

end Channel

def selfBan : List (ChannelConfig × ChannelRequest) :=
  let owner : ChannelUser := { guid := 1, guid_ne := by decide }
  let other : ChannelUser := { guid := 2, guid_ne := by decide }
  let cfg : ChannelConfig := ⟨false, false⟩
  [(cfg, .join owner ""), (cfg, .join other ""), (cfg, .ban owner (some owner))]

theorem selfBan_banned_owner :
    let c := run Channel.handle (Channel.new 0 none) selfBan
    c.ownerGuid = 1 ∧ c.isBanned 1 ∧ c.isOn 1 ∧
      c.players[1]? = some { player := 0, flags := MemberInfo.memberFlagOwner } := by
  decide +kernel

theorem not_always_ownerIsMember : ¬ ∀ es, (run Channel.handle (Channel.new 0 none) es).OwnerIsMember := by
  intro h
  obtain ⟨-, -, -, hinfo⟩ := selfBan_banned_owner
  have hnamed := (h selfBan).named 1 _ hinfo
  cases hnamed

end Mangos
