import Mangos.Guild.World

/-!
# Both sides of guild membership

An online player carries the number of a guild exactly when the guild lists him.
-/

namespace Mangos

open Framework Function

namespace Guild

def guids (guild : Guild) : List Nat := guild.members.map (·.1)

/-- Each member has one slot, kept under his guid. -/
structure Sound (guild : Guild) : Prop where
  nodup : guild.guids.Nodup
  guid : ∀ p ∈ guild.members, p.2.guid = p.1

variable {guild : Guild}

theorem mem_guids_of_getMemberSlot {guid : Nat} {slot : MemberSlot}
    (h : guild.getMemberSlot guid = some slot) : guid ∈ guild.guids :=
  List.mem_map_of_mem (lookupKey_mem h)

@[simp] theorem guids_changeRank (target newRank : Nat) :
    (guild.changeRank target newRank).guids = guild.guids := keys_modifyKey

theorem Sound.changeRank (h : guild.Sound) (target newRank : Nat) : (guild.changeRank target newRank).Sound := by
  constructor
  · rw [guids_changeRank]
    exact h.nodup
  · intro p hp
    rcases mem_modifyKey hp with hold | ⟨hkey, slot, hmem, hslot⟩
    · exact h.guid p hold
    · rw [hslot, hkey]
      exact h.guid _ hmem

@[simp] theorem guids_setLeader (target : Nat) : (guild.setLeader target).guids = guild.guids := by
  rw [setLeader]
  split
  · rfl
  · exact guids_changeRank _ _

theorem Sound.setLeader (h : guild.Sound) (target : Nat) : (guild.setLeader target).Sound := by
  rw [Guild.setLeader]
  split
  · exact h
  · have hleader : Sound { guild with leaderGuid := target } := ⟨h.nodup, h.guid⟩
    exact hleader.changeRank _ _

@[simp] theorem setLeader_id (target : Nat) : (guild.setLeader target).id = guild.id := by
  rw [setLeader]
  split <;> rfl

variable {guid : Nat}

theorem members_insertMember (order : Shuffle (Nat × MemberSlot)) (rankId : Nat)
    (hnew : guid ∉ guild.guids) : (guild.insertMember order guid rankId).members.Perm
      ((guid, .new guid rankId) :: guild.members) := by
  have hnone : ¬ (guild.getMemberSlot guid).isSome = true := by
    rw [getMemberSlot, lookupKey_isSome_iff]
    exact hnew
  rw [insertMember, if_neg hnone]
  exact order.perm _

theorem Sound.insertMember (h : guild.Sound) (order : Shuffle (Nat × MemberSlot)) (rankId : Nat)
    (hnew : guid ∉ guild.guids) : (guild.insertMember order guid rankId).Sound := by
  have hmembers := members_insertMember order rankId hnew
  constructor
  · apply (hmembers.map _).nodup_iff.mpr
    exact List.nodup_cons.mpr ⟨hnew, h.nodup⟩
  · intro p hp
    rcases List.mem_cons.mp (hmembers.mem_iff.mp hp) with hp' | hp'
    · rw [hp']
      rfl
    · exact h.guid p hp'

theorem mem_guids_insertMember (order : Shuffle (Nat × MemberSlot)) (rankId : Nat)
    (hnew : guid ∉ guild.guids) (g : Nat) :
    g ∈ (guild.insertMember order guid rankId).guids ↔ g = guid ∨ g ∈ guild.guids := by
  rw [guids, ((members_insertMember order rankId hnew).map _).mem_iff]
  exact List.mem_cons

def lacksHeir (guild : Guild) (guid : Nat) (isDisbanding : Bool) : Bool :=
  guild.leaderGuid = guid && !isDisbanding && (bestOther guid guild.members).isNone

theorem eq_of_bestOther_eq_none {members : List (Nat × MemberSlot)}
    (h : bestOther guid members = none) : ∀ p ∈ members, p.1 = guid := by
  induction members using List.reverseRecOn with
  | nil => exact fun p hp => absurd hp List.not_mem_nil
  | append_singleton members q ih =>
    rw [bestOther, List.foldl_append, List.foldl_cons, List.foldl_nil] at h
    by_cases hq : q.1 = guid
    · rw [if_pos hq] at h
      intro p hp
      rcases List.mem_append.mp hp with hp | hp
      · exact ih h p hp
      · rw [List.mem_singleton.mp hp]
        exact hq
    · rw [if_neg hq] at h
      cases hbest : bestOther guid members with
      | none =>
        rw [bestOther] at hbest
        rw [hbest] at h
        exact absurd h nofun
      | some b =>
        rw [bestOther] at hbest
        rw [hbest] at h
        dsimp only at h
        split at h <;> exact absurd h nofun

theorem delMember_eq {isDisbanding : Bool} (h : guild.lacksHeir guid isDisbanding = false) :
    ∃ heir : Guild, heir.id = guild.id ∧ heir.guids = guild.guids ∧ (guild.Sound → heir.Sound) ∧
      (guild.delMember guid isDisbanding).1 = { heir with members := eraseKey guid heir.members } ∧
      (guild.delMember guid isDisbanding).2 = (eraseKey guid heir.members).isEmpty := by
  rw [delMember]
  split
  next hleader =>
    rw [lacksHeir, hleader, Bool.true_and] at h
    split
    next hnone =>
      rw [hnone] at h
      cases h
    next best hbest =>
      exact ⟨guild.setLeader best.1, setLeader_id _, guids_setLeader _, fun hsound =>
        hsound.setLeader _, rfl, rfl⟩
  next => exact ⟨guild, rfl, rfl, fun hsound => hsound, rfl, rfl⟩

theorem Sound.delMember (hsound : guild.Sound) {isDisbanding : Bool}
    (h : guild.lacksHeir guid isDisbanding = false) : (guild.delMember guid isDisbanding).1.Sound := by
  obtain ⟨heir, -, -, hkeep, heq, -⟩ := delMember_eq h
  rw [heq]
  constructor
  · exact (hkeep hsound).nodup.sublist (eraseKey_sublist.map _)
  · intro p hp
    exact (hkeep hsound).guid p (eraseKey_sublist.subset hp)

theorem delMember_id {isDisbanding : Bool} (h : guild.lacksHeir guid isDisbanding = false) :
    (guild.delMember guid isDisbanding).1.id = guild.id := by
  obtain ⟨heir, hid, -, -, heq, -⟩ := delMember_eq h
  rw [heq]
  exact hid

theorem mem_guids_delMember (hsound : guild.Sound) {isDisbanding : Bool}
    (h : guild.lacksHeir guid isDisbanding = false) (g : Nat) :
    g ∈ (guild.delMember guid isDisbanding).1.guids ↔ g ≠ guid ∧ g ∈ guild.guids := by
  obtain ⟨heir, -, hguids, hkeep, heq, -⟩ := delMember_eq h
  rw [heq, ← hguids]
  constructor
  · intro hg
    obtain ⟨p, hp, hpg⟩ := List.mem_map.mp hg
    obtain ⟨hmem, hne⟩ := mem_eraseKey_of_nodup (hkeep hsound).nodup hp
    rw [← hpg]
    exact ⟨hne, List.mem_map_of_mem hmem⟩
  · rintro ⟨hne, hg⟩
    exact mem_keys_eraseKey hg hne

theorem guids_of_delMember_empty {isDisbanding : Bool} (h : guild.lacksHeir guid isDisbanding = false)
    (hempty : (guild.delMember guid isDisbanding).2 = true) : (guild.delMember guid isDisbanding).1.guids = [] := by
  obtain ⟨heir, -, -, -, heq, hflag⟩ := delMember_eq h
  rw [hflag, List.isEmpty_iff] at hempty
  rw [heq, guids, hempty]
  rfl

end Guild

namespace GuildWorld

def Lists (w : GuildWorld) (id guid : Nat) : Prop := ∃ guild ∈ w.guilds id, guid ∈ guild.guids

/-- Both sides tell the same of online players, and nobody is a member of two guilds. -/
structure MembersAgree (w : GuildWorld) : Prop where
  online : ∀ guid, ∀ player ∈ w.players guid, ∀ id, id ≠ 0 → (w.Lists id guid ↔ player.guildId = id)
  once : ∀ guid id id', w.Lists id guid → w.Lists id' guid → id = id'

/-- The invariant: what the rows say is what the guilds list, and what online players carry. -/
structure Consistent (w : GuildWorld) : Prop where
  guild : ∀ id, ∀ guild ∈ w.guilds id, guild.Sound ∧ guild.id = id ∧ id ≠ 0 ∧ id < w.nextGuildId
  row : ∀ guid, ∀ row ∈ w.rows guid, w.Lists row.guildId guid
  listed : ∀ id guid, w.Lists id guid → ∃ row ∈ w.rows guid, row.guildId = id
  player : ∀ guid, ∀ player ∈ w.players guid, player.guildId = w.getGuildIdFromDB guid
  next : w.nextGuildId ≠ 0

instance (w : GuildWorld) (id guid : Nat) : Decidable (w.Lists id guid) :=
  inferInstanceAs (Decidable (∃ guild ∈ w.guilds id, _))

def BetweenMaps (w : GuildWorld) (guid : Nat) : Prop :=
  ∃ player ∈ w.players guid, player.inWorld = false

instance (w : GuildWorld) (guid : Nat) : Decidable (w.BetweenMaps guid) :=
  inferInstanceAs (Decidable (∃ player ∈ w.players guid, _))

variable {w : GuildWorld}

theorem consistent_start : start.Consistent where
  guild _ _ h := nomatch h
  row _ _ h := nomatch h
  listed := by
    rintro id guid ⟨guild, hguild, -⟩
    exact nomatch hguild
  player _ _ h := nomatch h
  next := Nat.one_ne_zero

theorem getGuildIdFromDB_of_mem {guid : Nat} {row : GuildMemberRow} (h : row ∈ w.rows guid) :
    w.getGuildIdFromDB guid = row.guildId := by
  rw [getGuildIdFromDB, Option.mem_def.mp h]

theorem getGuildIdFromDB_of_none {guid : Nat} (h : w.rows guid = none) : w.getGuildIdFromDB guid = 0 := by
  rw [getGuildIdFromDB, h]

theorem Consistent.id_ne_zero (h : w.Consistent) {id guid : Nat} (hlists : w.Lists id guid) : id ≠ 0 := by
  obtain ⟨guild, hguild, -⟩ := hlists
  exact (h.guild id guild hguild).2.2.1

theorem Consistent.lists_iff (h : w.Consistent) {id : Nat} (hid : id ≠ 0) (guid : Nat) :
    w.Lists id guid ↔ w.getGuildIdFromDB guid = id := by
  constructor
  · intro hlists
    obtain ⟨row, hrow, heq⟩ := h.listed id guid hlists
    rw [getGuildIdFromDB_of_mem hrow, heq]
  · intro heq
    cases hrow : w.rows guid with
    | none =>
      rw [getGuildIdFromDB_of_none hrow] at heq
      exact absurd heq.symm hid
    | some row =>
      rw [getGuildIdFromDB_of_mem hrow] at heq
      rw [← heq]
      exact h.row guid row hrow

theorem Consistent.rows_eq_none (h : w.Consistent) {guid : Nat} (hid : w.getGuildIdFromDB guid = 0) :
    w.rows guid = none := by
  cases hrow : w.rows guid with
  | none => rfl
  | some row =>
    rw [getGuildIdFromDB_of_mem hrow] at hid
    exact absurd hid (h.id_ne_zero (h.row guid row hrow))

theorem Consistent.membersAgree (h : w.Consistent) : w.MembersAgree where
  online guid player hplayer id hid := by
    rw [h.lists_iff hid, h.player guid player hplayer]
  once guid id id' hlists hlists' := by
    rw [← (h.lists_iff (h.id_ne_zero hlists) guid).mp hlists]
    exact (h.lists_iff (h.id_ne_zero hlists') guid).mp hlists'

@[simp] theorem withPlayer_guilds (guid : Nat) (f : GuildPlayer → GuildPlayer) :
    (w.withPlayer guid f).guilds = w.guilds := by
  rw [withPlayer]
  split <;> rfl

@[simp] theorem withPlayer_rows (guid : Nat) (f : GuildPlayer → GuildPlayer) : (w.withPlayer guid f).rows = w.rows := by
  rw [withPlayer]
  split <;> rfl

@[simp] theorem withPlayer_nextGuildId (guid : Nat) (f : GuildPlayer → GuildPlayer) :
    (w.withPlayer guid f).nextGuildId = w.nextGuildId := by
  rw [withPlayer]
  split <;> rfl

theorem findPlayer_eq_some {guid : Nat} {player : GuildPlayer} :
    w.findPlayer guid = some player ↔ w.players guid = some player ∧ player.inWorld = true := by
  rw [findPlayer, Option.filter_eq_some_iff]

theorem withPlayer_players (guid : Nat) (f : GuildPlayer → GuildPlayer) :
    (w.withPlayer guid f).players = update w.players guid
      (if w.BetweenMaps guid then w.players guid else (w.players guid).map f) := by
  rw [withPlayer]
  have hsame : update w.players guid (w.players guid) = w.players := update_eq_self guid w.players
  cases hplayer : w.players guid with
  | none =>
    have hfind : w.findPlayer guid = none := by rw [findPlayer, hplayer, Option.filter_none]
    rw [hfind, Option.map_none, ite_self]
    rw [hplayer] at hsame
    exact hsame.symm
  | some player =>
    cases hin : player.inWorld with
    | false =>
      have hfind : w.findPlayer guid = none := by
        rw [findPlayer, hplayer, Option.filter_some, hin]
        rfl
      have hbetween : w.BetweenMaps guid := ⟨player, hplayer, hin⟩
      rw [hfind, if_pos hbetween, ← hplayer, hsame]
    | true =>
      have hfind : w.findPlayer guid = some player := findPlayer_eq_some.mpr ⟨hplayer, hin⟩
      have hthere : ¬ w.BetweenMaps guid := by
        rintro ⟨player', hplayer', hout⟩
        rw [hplayer] at hplayer'
        cases hplayer'
        rw [hin] at hout
        exact absurd hout nofun
      rw [hfind, if_neg hthere]
      rfl

theorem not_betweenMaps_of_findPlayer {guid : Nat} {player : GuildPlayer}
    (h : w.findPlayer guid = some player) : ¬ w.BetweenMaps guid := by
  obtain ⟨hplayer, hin⟩ := findPlayer_eq_some.mp h
  rintro ⟨player', hplayer', hout⟩
  rw [Option.mem_def, hplayer] at hplayer'
  cases hplayer'
  rw [hin] at hout
  exact absurd hout nofun

theorem betweenMaps_withPlayer (guid : Nat) {f : GuildPlayer → GuildPlayer}
    (hf : ∀ player, (f player).inWorld = player.inWorld) (g : Nat) :
    (w.withPlayer guid f).BetweenMaps g ↔ w.BetweenMaps g := by
  rw [BetweenMaps, withPlayer_players]
  by_cases hg : g = guid
  · rw [hg, update_self]
    split
    · rfl
    next hnot =>
      constructor
      · rintro ⟨player, hplayer, hout⟩
        obtain ⟨old, hold, heq⟩ := Option.mem_map.mp hplayer
        rw [← heq, hf] at hout
        exact ⟨old, hold, hout⟩
      · exact fun hbetween => absurd hbetween hnot
  · rw [update_of_ne hg]
    rfl

theorem lists_setGuild (id : Nat) (guild : Guild) (id' guid : Nat) : (w.setGuild id (some guild)).Lists id' guid ↔
      if id' = id then guid ∈ guild.guids else w.Lists id' guid := by
  show (∃ guild' ∈ update w.guilds id (some guild) id', guid ∈ guild'.guids) ↔ _
  by_cases hid : id' = id
  · rw [if_pos hid, hid, update_self]
    constructor
    · rintro ⟨guild', hguild', hmem⟩
      cases hguild'
      exact hmem
    · exact fun hmem => ⟨guild, rfl, hmem⟩
  · rw [if_neg hid, update_of_ne hid]
    rfl

theorem Consistent.reassign (h : w.Consistent) {guid : Nat} {guild : Guild}
    {row : Option GuildMemberRow} {f : GuildPlayer → GuildPlayer} (hsound : guild.Sound)
    (hid : guild.id ≠ 0) (hnext : guild.id < w.nextGuildId) (hold : ∀ id, w.Lists id guid → id = guild.id)
    (hothers : ∀ g, g ≠ guid → (g ∈ guild.guids ↔ w.Lists guild.id g))
    (hself : guid ∈ guild.guids ↔ row.isSome) (hrow : ∀ r ∈ row, r.guildId = guild.id)
    (hf : ∀ player, (f player).guildId = row.elim 0 (·.guildId)) (hthere : ¬ w.BetweenMaps guid) :
    (((w.setGuild guild.id (some guild)).setRow guid row).withPlayer guid f).Consistent := by
  have hlists : ∀ id g, (((w.setGuild guild.id (some guild)).setRow guid row).withPlayer guid f).Lists
      id g ↔ if id = guild.id then g ∈ guild.guids else w.Lists id g := by
    intro id g
    rw [Lists, withPlayer_guilds]
    exact lists_setGuild guild.id guild id g
  have hrows : (((w.setGuild guild.id (some guild)).setRow guid row).withPlayer guid f).rows =
      update w.rows guid row := withPlayer_rows guid f
  have hplayers : (((w.setGuild guild.id (some guild)).setRow guid row).withPlayer guid f).players =
      update w.players guid ((w.players guid).map f) := by
    have hthere' : ¬ ((w.setGuild guild.id (some guild)).setRow guid row).BetweenMaps guid := hthere
    rw [withPlayer_players, if_neg hthere']
    rfl
  constructor
  · intro id guild' hguild'
    rw [withPlayer_guilds] at hguild'
    rw [withPlayer_nextGuildId]
    by_cases heq : id = guild.id
    · rw [heq, Option.mem_def] at hguild'
      have hguild : guild = guild' := by
        simpa only [setRow, setGuild, update_self, Option.some.injEq] using hguild'
      rw [← hguild, heq]
      exact ⟨hsound, rfl, hid, hnext⟩
    · have hguild : guild' ∈ w.guilds id := by
        simpa only [setRow, setGuild, update_of_ne heq] using hguild'
      exact h.guild id guild' hguild
  · intro g r hr
    rw [hrows] at hr
    rw [hlists]
    by_cases hg : g = guid
    · rw [hg, update_self] at hr
      rw [if_pos (hrow r hr), hg]
      exact hself.mpr (Option.isSome_iff_exists.mpr ⟨r, hr⟩)
    · rw [update_of_ne hg] at hr
      have hlisted := h.row g r hr
      split
      next heq => exact (hothers g hg).mpr (heq ▸ hlisted)
      next => exact hlisted
  · intro id g hmem
    rw [hlists] at hmem
    rw [hrows]
    by_cases hg : g = guid
    · rw [hg] at hmem ⊢
      rw [update_self]
      split at hmem
      next heq =>
        obtain ⟨r, hr⟩ := Option.isSome_iff_exists.mp (hself.mp hmem)
        exact ⟨r, hr, (hrow r hr).trans heq.symm⟩
      next hne => exact absurd (hold id hmem) hne
    · rw [update_of_ne hg]
      apply h.listed
      split at hmem
      next heq => exact heq ▸ (hothers g hg).mp hmem
      next => exact hmem
  · intro g player hplayer
    rw [hplayers] at hplayer
    rw [getGuildIdFromDB, hrows]
    by_cases hg : g = guid
    · rw [hg, update_self] at hplayer ⊢
      obtain ⟨old, -, heq⟩ := Option.mem_map.mp hplayer
      rw [← heq, hf]
      cases row <;> rfl
    · rw [update_of_ne hg] at hplayer ⊢
      exact h.player g player hplayer
  · rw [withPlayer_nextGuildId]
    exact h.next

theorem Consistent.addMember (h : w.Consistent) (settings : GuildSettings)
    (order : Shuffle (Nat × Guild.MemberSlot)) {guild : Guild} (hsound : guild.Sound)
    (hid : guild.id ≠ 0) (hnext : guild.id < w.nextGuildId)
    (hguids : ∀ g, g ∈ guild.guids ↔ w.Lists guild.id g) (guid rankId : Nat)
    (hthere : w.mayJoin settings guid → ¬ w.BetweenMaps guid) :
    (w.addMember settings order guild guid rankId).1.Consistent := by
  rw [GuildWorld.addMember]
  split
  · exact h
  next hjoins =>
    rw [Bool.not_eq_true, Bool.not_eq_false'] at hjoins
    have hfree : w.getGuildIdFromDB guid = 0 := by
      rw [mayJoin] at hjoins
      split at hjoins
      next player hfind =>
        rw [← h.player guid player (findPlayer_eq_some.mp hfind).1]
        exact of_decide_eq_true hjoins
      next =>
        rw [Bool.and_eq_true, decide_eq_true_eq] at hjoins
        exact hjoins.1
    have hnone : w.rows guid = none := h.rows_eq_none hfree
    have hunlisted : ∀ id, ¬ w.Lists id guid := by
      intro id hlists
      obtain ⟨row, hrow, -⟩ := h.listed id guid hlists
      rw [hnone] at hrow
      exact nomatch hrow
    have hnew : guid ∉ guild.guids := fun hmem => hunlisted guild.id ((hguids guid).mp hmem)
    have hinsert : ((w.setGuild guild.id (some (guild.insertMember order guid rankId))).insertRow guid
        { guildId := guild.id, rank := rankId }) =
        (w.setGuild guild.id (some (guild.insertMember order guid rankId))).setRow guid
          (some { guildId := guild.id, rank := rankId }) := by
      rw [insertRow, if_neg]
      show ¬ (w.rows guid).isSome = true
      rw [hnone]
      exact Bool.false_ne_true
    have hmem := Guild.mem_guids_insertMember order rankId hnew
    dsimp only
    rw [hinsert]
    apply h.reassign (hsound.insertMember order rankId hnew) hid hnext
    · exact fun id hlists => absurd hlists (hunlisted id)
    · intro g hg
      rw [hmem, or_iff_right hg]
      exact hguids g
    · exact iff_of_true ((hmem guid).mpr (.inl rfl)) rfl
    · intro r hr
      cases hr
      rfl
    · exact fun _ => rfl
    · exact hthere hjoins

theorem mem_guids_iff_lists {id : Nat} {guild : Guild} (hguild : w.guilds id = some guild)
    (g : Nat) : g ∈ guild.guids ↔ w.Lists id g := by
  constructor
  · exact fun hmem => ⟨guild, hguild, hmem⟩
  · rintro ⟨guild', hguild', hmem⟩
    rw [Option.mem_def, hguild] at hguild'
    cases hguild'
    exact hmem

theorem Consistent.withPlayer (h : w.Consistent) (guid : Nat) {f : GuildPlayer → GuildPlayer}
    (hf : ∀ player ∈ w.players guid, (f player).guildId = player.guildId) : (w.withPlayer guid f).Consistent := by
  have hlists : ∀ id g, (w.withPlayer guid f).Lists id g ↔ w.Lists id g := by
    intro id g
    rw [Lists, Lists, withPlayer_guilds]
  constructor
  · intro id guild hguild
    rw [withPlayer_guilds] at hguild
    rw [withPlayer_nextGuildId]
    exact h.guild id guild hguild
  · intro g row hrow
    rw [withPlayer_rows] at hrow
    rw [hlists]
    exact h.row g row hrow
  · intro id g hmem
    rw [hlists] at hmem
    rw [withPlayer_rows]
    exact h.listed id g hmem
  · intro g player hplayer
    rw [getGuildIdFromDB, withPlayer_rows]
    rw [withPlayer_players] at hplayer
    by_cases hg : g = guid
    · rw [hg, update_self] at hplayer
      rw [hg]
      split at hplayer
      · exact h.player guid player hplayer
      · obtain ⟨old, hold, heq⟩ := Option.mem_map.mp hplayer
        rw [← heq, hf old hold]
        exact h.player guid old hold
    · rw [update_of_ne hg] at hplayer
      exact h.player g player hplayer
  · rw [withPlayer_nextGuildId]
    exact h.next

theorem Consistent.modifyGuild (h : w.Consistent) (id : Nat) {f : Guild → Guild}
    (hid : ∀ guild, (f guild).id = guild.id) (hguids : ∀ guild, (f guild).guids = guild.guids)
    (hsound : ∀ guild : Guild, guild.Sound → (f guild).Sound) : (w.modifyGuild id f).Consistent := by
  have hmem : ∀ id', ∀ guild' ∈ (w.modifyGuild id f).guilds id',
      ∃ guild ∈ w.guilds id', guild' = guild ∨ guild' = f guild := by
    intro id' guild' hguild'
    rw [GuildWorld.modifyGuild, setGuild] at hguild'
    by_cases heq : id' = id
    · rw [heq, Option.mem_def] at hguild'
      dsimp only at hguild'
      rw [update_self] at hguild'
      obtain ⟨guild, hguild, hf⟩ := Option.map_eq_some_iff.mp hguild'
      exact ⟨guild, heq ▸ hguild, .inr hf.symm⟩
    · rw [Option.mem_def] at hguild'
      dsimp only at hguild'
      rw [update_of_ne heq] at hguild'
      exact ⟨guild', hguild', .inl rfl⟩
  have hlists : ∀ id' g, (w.modifyGuild id f).Lists id' g ↔ w.Lists id' g := by
    intro id' g
    constructor
    · rintro ⟨guild', hguild', hg⟩
      obtain ⟨guild, hguild, rfl | rfl⟩ := hmem id' guild' hguild'
      · exact ⟨guild', hguild, hg⟩
      · exact ⟨guild, hguild, hguids guild ▸ hg⟩
    · rintro ⟨guild, hguild, hg⟩
      by_cases heq : id' = id
      · refine ⟨f guild, ?_, (hguids guild).symm ▸ hg⟩
        show f guild ∈ update w.guilds id _ id'
        rw [heq] at hguild ⊢
        rw [update_self]
        exact Option.mem_map.mpr ⟨guild, hguild, rfl⟩
      · refine ⟨guild, ?_, hg⟩
        show guild ∈ update w.guilds id _ id'
        rw [update_of_ne heq]
        exact hguild
  constructor
  · intro id' guild' hguild'
    obtain ⟨guild, hguild, heq⟩ := hmem id' guild' hguild'
    obtain ⟨hgood, hguildId, hbounds⟩ := h.guild id' guild hguild
    rcases heq with heq | heq
    · rw [heq]
      exact ⟨hgood, hguildId, hbounds⟩
    · rw [heq]
      exact ⟨hsound guild hgood, (hid guild).trans hguildId, hbounds⟩
  · intro g row hrow
    rw [hlists]
    exact h.row g row hrow
  · intro id' g hmem'
    rw [hlists] at hmem'
    exact h.listed id' g hmem'
  · exact h.player
  · exact h.next

theorem Consistent.changeRank (h : w.Consistent) (guid newRank : Nat) : (w.changeRank guid newRank).Consistent := by
  have hrows : ∀ g, ∀ row ∈ update w.rows guid
      ((w.rows guid).map fun row => { row with rank := newRank }) g,
      ∃ old ∈ w.rows g, old.guildId = row.guildId := by
    intro g row hrow
    by_cases hg : g = guid
    · rw [hg, update_self] at hrow
      obtain ⟨old, hold, heq⟩ := Option.mem_map.mp hrow
      exact ⟨old, hg ▸ hold, by rw [← heq]⟩
    · rw [update_of_ne hg] at hrow
      exact ⟨row, hrow, rfl⟩
  have hdb : ∀ g, (w.setRow guid ((w.rows guid).map fun row =>
      { row with rank := newRank })).getGuildIdFromDB g = w.getGuildIdFromDB g := by
    intro g
    rw [getGuildIdFromDB, getGuildIdFromDB, setRow]
    by_cases hg : g = guid
    · dsimp only
      rw [hg, update_self]
      cases w.rows guid <;> rfl
    · dsimp only
      rw [update_of_ne hg]
  have hset : (w.setRow guid ((w.rows guid).map fun row => { row with rank := newRank })).Consistent := by
    constructor
    · exact h.guild
    · intro g row hrow
      obtain ⟨old, hold, heq⟩ := hrows g row hrow
      rw [← heq]
      exact h.row g old hold
    · intro id g hmem
      obtain ⟨old, hold, heq⟩ := h.listed id g hmem
      show ∃ row ∈ update w.rows guid _ g, row.guildId = id
      by_cases hg : g = guid
      · rw [hg] at hold ⊢
        rw [update_self]
        exact ⟨_, Option.mem_map_of_mem _ hold, heq⟩
      · rw [update_of_ne hg]
        exact ⟨old, hold, heq⟩
    · intro g player hplayer
      rw [hdb]
      exact h.player g player hplayer
    · exact h.next
  exact hset.withPlayer guid fun _ _ => rfl

private def erased (w : GuildWorld) (guild : Guild) (guid : Nat) (isDisbanding : Bool) : GuildWorld :=
  ((w.setGuild guild.id (some (guild.delMember guid isDisbanding).1)).setRow guid none).withPlayer
    guid fun player => { player with guildId := 0, rank := 0 }

theorem Consistent.erased (h : w.Consistent) {guild : Guild} {guid : Nat} {isDisbanding : Bool}
    (hguild : w.guilds guild.id = some guild) (hheir : guild.lacksHeir guid isDisbanding = false)
    (hmem : guid ∈ guild.guids) (hthere : ¬ w.BetweenMaps guid) : (w.erased guild guid isDisbanding).Consistent := by
  obtain ⟨hsound, -, hid, hnext⟩ := h.guild guild.id guild hguild
  have hleft := Guild.mem_guids_delMember hsound hheir
  have hgid := Guild.delMember_id hheir
  rw [GuildWorld.erased, ← hgid]
  rw [← hgid] at hid hnext hguild
  apply h.reassign (hsound.delMember hheir) hid hnext
  · intro id hlists
    have hrow := (h.lists_iff (h.id_ne_zero hlists) guid).mp hlists
    rw [← hrow]
    exact (h.lists_iff hid guid).mp ((mem_guids_iff_lists hguild guid).mp hmem)
  · intro g hg
    rw [hleft, and_iff_right hg]
    exact mem_guids_iff_lists hguild g
  · exact iff_of_false (fun hself => ((hleft guid).mp hself).1 rfl) Bool.false_ne_true
  · exact fun _ hr => nomatch hr
  · exact fun _ => rfl
  · exact hthere

theorem lists_erased {guild : Guild} {guid : Nat} {isDisbanding : Bool}
    (hsound : guild.Sound) (hheir : guild.lacksHeir guid isDisbanding = false) (g : Nat) :
    (w.erased guild guid isDisbanding).Lists guild.id g ↔ g ≠ guid ∧ g ∈ guild.guids := by
  rw [Lists, erased, withPlayer_guilds, ← Guild.mem_guids_delMember hsound hheir]
  apply (lists_setGuild guild.id _ guild.id g).trans
  rw [if_pos rfl]

theorem betweenMaps_erased (guild : Guild) (guid : Nat) (isDisbanding : Bool) (g : Nat) :
    (w.erased guild guid isDisbanding).BetweenMaps g ↔ w.BetweenMaps g :=
  betweenMaps_withPlayer guid (by exact fun _ => rfl) g

theorem disbandMember_eq {guild : Guild} (hguild : w.guilds guild.id = some guild) (guid : Nat) :
    disbandMember guild.id w guid = w.erased guild guid true := by
  rw [disbandMember, hguild]
  dsimp only
  rw [delMember, if_neg (by simp)]
  rfl

theorem Consistent.foldl_disbandMember {id : Nat} (guids : List Nat) :
    ∀ {w : GuildWorld}, w.Consistent → guids.Nodup → (∀ g ∈ guids, w.Lists id g ∧ ¬ w.BetweenMaps g) →
      (guids.foldl (disbandMember id) w).Consistent ∧
        ∀ g, (guids.foldl (disbandMember id) w).Lists id g → g ∉ guids ∧ w.Lists id g := by
  induction guids with
  | nil => exact fun h _ _ => ⟨h, fun g hg => ⟨List.not_mem_nil, hg⟩⟩
  | cons guid guids ih =>
    intro w h hnodup hall
    obtain ⟨hnotin, hnodup⟩ := List.nodup_cons.mp hnodup
    obtain ⟨⟨guild, hguild, hmem⟩, hthere⟩ := hall guid List.mem_cons_self
    obtain ⟨hsound, rfl, -⟩ := h.guild id guild hguild
    have hlacks : guild.lacksHeir guid true = false := by simp [Guild.lacksHeir]
    have hlists := @lists_erased w guild guid true hsound hlacks
    rw [List.foldl_cons, disbandMember_eq hguild]
    have herased : (w.erased guild guid true).Consistent :=
      h.erased hguild (by simp [Guild.lacksHeir]) hmem hthere
    obtain ⟨hkept, hleft⟩ := ih herased hnodup (fun g hg => by
      have hne : g ≠ guid := fun heq => hnotin (heq ▸ hg)
      obtain ⟨hlisted, hthere'⟩ := hall g (List.mem_cons_of_mem guid hg)
      rw [hlists, betweenMaps_erased]
      exact ⟨⟨hne, (mem_guids_iff_lists hguild g).mpr hlisted⟩, hthere'⟩)
    refine ⟨hkept, fun g hg => ?_⟩
    obtain ⟨hnot, hlisted⟩ := hleft g hg
    rw [hlists] at hlisted
    constructor
    · rw [List.mem_cons, not_or]
      exact ⟨hlisted.1, hnot⟩
    · exact (mem_guids_iff_lists hguild g).mp hlisted.2

theorem Consistent.dropGuild (h : w.Consistent) {id : Nat} (hnobody : ∀ g, ¬ w.Lists id g) :
    (w.setGuild id none).Consistent := by
  have hguilds : ∀ id', ∀ guild ∈ (w.setGuild id none).guilds id', guild ∈ w.guilds id' := by
    intro id' guild hguild
    rw [setGuild] at hguild
    dsimp only at hguild
    by_cases heq : id' = id
    · rw [heq, update_self] at hguild
      exact nomatch hguild
    · rw [update_of_ne heq] at hguild
      exact hguild
  have hlists : ∀ id' g, w.Lists id' g → (w.setGuild id none).Lists id' g := by
    rintro id' g ⟨guild, hguild, hmem⟩
    refine ⟨guild, ?_, hmem⟩
    show guild ∈ update w.guilds id none id'
    have hne : id' ≠ id := by
      intro heq
      exact hnobody g ⟨guild, heq ▸ hguild, hmem⟩
    rw [update_of_ne hne]
    exact hguild
  constructor
  · exact fun id' guild hguild => h.guild id' guild (hguilds id' guild hguild)
  · exact fun g row hrow => hlists _ g (h.row g row hrow)
  · rintro id' g ⟨guild, hguild, hmem⟩
    exact h.listed id' g ⟨guild, hguilds id' guild hguild, hmem⟩
  · exact h.player
  · exact h.next

theorem Consistent.disband (h : w.Consistent) {guild : Guild}
    (hguild : w.guilds guild.id = some guild) (hthere : ∀ g ∈ guild.guids, ¬ w.BetweenMaps g) :
    (w.disband guild).Consistent := by
  obtain ⟨hsound, -⟩ := h.guild guild.id guild hguild
  obtain ⟨hkept, hleft⟩ := Consistent.foldl_disbandMember guild.guids h hsound.nodup
    fun g hg => ⟨(mem_guids_iff_lists hguild g).mp hg, hthere g hg⟩
  apply hkept.dropGuild
  intro g hlisted
  obtain ⟨hnot, hbefore⟩ := hleft g hlisted
  exact hnot ((mem_guids_iff_lists hguild g).mpr hbefore)

theorem changeRank_guilds (guid newRank : Nat) : (w.changeRank guid newRank).guilds = w.guilds :=
  withPlayer_guilds _ _

theorem betweenMaps_changeRank (guid newRank g : Nat) : (w.changeRank guid newRank).BetweenMaps g ↔ w.BetweenMaps g :=
  betweenMaps_withPlayer guid (by exact fun _ => rfl) g

theorem delMember_cases (guild : Guild) (guid : Nat) :
    (w.delMember guild guid false = (w, true) ∧ ∀ p ∈ guild.members, p.1 = guid) ∨
    (guild.lacksHeir guid false = false ∧ ∃ w' : GuildWorld, (w' = w ∨ ∃ heir, w' = w.changeRank heir grGuildmaster) ∧
      w.delMember guild guid false = (w'.erased guild guid false, (guild.delMember guid false).2)) := by
  rw [delMember]
  by_cases hleader : (decide (guild.leaderGuid = guid) && !false) = true
  · rw [if_pos hleader]
    cases hbest : Guild.bestOther guid guild.members with
    | none => exact .inl ⟨rfl, Guild.eq_of_bestOther_eq_none hbest⟩
    | some best =>
      refine .inr ⟨?_, _, .inr ⟨best.1, rfl⟩, rfl⟩
      rw [Guild.lacksHeir, hbest, Option.isNone_some, Bool.and_false]
  · rw [if_neg hleader]
    refine .inr ⟨?_, w, .inl rfl, rfl⟩
    rw [Guild.lacksHeir, Bool.eq_false_iff.mpr hleader, Bool.false_and]

theorem Consistent.removeMember (h : w.Consistent) {guild : Guild} {guid : Nat}
    (hguild : w.guilds guild.id = some guild) (hmem : guid ∈ guild.guids)
    (hthere : ¬ w.BetweenMaps guid) : (w.removeMember guild guid).Consistent := by
  rw [GuildWorld.removeMember]
  rcases delMember_cases guild guid with ⟨hnothing, halone⟩ | ⟨hheir, w', hw', herase⟩
  · rw [hnothing]
    dsimp only
    rw [hguild]
    apply h.disband hguild
    intro g hg
    obtain ⟨p, hp, hpg⟩ := List.mem_map.mp hg
    rw [← hpg, halone p hp]
    exact hthere
  · obtain ⟨h', hguild', hthere'⟩ : w'.Consistent ∧ w'.guilds guild.id = some guild ∧ ¬ w'.BetweenMaps guid := by
      rcases hw' with hw' | ⟨heir, hw'⟩
      · rw [hw']
        exact ⟨h, hguild, hthere⟩
      · rw [hw', changeRank_guilds, betweenMaps_changeRank]
        exact ⟨h.changeRank heir grGuildmaster, hguild, hthere⟩
    have herased := h'.erased hguild' hheir hmem hthere'
    rw [herase]
    cases hempty : (guild.delMember guid false).2 with
    | false => exact herased
    | true =>
      have hleft : (w'.erased guild guid false).guilds guild.id = some (guild.delMember guid false).1 := by
        rw [GuildWorld.erased, withPlayer_guilds]
        exact update_self ..
      have hnobody := Guild.guids_of_delMember_empty hheir hempty
      dsimp only
      rw [hleft]
      apply herased.disband
      · rw [Guild.delMember_id hheir, hleft]
      · rw [hnobody]
        exact fun g hg => nomatch hg

theorem betweenMaps_addMember (settings : GuildSettings) (order : Shuffle (Nat × Guild.MemberSlot))
    (guild : Guild) (guid rankId g : Nat) :
    (w.addMember settings order guild guid rankId).1.BetweenMaps g ↔ w.BetweenMaps g := by
  rw [addMember]
  split
  · rfl
  · dsimp only
    rw [betweenMaps_withPlayer guid (by exact fun _ => rfl), insertRow]
    split <;> rfl

theorem rows_addMember (settings : GuildSettings) (order : Shuffle (Nat × Guild.MemberSlot))
    (guild : Guild) (guid rankId g : Nat) :
    (w.addMember settings order guild guid rankId).1.rows g = w.rows g ∨ w.rows g = none := by
  rw [addMember]
  split
  · exact .inl rfl
  · dsimp only
    rw [withPlayer_rows, insertRow]
    split
    · exact .inl rfl
    next hnone =>
      rw [Bool.not_eq_true, Option.isSome_eq_false_iff, Option.isNone_iff_eq_none] at hnone
      by_cases hg : g = guid
      · exact .inr (hg ▸ hnone)
      · exact .inl (update_of_ne hg _ _)

theorem mayJoin_of_betweenMaps {settings : GuildSettings} {g : Nat} (hg : w.BetweenMaps g) :
    w.mayJoin settings g = (decide (w.getGuildIdFromDB g = 0) && settings.characterIsSane g) := by
  have hfind : w.findPlayer g = none := by
    cases hfind : w.findPlayer g with
    | none => rfl
    | some player => exact absurd hg (not_betweenMaps_of_findPlayer hfind)
  rw [mayJoin, hfind]

theorem mayJoin_of_addMember {settings : GuildSettings} {order : Shuffle (Nat × Guild.MemberSlot)}
    {guild : Guild} {guid rankId g : Nat} (hg : w.BetweenMaps g)
    (h : (w.addMember settings order guild guid rankId).1.mayJoin settings g) : w.mayJoin settings g := by
  have hg' := (betweenMaps_addMember settings order guild guid rankId g).mpr hg
  rw [mayJoin_of_betweenMaps hg'] at h
  rw [mayJoin_of_betweenMaps hg]
  rw [Bool.and_eq_true, decide_eq_true_eq] at h ⊢
  refine ⟨?_, h.2⟩
  rcases rows_addMember settings order guild guid rankId g with hrow | hrow
  · rw [← h.1, getGuildIdFromDB, getGuildIdFromDB, hrow]
  · exact getGuildIdFromDB_of_none hrow

theorem Consistent.rows_filter (h : w.Consistent) :
    (fun guid => (w.rows guid).filter fun row => row.guildId ≠ w.nextGuildId) = w.rows := by
  funext guid
  cases hrow : w.rows guid with
  | none => rfl
  | some row =>
    obtain ⟨guild, hguild, -⟩ := h.row guid row hrow
    rw [Option.filter_some, if_pos]
    exact decide_eq_true (h.guild _ guild hguild).2.2.2.ne

theorem Consistent.create (h : w.Consistent) (settings : GuildSettings) (names : Fin 5 → String)
    (order : Shuffle (Nat × Guild.MemberSlot)) {leader : Nat} (hthere : ¬ w.BetweenMaps leader) :
    (w.create settings names order leader).1.Consistent := by
  have hnext : { w with nextGuildId := w.nextGuildId + 1 }.Consistent :=
    ⟨fun id guild hguild => by
      obtain ⟨hsound, hid, hpos, hlt⟩ := h.guild id guild hguild
      exact ⟨hsound, hid, hpos, Nat.lt_succ_of_lt hlt⟩, h.row, h.listed, h.player, Nat.succ_ne_zero _⟩
  rw [GuildWorld.create, h.rows_filter]
  apply hnext.addMember settings order
  · exact ⟨List.nodup_nil, fun p hp => nomatch hp⟩
  · exact h.next
  · exact Nat.lt_succ_self _
  · intro g
    apply iff_of_false List.not_mem_nil
    rintro ⟨guild, hguild, -⟩
    exact (h.guild _ guild hguild).2.2.2.ne rfl
  · exact fun _ => hthere

theorem Consistent.foldl_addSigner (settings : GuildSettings)
    (order : Shuffle (Nat × Guild.MemberSlot)) (id : Nat) (signers : List Nat) :
    ∀ {w : GuildWorld}, w.Consistent → (∀ g ∈ signers, g ≠ 0 → w.mayJoin settings g → ¬ w.BetweenMaps g) →
      (signers.foldl (addSigner settings order id) w).Consistent := by
  induction signers with
  | nil => exact fun h _ => h
  | cons signer signers ih =>
    intro w h hthere
    rw [List.foldl_cons, addSigner]
    have hrest : ∀ g ∈ signers, g ≠ 0 → w.mayJoin settings g → ¬ w.BetweenMaps g :=
      fun g hg => hthere g (List.mem_cons_of_mem signer hg)
    split
    · exact ih h hrest
    next hsigner =>
      cases hguild : w.guilds id with
      | none => exact ih h hrest
      | some guild =>
        obtain ⟨hsound, hid, hpos, hnext⟩ := h.guild id guild hguild
        apply ih
        · rw [← hid] at hpos hnext hguild
          exact h.addMember settings order hsound hpos hnext (mem_guids_iff_lists hguild) signer _
            (hthere signer List.mem_cons_self hsigner)
        · intro g hg hne hjoins hbetween
          rw [betweenMaps_addMember] at hbetween
          exact hrest g hg hne (mayJoin_of_addMember hbetween hjoins) hbetween

theorem Consistent.turnInPetition (h : w.Consistent) (settings : GuildSettings)
    (names : Fin 5 → String) (order : Shuffle (Nat × Guild.MemberSlot)) {owner : Nat}
    {signers : List Nat} (hthere : (∃ player ∈ w.findPlayer owner, player.guildId = 0) →
      ∀ g ∈ signers, g ≠ 0 → w.mayJoin settings g → ¬ w.BetweenMaps g) :
    (w.turnInPetition settings names order owner signers).Consistent := by
  rw [GuildWorld.turnInPetition]
  split
  · exact h
  next player hplayer =>
    split
    · exact h
    next hfree =>
      have hcreated := h.create settings names order (not_betweenMaps_of_findPlayer hplayer)
      have hsigners := hthere ⟨player, hplayer, not_not.mp hfree⟩
      split
      next w' hcreate =>
        rw [hcreate] at hcreated
        exact hcreated
      next w' hcreate =>
        have hw' : (w.create settings names order owner).1 = w' := by rw [hcreate]
        rw [hw'] at hcreated
        apply hcreated.foldl_addSigner
        intro g hg hne hjoins hbetween
        rw [← hw', GuildWorld.create, h.rows_filter] at hjoins hbetween
        rw [betweenMaps_addMember] at hbetween
        exact hsigners g hg hne
          (mayJoin_of_addMember (w := { w with nextGuildId := w.nextGuildId + 1 }) hbetween hjoins)
          hbetween

/-- Only those who have no guild decline an invitation, and whoever is added to a guild or deleted from
it is not between two maps. -/
def Orderly (settings : GuildSettings) (w : GuildWorld) : MembershipEvent → Prop
  | .decline invoker => ∀ player ∈ w.findPlayer invoker, player.guildId = 0
  | .turnInPetition _ _ owner signers => (∃ player ∈ w.findPlayer owner, player.guildId = 0) →
      ∀ g ∈ signers, g ≠ 0 → w.mayJoin settings g → ¬ w.BetweenMaps g
  | .remove invoker target => ∀ p ∈ w.toRemove settings invoker target, ¬ w.BetweenMaps p.2.guid
  | .disband invoker => ∀ guild ∈ w.toDisband settings invoker, ∀ g ∈ guild.guids, ¬ w.BetweenMaps g
  | _ => True

instance (settings : GuildSettings) (w : GuildWorld) : ∀ e, Decidable (w.Orderly settings e)
  | .decline invoker => inferInstanceAs (Decidable (∀ player ∈ w.findPlayer invoker, _))
  | .turnInPetition _ _ owner signers =>
    inferInstanceAs (Decidable ((∃ player ∈ w.findPlayer owner, _) → ∀ g ∈ signers, _))
  | .remove invoker target => inferInstanceAs (Decidable (∀ p ∈ w.toRemove settings invoker target, _))
  | .disband invoker =>
    inferInstanceAs (Decidable (∀ guild ∈ w.toDisband settings invoker, ∀ g ∈ guild.guids, _))
  | .login _ | .logout _ | .farTeleport _ | .worldportAck _ | .invite .. | .accept .. | .leave _ |
    .changeRank .. | .setLeader .. | .reform .. => .isTrue trivial

theorem Consistent.setPlayer (h : w.Consistent) (guid : Nat) {player : Option GuildPlayer}
    (hplayer : ∀ p ∈ player, p.guildId = w.getGuildIdFromDB guid) : (w.setPlayer guid player).Consistent := by
  refine ⟨h.guild, h.row, h.listed, fun g p hp => ?_, h.next⟩
  rw [GuildWorld.setPlayer] at hp
  dsimp only at hp
  by_cases hg : g = guid
  · rw [hg, update_self] at hp
    rw [hg]
    exact hplayer p hp
  · rw [update_of_ne hg] at hp
    exact h.player g p hp

theorem Consistent.login (h : w.Consistent) (guid : Nat) : (w.login guid).Consistent := by
  rw [GuildWorld.login]
  split
  · exact h
  · apply h.setPlayer
    intro p hp
    cases hp
    cases hrow : w.rows guid with
    | none => exact (getGuildIdFromDB_of_none hrow).symm
    | some row =>
      obtain ⟨guild, hguild, -⟩ := h.row guid row hrow
      have hthere : (w.guilds row.guildId).isSome = true := by
        rw [Option.mem_def.mp hguild]
        rfl
      dsimp only
      rw [if_pos hthere]
      exact (getGuildIdFromDB_of_mem hrow).symm

theorem Consistent.setInWorld (h : w.Consistent) (guid : Nat) (inWorld : Bool) :
    (w.setInWorld guid inWorld).Consistent := by
  apply h.setPlayer
  intro p hp
  obtain ⟨old, hold, heq⟩ := Option.mem_map.mp hp
  rw [← heq]
  exact h.player guid old hold

theorem Consistent.invite (h : w.Consistent) (settings : GuildSettings) (invoker target : Nat) :
    (w.invite settings invoker target).Consistent := by
  rw [GuildWorld.invite]
  split
  next player invited hplayer hinvited =>
    split
    · exact h
    · split
      · exact h
      split
      · exact h
      split
      · exact h
      split
      · exact h
      split
      · exact h
      · exact h.withPlayer target fun _ _ => rfl
  next => exact h

theorem Consistent.accept (h : w.Consistent) (settings : GuildSettings)
    (order : Shuffle (Nat × Guild.MemberSlot)) (invoker : Nat) : (w.accept settings order invoker).Consistent := by
  rw [GuildWorld.accept]
  split
  · exact h
  next player hplayer =>
    split
    · exact h
    next guild hguild =>
      obtain ⟨hsound, hid, hpos, hnext⟩ := h.guild _ guild hguild
      rw [← hid] at hpos hnext hguild
      split
      · exact h
      split
      · exact h
      · exact h.addMember settings order hsound hpos hnext (mem_guids_iff_lists hguild) invoker _
          fun _ => not_betweenMaps_of_findPlayer hplayer

theorem Consistent.acting (h : w.Consistent) {invoker : Nat} {player : GuildPlayer} {guild : Guild}
    (hplayer : w.findPlayer invoker = some player) (hguild : w.guilds player.guildId = some guild) :
    w.guilds guild.id = some guild ∧ guild.Sound ∧ invoker ∈ guild.guids := by
  obtain ⟨hsound, hid, hpos, -⟩ := h.guild _ guild hguild
  have hmem : invoker ∈ guild.guids := by
    rw [mem_guids_iff_lists hguild, h.lists_iff hpos]
    exact (h.player invoker player (findPlayer_eq_some.mp hplayer).1).symm
  rw [hid]
  exact ⟨hguild, hsound, hmem⟩

theorem Consistent.leave (h : w.Consistent) (settings : GuildSettings) (invoker : Nat) :
    (w.leave settings invoker).Consistent := by
  rw [GuildWorld.leave]
  split
  · exact h
  next player hplayer =>
    split
    · exact h
    next guild hguild =>
      obtain ⟨hlisted, hsound, hmem⟩ := h.acting hplayer hguild
      have hthere := not_betweenMaps_of_findPlayer hplayer
      split
      · exact h
      next hfew =>
        split
        · exact h
        split
        next hleader =>
          -- A leader leaves only as the last member.
          have hlength : guild.guids.length ≤ 1 := by
            rw [Bool.and_eq_true, decide_eq_true_eq, decide_eq_true_eq, not_and] at hfew
            rw [Guild.guids, List.length_map]
            exact not_lt.mp (hfew hleader)
          apply h.disband hlisted
          intro g hg
          have hsame : g = invoker := by
            obtain ⟨i, hi, hgi⟩ := List.getElem_of_mem hg
            obtain ⟨k, hk, hik⟩ := List.getElem_of_mem hmem
            have hindex : i = k := by omega
            subst hindex
            exact hgi.symm.trans hik
          rw [hsame]
          exact hthere
        · exact h.removeMember hlisted hmem hthere

theorem toRemove_eq_some {settings : GuildSettings} {invoker target : Nat}
    {p : Guild × Guild.MemberSlot} (h : w.toRemove settings invoker target = some p) :
    ∃ player, w.findPlayer invoker = some player ∧ w.guilds player.guildId = some p.1 ∧
      p.1.getMemberSlot target = some p.2 := by
  rw [toRemove] at h
  split at h
  · cases h
  next player hplayer =>
    split at h
    · cases h
    next guild hguild =>
      split at h
      · cases h
      split at h
      · cases h
      next slot hslot =>
        split at h
        · cases h
        split at h
        · cases h
        split at h
        · cases h
        · cases h
          exact ⟨player, hplayer, hguild, hslot⟩

theorem toDisband_eq_some {settings : GuildSettings} {invoker : Nat} {guild : Guild}
    (h : w.toDisband settings invoker = some guild) :
    ∃ player, w.findPlayer invoker = some player ∧ w.guilds player.guildId = some guild := by
  rw [toDisband] at h
  split at h
  · cases h
  next player hplayer =>
    split at h
    · cases h
    next guild' hguild =>
      split at h
      · cases h
      split at h
      · cases h
      · cases h
        exact ⟨player, hplayer, hguild⟩

theorem Consistent.remove (h : w.Consistent) (settings : GuildSettings) {invoker target : Nat}
    (hthere : ∀ p ∈ w.toRemove settings invoker target, ¬ w.BetweenMaps p.2.guid) :
    (w.remove settings invoker target).Consistent := by
  rw [GuildWorld.remove]
  cases hremove : w.toRemove settings invoker target with
  | none => exact h
  | some p =>
    obtain ⟨player, hplayer, hguild, hslot⟩ := toRemove_eq_some hremove
    obtain ⟨hlisted, hsound, -⟩ := h.acting hplayer hguild
    apply h.removeMember hlisted
    · rw [hsound.guid _ (lookupKey_mem hslot)]
      exact Guild.mem_guids_of_getMemberSlot hslot
    · exact hthere p hremove

theorem Consistent.handleDisband (h : w.Consistent) (settings : GuildSettings) {invoker : Nat}
    (hthere : ∀ guild ∈ w.toDisband settings invoker, ∀ g ∈ guild.guids, ¬ w.BetweenMaps g) :
    (w.handleDisband settings invoker).Consistent := by
  rw [GuildWorld.handleDisband]
  cases hdisband : w.toDisband settings invoker with
  | none => exact h
  | some guild =>
    obtain ⟨player, hplayer, hguild⟩ := toDisband_eq_some hdisband
    obtain ⟨hlisted, -⟩ := h.acting hplayer hguild
    exact h.disband hlisted (hthere guild hdisband)

theorem Consistent.step (h : w.Consistent) (settings : GuildSettings) {e : MembershipEvent}
    (hok : w.Orderly settings e) : (membershipStep settings w e).Consistent := by
  cases e with
  | login guid => exact h.login guid
  | logout guid => exact h.setPlayer guid fun _ hp => nomatch hp
  | farTeleport guid => exact h.setInWorld guid false
  | worldportAck guid => exact h.setInWorld guid true
  | turnInPetition names order owner signers => exact h.turnInPetition settings names order hok
  | invite invoker target => exact h.invite settings invoker target
  | accept order invoker => exact h.accept settings order invoker
  | decline invoker =>
    rw [membershipStep, GuildWorld.decline]
    cases hfind : w.findPlayer invoker with
    | none =>
      rw [GuildWorld.withPlayer, hfind]
      exact h
    | some player =>
      apply h.withPlayer
      intro old hold
      rw [Option.mem_def, (findPlayer_eq_some.mp hfind).1] at hold
      cases hold
      exact (hok player hfind).symm
  | leave invoker => exact h.leave settings invoker
  | remove invoker target => exact h.remove settings hok
  | disband invoker => exact h.handleDisband settings hok
  | changeRank id target newRank =>
    rw [membershipStep, changeMemberRank]
    split
    · exact h
    split
    · exact h
    · apply Consistent.changeRank
      exact h.modifyGuild id (fun _ => rfl) (fun _ => Guild.guids_changeRank _ _)
        fun _ hsound => hsound.changeRank _ _
  | setLeader id target =>
    rw [membershipStep, GuildWorld.setLeader]
    split
    · exact h
    split
    · exact h
    · apply Consistent.changeRank
      exact h.modifyGuild id (fun _ => Guild.setLeader_id _) (fun _ => Guild.guids_setLeader _)
        fun _ hsound => hsound.setLeader _
  | reform id level ranks =>
    exact h.modifyGuild id (fun _ => rfl) (fun _ => rfl) fun _ hsound => ⟨hsound.nodup, hsound.guid⟩

end GuildWorld

/-- If only those without a guild decline, and nobody is added to or deleted from a guild between two maps, guilds and
online players tell the same. -/
theorem membership_bothSides (settings : GuildSettings) (es : List MembershipEvent)
    (hok : Guarded (membershipStep settings) (GuildWorld.Orderly settings) .start es) :
    (run (membershipStep settings) .start es).MembersAgree := by
  have hrun : (run (membershipStep settings) .start es).Consistent := by
    apply run_invariant _ hok
    · exact GuildWorld.consistent_start
    · exact fun w e horderly h => h.step settings horderly
  exact hrun.membersAgree

def GuildSettings.sameTeam : GuildSettings where
  undeletableLevel := 4
  allowTwoSideInteraction := false
  team _ := 0
  hasIgnore _ _ := false
  characterIsSane _ := true

/-- Two charters are turned in, and the second owner's friend joins the first guild. -/
private def twoGuilds : List MembershipEvent :=
  [.login 1, .login 2, .login 3, .turnInPetition (fun _ => "") (.id _) 1 [],
    .turnInPetition (fun _ => "") (.id _) 2 [], .invite 1 3, .accept (.id _) 3]

theorem membership_bothSides_leave :
    (run (membershipStep .sameTeam) .start (twoGuilds ++ [.leave 3, .invite 2 3, .decline 3,
      .disband 2])).MembersAgree :=
  membership_bothSides .sameTeam _ (by decide +kernel)

/-- A member declines although nobody has invited him, and can join a second guild. -/
theorem membership_declined : ¬ ∀ (settings : GuildSettings) (es : List MembershipEvent),
      (run (membershipStep settings) .start es).MembersAgree := by
  intro h
  have hboth : (run (membershipStep .sameTeam) .start
      (twoGuilds ++ [.decline 3, .invite 2 3, .accept (.id _) 3])).Lists 1 3 ∧ (run (membershipStep .sameTeam) .start
        (twoGuilds ++ [.decline 3, .invite 2 3, .accept (.id _) 3])).Lists 2 3 := by
    decide +kernel
  exact absurd ((h _ _).once 3 1 2 hboth.1 hboth.2) (by decide)

end Mangos
