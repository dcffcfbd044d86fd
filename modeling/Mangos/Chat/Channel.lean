import Mangos.Framework.Words
import Mangos.Framework.OrdMap
import Mathlib.Data.Finset.Insert

/-!
# Chat channels

The members of a channel with their flags, its owner, and the players banned from it.
-/

namespace Mangos

open Framework Std

def secPlayer : Nat := 0
def secGamemaster : Nat := 2

/-- What a channel asks a `Player` and his session about. -/
structure ChannelUser where
  guid : Nat
  security : Nat := secPlayer
  team : Nat := 0
  guildId : Nat := 0
  guid_ne : guid ≠ 0

/-- The configuration that the channels read. -/
structure ChannelConfig where
  restrictedLfgChannel : Bool
  allowTwoSideInteractionChannel : Bool

/-- `Channel::PlayerInfo`. -/
structure MemberInfo where
  player : Nat := 0
  flags : BitVec 8 := 0
  deriving DecidableEq, Repr

namespace MemberInfo

def memberFlagOwner : BitVec 8 := 0x01
def memberFlagModerator : BitVec 8 := 0x02
def memberFlagMuted : BitVec 8 := 0x08

variable (info : MemberInfo)

def hasFlag (flag : BitVec 8) : Bool := info.flags &&& flag ≠ 0

def putFlag (flag : BitVec 8) (state : Bool) : MemberInfo :=
  { info with flags := if state then info.flags ||| flag else info.flags &&& ~~~flag }

def isOwner : Bool := info.hasFlag memberFlagOwner
def setOwner (state : Bool) : MemberInfo := info.putFlag memberFlagOwner state
def isModerator : Bool := info.hasFlag memberFlagModerator
def setModerator (state : Bool) : MemberInfo := info.putFlag memberFlagModerator state
def isMuted : Bool := info.hasFlag memberFlagMuted
def setMuted (state : Bool) : MemberInfo := info.putFlag memberFlagMuted state

@[simp] theorem putFlag_player (flag : BitVec 8) (state : Bool) : (info.putFlag flag state).player = info.player := rfl

theorem hasFlag_putFlag_of_disjoint {flag other : BitVec 8} (state : Bool)
    (h : flag &&& other = 0) : (info.putFlag flag state).hasFlag other = info.hasFlag other := by
  cases state with
  | true => simp [hasFlag, putFlag, or_and_of_disjoint h]
  | false => simp [hasFlag, putFlag, and_not_and_of_disjoint h]

theorem hasFlag_putFlag_self {flag : BitVec 8} (state : Bool) (h : flag ≠ 0) :
    (info.putFlag flag state).hasFlag flag = state := by
  cases state with
  | true =>
    have hset : (info.flags ||| flag) &&& flag ≠ 0 := by
      rw [BitVec.and_or_distrib_right, BitVec.and_self]
      exact fun hzero => h (BitVec.or_eq_zero_iff.mp hzero).2
    simpa [hasFlag, putFlag] using hset
  | false => simp [hasFlag, putFlag, BitVec.and_assoc]

@[simp] theorem isOwner_setOwner (state : Bool) : (info.setOwner state).isOwner = state :=
  info.hasFlag_putFlag_self state (by decide)

@[simp] theorem isOwner_setModerator (state : Bool) : (info.setModerator state).isOwner = info.isOwner :=
  info.hasFlag_putFlag_of_disjoint state (by decide)

@[simp] theorem isOwner_setMuted (state : Bool) : (info.setMuted state).isOwner = info.isOwner :=
  info.hasFlag_putFlag_of_disjoint state (by decide)

@[simp] theorem setOwner_player (state : Bool) : (info.setOwner state).player = info.player := rfl

@[simp] theorem setModerator_player (state : Bool) : (info.setModerator state).player = info.player := rfl

@[simp] theorem setMuted_player (state : Bool) : (info.setMuted state).player = info.player := rfl

end MemberInfo

structure Channel where
  announce : Bool := true
  moderate : Bool := false
  password : String := ""
  flags : BitVec 8 := 0
  channelId : Nat
  ownerGuid : Nat := 0
  players : ExtTreeMap Nat MemberInfo := ∅
  banned : Finset Nat := ∅

namespace Channel

def channelFlagCustom : BitVec 8 := 0x01
def channelFlagTrade : BitVec 8 := 0x04
def channelFlagNotLfg : BitVec 8 := 0x08
def channelFlagGeneral : BitVec 8 := 0x10
def channelFlagCity : BitVec 8 := 0x20
def channelFlagLfg : BitVec 8 := 0x40

def channelDbcFlagTrade : BitVec 32 := 0x00008
def channelDbcFlagCityOnly2 : BitVec 32 := 0x00020
def channelDbcFlagLfg : BitVec 32 := 0x40000

/-- The constructor; `ch` has the flags of the entry that `GetChannelEntryFor` found. -/
def new (channelId : Nat) (ch : Option (BitVec 32)) : Channel :=
  match ch with
  | some dbc =>
    { announce := false
      flags := channelFlagGeneral
        ||| (if dbc &&& channelDbcFlagTrade ≠ 0 then channelFlagTrade else 0)
        ||| (if dbc &&& channelDbcFlagCityOnly2 ≠ 0 then channelFlagCity else 0)
        ||| (if dbc &&& channelDbcFlagLfg ≠ 0 then channelFlagLfg else channelFlagNotLfg)
      channelId }
  | none => { flags := channelFlagCustom, channelId }

variable (c : Channel)

def isConstant : Bool := c.channelId ≠ 0

def hasFlag (flag : BitVec 8) : Bool := c.flags &&& flag ≠ 0

def isOn (who : Nat) : Bool := who ∈ c.players

def isBanned (guid : Nat) : Bool := guid ∈ c.banned

/-- A change through `m_players[guid]`. -/
def index (guid : Nat) (change : MemberInfo → MemberInfo := id) : Channel :=
  { c with players := upsert c.players guid {} change }

/-- The record that `m_players[guid]` reads. -/
def member (guid : Nat) : MemberInfo := c.players[guid]?.getD {}

/-- The start of `Channel::SetOwner(ObjectGuid)`: the old owner loses his flag if he is found. -/
def dropOwner : Channel :=
  if c.ownerGuid = 0 then c
  else { c with players := c.players.modify c.ownerGuid (·.setOwner false) }

/-- `Channel::SetOwner(ObjectGuid)`. -/
def setOwner (guid : Nat) : Channel :=
  let c := { c.dropOwner with ownerGuid := guid }
  if guid = 0 then c else c.index guid (·.setOwner true)

/-- `Channel::SetModerator(ObjectGuid, bool)`. -/
def setModerator (guid : Nat) (set : Bool) : Channel :=
  let c := c.index guid
  if (c.member guid).isModerator = set then c else c.index guid (·.setModerator set)

/-- `Channel::SetMute(ObjectGuid, bool)`. -/
def setMute (guid : Nat) (set : Bool) : Channel :=
  let c := c.index guid
  if (c.member guid).isMuted = set then c else c.index guid (·.setMuted set)

/-- `!m_players[guid].IsModerator() && GetSecurity() < SEC_GAMEMASTER`. -/
def notModerator (player : ChannelUser) : Bool :=
  !(c.member player.guid).isModerator && player.security < secGamemaster

/-- A player who passed the checks of `Channel::Join` gets his record. -/
def enter (guid : Nat) : Channel := c.index guid fun _ => { player := guid, flags := 0 }

def join (cfg : ChannelConfig) (player : ChannelUser) (password : String) : Channel :=
  if c.isOn player.guid then c
  else if c.isBanned player.guid then c
  else if 0 < c.password.length ∧ password ≠ c.password then c
  else if c.hasFlag channelFlagLfg ∧ cfg.restrictedLfgChannel ∧ player.security = secPlayer then c
  else if player.guildId ≠ 0 ∧ c.flags = 0x38 then c
  else
    let c := c.enter player.guid
    if !c.isConstant ∧ c.ownerGuid = 0 then
      (c.setOwner player.guid).index player.guid (·.setModerator true)
    else c

def leave (player : ChannelUser) : Channel :=
  if !c.isOn player.guid then c
  else
    let changeowner := (c.member player.guid).isOwner
    let c := { c with players := (c.index player.guid).players.erase player.guid }
    if changeowner then
      match first? c.players with
      | some p => c.setOwner p.2.player
      | none => c.setOwner 0
    else c

def expel (targetGuid : Nat) (ban : Bool) : Channel :=
  { c with
    banned := if ban ∧ !c.isBanned targetGuid then insert targetGuid c.banned else c.banned
    players := c.players.erase targetGuid }

/-- The end of `Channel::KickOrBan`, after its checks. -/
def throwOut (player target : ChannelUser) (ban : Bool) : Channel :=
  let changeowner := c.ownerGuid = target.guid
  let c := c.expel target.guid ban
  if changeowner then c.setOwner (if c.players.isEmpty then 0 else player.guid) else c

/-- `Channel::KickOrBan`; `target` is the player that the name leads to. -/
def kickOrBan (player : ChannelUser) (target : Option ChannelUser) (ban : Bool) : Channel :=
  if !c.isOn player.guid then c
  else
    let c := c.index player.guid
    if c.notModerator player then c
    else
      match target with
      | none => c
      | some target =>
        if !c.isOn target.guid then c
        else if player.security < secGamemaster ∧ c.ownerGuid = target.guid ∧ player.guid ≠ c.ownerGuid then c
        else c.throwOut player target ban

def unBan (player : ChannelUser) (target : Option ChannelUser) : Channel :=
  if !c.isOn player.guid then c
  else
    let c := c.index player.guid
    if c.notModerator player then c
    else
      match target with
      | none => c
      | some target =>
        if !c.isBanned target.guid then c
        else { c with banned := c.banned.erase target.guid }

/-- `Channel::Password`. -/
def setPassword (player : ChannelUser) (password : String) : Channel :=
  if !c.isOn player.guid then c
  else
    let c := c.index player.guid
    if c.notModerator player then c else { c with password }

def setMode (cfg : ChannelConfig) (player : ChannelUser) (target : Option ChannelUser)
    (moderator set : Bool) : Channel :=
  if !c.isOn player.guid then c
  else
    let c := c.index player.guid
    if c.notModerator player then c
    else
      match target with
      | none => c
      | some target =>
        if moderator ∧ player.guid = c.ownerGuid ∧ target.guid = c.ownerGuid then c
        else if !c.isOn target.guid then c
        else if (player.security < secGamemaster ∨ target.security < secGamemaster) ∧
            player.team ≠ target.team ∧ !cfg.allowTwoSideInteractionChannel then c
        else if c.ownerGuid = target.guid ∧ c.ownerGuid ≠ player.guid then c
        else if moderator then c.setModerator target.guid set
        else c.setMute target.guid set

/-- `Channel::SetOwner(Player*, const char*)`. -/
def setOwnerBy (cfg : ChannelConfig) (player : ChannelUser) (target : Option ChannelUser) :
    Channel :=
  if !c.isOn player.guid then c
  else if player.security < secGamemaster ∧ player.guid ≠ c.ownerGuid then c
  else
    match target with
    | none => c
    | some target =>
      if !c.isOn target.guid then c
      else if target.team ≠ player.team ∧ !cfg.allowTwoSideInteractionChannel then c
      else (c.index target.guid (·.setModerator true)).setOwner target.guid

/-- `Channel::Announce`. -/
def toggleAnnounce (player : ChannelUser) : Channel :=
  if !c.isOn player.guid then c
  else
    let c := c.index player.guid
    if c.notModerator player then c else { c with announce := !c.announce }

/-- `Channel::Moderate`. -/
def toggleModerate (player : ChannelUser) : Channel :=
  if !c.isOn player.guid then c
  else
    let c := c.index player.guid
    if c.notModerator player then c else { c with moderate := !c.moderate }

end Channel

/-- A request that reaches a channel; a logout leaves it. -/
inductive ChannelRequest
  | join (player : ChannelUser) (password : String)
  | leave (player : ChannelUser)
  | kick (player : ChannelUser) (target : Option ChannelUser)
  | ban (player : ChannelUser) (target : Option ChannelUser)
  | unBan (player : ChannelUser) (target : Option ChannelUser)
  | password (player : ChannelUser) (password : String)
  | setMode (player : ChannelUser) (target : Option ChannelUser) (moderator set : Bool)
  | setOwner (player : ChannelUser) (target : Option ChannelUser)
  | announce (player : ChannelUser)
  | moderate (player : ChannelUser)

namespace Channel

/-- A request is handled under the configuration of the moment. -/
def handle (c : Channel) (e : ChannelConfig × ChannelRequest) : Channel :=
  match e.2 with
  | .join player password => c.join e.1 player password
  | .leave player => c.leave player
  | .kick player target => c.kickOrBan player target false
  | .ban player target => c.kickOrBan player target true
  | .unBan player target => c.unBan player target
  | .password player password => c.setPassword player password
  | .setMode player target moderator set => c.setMode e.1 player target moderator set
  | .setOwner player target => c.setOwnerBy e.1 player target
  | .announce player => c.toggleAnnounce player
  | .moderate player => c.toggleModerate player

end Channel

end Mangos
