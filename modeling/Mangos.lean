import Mangos.Auction.Sell
import Mangos.Auction.Escrow
import Mangos.Group.Decline
import Mangos.VoidStorage.Transfer
import Mangos.Guild.Rights
import Mangos.Guild.Membership
import Mangos.Guild.Ranks
import Mangos.Socket.Framing
import Mangos.Socket.Fifo
import Mangos.Money.Transfers
import Mangos.Guild.BankDay
import Mangos.Chat.Owner
import Mangos.Lfg.BootVote
import Mangos.Unit.Lifecycle
import Mangos.Calendar.Expiry
import Mangos.Calendar.Rights
import Mangos.Lfg.SearchRuns
import Mangos.Update.TaskBase
import Mangos.Mail.Unread
import Mangos.Realmd.Proven
import Mangos.Realmd.HonestClient
import Mangos.Realmd.OnRead
import Mangos.Guild.FinderAgree
import Mangos.Movement.Relay
import Mangos.Map.Coverage
import Mangos.Bytes.Overtaking
import Mangos.Trade.Sessions
import Mangos.Saving.Saved
import Mangos.Item.Conserved
import Mangos.Loot.View
import Mangos.Pool.Loaded
import Mangos.Event.Killed
import Mangos.Event.Order
import Mangos.Arena.Lost
import Mangos.GameEvent.Manager
import Mangos.Reputation.Changes
import Mangos.Dungeon.LoadResetTimes
import Mangos.Dungeon.Drained
import Mangos.Lfg.SetRoles
import Mangos.Group.Looter
import Mangos.Group.Marks
import Mangos.Group.SubGroupMoves
import Mangos.Loot.Outcome
import Mangos.Pool.Respawn
import Mangos.Reputation.Counters
import Mangos.Mail.ListPacket
import Mangos.Item.Answered
import Mangos.Calendar.Remap
import Mangos.BattleGround.Rated
import Mangos.BattleGround.Teams
import Mangos.Vendor.Evicted
import Mangos.Spell.Ranks
import Mangos.Movement.MoveSpline
import Mangos.Event.Evade
import Mangos.Threat.Search
import Mangos.Threat.Taunt
import Mangos.Saving.Caps
import Mangos.Loot.QuestDrop
import Mangos.Item.Destroyed
import Mangos.Shared.Text
import Mangos.Auction.Listing
import Mangos.Bytes.PackedGuid
import Mangos.Mail.SendPacket
import Mangos.Guild.Experience
import Mangos.Mail.Postage
import Mangos.Shared.Statement
import Mangos.Shared.DBCFileLoader
import Mangos.Item.GearScore
