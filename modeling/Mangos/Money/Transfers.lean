import Mangos.Guild.BankMoney
import Mangos.Mail.TakeItem
import Mangos.Trade.Conserve

/-!
# Money that changes hands

The party that pays is always debited in full, while `ModifyMoney` keeps what the other one gets below the
limit of a balance.
-/

namespace Mangos

open Framework

theorem modifyMoney_le_iff {money : Nat} {d : Int} (hmax : money ≤ maxMoneyAmount)
    (hlo : -2 ^ 63 ≤ d) (hhi : d < 2 ^ 63) : modifyMoney money d ≤ maxMoneyAmount ↔ d ≤ maxMoneyAmount := by
  unfold modifyMoney
  unfold maxMoneyAmount at *
  by_cases hneg : d < 0
  · rw [if_pos hneg]
    split <;> omega
  rw [if_neg hneg]
  by_cases hover : d ≤ 9999999999
  · rw [Int.emod_eq_of_lt (by omega) (by omega)]
    split <;> omega
  · have hwrap : ((9999999999 : Nat) - d : Int) % 2 ^ 64 = 9999999999 - d + 2 ^ 64 := by omega
    rw [hwrap]
    split <;> omega

example : modifyMoney 0 10000000000 = 10000000000 := by decide

namespace TradeState

variable {tables : ItemTables} {accounts : Accounts}

def totalMoney (s : TradeState) : Nat := s.player.money + s.trader.money

/-- Both traders have the money they had. -/
private structure SameMoney (s s' : TradeState) : Prop where
  player : s'.player.money = s.player.money
  trader : s'.trader.money = s.trader.money

private theorem SameMoney.trans {s₁ s₂ s₃ : TradeState} (h : SameMoney s₁ s₂)
    (h' : SameMoney s₂ s₃) : SameMoney s₁ s₃ :=
  ⟨h'.player.trans h.player, h'.trader.trans h.trader⟩

private theorem sameMoney_toPlayer (s : TradeState) (it : Option Item) (dest : List ItemPosCount) :
    SameMoney s (s.toPlayer tables it dest) := by
  cases it with
  | none => exact ⟨rfl, rfl⟩
  | some it => exact ⟨rfl, rfl⟩

private theorem sameMoney_toTrader (s : TradeState) (it : Option Item) (dest : List ItemPosCount) :
    SameMoney s (s.toTrader tables it dest) := by
  cases it with
  | none => exact ⟨rfl, rfl⟩
  | some it => exact ⟨rfl, rfl⟩

private theorem sameMoney_moveItem (s : TradeState) (slot : Option Item × Option Item) :
    SameMoney s (s.moveItem tables accounts slot) := by
  have hstrand : ∀ (s : TradeState) (it : Option Item), SameMoney s (s.strand it) :=
    fun _ _ => ⟨rfl, rfl⟩
  unfold moveItem
  dsimp only
  split
  · exact (sameMoney_toTrader s _ _).trans (sameMoney_toPlayer _ _ _)
  · split <;> split
    · exact (sameMoney_toPlayer s _ _).trans (sameMoney_toTrader _ _ _)
    · exact (sameMoney_toPlayer s _ _).trans (hstrand _ _)
    · exact (hstrand s _).trans (sameMoney_toTrader _ _ _)
    · exact (hstrand s _).trans (hstrand _ _)

private theorem sameMoney_moveItems (s : TradeState) (slots : List (Option Item × Option Item)) :
    SameMoney s (s.moveItems tables accounts slots) := by
  induction slots generalizing s with
  | nil => exact ⟨rfl, rfl⟩
  | cons slot slots ih => exact (sameMoney_moveItem s slot).trans (ih _)

theorem handleAcceptTrade_money {spells : TradeSpells} {s : TradeState} {windows : TradePair}
    {mySpell hisSpell : Nat} (htrade : s.trade = some windows)
    (hplayer : s.player.money ≤ maxMoneyAmount) (htrader : s.trader.money ≤ maxMoneyAmount)
    (hdone : (s.handleAcceptTrade tables accounts spells).2 = .completed mySpell hisSpell) :
    windows.my.money ≤ s.player.money ∧ windows.his.money ≤ s.trader.money ∧
      (s.handleAcceptTrade tables accounts spells).1.totalMoney =
        min (s.player.money - windows.my.money + windows.his.money) maxMoneyAmount +
          min (s.trader.money - windows.his.money + windows.my.money) maxMoneyAmount := by
  obtain ⟨windows', htrade', ⟨hmy, hhis⟩, -, hexchange⟩ := handleAcceptTrade_completed hdone
  rw [htrade, Option.some.injEq] at htrade'
  subst htrade'
  have hkept := @sameMoney_moveItems tables accounts
    (s.withoutOffers ⟨windows.my.setAccepted true, windows.his⟩)
    (s.tradedItems ⟨windows.my.setAccepted true, windows.his⟩)
  generalize hmoved : (s.withoutOffers ⟨windows.my.setAccepted true, windows.his⟩).moveItems tables
    accounts (s.tradedItems ⟨windows.my.setAccepted true, windows.his⟩) = moved at hkept
  have hplayer' : moved.player.money = s.player.money := hkept.player
  have htrader' : moved.trader.money = s.trader.money := hkept.trader
  refine ⟨hmy, hhis, ?_⟩
  rw [hexchange, exchange, hmoved, totalMoney, payMoney]
  dsimp only [TradeData.setAccepted]
  rw [hplayer', htrader', modifyMoney_neg hmy hplayer, modifyMoney_neg hhis htrader,
    modifyMoney_add (by omega), modifyMoney_add (by omega)]

end TradeState

namespace Mailbox

/-- The money of the player and of the mail with that id. -/
def totalMoney (s : Mailbox) (mailId : Nat) : Nat :=
  s.player.money + (s.getMail mailId).elim 0 (·.money)

theorem getMail_saveMail {s s' : Mailbox} {mailId : Nat} {m : Mail} {change : Mail → Mail}
    (hmail : s.getMail mailId = some m) (hid : (change m).messageID = m.messageID)
    (hstate : (change m).state ≠ .deleted) (hmails : s'.mails = modifyMail mailId change s.mails) :
    s'.saveMail.getMail mailId = some (change m).saved := by
  obtain ⟨before, after, -, hfirst, hchange⟩ := modifyMail_of_find hmail
  have hm : m.messageID = mailId := by simpa using List.find?_some hmail
  have hnone : (before.filter (·.state ≠ .deleted)).find? (·.messageID = mailId) = none := by
    apply List.find?_eq_none.mpr
    intro m' hm'
    simpa using hfirst m' (List.mem_of_mem_filter hm')
  have hsame : ((fun m : Mail => decide (m.messageID = mailId)) ∘ Mail.saved) =
      fun m => decide (m.messageID = mailId) := by
    funext m'
    simp
  rw [getMail, saveMail, hmails, hchange, List.find?_map, hsame, List.filter_append, List.find?_append, hnone]
  simp [hstate, hid, hm]

theorem handleMailTakeMoney_money {s : Mailbox} {checkMailBox : Bool} {now mailId : Nat} {m : Mail}
    (hmail : s.getMail mailId = some m) (hmax : m.money ≤ maxMoneyAmount)
    (hok : (s.handleMailTakeMoney checkMailBox now mailId).2 = some .ok) :
    (s.handleMailTakeMoney checkMailBox now mailId).1.totalMoney mailId =
      min (s.player.money + m.money) maxMoneyAmount := by
  unfold handleMailTakeMoney at hok ⊢
  split at hok
  · cases hok
  next hbox =>
  rw [if_neg hbox]
  cases hread : s.readableMail now mailId with
  | none =>
    rw [hread] at hok
    cases hok
  | some m' =>
    obtain ⟨hmail', -, -⟩ := readableMail_eq_some.mp hread
    rw [hmail, Option.some.injEq] at hmail'
    subst hmail'
    have hgot : modifyMoney s.player.money (int64 (m.money : Int)) =
        min (s.player.money + m.money) maxMoneyAmount := by
      rw [int64_eq (by omega) (by unfold maxMoneyAmount at hmax; omega)]
      exact modifyMoney_add hmax
    dsimp only
    rw [hgot, totalMoney, getMail_saveMail hmail rfl (by simp [Mail.withoutMoney]) rfl,
      Option.elim_some, Mail.saved_money]
    rfl

end Mailbox

/-- A completed trade, a withdrawal from the guild bank and money taken from a mail conserve money exactly when no
balance comes over the limit, which `ModifyMoney` keeps exactly for amounts within it. -/
theorem moneyTransfers_iff (tables : ItemTables) (accounts : Accounts) (spells : TradeSpells) :
    (∀ (s : TradeState) (windows : TradePair) (mySpell hisSpell : Nat), s.trade = some windows →
      s.player.money ≤ maxMoneyAmount → s.trader.money ≤ maxMoneyAmount →
      (s.handleAcceptTrade tables accounts spells).2 = .completed mySpell hisSpell →
      ((s.handleAcceptTrade tables accounts spells).1.totalMoney = s.totalMoney ↔
        s.player.money + windows.his.money ≤ maxMoneyAmount + windows.my.money ∧
          s.trader.money + windows.my.money ≤ maxMoneyAmount + windows.his.money)) ∧
    (∀ (s : BankVisit) (bank : GuildBank) (canInteract : Bool) (curTime money : Nat),
      s.bank = some bank → s.player.money ≤ maxMoneyAmount → bank.money ≤ maxMoneyAmount →
      (s.handleGuildBankWithdrawMoney canInteract curTime money).2 = true →
      ((s.handleGuildBankWithdrawMoney canInteract curTime money).1.total = s.total ↔
        s.player.money + money ≤ maxMoneyAmount)) ∧
    (∀ (s : Mailbox) (m : Mail) (checkMailBox : Bool) (now mailId : Nat),
      s.getMail mailId = some m → s.player.money ≤ maxMoneyAmount → m.money ≤ maxMoneyAmount →
      (s.handleMailTakeMoney checkMailBox now mailId).2 = some .ok →
      ((s.handleMailTakeMoney checkMailBox now mailId).1.totalMoney mailId = s.totalMoney mailId ↔
        s.player.money + m.money ≤ maxMoneyAmount)) ∧
    ∀ (money : Nat) (d : Int), money ≤ maxMoneyAmount → -2 ^ 63 ≤ d → d < 2 ^ 63 →
      (modifyMoney money d ≤ maxMoneyAmount ↔ d ≤ maxMoneyAmount) := by
  refine ⟨?_, ?_, ?_, ?_⟩
  · intro s windows mySpell hisSpell htrade hplayer htrader hdone
    obtain ⟨hmy, hhis, hafter⟩ := TradeState.handleAcceptTrade_money htrade hplayer htrader hdone
    rw [hafter, TradeState.totalMoney]
    omega
  · intro s bank canInteract curTime money hbank _ hmax hdone
    obtain ⟨hle, hafter⟩ := BankVisit.handleGuildBankWithdrawMoney_eq hbank hmax hdone
    rw [hafter, BankVisit.total, hbank, Option.elim_some]
    omega
  · intro s m checkMailBox now mailId hmail _ hmax hok
    rw [Mailbox.handleMailTakeMoney_money hmail hmax hok, Mailbox.totalMoney, hmail, Option.elim_some]
    omega
  · intro money d hmax hlo hhi
    exact modifyMoney_le_iff hmax hlo hhi

/-! Two copper are owed to a player who is one copper below the limit. -/

private def almostRich (guid money : Nat) : Player where
  guid := guid
  account := guid
  inventory := ⟨fun _ => none⟩
  money := money

private def offering (money : Nat) : TradeData := .acceptedMoney money

private def coinTrade (hisMoney : Nat) : TradeState where
  player := almostRich 1 (maxMoneyAmount - 1)
  trader := almostRich 2 10
  trade := some ⟨offering 0, offering hisMoney⟩
  nextItemGuid := 1
  stranded := []

private def richBank : GuildBank where
  guild := { id := 1, level := 1, leaderGuid := 1, ranks := [.new "Master" GuildRankRight.all.word 0],
             members := [(1, .new 1 0)] }
  money := 100
  purchasedTabs := 1
  loaded := true

private def richVisit : BankVisit where
  player := almostRich 1 (maxMoneyAmount - 1)
  rank := 0
  bank := some richBank

private def moneyMail (money : Nat) : Mail where
  messageID := 7
  sender := 2
  items := []
  removedItems := []
  deliverTime := 0
  money := money
  cod := 0
  state := .unchanged

private def richMailbox (money : Nat) : Mailbox where
  player := almostRich 1 (maxMoneyAmount - 1)
  mails := [moneyMail money]
  mItems := .empty
  mailsUpdated := false
  nextItemGuid := 1
  payments := []

private def noTables : ItemTables := .ofPrototypes []

private def ownAccounts : Accounts := .oneEach

private def spellless : TradeSpells := ⟨fun _ => false, fun _ _ _ => false⟩

/-- One copper reaches the limit, and nothing is lost. -/
theorem moneyTransfers_iff_oneCopper :
    ((coinTrade 1).handleAcceptTrade noTables ownAccounts spellless).1.totalMoney = (coinTrade 1).totalMoney ∧
      (richVisit.handleGuildBankWithdrawMoney true 0 1).1.total = richVisit.total ∧
      ((richMailbox 1).handleMailTakeMoney true 0 7).1.totalMoney 7 = (richMailbox 1).totalMoney 7 ∧
      modifyMoney (maxMoneyAmount - 1) 1 ≤ maxMoneyAmount := by
  obtain ⟨htrade, hbank, hmail, hmoney⟩ := moneyTransfers_iff noTables ownAccounts spellless
  refine ⟨?_, ?_, ?_, ?_⟩
  · exact (htrade (coinTrade 1) ⟨offering 0, offering 1⟩ 0 0 rfl
      (by decide) (by decide) (by decide +kernel)).mpr (by decide)
  · exact (hbank richVisit richBank true 0 1 rfl (by decide) (by decide) (by decide +kernel)).mpr
      (by decide)
  · exact (hmail (richMailbox 1) (moneyMail 1) true 0 7 rfl (by decide) (by decide)
      (by decide +kernel)).mpr (by decide)
  · exact (hmoney (maxMoneyAmount - 1) 1 (by decide) (by decide) (by decide)).mpr (by decide)

/-- Of two coppers one is lost. -/
theorem moneyTransfers_twoCopper :
    ¬ ((∀ (tables : ItemTables) (accounts : Accounts) (spells : TradeSpells) (s : TradeState)
        (mySpell hisSpell : Nat), s.player.money ≤ maxMoneyAmount → s.trader.money ≤ maxMoneyAmount →
        (s.handleAcceptTrade tables accounts spells).2 = .completed mySpell hisSpell →
        (s.handleAcceptTrade tables accounts spells).1.totalMoney = s.totalMoney) ∧
      (∀ (s : BankVisit) (bank : GuildBank) (canInteract : Bool) (curTime money : Nat),
        s.bank = some bank → s.player.money ≤ maxMoneyAmount → bank.money ≤ maxMoneyAmount →
        (s.handleGuildBankWithdrawMoney canInteract curTime money).2 = true →
        (s.handleGuildBankWithdrawMoney canInteract curTime money).1.total = s.total) ∧
      (∀ (s : Mailbox) (m : Mail) (checkMailBox : Bool) (now mailId : Nat),
        s.getMail mailId = some m → s.player.money ≤ maxMoneyAmount → m.money ≤ maxMoneyAmount →
        (s.handleMailTakeMoney checkMailBox now mailId).2 = some .ok →
        (s.handleMailTakeMoney checkMailBox now mailId).1.totalMoney mailId = s.totalMoney mailId) ∧
      ∀ (money : Nat) (d : Int), money ≤ maxMoneyAmount → -2 ^ 63 ≤ d → d < 2 ^ 63 →
        modifyMoney money d ≤ maxMoneyAmount) := by
  rintro ⟨-, -, hmail, -⟩
  have hsame := hmail (richMailbox 2) (moneyMail 2) true 0 7 rfl (by decide) (by decide)
    (by decide +kernel)
  exact absurd hsame (by decide +kernel)

end Mangos
