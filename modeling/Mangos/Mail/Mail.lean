import Mangos.Item.CanStore

/-!
# A mailbox

A player keeps a list of mails and, in a table of their own, the items that came with any of them.
-/

namespace Mangos

structure MailItemInfo where
  itemGuid : Nat
  itemTemplate : Nat
  deriving DecidableEq, Repr

inductive MailState
  | unchanged | changed | deleted
  deriving DecidableEq, Repr

/-- The part of `Mail` that taking items and money reads or writes. -/
structure Mail where
  messageID : Nat
  sender : Nat
  items : List MailItemInfo
  removedItems : List Nat
  deliverTime : Nat
  money : Nat
  cod : Nat
  state : MailState
  deriving DecidableEq, Repr

namespace Mail

variable (m : Mail)

def itemGuids : List Nat := m.items.map (·.itemGuid)

/-- `Mail::RemoveItem`, which takes out the first item of that guid. -/
def removeItem (guid : Nat) : Mail := { m with items := m.items.eraseP (·.itemGuid = guid) }

theorem itemGuids_removeItem (guid : Nat) : (m.removeItem guid).itemGuids = m.itemGuids.erase guid := by
  have herase : ∀ items : List MailItemInfo, (items.eraseP (·.itemGuid = guid)).map (·.itemGuid) =
        (items.map (·.itemGuid)).erase guid := by
    intro items
    induction items with
    | nil => rfl
    | cons info items ih =>
      by_cases hguid : info.itemGuid = guid
      · simp [hguid]
      · simp [hguid, ih]
  exact herase m.items

/-- `_SaveMail` for one mail that is kept. -/
def saved : Mail :=
  if m.state = .changed then { m with removedItems := [], state := .unchanged } else m

@[simp] theorem saved_messageID : m.saved.messageID = m.messageID := by
  simp only [saved]
  split <;> rfl

@[simp] theorem saved_itemGuids : m.saved.itemGuids = m.itemGuids := by
  simp only [saved]
  split <;> rfl

@[simp] theorem saved_money : m.saved.money = m.money := by
  simp only [saved]
  split <;> rfl

/-- What `HandleMailTakeItem` does to the mail. -/
def withoutItem (guid : Nat) : Mail :=
  { m.removeItem guid with removedItems := m.removedItems ++ [guid], cod := 0, state := .changed }

/-- What `HandleMailTakeMoney` does to the mail. -/
def withoutMoney : Mail := { m with money := 0, state := .changed }

end Mail

/-- `mMitems`. `AddMItem` puts every item under its own guid. -/
structure MailedItems where
  find : Nat → Option Item
  guid_eq : ∀ id it, find id = some it → it.guid = id

namespace MailedItems

variable (table : MailedItems)

def empty : MailedItems := ⟨fun _ => none, by simp⟩

/-- `Player::AddMItem`. -/
def add (it : Item) : MailedItems where
  find := Function.update table.find it.guid (some it)
  guid_eq id it' h := by
    by_cases hid : id = it.guid
    · rw [hid, Function.update_self, Option.some.injEq] at h
      rw [← h, hid]
    · rw [Function.update_of_ne hid] at h
      exact table.guid_eq id it' h

/-- `Player::RemoveMItem`. -/
def remove (id : Nat) : MailedItems where
  find := Function.update table.find id none
  guid_eq id' it h := by
    by_cases hid : id' = id
    · rw [hid, Function.update_self] at h
      cases h
    · rw [Function.update_of_ne hid] at h
      exact table.guid_eq id' it h

end MailedItems

/-- A mail with money sent to the sender of a cash-on-delivery mail. -/
structure CodPayment where
  receiver : Nat
  money : Nat
  deriving DecidableEq, Repr

/-- A player with his mails, the guid generator of the items and the payments that were mailed. -/
structure Mailbox where
  player : Player
  mails : List Mail
  mItems : MailedItems
  mailsUpdated : Bool
  nextItemGuid : Nat
  payments : List CodPayment

/-- The codes of `SendMailResult` that taking items and money sends. -/
inductive MailResponseResult
  | ok | internalError | notEnoughMoney | equipError (msg : InventoryResult)
  deriving DecidableEq, Repr

def modifyMail (id : Nat) (change : Mail → Mail) : List Mail → List Mail
  | [] => []
  | m :: mails =>
    if m.messageID = id then change m :: mails else m :: modifyMail id change mails

namespace Mailbox

variable (tables : ItemTables) (accounts : Accounts) (s : Mailbox)

def getMail (id : Nat) : Option Mail := s.mails.find? (·.messageID = id)

def readableMail (now id : Nat) : Option Mail :=
  (s.getMail id).filter fun m => m.state ≠ .deleted && m.deliverTime ≤ now

/-- `Player::_SaveMail`. -/
def saveMail : Mailbox :=
  { s with mails := (s.mails.filter (·.state ≠ .deleted)).map Mail.saved }

def payCod (m : Mail) : Mailbox :=
  if 0 < m.cod then
    { s with
      payments :=
        if accounts.accountOf m.sender ≠ 0 then s.payments ++ [⟨m.sender, m.cod⟩] else s.payments
      player := s.player.setMoney (modifyMoney s.player.money (-int64 m.cod)) }
  else s

/-- `MoveItemToInventory`. -/
def storeItem (it : Item) (dest : List ItemPosCount) : Mailbox :=
  let stock := Stock.storeItem tables s.player.guid ⟨s.player.inventory, s.nextItemGuid⟩ it dest
  { s with
    player := { s.player with inventory := stock.inventory }
    nextItemGuid := stock.nextItemGuid }

/-- What `HandleMailTakeItem` does once there is room for the item. -/
def takeItem (mailId itemId : Nat) (m : Mail) (it : Item) (dest : List ItemPosCount) : Mailbox :=
  let paid := s.payCod accounts m
  let taken := { paid with
    mails := modifyMail mailId (·.withoutItem itemId) paid.mails
    mailsUpdated := true
    mItems := paid.mItems.remove it.guid }
  (taken.storeItem tables it dest).saveMail

/-- `WorldSession::HandleMailTakeItem`; no result is sent where there is no mailbox. -/
def handleMailTakeItem (checkMailBox : Bool) (now mailId itemId : Nat) :
    Mailbox × Option MailResponseResult :=
  if !checkMailBox then (s, none)
  else match s.readableMail now mailId with
    | none => (s, some .internalError)
    | some m =>
      if s.player.money < m.cod then (s, some .notEnoughMoney)
      else match s.mItems.find itemId with
        | none => (s, some (.equipError .itemNotFound))
        | some it =>
          let answer := s.player.canStoreItemAnywhere tables accounts it []
          if answer.result = .ok then
            (s.takeItem tables accounts mailId itemId m it answer.dest, some .ok)
          else (s, some (.equipError answer.result))

def handleMailTakeMoney (checkMailBox : Bool) (now mailId : Nat) :
    Mailbox × Option MailResponseResult :=
  if !checkMailBox then (s, none)
  else match s.readableMail now mailId with
    | none => (s, some .internalError)
    | some m =>
      let taken := { s with
        player := s.player.setMoney (modifyMoney s.player.money (int64 m.money))
        mails := modifyMail mailId Mail.withoutMoney s.mails
        mailsUpdated := true }
      (taken.saveMail, some .ok)

end Mailbox

end Mangos
