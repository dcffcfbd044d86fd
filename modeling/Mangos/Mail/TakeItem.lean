import Mangos.Mail.Mail
import Mangos.Item.Stored

/-!
# Taking an item out of a mail

The handler looks for the mail in the list of mails and for the item in the table of all mailed items, by
two ids of the same packet.
-/

namespace Mangos

open Framework

theorem modifyMail_of_find {mails : List Mail} {id : Nat} {m : Mail} (h : mails.find? (·.messageID = id) = some m) :
    ∃ before after, mails = before ++ m :: after ∧ (∀ m' ∈ before, m'.messageID ≠ id) ∧
      ∀ change, modifyMail id change mails = before ++ change m :: after := by
  induction mails with
  | nil => cases h
  | cons first mails ih =>
    by_cases hid : first.messageID = id
    · simp only [List.find?_cons, hid, decide_true, Option.some.injEq] at h
      subst h
      exact ⟨[], mails, rfl, by simp, fun change => by simp [modifyMail, hid]⟩
    · simp only [List.find?_cons, hid, decide_false] at h
      obtain ⟨before, after, hmails, hbefore, hchange⟩ := ih h
      exact ⟨first :: before, after, by rw [hmails]; rfl, by simpa [hid] using hbefore,
        fun change => by simp [modifyMail, hid, hchange]⟩

namespace Mailbox

variable {tables : ItemTables} {accounts : Accounts} {s : Mailbox} {now mailId itemId : Nat}

/-- The guids that the mails which are not deleted name. -/
def listed (s : Mailbox) : List Nat :=
  (s.mails.filter (·.state ≠ .deleted)).flatMap Mail.itemGuids

/-- The request passes every check: the mail is there, delivered, not deleted and affordable, and
the item, of whatever mail, can be stored. -/
structure Grants (tables : ItemTables) (accounts : Accounts) (s : Mailbox)
    (now mailId itemId : Nat) (m : Mail) (it : Item) : Prop where
  mail : s.getMail mailId = some m
  not_deleted : m.state ≠ .deleted
  delivered : m.deliverTime ≤ now
  affordable : m.cod ≤ s.player.money
  item : s.mItems.find itemId = some it
  room : (s.player.canStoreItemAnywhere tables accounts it []).result = .ok

/-- The item came out of the named mail, which was delivered, not deleted and paid, and no mail of
the player names it any more. -/
structure TakenProperly (s s' : Mailbox) (now mailId itemId : Nat) : Prop where
  attached : ∃ m, s.getMail mailId = some m ∧ itemId ∈ m.itemGuids ∧ m.state ≠ .deleted ∧
    m.deliverTime ≤ now ∧ s'.player.money + m.cod = s.player.money
  unlisted : ∀ m ∈ s'.mails, itemId ∉ m.itemGuids

theorem readableMail_eq_some {m : Mail} : s.readableMail now mailId = some m ↔
      s.getMail mailId = some m ∧ m.state ≠ .deleted ∧ m.deliverTime ≤ now := by
  simp [readableMail, Option.filter_eq_some_iff]

theorem handleMailTakeItem_of_grants {m : Mail} {it : Item} (h : s.Grants tables accounts now mailId itemId m it) :
    s.handleMailTakeItem tables accounts true now mailId itemId = (s.takeItem tables accounts mailId itemId m it
        (s.player.canStoreItemAnywhere tables accounts it []).dest, some .ok) := by
  have hmail := readableMail_eq_some.mpr ⟨h.mail, h.not_deleted, h.delivered⟩
  have hmoney := Nat.not_lt.mpr h.affordable
  simp [handleMailTakeItem, hmail, hmoney, h.item, h.room]

theorem handleMailTakeItem_cases (checkMailBox : Bool) :
    (∃ m it, checkMailBox = true ∧ s.Grants tables accounts now mailId itemId m it) ∨ ∃ result, result ≠ some .ok ∧
        s.handleMailTakeItem tables accounts checkMailBox now mailId itemId = (s, result) := by
  cases checkMailBox with
  | false => exact .inr ⟨none, by simp, rfl⟩
  | true =>
    cases hmail : s.readableMail now mailId with
    | none => exact .inr ⟨some .internalError, by simp, by simp [handleMailTakeItem, hmail]⟩
    | some m =>
      obtain ⟨hget, hstate, htime⟩ := readableMail_eq_some.mp hmail
      by_cases hmoney : s.player.money < m.cod
      · exact .inr ⟨some .notEnoughMoney, by simp, by simp [handleMailTakeItem, hmail, hmoney]⟩
      cases hitem : s.mItems.find itemId with
      | none =>
        exact .inr ⟨some (.equipError .itemNotFound), by simp,
          by simp [handleMailTakeItem, hmail, hmoney, hitem]⟩
      | some it =>
        by_cases hroom : (s.player.canStoreItemAnywhere tables accounts it []).result = .ok
        · exact .inl ⟨m, it, rfl, hget, hstate, htime, Nat.not_lt.mp hmoney, hitem, hroom⟩
        · exact .inr ⟨some (.equipError
              (s.player.canStoreItemAnywhere tables accounts it []).result),
            by simp, by simp [handleMailTakeItem, hmail, hmoney, hitem, hroom]⟩

theorem itemGuids_saveMail (s : Mailbox) : s.saveMail.mails.flatMap Mail.itemGuids = s.listed := by
  simp only [saveMail, listed, List.flatMap_map, Mail.saved_itemGuids]

theorem payCod_money {m : Mail} (haffordable : m.cod ≤ s.player.money) (hmoney : s.player.money < 2 ^ 63) :
    (s.payCod accounts m).player.money + m.cod = s.player.money := by
  by_cases hcod : 0 < m.cod
  · have hpaid : (s.payCod accounts m).player.money = modifyMoney s.player.money (-int64 m.cod) := by
      simp only [payCod, hcod, if_true, Player.setMoney_money]
    rw [hpaid, int64_eq (by omega) (by omega), modifyMoney_pay hcod haffordable]
    omega
  · have hfree : (s.payCod accounts m).player.money = s.player.money := by
      simp only [payCod, hcod, if_false]
    omega

theorem count_takeItem {m : Mail} {it : Item} {dest : List ItemPosCount}
    (hmail : s.getMail mailId = some m) (hstate : m.state ≠ .deleted) :
    ((s.takeItem tables accounts mailId itemId m it dest).mails.flatMap Mail.itemGuids).count itemId =
      if itemId ∈ m.itemGuids then s.listed.count itemId - 1 else s.listed.count itemId := by
  obtain ⟨before, after, hmails, -, hchange⟩ := modifyMail_of_find hmail
  have hpaid : (s.payCod accounts m).mails = s.mails := by
    unfold payCod
    split <;> rfl
  have hkept : ((m.withoutItem itemId).state ≠ .deleted) := by simp [Mail.withoutItem]
  have hguids : (m.withoutItem itemId).itemGuids = m.itemGuids.erase itemId :=
    m.itemGuids_removeItem itemId
  have hlisted : s.listed.count itemId =
      ((before.filter (·.state ≠ .deleted)).flatMap Mail.itemGuids).count itemId + (m.itemGuids.count itemId +
          ((after.filter (·.state ≠ .deleted)).flatMap Mail.itemGuids).count itemId) := by
    simp [listed, hmails, List.filter_append, hstate]
  have hafter : ((s.takeItem tables accounts mailId itemId m it dest).mails.flatMap
      Mail.itemGuids).count itemId = ((before.filter (·.state ≠ .deleted)).flatMap Mail.itemGuids).count itemId +
        ((m.itemGuids.erase itemId).count itemId +
          ((after.filter (·.state ≠ .deleted)).flatMap Mail.itemGuids).count itemId) := by
    rw [takeItem, itemGuids_saveMail]
    simp [listed, storeItem, hpaid, hchange, List.filter_append, hkept, hguids]
  rw [hafter, hlisted]
  split
  next hmem =>
    have hpos := List.count_pos_iff.mpr hmem
    rw [List.count_erase_self]
    omega
  next hmem => rw [List.erase_of_not_mem hmem]

theorem takenProperly_iff {m : Mail} {it : Item} (hmoney : s.player.money < 2 ^ 63)
    (h : s.Grants tables accounts now mailId itemId m it) (dest : List ItemPosCount) :
    TakenProperly s (s.takeItem tables accounts mailId itemId m it dest) now mailId itemId ↔
      itemId ∈ m.itemGuids ∧ s.listed.count itemId = 1 := by
  have hcount := @count_takeItem tables accounts s mailId itemId m it dest h.mail h.not_deleted
  constructor
  · intro hproper
    obtain ⟨m', hmail, hmem, -⟩ := hproper.attached
    rw [h.mail, Option.some.injEq] at hmail
    subst hmail
    have hnone : ((s.takeItem tables accounts mailId itemId m it dest).mails.flatMap
        Mail.itemGuids).count itemId = 0 := by
      apply List.count_eq_zero.mpr
      intro hin
      obtain ⟨m', hm', hguid⟩ := List.mem_flatMap.mp hin
      exact hproper.unlisted m' hm' hguid
    have hlisted : itemId ∈ s.listed := by
      refine List.mem_flatMap.mpr ⟨m, ?_, hmem⟩
      exact List.mem_filter.mpr ⟨List.mem_of_find?_eq_some h.mail, by simpa using h.not_deleted⟩
    have hpos := List.count_pos_iff.mpr hlisted
    rw [if_pos hmem] at hcount
    exact ⟨hmem, by omega⟩
  · rintro ⟨hmem, hone⟩
    refine ⟨⟨m, h.mail, hmem, h.not_deleted, h.delivered, ?_⟩, ?_⟩
    · exact payCod_money h.affordable hmoney
    · intro m' hm' hguid
      rw [if_pos hmem, hone] at hcount
      exact List.count_eq_zero.mp hcount (List.mem_flatMap.mpr ⟨m', hm', hguid⟩)

/-- Requests move items properly exactly when the items of the mails are only asked for through the
one mail that names them. -/
theorem handleMailTakeItem_iff (tables : ItemTables) (accounts : Accounts) (s : Mailbox)
    (hmoney : s.player.money < 2 ^ 63) (checkMailBox : Bool) (now mailId itemId : Nat) :
    ((s.handleMailTakeItem tables accounts checkMailBox now mailId itemId).2 = some .ok →
      TakenProperly s (s.handleMailTakeItem tables accounts checkMailBox now mailId itemId).1
        now mailId itemId) ↔ (checkMailBox = true → ∀ m it, s.Grants tables accounts now mailId itemId m it →
      itemId ∈ m.itemGuids ∧ s.listed.count itemId = 1) := by
  constructor
  · intro hproper hbox m it hgrants
    subst hbox
    rw [handleMailTakeItem_of_grants hgrants] at hproper
    exact (takenProperly_iff hmoney hgrants _).mp (hproper rfl)
  · intro hown hok
    rcases handleMailTakeItem_cases checkMailBox (s := s) with
      ⟨m, it, hbox, hgrants⟩ | ⟨result, hresult, hsame⟩
    · subst hbox
      rw [handleMailTakeItem_of_grants hgrants]
      exact (takenProperly_iff hmoney hgrants _).mpr (hown rfl m it hgrants)
    · rw [hsame] at hok
      exact absurd hok hresult

end Mailbox

/-! A player with two mails: a letter with a charm, and a sword to be paid for on delivery, which is
still under way. -/

private def mailedCharm : ItemPrototype := .trinket 4500

private def mailedSword : ItemPrototype := .trinket 4600

private def mailedTables : ItemTables := .ofPrototypes [mailedCharm, mailedSword]

private def mailedAccounts : Accounts := .oneEach

private def letter : Mail where
  messageID := 1
  sender := 2
  items := [⟨101, 4500⟩]
  removedItems := []
  deliverTime := 0
  money := 0
  cod := 0
  state := .unchanged

private def parcel : Mail where
  messageID := 2
  sender := 2
  items := [⟨102, 4600⟩]
  removedItems := []
  deliverTime := 3600
  money := 0
  cod := 5000
  state := .unchanged

private def twoMails : Mailbox where
  player := { guid := 1, account := 1, inventory := ⟨fun _ => none⟩, money := 100 }
  mails := [letter, parcel]
  mItems := (MailedItems.empty.add { guid := 101, proto := mailedCharm, count := 1, ownerGuid := 1 }).add
    { guid := 102, proto := mailedSword, count := 1, ownerGuid := 1 }
  mailsUpdated := false
  nextItemGuid := 103
  payments := []

/-- The charm is taken out of its own mail. -/
theorem handleMailTakeItem_iff_letter : Mailbox.TakenProperly twoMails
      (twoMails.handleMailTakeItem mailedTables mailedAccounts true 60 1 101).1 60 1 101 := by
  refine (Mailbox.handleMailTakeItem_iff mailedTables mailedAccounts twoMails (by decide) true 60 1
    101).mpr ?_ (by decide +kernel)
  intro _ m it hgrants
  have hmail : some letter = some m := hgrants.mail
  cases hmail
  decide

/-- The sword is taken through the letter, before it is delivered and without being paid for. -/
theorem handleMailTakeItem_otherMail :
    ¬ ∀ (tables : ItemTables) (accounts : Accounts) (s : Mailbox), s.player.money < 2 ^ 63 →
      ∀ (checkMailBox : Bool) (now mailId itemId : Nat),
        (s.handleMailTakeItem tables accounts checkMailBox now mailId itemId).2 = some .ok →
        Mailbox.TakenProperly s (s.handleMailTakeItem tables accounts checkMailBox now mailId itemId).1
          now mailId itemId := by
  intro h
  have hproper := h mailedTables mailedAccounts twoMails (by decide) true 60 1 102
    (by decide +kernel)
  obtain ⟨m, hmail, hmem, -⟩ := hproper.attached
  have hletter : some letter = some m := hmail
  cases hletter
  exact absurd hmem (by decide)

end Mangos
