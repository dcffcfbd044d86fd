import Mangos.Framework.Run
import Mangos.Mail.TakeItem

/-!
# Deleted mails and the unread counter

The requests of a mailbox overwrite the states of mails and keep a counter of those that are unread.
-/

namespace Mangos

open Framework

def mailCheckMaskRead : Nat := 1

def isRead (checked : Nat) : Bool := checked &&& mailCheckMaskRead ≠ 0

theorem isRead_or (checked : Nat) : isRead (checked ||| mailCheckMaskRead) = true := by
  simp [isRead, mailCheckMaskRead]

def Mail.withState (state : MailState) (m : Mail) : Mail := { m with state := state }

@[simp] theorem Mail.withState_messageID (state : MailState) (m : Mail) :
    (m.withState state).messageID = m.messageID := rfl

/-- The flags `checked` of the mails are kept by their ids, of which each belongs to one mail. -/
structure Inbox where
  box : Mailbox
  ids : (box.mails.map (·.messageID)).Nodup
  checked : Nat → Nat
  unReadMails : UInt8

theorem ids_modifyMail (id : Nat) {change : Mail → Mail}
    (hid : ∀ m, (change m).messageID = m.messageID) (mails : List Mail) :
    (modifyMail id change mails).map (·.messageID) = mails.map (·.messageID) := by
  induction mails with
  | nil => rfl
  | cons m mails ih =>
    rw [modifyMail]
    split
    · simp [hid]
    · simp [ih]

theorem ids_saveMail (s : Mailbox) : (s.saveMail.mails.map (·.messageID)).Sublist (s.mails.map (·.messageID)) := by
  simpa [Mailbox.saveMail, Function.comp_def] using List.filter_sublist.map _

theorem splits_of_find {id : Nat} {mails : List Mail} {m : Mail}
    (hget : mails.find? (·.messageID = id) = some m) (hids : (mails.map (·.messageID)).Nodup) :
    ∃ before after, mails = before ++ m :: after ∧ (∀ m' ∈ before, m'.messageID ≠ id) ∧
      (∀ m' ∈ after, m'.messageID ≠ id) ∧ ∀ change, modifyMail id change mails = before ++ change m :: after := by
  obtain ⟨before, after, rfl, hbefore, hchange⟩ := modifyMail_of_find hget
  refine ⟨before, after, rfl, hbefore, ?_, hchange⟩
  intro m' hmem heq
  have hid : m.messageID = id := by simpa using List.find?_some hget
  rw [List.map_append, List.map_cons] at hids
  have hnot := (List.nodup_cons.mp (List.nodup_append.mp hids).2.1).1
  exact hnot (List.mem_map.mpr ⟨m', hmem, heq.trans hid.symm⟩)

theorem mem_modifyMail {id : Nat} {change : Mail → Mail} {mails : List Mail} {m m' : Mail}
    (hget : mails.find? (·.messageID = id) = some m) (hids : (mails.map (·.messageID)).Nodup)
    (hmem : m' ∈ modifyMail id change mails) : (m' ∈ mails ∧ m'.messageID ≠ id) ∨ m' = change m := by
  obtain ⟨before, after, rfl, hbefore, hafter, hchange⟩ := splits_of_find hget hids
  rw [hchange, List.mem_append, List.mem_cons] at hmem
  rcases hmem with hmem | hmem | hmem
  · exact .inl ⟨List.mem_append_left _ hmem, hbefore m' hmem⟩
  · exact .inr hmem
  · exact .inl ⟨by simp [hmem], hafter m' hmem⟩

theorem mem_modifyMail_self {id : Nat} {mails : List Mail} {m : Mail}
    (hget : mails.find? (·.messageID = id) = some m) (change : Mail → Mail) :
    change m ∈ modifyMail id change mails := by
  obtain ⟨before, after, -, -, hchange⟩ := modifyMail_of_find hget
  simp [hchange]

theorem countP_modifyMail {id : Nat} {change : Mail → Mail} {mails : List Mail} {m : Mail}
    (hget : mails.find? (·.messageID = id) = some m) (hids : (mails.map (·.messageID)).Nodup)
    {p p' : Mail → Bool} (hother : ∀ other, other.messageID ≠ id → p' other = p other) :
    (modifyMail id change mails).countP p' + (p m).toNat = mails.countP p + (p' (change m)).toNat := by
  obtain ⟨before, after, rfl, hbefore, hafter, hchange⟩ := splits_of_find hget hids
  have hfirst : before.countP p' = before.countP p :=
    List.countP_congr fun other hin => by rw [hother other (hbefore other hin)]
  have hlast : after.countP p' = after.countP p :=
    List.countP_congr fun other hin => by rw [hother other (hafter other hin)]
  rw [hchange]
  simp only [List.countP_append, List.countP_cons, hfirst, hlast]
  cases p m <;> cases p' (change m) <;> simp <;> omega

def takenFrom (mailId : Nat) (change : Mail → Mail) (mails : List Mail) : List Mail :=
  ((modifyMail mailId change mails).filter (·.state ≠ .deleted)).map Mail.saved

def Takes (now mailId : Nat) (mails mails' : List Mail) : Prop :=
  mails' = mails ∨ ∃ m change, mails.find? (·.messageID = mailId) = some m ∧ m.state ≠ .deleted ∧
    (change m).state ≠ .deleted ∧ (∀ m, (change m).messageID = m.messageID) ∧
    (change m).deliverTime = m.deliverTime ∧ mails' = takenFrom mailId change mails

theorem takes_handleMailTakeItem (tables : ItemTables) (accounts : Accounts) (s : Mailbox)
    (checkMailBox : Bool) (now mailId itemId : Nat) : Takes now mailId s.mails
      (s.handleMailTakeItem tables accounts checkMailBox now mailId itemId).1.mails := by
  rcases @Mailbox.handleMailTakeItem_cases tables accounts s now mailId itemId checkMailBox with
    ⟨m, it, rfl, hgrants⟩ | ⟨result, -, hsame⟩
  · right
    refine ⟨m, (·.withoutItem itemId), hgrants.mail, hgrants.not_deleted, ?_, ?_, ?_, ?_⟩
    · simp [Mail.withoutItem]
    · simp [Mail.withoutItem, Mail.removeItem]
    · simp [Mail.withoutItem, Mail.removeItem]
    · rw [Mailbox.handleMailTakeItem_of_grants hgrants]
      have hpaid : (s.payCod accounts m).mails = s.mails := by
        unfold Mailbox.payCod
        split <;> rfl
      simp [Mailbox.takeItem, Mailbox.saveMail, Mailbox.storeItem, takenFrom, hpaid]
  · exact .inl (by rw [hsame])

theorem takes_handleMailTakeMoney (s : Mailbox) (checkMailBox : Bool) (now mailId : Nat) :
    Takes now mailId s.mails (s.handleMailTakeMoney checkMailBox now mailId).1.mails := by
  cases checkMailBox with
  | false => exact .inl rfl
  | true =>
    cases hmail : s.readableMail now mailId with
    | none => exact .inl (by simp [Mailbox.handleMailTakeMoney, hmail])
    | some m =>
      obtain ⟨hget, hstate, -⟩ := Mailbox.readableMail_eq_some.mp hmail
      right
      refine ⟨m, Mail.withoutMoney, hget, hstate, ?_, ?_, ?_, ?_⟩
      · simp [Mail.withoutMoney]
      · simp [Mail.withoutMoney]
      · simp [Mail.withoutMoney]
      · simp [Mailbox.handleMailTakeMoney, hmail, Mailbox.saveMail, takenFrom]

theorem Takes.ids {now mailId : Nat} {mails mails' : List Mail} (h : Takes now mailId mails mails') :
    (mails'.map (·.messageID)).Sublist (mails.map (·.messageID)) := by
  rcases h with rfl | ⟨m, change, -, -, -, hid, -, rfl⟩
  · exact List.Sublist.refl _
  · rw [← ids_modifyMail mailId hid mails]
    simpa [takenFrom, Function.comp_def] using List.filter_sublist.map _

namespace Inbox

variable (tables : ItemTables) (accounts : Accounts) (s : Inbox)

def withBox (box : Mailbox) (h : (box.mails.map (·.messageID)).Sublist (s.box.mails.map (·.messageID))) :
    Inbox :=
  { s with box := box, ids := s.ids.sublist h }

def setMailState (mailId : Nat) (state : MailState) : Inbox :=
  s.withBox
    { s.box with mails := modifyMail mailId (Mail.withState state) s.box.mails, mailsUpdated := true }
    (by simp [ids_modifyMail mailId (Mail.withState_messageID state)])

def handleMailMarkAsRead (checkMailBox : Bool) (mailId : Nat) : Inbox :=
  if !checkMailBox then s
  else match s.box.getMail mailId with
    | none => s
    | some _ =>
      { s.setMailState mailId .changed with
        checked := Function.update s.checked mailId (s.checked mailId ||| mailCheckMaskRead)
        unReadMails := if s.unReadMails = 0 then 0 else s.unReadMails - 1 }

def handleMailDelete (checkMailBox : Bool) (mailId : Nat) : Inbox :=
  if !checkMailBox then s
  else
    let updated := s.withBox { s.box with mailsUpdated := true } (List.Sublist.refl _)
    match s.box.getMail mailId with
    | none => updated
    | some m => if m.cod ≠ 0 then updated else s.setMailState mailId .deleted

def handleMailTakeItem (checkMailBox : Bool) (now mailId itemId : Nat) : Inbox :=
  s.withBox (s.box.handleMailTakeItem tables accounts checkMailBox now mailId itemId).1
    (takes_handleMailTakeItem tables accounts s.box checkMailBox now mailId itemId).ids

def handleMailTakeMoney (checkMailBox : Bool) (now mailId : Nat) : Inbox :=
  s.withBox (s.box.handleMailTakeMoney checkMailBox now mailId).1
    (takes_handleMailTakeMoney s.box checkMailBox now mailId).ids

/-- `Player::UpdateNextMailTimeAndUnreads` counts the delivered mails that were not read. -/
def updateUnreads (now : Nat) : Inbox :=
  { s with
    unReadMails := UInt8.ofNat (s.box.mails.countP fun m =>
      m.deliverTime ≤ now && !isRead (s.checked m.messageID)) }

/-- `WorldSession::HandleGetMailList`, without the packet. -/
def handleGetMailList (checkMailBox : Bool) (now : Nat) : Inbox :=
  if !checkMailBox then s else s.updateUnreads now

/-- The mails' part of `Player::SaveToDB`. -/
def save : Inbox :=
  if s.box.mailsUpdated then
    s.withBox { s.box.saveMail with mailsUpdated := false } (ids_saveMail s.box)
  else s

end Inbox

inductive MailRequest
  | markAsRead (checkMailBox : Bool) (mailId : Nat)
  | delete (checkMailBox : Bool) (mailId : Nat)
  | takeItem (checkMailBox : Bool) (mailId itemId : Nat)
  | takeMoney (checkMailBox : Bool) (mailId : Nat)
  | getMailList (checkMailBox : Bool)
  | save
  deriving DecidableEq, Repr

namespace Inbox

variable (tables : ItemTables) (accounts : Accounts) (s : Inbox)

def step (s : Inbox) : Nat × MailRequest → Inbox
  | (_, .markAsRead checkMailBox mailId) => s.handleMailMarkAsRead checkMailBox mailId
  | (_, .delete checkMailBox mailId) => s.handleMailDelete checkMailBox mailId
  | (now, .takeItem checkMailBox mailId itemId) =>
    s.handleMailTakeItem tables accounts checkMailBox now mailId itemId
  | (now, .takeMoney checkMailBox mailId) => s.handleMailTakeMoney checkMailBox now mailId
  | (now, .getMailList checkMailBox) => s.handleGetMailList checkMailBox now
  | (_, .save) => s.save

def isUnread (now : Nat) (m : Mail) : Bool :=
  m.deliverTime ≤ now && m.state ≠ .deleted && !isRead (s.checked m.messageID)

def CounterExact (now : Nat) : Prop := s.unReadMails.toNat = s.box.mails.countP (s.isUnread now)

instance (now : Nat) : Decidable (s.CounterExact now) := by
  unfold CounterExact
  infer_instance

/-- Mails that were deleted are so still or are gone, and the counter is exact if it was so. -/
structure Keeps (s s' : Inbox) (now : Nat) : Prop where
  deleted : ∀ m ∈ s.box.mails, m.state = .deleted →
    ∀ m' ∈ s'.box.mails, m'.messageID = m.messageID → m'.state = .deleted
  counter : s.CounterExact now → s'.CounterExact now

/-- The requests that keep the mailbox in order. A mail that is marked as read is not deleted and, where the counter
is exact and not zero, unread. A mail that is deleted is read where the counter is exact. Where mails are listed and
the counter is exact, no deleted mail is delivered and without the read flag, or so many that the counter wraps around
to where it was. -/
def Orderly (s : Inbox) : Nat × MailRequest → Prop
  | (now, .markAsRead checkMailBox mailId) =>
    checkMailBox = true → ∀ m ∈ s.box.getMail mailId, m.state ≠ .deleted ∧
      (s.CounterExact now → s.unReadMails ≠ 0 → s.isUnread now m = true)
  | (now, .delete checkMailBox mailId) =>
    checkMailBox = true → ∀ m ∈ s.box.getMail mailId, m.cod = 0 → s.CounterExact now → s.isUnread now m = false
  | (now, .getMailList checkMailBox) =>
    checkMailBox = true → s.CounterExact now → s.box.mails.countP (fun m =>
      m.deliverTime ≤ now && m.state = .deleted && !isRead (s.checked m.messageID)) % 256 = 0
  | _ => True

instance : ∀ (s : Inbox) (op : Nat × MailRequest), Decidable (Orderly s op) := by
  rintro s ⟨now, op⟩
  cases op <;> unfold Orderly <;> infer_instance

variable {tables : ItemTables} {accounts : Accounts} {s : Inbox} {now mailId : Nat} {m : Mail}

theorem eq_of_messageID {m m' : Mail} (hm : m ∈ s.box.mails) (hm' : m' ∈ s.box.mails)
    (hid : m'.messageID = m.messageID) : m' = m :=
  List.inj_on_of_nodup_map s.ids hm' hm hid

theorem keeps_of_mails {s' : Inbox} (hmails : s'.box.mails = s.box.mails)
    (hchecked : s'.checked = s.checked) (hunread : s'.unReadMails = s.unReadMails) : s.Keeps s' now where
  deleted m hm hdeleted m' hm' hid := by
    rw [hmails] at hm'
    rw [eq_of_messageID hm hm' hid, hdeleted]
  counter hexact := by
    have hsame : s'.isUnread now = s.isUnread now := by simp [funext_iff, isUnread, hchecked]
    rw [CounterExact, hmails, hunread, hsame, hexact]

theorem isUnread_of_deleted (hdeleted : m.state = .deleted) : s.isUnread now m = false := by
  simp [isUnread, hdeleted]

theorem isUnread_saved : s.isUnread now m.saved = s.isUnread now m := by
  unfold isUnread Mail.saved
  split
  next hchanged => simp [hchanged]
  next => rfl

theorem countP_saved (mails : List Mail) :
    ((mails.filter (·.state ≠ .deleted)).map Mail.saved).countP (s.isUnread now) = mails.countP (s.isUnread now) := by
  induction mails with
  | nil => rfl
  | cons m mails ih =>
    by_cases hdeleted : m.state = .deleted
    · simp [hdeleted, isUnread_of_deleted hdeleted, ← ih]
    · simp [hdeleted, List.countP_cons, isUnread_saved, ← ih]

theorem keeps_save : s.Keeps s.save now := by
  unfold save
  split
  next =>
    refine ⟨fun m hm hdeleted m' hm' hid => ?_, fun hexact => ?_⟩
    · simp only [withBox, Mailbox.saveMail, List.mem_map, List.mem_filter, decide_eq_true_eq] at hm'
      obtain ⟨original, ⟨horiginal, hkept⟩, rfl⟩ := hm'
      rw [Mail.saved_messageID] at hid
      exact absurd (eq_of_messageID hm horiginal hid ▸ hdeleted) hkept
    · exact hexact.trans (countP_saved s.box.mails).symm
  next => exact keeps_of_mails rfl rfl rfl

theorem keeps_of_takes {box : Mailbox} (h : Takes now mailId s.box.mails box.mails) :
    s.Keeps (s.withBox box h.ids) now := by
  rcases h with hsame | ⟨m, change, hget, hstate, hchanged, hid, htime, htaken⟩
  · exact keeps_of_mails hsame rfl rfl
  · refine ⟨fun d hd hdeleted m' hm' hid' => ?_, fun hexact => ?_⟩
    · simp only [withBox, htaken, takenFrom, List.mem_map, List.mem_filter, decide_eq_true_eq] at hm'
      obtain ⟨original, ⟨horiginal, hkept⟩, rfl⟩ := hm'
      rw [Mail.saved_messageID] at hid'
      rcases mem_modifyMail hget s.ids horiginal with ⟨hin, -⟩ | rfl
      · exact absurd (eq_of_messageID hd hin hid' ▸ hdeleted) hkept
      · rw [hid] at hid'
        have hm := List.mem_of_find?_eq_some hget
        exact absurd (eq_of_messageID hd hm hid' ▸ hdeleted) hstate
    · have hcount := @countP_modifyMail mailId change s.box.mails m hget s.ids (s.isUnread now)
        (s.isUnread now) (fun _ _ => rfl)
      have hunread : s.isUnread now (change m) = s.isUnread now m := by
        simp [isUnread, hstate, hchanged, hid, htime]
      rw [hunread] at hcount
      have hsaved : box.mails.countP (s.isUnread now) = s.box.mails.countP (s.isUnread now) := by
        rw [htaken, takenFrom, countP_saved]
        omega
      exact hexact.trans hsaved.symm

theorem toNat_pred {n : UInt8} (h : n ≠ 0) : (n - 1).toNat + 1 = n.toNat := by
  have hpos : 0 < n.toNat := by
    rw [Nat.pos_iff_ne_zero]
    exact fun hzero => h (UInt8.toNat_inj.mp hzero)
  have hle : (1 : UInt8) ≤ n := UInt8.le_iff_toNat_le.mpr hpos
  rw [UInt8.toNat_sub_of_le n 1 hle]
  simp
  omega

theorem deleted_setMailState_iff (hget : s.box.getMail mailId = some m) {state : MailState}
    (hstate : state ≠ .deleted) : (∀ d ∈ s.box.mails, d.state = .deleted →
      ∀ m' ∈ (s.setMailState mailId state).box.mails, m'.messageID = d.messageID →
        m'.state = .deleted) ↔ m.state ≠ .deleted := by
  have hm := List.mem_of_find?_eq_some hget
  constructor
  · intro hkeeps hdeleted
    have hmem : m.withState state ∈ (s.setMailState mailId state).box.mails :=
      mem_modifyMail_self hget (Mail.withState state)
    exact hstate (hkeeps m hm hdeleted _ hmem rfl)
  · intro hkept d hd hdeleted m' hm' hid
    rcases mem_modifyMail hget s.ids hm' with ⟨hin, -⟩ | rfl
    · rw [eq_of_messageID hd hin hid, hdeleted]
    · exact absurd (eq_of_messageID hd hm hid ▸ hdeleted) hkept

theorem keeps_handleMailMarkAsRead_iff (hget : s.box.getMail mailId = some m) :
    s.Keeps (s.handleMailMarkAsRead true mailId) now ↔
      m.state ≠ .deleted ∧ (s.CounterExact now → s.unReadMails ≠ 0 → s.isUnread now m = true) := by
  have hid : m.messageID = mailId := by simpa using List.find?_some hget
  let s' := s.handleMailMarkAsRead true mailId
  have hs' : s' = { s.setMailState mailId .changed with
      checked := Function.update s.checked mailId (s.checked mailId ||| mailCheckMaskRead)
      unReadMails := if s.unReadMails = 0 then 0 else s.unReadMails - 1 } := by
    simp [s', handleMailMarkAsRead, hget]
  have hread : s'.isUnread now (m.withState .changed) = false := by
    simp [hs', isUnread, hid, isRead_or]
  have hcount : s'.box.mails.countP (s'.isUnread now) + (s.isUnread now m).toNat =
      s.box.mails.countP (s.isUnread now) := by
    have hmoved := @countP_modifyMail mailId (Mail.withState .changed) s.box.mails m hget s.ids
      (s.isUnread now) (s'.isUnread now)
      (fun other hother => by simp [hs', isUnread, Function.update_of_ne hother])
    rw [hread] at hmoved
    rw [hs'] at hmoved ⊢
    exact hmoved
  have hcounter : s'.unReadMails = if s.unReadMails = 0 then 0 else s.unReadMails - 1 := by rw [hs']
  have hdeleted := @deleted_setMailState_iff s mailId m hget .changed (by decide)
  change s.Keeps s' now ↔ _
  constructor
  · intro hkeeps
    refine ⟨hdeleted.mp (by simpa [hs'] using hkeeps.deleted), fun hexact hne => ?_⟩
    have hafter : s'.unReadMails.toNat = s'.box.mails.countP (s'.isUnread now) :=
      hkeeps.counter hexact
    have hpred := toNat_pred hne
    rw [hcounter, if_neg hne] at hafter
    rw [CounterExact] at hexact
    by_contra hnot
    rw [Bool.not_eq_true] at hnot
    rw [hnot, Bool.toNat_false] at hcount
    omega
  · rintro ⟨hkept, hunread⟩
    refine ⟨by simpa [hs'] using hdeleted.mpr hkept, fun hexact => ?_⟩
    have hbefore : s.unReadMails.toNat = s.box.mails.countP (s.isUnread now) := hexact
    rw [CounterExact, hcounter]
    by_cases hzero : s.unReadMails = 0
    · rw [if_pos hzero]
      have hnone : s.unReadMails.toNat = 0 := by rw [hzero]; rfl
      have htarget : (0 : UInt8).toNat = 0 := rfl
      omega
    · rw [hunread hexact hzero, Bool.toNat_true] at hcount
      have hpred := toNat_pred hzero
      rw [if_neg hzero]
      omega

theorem keeps_handleMailDelete_iff (hget : s.box.getMail mailId = some m) :
    s.Keeps (s.handleMailDelete true mailId) now ↔ (m.cod = 0 → s.CounterExact now → s.isUnread now m = false) := by
  have hm := List.mem_of_find?_eq_some hget
  by_cases hcod : m.cod = 0
  · have hcount := @countP_modifyMail mailId (Mail.withState .deleted) s.box.mails m hget s.ids
      (s.isUnread now) (s.isUnread now) (fun _ _ => rfl)
    rw [isUnread_of_deleted (m := m.withState .deleted) rfl, Bool.toNat_false] at hcount
    have hs' : s.handleMailDelete true mailId = s.setMailState mailId .deleted := by
      simp [handleMailDelete, hget, hcod]
    rw [hs']
    have hexact_iff : (s.setMailState mailId .deleted).CounterExact now ↔ s.unReadMails.toNat =
        (modifyMail mailId (Mail.withState .deleted) s.box.mails).countP (s.isUnread now) := Iff.rfl
    constructor
    · intro hkeeps _ hexact
      have hafter := hexact_iff.mp (hkeeps.counter hexact)
      rw [CounterExact] at hexact
      apply Bool.toNat_eq_zero.mp
      omega
    · intro hread
      refine ⟨fun d hd hdeleted m' hm' hid => ?_, fun hexact => ?_⟩
      · rcases mem_modifyMail hget s.ids hm' with ⟨hin, -⟩ | rfl
        · rw [eq_of_messageID hd hin hid, hdeleted]
        · rfl
      · rw [hread hcod hexact, Bool.toNat_false] at hcount
        rw [hexact_iff]
        exact hexact.trans hcount.symm
  · have hs' : s.handleMailDelete true mailId =
        s.withBox { s.box with mailsUpdated := true } (List.Sublist.refl _) := by
      simp [handleMailDelete, hget, hcod]
    rw [hs']
    exact iff_of_true (keeps_of_mails rfl rfl rfl) (fun h => absurd h hcod)

theorem keeps_updateUnreads_iff : s.Keeps (s.updateUnreads now) now ↔ (s.CounterExact now → s.box.mails.countP (fun m =>
      m.deliverTime ≤ now && m.state = .deleted && !isRead (s.checked m.messageID)) % 256 = 0) := by
  have hsplit : s.box.mails.countP (fun m => m.deliverTime ≤ now && !isRead (s.checked m.messageID)) =
      s.box.mails.countP (s.isUnread now) + s.box.mails.countP (fun m =>
        m.deliverTime ≤ now && m.state = .deleted && !isRead (s.checked m.messageID)) := by
    induction s.box.mails with
    | nil => rfl
    | cons m mails ih =>
      simp only [List.countP_cons, ih, isUnread]
      by_cases hdeleted : m.state = .deleted <;> simp [hdeleted] <;> omega
  have hafter : (s.updateUnreads now).CounterExact now ↔
      (s.box.mails.countP (s.isUnread now) + s.box.mails.countP (fun m =>
        m.deliverTime ≤ now && m.state = .deleted && !isRead (s.checked m.messageID))) % 256 =
      s.box.mails.countP (s.isUnread now) := by
    rw [← hsplit, CounterExact]
    simp only [updateUnreads, UInt8.toNat_ofNat']
    exact Iff.rfl
  constructor
  · intro hkeeps hexact
    have hmod := hafter.mp (hkeeps.counter hexact)
    rw [CounterExact] at hexact
    have hsmall := s.unReadMails.toNat_lt
    omega
  · intro hnone
    have hsame : s.Keeps { s with unReadMails := s.unReadMails } now := keeps_of_mails rfl rfl rfl
    refine ⟨hsame.deleted, fun hexact => hafter.mpr ?_⟩
    have hzero := hnone hexact
    rw [CounterExact] at hexact
    have hsmall := s.unReadMails.toNat_lt
    omega

theorem keeps_step_iff (tables : ItemTables) (accounts : Accounts) (s : Inbox)
    (op : Nat × MailRequest) : s.Keeps (step tables accounts s op) op.1 ↔ Orderly s op := by
  obtain ⟨now, op⟩ := op
  have hsame : s.Keeps s now := keeps_of_mails rfl rfl rfl
  cases op with
  | markAsRead checkMailBox mailId =>
    cases checkMailBox with
    | false => exact iff_of_true hsame (by simp [Orderly])
    | true =>
      cases hget : s.box.getMail mailId with
      | none =>
        have hstep : s.handleMailMarkAsRead true mailId = s := by
          simp [handleMailMarkAsRead, hget]
        simpa [step, hstep, Orderly, hget] using hsame
      | some m => simpa [step, Orderly, hget] using keeps_handleMailMarkAsRead_iff hget
  | delete checkMailBox mailId =>
    cases checkMailBox with
    | false => exact iff_of_true hsame (by simp [Orderly])
    | true =>
      cases hget : s.box.getMail mailId with
      | none =>
        have hstep : s.handleMailDelete true mailId =
            s.withBox { s.box with mailsUpdated := true } (List.Sublist.refl _) := by
          simp [handleMailDelete, hget]
        refine iff_of_true ?_ (by simp [Orderly, hget])
        change s.Keeps (s.handleMailDelete true mailId) now
        rw [hstep]
        exact keeps_of_mails rfl rfl rfl
      | some m => simpa [step, Orderly, hget] using keeps_handleMailDelete_iff hget
  | takeItem checkMailBox mailId itemId =>
    exact iff_of_true
      (keeps_of_takes (takes_handleMailTakeItem tables accounts s.box checkMailBox now mailId itemId))
      trivial
  | takeMoney checkMailBox mailId =>
    exact iff_of_true (keeps_of_takes (takes_handleMailTakeMoney s.box checkMailBox now mailId)) trivial
  | getMailList checkMailBox =>
    cases checkMailBox with
    | false => exact iff_of_true hsame (by simp [Orderly])
    | true => simpa [step, handleGetMailList, Orderly] using keeps_updateUnreads_iff
  | save => exact iff_of_true keeps_save trivial

/-- A run keeps the mailbox in order at every request exactly when each of its requests does. -/
theorem keeps_run (tables : ItemTables) (accounts : Accounts) (s : Inbox) (ops : List (Nat × MailRequest)) :
    Guarded (step tables accounts) (fun s op => s.Keeps (step tables accounts s op) op.1) s ops ↔
      Guarded (step tables accounts) Orderly s ops :=
  @guarded_iff_of_invariant _ _ (step tables accounts) _ _ (fun _ => True) (fun _ _ _ => trivial)
    (fun s op _ => keeps_step_iff tables accounts s op) s ops trivial

end Inbox

/-! A player has one mail, deletes it unread and then marks it as read. -/

private def unreadTables : ItemTables := .ofPrototypes [.trinket 4500]

private def unreadAccounts : Accounts := .oneEach

private def oneMail : Inbox where
  box := {
    player := { guid := 1, account := 1, inventory := ⟨fun _ => none⟩, money := 100 }
    mails := [{
      messageID := 1, sender := 2, items := [], removedItems := []
      deliverTime := 0, money := 0, cod := 0, state := .unchanged }]
    mItems := MailedItems.empty
    mailsUpdated := false
    nextItemGuid := 103
    payments := [] }
  ids := by decide
  checked := fun _ => 0
  unReadMails := 1

/-- The deleted mail comes back. -/
theorem keeps_run_markedDeleted :
    ¬ ∀ (tables : ItemTables) (accounts : Accounts) (s : Inbox) (ops : List (Nat × MailRequest)),
      Guarded (Inbox.step tables accounts) (fun s op => s.Keeps (Inbox.step tables accounts s op) op.1) s ops := by
  intro h
  have hkeeps := h unreadTables unreadAccounts oneMail
    [(60, .delete true 1), (60, .markAsRead true 1)]
  have hdeleted := hkeeps.2.1.deleted _ (List.mem_singleton_self _) rfl
    _ (List.mem_singleton_self _) rfl
  exact absurd hdeleted (by decide)

end Mangos
