import Mangos.Framework.Digits
import Mangos.Mail.Mail

/-!
# The list of mails for the client

The packet has a record for each mail.
-/

namespace Mangos

open Framework

/-- `MailMessageType`, the type of the sender that a mail is made with. -/
inductive MailMessageType
  | normal | auction | creature | gameobject | calendar
  deriving DecidableEq, Repr

def MailMessageType.toNat : MailMessageType → Nat
  | normal => 0
  | auction => 2
  | creature => 3
  | gameobject => 4
  | calendar => 5

/-- A mail with the fields that the list shows, the strings as bytes. -/
structure ListedMail extends Mail where
  messageType : MailMessageType
  stationery : Nat
  mailTemplateId : Nat
  subject : List UInt8
  body : List UInt8
  expireTime : Int
  checked : Nat
  deriving DecidableEq, Repr

def maxInspectedEnchantmentSlot : Nat := 10

structure ItemEnchantment where
  charges : Nat := 0
  duration : Nat := 0
  id : Nat := 0
  deriving DecidableEq, Repr

/-- The fields of an item that the list shows. -/
structure ListedItem where
  guidLow : Nat
  entry : Nat
  enchantments : Fin maxInspectedEnchantmentSlot → ItemEnchantment
  randomPropertyId : Nat
  suffixFactor : Nat
  count : Nat
  spellCharges : Nat
  maxDurability : Nat
  durability : Nat

namespace ListedMail

variable (m : ListedMail)

def itemCount : Nat := m.items.length % 2 ^ 8

/-- `next_mail_size`, the size of the record as it is foretold. -/
def nextMailSize : Nat :=
  2 + 4 + 1 + (if m.messageType = .normal then 8 else 4) + 4 * 8 + (m.subject.length + 1) +
    (m.body.length + 1) + 1 + m.itemCount * (1 + 4 + 4 + 7 * 3 * 4 + 4 + 4 + 4 + 4 + 4 + 4 + 1)

/-- The mail is not deleted, and the delay of its delivery is over. -/
def delivered (now : Nat) : Bool := m.state ≠ .deleted && m.deliverTime ≤ now

def senderBytes : List UInt8 :=
  match m.messageType with
  | .normal => toBytesWide 8 m.sender
  | .creature | .gameobject | .auction => toBytesWide 4 m.sender
  | .calendar => toBytesWide 4 0

def itemBytes (getMItem : Nat → Option ListedItem) (i : Nat) : List UInt8 :=
  let item := m.items[i]?.bind fun info => getMItem info.itemGuid
  let word (field : ListedItem → Nat) := toBytesWide 4 (item.elim 0 field)
  toBytesWide 1 i ++ word (·.guidLow) ++ word (·.entry) ++ ((List.finRange maxInspectedEnchantmentSlot).flatMap fun j =>
      word (fun item => (item.enchantments j).charges) ++
        word (fun item => (item.enchantments j).duration) ++ word (fun item => (item.enchantments j).id)) ++
    word (·.randomPropertyId) ++ word (·.suffixFactor) ++ word (·.count) ++ word (·.spellCharges) ++
    word (·.maxDurability) ++ word (·.durability) ++ toBytesWide 1 0

/-- What is written for a mail; `daysBits` are the bits of the number of days that it is kept, a
floating point number. -/
def record (daysBits : Int → Nat) (getMItem : Nat → Option ListedItem) (now : Nat) : List UInt8 :=
  toBytesWide 2 m.nextMailSize ++ toBytesWide 4 m.messageID ++ toBytesWide 1 m.messageType.toNat ++
    m.senderBytes ++ toBytesWide 8 m.cod ++ toBytesWide 4 0 ++ toBytesWide 4 m.stationery ++
    toBytesWide 8 m.money ++ toBytesWide 4 m.checked ++ toBytesWide 4 (daysBits (m.expireTime - now)) ++
    toBytesWide 4 m.mailTemplateId ++ (m.subject ++ [0]) ++ (m.body ++ [0]) ++ toBytesWide 1 m.itemCount ++
    (List.range m.itemCount).flatMap (m.itemBytes getMItem)

end ListedMail

/-- The client works with no packet that is larger. -/
def maxPacketSize : Nat := 32767

/-- The packet as it is built: the records behind the header, and the counts that are put into the
header at the end. -/
structure MailList where
  records : List (List UInt8) := []
  mailsCount : Nat := 0
  realCount : Nat := 0
  deriving DecidableEq, Repr

namespace MailList

def wpos (list : MailList) : Nat := 4 + 1 + list.records.flatten.length

def data (list : MailList) : List UInt8 :=
  toBytesWide 4 list.realCount ++ toBytesWide 1 list.mailsCount ++ list.records.flatten

variable (daysBits : Int → Nat) (getMItem : Nat → Option ListedItem) (now : Nat)

/-- What the loop of `HandleGetMailList` does with a mail. -/
def addMail (list : MailList) (m : ListedMail) : MailList :=
  if 254 ≤ list.mailsCount then { list with realCount := list.realCount + 1 }
  else if m.state = .deleted ∨ now < m.deliverTime then list
  else if maxPacketSize < list.wpos + m.nextMailSize then { list with realCount := list.realCount + 1 }
  else
    { records := list.records ++ [m.record daysBits getMItem now]
      mailsCount := list.mailsCount + 1
      realCount := list.realCount + 1 }

/-- `WorldSession::HandleGetMailList`, for a mailbox that the player can use. -/
def handleGetMailList (mails : List ListedMail) : MailList :=
  mails.foldl (addMail daysBits getMItem now) {}

end MailList

section Sizes

variable (m : ListedMail) (daysBits : Int → Nat) (getMItem : Nat → Option ListedItem) (now : Nat)

theorem length_itemBytes (i : Nat) : (m.itemBytes getMItem i).length = 154 := by
  simp [ListedMail.itemBytes, maxInspectedEnchantmentSlot]

theorem length_senderBytes : m.senderBytes.length = if m.messageType = .normal then 8 else 4 := by
  rw [ListedMail.senderBytes]
  cases m.messageType <;> simp

theorem length_record : (m.record daysBits getMItem now).length = m.nextMailSize + 4 + 36 * m.itemCount := by
  have hitems : ((List.range m.itemCount).flatMap (m.itemBytes getMItem)).length = 154 * m.itemCount := by
    simp [List.length_flatMap, length_itemBytes, Nat.mul_comm]
  simp only [ListedMail.record, List.length_append, length_toBytesWide, length_senderBytes, hitems,
    List.length_singleton, ListedMail.nextMailSize]
  omega

theorem take_record : (m.record daysBits getMItem now).take 2 = toBytesWide 2 m.nextMailSize := by
  simp only [ListedMail.record, List.append_assoc]
  exact List.take_left' (length_toBytesWide 2 _)

end Sizes

namespace MailList

/-- The number in the header is that of the delivered mails that are not deleted, the count byte that of the records
behind it, the number before each record its length, and the client can work with the packet's size. -/
structure DescribesItself (list : MailList) (now : Nat) (mails : List ListedMail) : Prop where
  total : ofBytes (list.data.take 4) = mails.countP (·.delivered now)
  count : (list.data[4]?).map UInt8.toNat = some list.records.length
  sizes : ∀ record ∈ list.records, ofBytes (record.take 2) = record.length
  length : list.data.length ≤ maxPacketSize

theorem data_total (list : MailList) : ofBytes (list.data.take 4) = list.realCount % 2 ^ 32 := by
  have htake : list.data.take 4 = toBytesWide 4 list.realCount := by
    rw [data, List.append_assoc]
    exact List.take_left' (length_toBytesWide 4 _)
  have hwidth : 256 ^ 4 = 2 ^ 32 := by decide
  rw [htake, ofBytes_toBytesWide, hwidth]

theorem data_count (list : MailList) : list.data[4]? = some (UInt8.ofNat list.mailsCount) := by
  rw [data, List.append_assoc, List.getElem?_append_right (by simp)]
  simp [toBytesWide]

variable (daysBits : Int → Nat) (getMItem : Nat → Option ListedItem) (now : Nat)
  {list : MailList} {m : ListedMail}

/-- The records are counted, and none has the length that stands before it. -/
structure Written (list : MailList) : Prop where
  count : list.mailsCount = list.records.length
  few : list.mailsCount ≤ 254
  sizes : ∀ record ∈ list.records, ofBytes (record.take 2) ≠ record.length

theorem size_ne_length (hfits : m.nextMailSize ≤ maxPacketSize) :
    ofBytes ((m.record daysBits getMItem now).take 2) ≠ (m.record daysBits getMItem now).length := by
  have hword : m.nextMailSize % 256 ^ 2 = m.nextMailSize := by
    apply Nat.mod_eq_of_lt
    rw [maxPacketSize] at hfits
    omega
  rw [take_record, ofBytes_toBytesWide, hword, length_record]
  omega

theorem written_addMail (h : list.Written) (m : ListedMail) : (list.addMail daysBits getMItem now m).Written := by
  rw [addMail]
  split_ifs with hfull hskip hlarge
  · exact ⟨h.count, h.few, h.sizes⟩
  · exact h
  · exact ⟨h.count, h.few, h.sizes⟩
  · refine ⟨?_, ?_, ?_⟩
    · simp [h.count]
    · dsimp only
      omega
    · intro record hrecord
      dsimp only at hrecord
      rcases List.mem_append.mp hrecord with hold | hnew
      · exact h.sizes record hold
      · rw [List.mem_singleton.mp hnew]
        exact size_ne_length daysBits getMItem now (by omega)

theorem written_handleGetMailList (mails : List ListedMail) :
    (handleGetMailList daysBits getMItem now mails).Written := by
  have hfold : ∀ (mails : List ListedMail) (list : MailList), list.Written →
      (mails.foldl (addMail daysBits getMItem now) list).Written := by
    intro mails
    induction mails with
    | nil => exact fun _ h => h
    | cons m mails ih => exact fun list h => ih _ (written_addMail daysBits getMItem now h m)
  exact hfold mails {} ⟨rfl, Nat.zero_le _, fun _ h => absurd h List.not_mem_nil⟩

def FitsAlone (now : Nat) (m : ListedMail) : Prop :=
  m.delivered now = true ∧ 5 + m.nextMailSize ≤ maxPacketSize

def withoutRecords (n : Nat) : MailList := { realCount := n }

theorem addMail_withoutRecords (n : Nat) (hlarge : ¬ FitsAlone now m) :
    addMail daysBits getMItem now (withoutRecords n) m = withoutRecords (n + if m.delivered now then 1 else 0) := by
  rw [FitsAlone, not_and, not_le] at hlarge
  by_cases hdelivered : m.delivered now = true
  · have hsize := hlarge hdelivered
    simp only [ListedMail.delivered, Bool.and_eq_true, decide_eq_true_eq] at hdelivered
    simp [addMail, withoutRecords, wpos, hsize, ListedMail.delivered, hdelivered]
  · have hskip : m.state = .deleted ∨ now < m.deliverTime := by
      simp only [ListedMail.delivered, Bool.and_eq_true, decide_eq_true_eq, not_and, not_le] at hdelivered
      exact or_iff_not_imp_left.mpr hdelivered
    simp [addMail, withoutRecords, hskip, hdelivered]

theorem records_ne_nil (mails : List ListedMail) (n : Nat) (hfits : ∃ m ∈ mails, FitsAlone now m) :
    (mails.foldl (addMail daysBits getMItem now) (withoutRecords n)).records ≠ [] := by
  have hgrow : ∀ (mails : List ListedMail) (list : MailList), list.records ≠ [] →
      (mails.foldl (addMail daysBits getMItem now) list).records ≠ [] := by
    intro mails
    induction mails with
    | nil => exact fun _ h => h
    | cons m mails ih =>
      intro list h
      apply ih
      rw [addMail]
      split_ifs
      · exact h
      · exact h
      · exact h
      · simp
  induction mails generalizing n with
  | nil =>
    obtain ⟨m, hm, -⟩ := hfits
    cases hm
  | cons m mails ih =>
    rw [List.foldl_cons]
    by_cases hthis : FitsAlone now m
    · apply hgrow
      obtain ⟨hdelivered, hsize⟩ := hthis
      simp only [ListedMail.delivered, Bool.and_eq_true, decide_eq_true_eq] at hdelivered
      have hkept : ¬ (m.state = .deleted ∨ now < m.deliverTime) := by
        rw [not_or, not_lt]
        exact hdelivered
      simp [addMail, withoutRecords, wpos, hkept, Nat.not_lt.mpr hsize]
    · obtain ⟨other, hother, hfits⟩ := hfits
      rw [addMail_withoutRecords daysBits getMItem now n hthis]
      rcases List.mem_cons.mp hother with rfl | hrest
      · exact absurd hfits hthis
      · exact ih _ ⟨other, hrest, hfits⟩

theorem handleGetMailList_none {mails : List ListedMail} (hnone : ∀ m ∈ mails, ¬ FitsAlone now m) :
    handleGetMailList daysBits getMItem now mails = withoutRecords (mails.countP (·.delivered now)) := by
  have hfold : ∀ n, mails.foldl (addMail daysBits getMItem now) (withoutRecords n) =
      withoutRecords (n + mails.countP (·.delivered now)) := by
    induction mails with
    | nil => exact fun n => rfl
    | cons m mails ih =>
      intro n
      rw [List.foldl_cons, addMail_withoutRecords daysBits getMItem now n (hnone m List.mem_cons_self),
        ih fun other hother => hnone other (List.mem_cons_of_mem m hother), List.countP_cons]
      congr 1
      omega
  rw [← Nat.zero_add (mails.countP _)]
  exact hfold 0

end MailList

/-- The packet describes itself exactly if it has no record, since no mail to be listed fits into it, and 32 bits hold
the number of these mails. -/
theorem mailList_describesItself_iff (daysBits : Int → Nat) (getMItem : Nat → Option ListedItem)
    (now : Nat) (mails : List ListedMail) :
    (MailList.handleGetMailList daysBits getMItem now mails).DescribesItself now mails ↔
      (∀ m ∈ mails, m.delivered now = true → maxPacketSize < 5 + m.nextMailSize) ∧
        mails.countP (·.delivered now) < 2 ^ 32 := by
  constructor
  · intro h
    have hwritten := MailList.written_handleGetMailList daysBits getMItem now mails
    have hempty : (MailList.handleGetMailList daysBits getMItem now mails).records = [] := by
      apply List.eq_nil_iff_forall_not_mem.mpr
      intro record hrecord
      exact hwritten.sizes record hrecord (h.sizes record hrecord)
    have hnone : ∀ m ∈ mails, ¬ MailList.FitsAlone now m := by
      intro m hm hfits
      exact MailList.records_ne_nil daysBits getMItem now mails 0 ⟨m, hm, hfits⟩ hempty
    refine ⟨fun m hm hdelivered => ?_, ?_⟩
    · have hlarge := hnone m hm
      rw [MailList.FitsAlone, not_and, not_le] at hlarge
      exact hlarge hdelivered
    · have htotal := h.total
      rw [MailList.handleGetMailList_none daysBits getMItem now hnone] at htotal
      rw [MailList.data_total] at htotal
      rw [← htotal]
      exact Nat.mod_lt _ (by decide)
  · rintro ⟨hlarge, hfew⟩
    have hnone : ∀ m ∈ mails, ¬ MailList.FitsAlone now m := by
      intro m hm hfits
      have hsize := hlarge m hm hfits.1
      have hsize' := hfits.2
      omega
    rw [MailList.handleGetMailList_none daysBits getMItem now hnone]
    refine ⟨?_, ?_, fun record hrecord => absurd hrecord List.not_mem_nil, ?_⟩
    · rw [MailList.data_total]
      exact Nat.mod_eq_of_lt hfew
    · rw [MailList.data_count]
      rfl
    · simp [MailList.data, MailList.withoutRecords, maxPacketSize]

/-- A letter without text, which is 54 bytes long and said to be 50. -/
def emptyLetter : ListedMail where
  messageID := 1
  sender := 7
  items := []
  removedItems := []
  deliverTime := 0
  money := 0
  cod := 0
  state := .unchanged
  messageType := .normal
  stationery := 41
  mailTemplateId := 0
  subject := []
  body := []
  expireTime := 0
  checked := 0

theorem emptyLetter_size : ¬ (MailList.handleGetMailList (fun _ => 0) (fun _ => none) 1 [emptyLetter]).DescribesItself 1
      [emptyLetter] := by
  intro h
  have hsize := h.sizes (emptyLetter.record (fun _ => 0) (fun _ => none) 1) (by decide +kernel)
  revert hsize
  decide +kernel

end Mangos
