import Mathlib.Data.List.FinRange
import Mangos.Bytes.Appending
import Mangos.Bytes.GuidFields

/-!
# The packet of a mail that is sent

The bits and bytes of the mailbox's guid and of the items' guids are mixed with the lengths of the texts.
-/

namespace Mangos

open Framework ByteBuffer GuidStep

def maxMailItems : Nat := 12

abbrev MailGuids := Fin (maxMailItems + 1) → ObjectGuid

/-- `itemGuids[0]` up to `itemGuids[items_count - 1]`. -/
def itemKeys (count : Nat) : List (Fin (maxMailItems + 1)) := ((List.finRange maxMailItems).take count).map Fin.succ

local instance guidBytes : NeZero 8 := ⟨by decide⟩

def mailMasks (count : Nat) : List (GuidStep (maxMailItems + 1)) :=
  .mask 0 [0] :: (itemKeys count).map (.mask · [2, 6, 3, 7, 1, 0, 4, 5]) ++ [.mask 0 [3, 4]]

def mailboxStart : List (GuidStep (maxMailItems + 1)) := [.mask 0 [2, 6, 1, 7, 5], .bytes 0 [4]]

structure MailHeader where
  unk1 : Nat
  unk2 : Nat
  cod : Nat
  money : Nat
  bodyLen : Nat
  subjectLen : Nat
  itemsCount : Nat

/-- The first fields; `bodyLen` and `subjectLen` are of type `uint8`. -/
def readMailHeader (b : ByteBuffer) : Option (MailHeader × ByteBuffer) :=
  (b.readNumber .w32).bind fun unk1 =>
  (unk1.2.readNumber .w32).bind fun unk2 =>
  (unk2.2.readNumber .w64).bind fun cod =>
  (cod.2.readNumber .w64).bind fun money =>
  (readBits 12 money.2).bind fun bodyLen =>
  (readBits 9 bodyLen.2).bind fun subjectLen =>
  (readBits 5 subjectLen.2).map fun count =>
    (⟨unk1.1, unk2.1, cod.1, money.1, bodyLen.1 % 256, subjectLen.1 % 256, count.1⟩, count.2)

def readItemBytes : List (Fin (maxMailItems + 1)) → MailGuids → ByteBuffer → Option (MailGuids × ByteBuffer)
  | [], guids, b => some (guids, b)
  | k :: keys, guids, b =>
    (readGuidSteps [.bytes k [6, 1, 7, 2]] guids b).bind fun first =>
    (first.2.read 1).bind fun slot =>
    (readGuidSteps [.bytes k [3, 0, 4, 5]] first.1 slot.2).bind fun second =>
      readItemBytes keys second.1 second.2

/-- The guids up to the texts, with `receiverLen`. -/
def readMailGuids (count : Nat) (b : ByteBuffer) : Option ((MailGuids × Nat) × ByteBuffer) :=
  (readGuidSteps (mailMasks count) (fun _ => ObjectGuid.empty) b).bind fun masks =>
  (readBits 7 masks.2).bind fun receiverLen =>
  (readGuidSteps mailboxStart masks.1 receiverLen.2).bind fun start =>
  (readItemBytes (itemKeys count) start.1 start.2).bind fun items =>
  (readGuidSteps [.bytes 0 [7, 3, 6, 5]] items.1 items.2).map fun guids =>
    ((guids.1, receiverLen.1), guids.2)

structure MailTexts where
  guids : MailGuids
  subject : List UInt8
  receiver : List UInt8
  body : List UInt8

def readMailTexts (subjectLen receiverLen bodyLen : Nat) (guids : MailGuids) (b : ByteBuffer) :
    Option (MailTexts × ByteBuffer) :=
  (readStringOf subjectLen b).bind fun subject =>
  (readStringOf receiverLen subject.2).bind fun receiver =>
  (readGuidSteps [.bytes 0 [2, 0]] guids receiver.2).bind fun middle =>
  (readStringOf bodyLen middle.2).bind fun body =>
  (readGuidSteps [.bytes 0 [1]] middle.1 body.2).map fun last =>
    (⟨last.1, subject.1, receiver.1, body.1⟩, last.2)

/-- What `HandleSendMail` has when the packet is read. -/
structure SendMailFields where
  unk1 : Nat
  unk2 : Nat
  cod : Nat
  money : Nat
  mailbox : ObjectGuid
  items : List ObjectGuid
  subject : List UInt8
  receiver : List UInt8
  body : List UInt8

inductive SendMailRead
  | tooManyAttachments
  | fields (fields : SendMailFields)

/-- The reading part of `HandleSendMail`. -/
def readSendMail (b : ByteBuffer) : Option (SendMailRead × ByteBuffer) :=
  (readMailHeader b).bind fun header =>
    if maxMailItems < header.1.itemsCount then
      some (.tooManyAttachments, { header.2 with rpos := header.2.storage.length })
    else
      (readMailGuids header.1.itemsCount header.2).bind fun guids =>
      (readMailTexts header.1.subjectLen guids.1.2 header.1.bodyLen guids.1.1 guids.2).map fun texts =>
        (.fields
          { unk1 := header.1.unk1, unk2 := header.1.unk2, cod := header.1.cod, money := header.1.money
            mailbox := texts.1.guids 0
            items := (itemKeys header.1.itemsCount).map texts.1.guids
            subject := texts.1.subject, receiver := texts.1.receiver, body := texts.1.body }, texts.2)

/-- A mail whose texts and items have room in the packet, with the slot bytes that nobody reads. -/
structure SendMail where
  unk1 : UInt32
  unk2 : UInt32
  cod : UInt64
  money : UInt64
  mailbox : ObjectGuid
  items : List ObjectGuid
  slot : Fin (maxMailItems + 1) → UInt8
  subject : List UInt8
  receiver : List UInt8
  body : List UInt8
  items_le : items.length ≤ maxMailItems
  subject_lt : subject.length < 2 ^ 9
  receiver_lt : receiver.length < 2 ^ 7
  body_lt : body.length < 2 ^ 12

namespace SendMail

variable (m : SendMail)

def guids : MailGuids := fun k =>
  if k.val = 0 then m.mailbox else (m.items[k.val - 1]?).getD ObjectGuid.empty

def keys : List (Fin (maxMailItems + 1)) := itemKeys m.items.length

def stepItems (steps : List (GuidStep (maxMailItems + 1))) : List StreamItem := steps.flatMap (GuidStep.items m.guids)

def headerItems : List StreamItem :=
  byteItems (toBytesWide IntWidth.w32.bytes m.unk1.toNat) ++ (byteItems (toBytesWide IntWidth.w32.bytes m.unk2.toNat) ++
      (byteItems (toBytesWide IntWidth.w64.bytes m.cod.toNat) ++
        (byteItems (toBytesWide IntWidth.w64.bytes m.money.toNat) ++
          (bitItems m.body.length 12 ++ (bitItems m.subject.length 9 ++ bitItems m.items.length 5)))))

def itemItems (k : Fin (maxMailItems + 1)) : List StreamItem :=
  m.stepItems [.bytes k [6, 1, 7, 2]] ++ (byteItems [m.slot k] ++ m.stepItems [.bytes k [3, 0, 4, 5]])

def guidItems : List StreamItem :=
  m.stepItems (mailMasks m.items.length) ++ (bitItems m.receiver.length 7 ++
    (m.stepItems mailboxStart ++ (m.keys.flatMap m.itemItems ++ m.stepItems [.bytes 0 [7, 3, 6, 5]])))

def textItems : List StreamItem :=
  byteItems m.subject ++ (byteItems m.receiver ++ (m.stepItems [.bytes 0 [2, 0]] ++
    (byteItems m.body ++ m.stepItems [.bytes 0 [1]])))

def packet : List UInt8 := layOut [] (m.headerItems ++ (m.guidItems ++ m.textItems))

def toFields : SendMailFields where
  unk1 := m.unk1.toNat
  unk2 := m.unk2.toNat
  cod := m.cod.toNat
  money := m.money.toNat
  mailbox := m.mailbox
  items := m.items
  subject := m.subject
  receiver := m.receiver
  body := m.body

/-- All fields are recovered and the packet is read to its end. -/
def Recovered : Prop :=
  ∃ b', readSendMail (ofStorage m.packet) = some (.fields m.toFields, b') ∧ b'.rpos = m.packet.length

def itemSteps (keys : List (Fin (maxMailItems + 1))) : List (GuidStep (maxMailItems + 1)) :=
  keys.flatMap fun k => [.bytes k [6, 1, 7, 2], .bytes k [3, 0, 4, 5]]

def lastSteps : List (GuidStep (maxMailItems + 1)) :=
  [.bytes 0 [7, 3, 6, 5], .bytes 0 [2, 0], .bytes 0 [1]]

def allSteps (count : Nat) : List (GuidStep (maxMailItems + 1)) :=
  mailMasks count ++ (mailboxStart ++ (itemSteps (itemKeys count) ++ lastSteps))

theorem awaited_allSteps {count : Nat} (h : count ≤ maxMailItems) : Awaited (allSteps count) := by
  have hall : ∀ count : Fin (maxMailItems + 1),
      (∀ k i, (maskOrder k (allSteps count)).count i ≤ (byteOrder k (allSteps count)).count i) ∧
      (∀ k i, (byteOrder k (allSteps count)).count i ≤ 1) ∧ MasksFirst (allSteps count) := by
    decide +kernel
  obtain ⟨hmask, hbyte, hfirst⟩ := hall ⟨count, Nat.lt_succ_of_le h⟩
  exact ⟨hmask, hbyte, hfirst⟩

theorem partly_allSteps : partly m.guids (allSteps m.items.length) = fun _ => ObjectGuid.empty := by
  have hall : ∀ count k : Fin (maxMailItems + 1), k.val ≤ count.val →
      ∀ i, i ∈ maskOrder k (allSteps count) ∧ i ∈ byteOrder k (allSteps count) := by
    decide +kernel
  funext k i
  by_cases hk : k.val ≤ m.items.length
  · obtain ⟨hmask, hbyte⟩ := hall ⟨m.items.length, Nat.lt_succ_of_le m.items_le⟩ k hk i
    simp only at hmask hbyte
    simp [partly, MovementReader.guidAfter, hmask, hbyte, ObjectGuid.empty]
  · have hnone : m.items[k.val - 1]? = none := List.getElem?_eq_none (by omega)
    have hzero : m.guids k i = 0 := by
      rw [guids, if_neg (by omega), hnone]
      rfl
    simp only [partly, MovementReader.guidAfter, hzero, ObjectGuid.empty]
    split
    · rfl
    · split <;> rfl

theorem map_keys : m.keys.map m.guids = m.items := by
  apply List.ext_getElem
  · rw [keys, itemKeys, List.length_map, List.length_map, List.length_take, List.length_finRange]
    exact Nat.min_eq_left m.items_le
  · intro i hi hi'
    simp [keys, itemKeys, guids, hi']

variable {m} {b : ByteBuffer} {whole : List UInt8} {rest : List StreamItem}

theorem reads_header (h : b.Reads whole (m.headerItems ++ rest)) :
    ∃ b', readMailHeader b = some (⟨m.unk1.toNat, m.unk2.toNat, m.cod.toNat, m.money.toNat, m.body.length % 256,
      m.subject.length % 256, m.items.length⟩, b') ∧ b'.Reads whole rest := by
  have hitems : m.items.length < 2 ^ 5 := m.items_le.trans_lt (by decide)
  simp only [headerItems, List.append_assoc] at h
  obtain ⟨b₁, h1, h⟩ := Reads.readNumber (m.unk1.toNat_lt : _ < 256 ^ 4) h
  obtain ⟨b₂, h2, h⟩ := Reads.readNumber (m.unk2.toNat_lt : _ < 256 ^ 4) h
  obtain ⟨b₃, h3, h⟩ := Reads.readNumber (m.cod.toNat_lt : _ < 256 ^ 8) h
  obtain ⟨b₄, h4, h⟩ := Reads.readNumber (m.money.toNat_lt : _ < 256 ^ 8) h
  obtain ⟨b₅, h5, h⟩ := h.readBits
  obtain ⟨b₆, h6, h⟩ := h.readBits
  obtain ⟨b₇, h7, h⟩ := h.readBits
  refine ⟨b₇, ?_, h⟩
  rw [Nat.mod_eq_of_lt m.body_lt] at h5
  rw [Nat.mod_eq_of_lt m.subject_lt] at h6
  rw [Nat.mod_eq_of_lt hitems] at h7
  simp only [readMailHeader, h1, h2, h3, h4, h5, h6, h7, Option.bind_some, Option.map_some]

theorem reads_itemBytes {keys : List (Fin (maxMailItems + 1))} {steps : List (GuidStep (maxMailItems + 1))}
    (hawaited : Awaited (itemSteps keys ++ steps)) (h : b.Reads whole (keys.flatMap m.itemItems ++ rest)) :
    ∃ b', readItemBytes keys (partly m.guids (itemSteps keys ++ steps)) b = some (partly m.guids steps, b') ∧
      b'.Reads whole rest := by
  induction keys generalizing b with
  | nil => exact ⟨b, rfl, h⟩
  | cons k keys ih =>
    simp only [List.flatMap_cons, itemItems, List.append_assoc] at h
    have hsteps : itemSteps (k :: keys) ++ steps =
        [.bytes k [6, 1, 7, 2]] ++ ([.bytes k [3, 0, 4, 5]] ++ (itemSteps keys ++ steps)) := rfl
    rw [hsteps] at hawaited ⊢
    obtain ⟨b₁, hfirst, h⟩ := Reads.readGuidSteps hawaited h
    obtain ⟨b₂, hslot, h⟩ := Reads.read (List.cons_ne_nil _ _) rfl h
    obtain ⟨b₃, hsecond, h⟩ := Reads.readGuidSteps (hawaited.drop _) h
    obtain ⟨b₄, hrest, h⟩ := ih ((hawaited.drop _).drop _) h
    refine ⟨b₄, ?_, h⟩
    simp only [readItemBytes, hfirst, Option.bind_some]
    rw [List.length_singleton] at hslot
    simp only [hslot, hsecond, Option.bind_some, hrest]

theorem reads_guids (h : b.Reads whole (m.guidItems ++ rest)) : ∃ b', readMailGuids m.items.length b =
      some ((partly m.guids [.bytes 0 [2, 0], .bytes 0 [1]], m.receiver.length), b') ∧ b'.Reads whole rest := by
  have hawaited := awaited_allSteps m.items_le
  have hnone := m.partly_allSteps
  rw [allSteps] at hawaited hnone
  simp only [guidItems, List.append_assoc] at h
  obtain ⟨b₁, h1, h⟩ := Reads.readGuidSteps hawaited h
  obtain ⟨b₂, h2, h⟩ := h.readBits
  obtain ⟨b₃, h3, h⟩ := Reads.readGuidSteps (hawaited.drop _) h
  obtain ⟨b₄, h4, h⟩ := reads_itemBytes ((hawaited.drop _).drop _) h
  obtain ⟨b₅, h5, h⟩ := @Reads.readGuidSteps _ b₄ whole rest m.guids [.bytes 0 [7, 3, 6, 5]]
    [.bytes 0 [2, 0], .bytes 0 [1]] (((hawaited.drop _).drop _).drop _) h
  refine ⟨b₅, ?_, h⟩
  rw [Nat.mod_eq_of_lt m.receiver_lt] at h2
  rw [hnone] at h1
  simp only [readMailGuids, h1, h2, h3, h4, Option.bind_some]
  have hlast : readGuidSteps [.bytes 0 [7, 3, 6, 5]] (partly m.guids lastSteps) b₄ =
      some (partly m.guids [.bytes 0 [2, 0], .bytes 0 [1]], b₅) := h5
  rw [hlast, Option.map_some]

theorem reads_texts (h : b.Reads whole (m.textItems ++ rest)) :
    ∃ b', readMailTexts m.subject.length m.receiver.length m.body.length
        (partly m.guids [.bytes 0 [2, 0], .bytes 0 [1]]) b =
      some (⟨m.guids, m.subject, m.receiver, m.body⟩, b') ∧ b'.Reads whole rest := by
  have hawaited : Awaited (n := maxMailItems + 1) ([.bytes 0 [2, 0]] ++ ([.bytes 0 [1]] ++ [])) :=
    (awaited_allSteps (Nat.zero_le maxMailItems)).drop
      (mailMasks 0 ++ (mailboxStart ++ (itemSteps (itemKeys 0) ++ [.bytes 0 [7, 3, 6, 5]])))
  simp only [textItems, List.append_assoc] at h
  obtain ⟨b₁, h1, h⟩ := h.readStringOf
  obtain ⟨b₂, h2, h⟩ := h.readStringOf
  obtain ⟨b₃, h3, h⟩ := Reads.readGuidSteps hawaited h
  obtain ⟨b₄, h4, h⟩ := h.readStringOf
  obtain ⟨b₅, h5, h⟩ := Reads.readGuidSteps (hawaited.drop _) h
  rw [partly_nil] at h5
  refine ⟨b₅, ?_, h⟩
  simp only [List.cons_append, List.nil_append] at h3 h5
  simp only [readMailTexts, h1, h2, h3, h4, h5, Option.bind_some, Option.map_some]

theorem length_readStringOf {count : Nat} {text : List UInt8} {b' : ByteBuffer}
    (h : readStringOf count b = some (text, b')) : text.length ≤ count := by
  induction count generalizing b text with
  | zero =>
    cases h
    exact Nat.le_refl _
  | succ count ih =>
    rw [readStringOf] at h
    split at h
    · obtain ⟨p, -, hp⟩ := Option.bind_eq_some_iff.mp h
      obtain ⟨q, hq, heq⟩ := Option.map_eq_some_iff.mp hp
      cases heq
      exact Nat.succ_le_succ (ih hq)
    · cases h
      exact Nat.zero_le _

theorem length_readMailTexts {subjectLen receiverLen bodyLen : Nat} {guids : MailGuids} {texts : MailTexts}
    {b' : ByteBuffer} (h : readMailTexts subjectLen receiverLen bodyLen guids b = some (texts, b')) :
    texts.subject.length ≤ subjectLen ∧ texts.body.length ≤ bodyLen := by
  obtain ⟨subject, hsubject, h⟩ := Option.bind_eq_some_iff.mp h
  obtain ⟨receiver, -, h⟩ := Option.bind_eq_some_iff.mp h
  obtain ⟨middle, -, h⟩ := Option.bind_eq_some_iff.mp h
  obtain ⟨body, hbody, h⟩ := Option.bind_eq_some_iff.mp h
  obtain ⟨last, -, h⟩ := Option.map_eq_some_iff.mp h
  cases h
  exact ⟨length_readStringOf hsubject, length_readStringOf hbody⟩

theorem readSendMail_packet (m : SendMail) : ∃ b, b.Reads m.packet m.textItems ∧ readSendMail (ofStorage m.packet) =
      (readMailTexts (m.subject.length % 256) m.receiver.length (m.body.length % 256)
        (partly m.guids [.bytes 0 [2, 0], .bytes 0 [1]]) b).map fun texts =>
          (.fields
            { unk1 := m.unk1.toNat, unk2 := m.unk2.toNat, cod := m.cod.toNat, money := m.money.toNat
              mailbox := texts.1.guids 0, items := (itemKeys m.items.length).map texts.1.guids
              subject := texts.1.subject, receiver := texts.1.receiver, body := texts.1.body }, texts.2) := by
  have hpacket := reads_ofStorage (m.headerItems ++ (m.guidItems ++ m.textItems))
  obtain ⟨b₁, hheader, h⟩ := reads_header hpacket
  obtain ⟨b₂, hguids, h⟩ := reads_guids h
  refine ⟨b₂, h, ?_⟩
  rw [readSendMail, packet, hheader, Option.bind_some, if_neg (Nat.not_lt.mpr m.items_le), hguids, Option.bind_some]

theorem recovered_iff (m : SendMail) : m.Recovered ↔ m.subject.length < 256 ∧ m.body.length < 256 := by
  obtain ⟨b, hreads, heq⟩ := readSendMail_packet m
  rw [Recovered, heq]
  constructor
  · rintro ⟨b', hread, -⟩
    obtain ⟨⟨texts, b''⟩, htexts, hfields⟩ := Option.map_eq_some_iff.mp hread
    simp only [toFields, Prod.mk.injEq, SendMailRead.fields.injEq, SendMailFields.mk.injEq] at hfields
    obtain ⟨⟨-, -, -, -, -, -, hsameSubject, -, hsameBody⟩, -⟩ := hfields
    have hlength := length_readMailTexts htexts
    rw [hsameSubject, hsameBody] at hlength
    exact ⟨by omega, by omega⟩
  · rintro ⟨hsubject, hbody⟩
    obtain ⟨b', htexts, hend⟩ := @reads_texts m b m.packet [] (by rwa [List.append_nil])
    refine ⟨b', ?_, hend.rpos_eq⟩
    rw [Nat.mod_eq_of_lt hsubject, Nat.mod_eq_of_lt hbody, htexts, Option.map_some, ← keys, map_keys]
    rfl

def letter (n : Nat) (h : n < 2 ^ 12) : SendMail where
  unk1 := 0
  unk2 := 0
  cod := 0
  money := 0
  mailbox := ObjectGuid.empty
  items := []
  slot := fun _ => 0
  subject := [0x68, 0x69]
  receiver := [0x41, 0x6E, 0x6E]
  body := List.replicate n 0x61
  items_le := by decide
  subject_lt := by decide
  receiver_lt := by decide
  body_lt := by rwa [List.length_replicate]

/-- The length of 256 letters is read as zero. -/
theorem letter_notRecovered : ¬ (letter 256 (by decide)).Recovered := by
  obtain ⟨b, -, heq⟩ := readSendMail_packet (letter 256 (by decide))
  rintro ⟨b', hread, -⟩
  rw [heq] at hread
  obtain ⟨⟨texts, b''⟩, htexts, hfields⟩ := Option.map_eq_some_iff.mp hread
  simp only [toFields, Prod.mk.injEq, SendMailRead.fields.injEq, SendMailFields.mk.injEq] at hfields
  obtain ⟨⟨-, -, -, -, -, -, -, -, hsameBody⟩, -⟩ := hfields
  have hbody := (length_readMailTexts htexts).2
  have hlength : (letter 256 (by decide)).body.length = 256 := List.length_replicate
  rw [hsameBody, hlength] at hbody
  omega

end SendMail

end Mangos
