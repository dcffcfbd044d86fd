import Mangos.Framework.Run
import Mangos.Item.Stored

/-!
# Void storage transfers

`HandleVoidStorageTransfer` checks a request, deposits the listed items, charges for them and then withdraws
the listed void items.
-/

namespace Mangos

open Framework

def voidStorageMaxDeposit : Nat := 9
def voidStorageMaxWithdraw : Nat := 9
def voidStorageMaxSlot : Nat := 80
def voidStorageStoreItem : Nat := 25 * 10000

structure VoidStorageItem where
  itemId : Nat
  itemEntry : Nat
  creatorGuid : Nat
  itemRandomPropertyId : Int
  itemSuffixFactor : Nat
  deriving DecidableEq, Repr

inductive VoidTransferError
  | internalError1 | full | notEnoughMoney | inventoryFull
  deriving DecidableEq, Repr

/-- How a request ends: with `VOID_TRANSFER_ERROR_NO_ERROR`, with an error that is sent or written
to the log only, or on an item pointer that is null. -/
inductive VoidTransferOutcome
  | transferred | error (sent : Option VoidTransferError) | missingItem
  deriving DecidableEq, Repr

structure VoidState where
  player : Player
  voidItems : Nat → Option VoidStorageItem
  unlocked : Bool
  nextItemGuid : Nat
  nextVoidStorageItemId : Nat

/-- A request; `vaultkeeper` is whether the player can interact with the vault keeper named. -/
structure VoidTransferRequest where
  vaultkeeper : Bool
  itemGuids : List Nat
  itemIds : List Nat
  deriving DecidableEq, Repr

def voidSlots : List Nat := List.range voidStorageMaxSlot

namespace VoidState

variable (tables : ItemTables) (accounts : Accounts) (s : VoidState)

def inventory : Inventory := s.player.inventory

def getNextVoidStorageFreeSlot : Option Nat := voidSlots.find? fun slot =>
  (s.voidItems slot).isNone

def getNumOfVoidStorageFreeSlots : Nat :=
  (voidSlots.filter fun slot => (s.voidItems slot).isNone).length

def addVoidStorageItem (itemVS : VoidStorageItem) : VoidState :=
  match s.getNextVoidStorageFreeSlot with
  | none => s
  | some slot => { s with voidItems := Function.update s.voidItems slot (some itemVS) }

/-- `Player::GetVoidStorageItem(id, slot)`. -/
def getVoidStorageItem (id : Nat) : Option (Nat × VoidStorageItem) :=
  voidSlots.findSome? fun slot =>
    match s.voidItems slot with
    | some itemVS => if itemVS.itemId = id then some (slot, itemVS) else none
    | none => none

def freeBagSlots : Nat :=
  ((slotsOf inventorySlotBag0 inventorySlotBagStart inventorySlotBagEnd).map
    s.inventory.bagFreeSlots).sum +
  ((slotsOf inventorySlotBag0 inventorySlotItemStart inventorySlotItemEnd).filter fun pos =>
    (s.inventory.getItemByPos pos).isNone).length

def checkTransfer (req : VoidTransferRequest) : Except (Option VoidTransferError) Unit :=
  if voidStorageMaxDeposit < req.itemGuids.length then .error none
  else if voidStorageMaxWithdraw < req.itemIds.length then .error none
  else if !req.vaultkeeper then .error none
  else if !s.unlocked then .error none
  else if s.getNumOfVoidStorageFreeSlots < req.itemGuids.length then .error (some .full)
  else if s.freeBagSlots < req.itemIds.length then .error (some .inventoryFull)
  else if s.player.money < req.itemGuids.length * voidStorageStoreItem then
    .error (some .notEnoughMoney)
  else if req.itemGuids.all fun guid =>
      (s.inventory.getItemByGuid guid).any fun found => found.2.fitsToVoidStorage then .ok ()
  else .error (some .internalError1)

def toVoid (it : Item) (itemId : Nat) : VoidStorageItem where
  itemId := itemId
  itemEntry := it.entry
  creatorGuid := it.ownerGuid
  itemRandomPropertyId := it.randomPropertyId
  itemSuffixFactor := it.suffixFactor

/-- One turn of the deposit loop, for the item `it` found at `pos`. -/
def depositItem (pos : ItemPos) (it : Item) : VoidState :=
  let s' := s.addVoidStorageItem (toVoid it s.nextVoidStorageItemId)
  { s' with
    nextVoidStorageItemId := s.nextVoidStorageItemId + 1
    player := { s.player with inventory := s.inventory.destroyItem pos } }

/-- The deposit loop. It stops where `GetItemByGuid` finds nothing, with the state it has reached:
the source goes on with a null pointer. -/
def depositItems (s : VoidState) : List Nat → Except VoidState VoidState
  | [] => .ok s
  | guid :: guids =>
    match s.inventory.getItemByGuid guid with
    | none => .error s
    | some (pos, it) => depositItems (s.depositItem pos it) guids

def setMoney (money : Nat) : VoidState := { s with player := { s.player with money } }

def chargeDeposits (count : Nat) : VoidState :=
  s.setMoney (modifyMoney s.player.money (-((count * voidStorageStoreItem : Nat) : Int)))

/-- Where `CanStoreNewItem` would put a void item. -/
def withdrawAnswer (itemVS : VoidStorageItem) : StoreAnswer :=
  s.player.canStoreItem tables accounts { entry := itemVS.itemEntry, count := 1 } []

def withdrawItem (slot : Nat) (itemVS : VoidStorageItem) (dest : List ItemPosCount) : VoidState :=
  match Stock.storeNewItem tables s.player.guid ⟨s.inventory, s.nextItemGuid⟩ dest
      itemVS.itemEntry itemVS.itemRandomPropertyId with
  | none => s
  | some (stock, stored) =>
    let inventory :=
      match stored with
      | none => stock.inventory
      | some pos =>
        match stock.inventory.getItemByPos pos with
        | none => stock.inventory
        | some it =>
          stock.inventory.put pos <| some
            { it with creator := itemVS.creatorGuid, binded := true }
    { s with
      player := { s.player with inventory }
      nextItemGuid := stock.nextItemGuid
      voidItems := Function.update s.voidItems slot none }

/-- The withdraw loop. An id that names no void item is passed over; the loop stops with the state
it has reached when an item cannot be stored. -/
def withdrawItems (s : VoidState) : List Nat → Except VoidState VoidState
  | [] => .ok s
  | id :: ids =>
    match s.getVoidStorageItem id with
    | none => withdrawItems s ids
    | some (slot, itemVS) =>
      let answer := s.withdrawAnswer tables accounts itemVS
      if answer.result ≠ .ok then .error s
      else withdrawItems (s.withdrawItem tables slot itemVS answer.dest) ids

def handleVoidStorageTransfer (req : VoidTransferRequest) : VoidState × VoidTransferOutcome :=
  match s.checkTransfer req with
  | .error sent => (s, .error sent)
  | .ok () =>
    match s.depositItems req.itemGuids with
    | .error s' => (s', .missingItem)
    | .ok s' =>
      match (s'.chargeDeposits req.itemGuids.length).withdrawItems tables accounts
          req.itemIds with
      | .error s'' => (s'', .error (some .inventoryFull))
      | .ok s'' => (s'', .transferred)

end VoidState

/-!
## When a transfer is all or nothing

The deposit loop takes items out of the inventory into void slots, the withdraw loop takes void items into
the inventory.
-/

namespace VoidState

def voidContents (s : VoidState) : Multiset VoidStorageItem := contents voidSlots s.voidItems

/-- The void items deposits are turned into, with ids from `itemId` on. -/
def voidItemsOf (itemId : Nat) : List Item → List VoidStorageItem
  | [] => []
  | it :: its => toVoid it itemId :: voidItemsOf (itemId + 1) its

/-- The whole transfer went through: the deposited items left the inventory, each into one void slot, the withdrawn
ones each came from one, and the fee was charged. -/
structure TransferComplete (s s' : VoidState) (req : VoidTransferRequest) (deposited : List Item)
    (withdrawn : List VoidStorageItem) : Prop where
  deposits : deposited.map (·.guid) = req.itemGuids
  held : ∀ it ∈ deposited, it ∈ s.inventory.items
  withdrawals : withdrawn.map (·.itemId) = req.itemIds
  gone : ∀ it ∈ deposited, ∀ it' ∈ s'.inventory.items, it'.guid ≠ it.guid
  inventory : ∀ e, s'.inventory.itemCount e + (deposited.map (Item.weight e)).sum =
    s.inventory.itemCount e + withdrawn.countP (·.itemEntry = e)
  void : s'.voidContents + ↑withdrawn = s.voidContents + ↑(voidItemsOf s.nextVoidStorageItemId deposited)
  fee : s'.player.money + deposited.length * voidStorageStoreItem = s.player.money

/-- Either the whole transfer goes through, or there is an error and nothing has changed; no item
is used that is not there. -/
def AllOrNothing (s : VoidState) (req : VoidTransferRequest) :
    VoidState × VoidTransferOutcome → Prop
  | (s', .transferred) => ∃ deposited withdrawn, TransferComplete s s' req deposited withdrawn
  | (s', .error _) => s'.inventory = s.inventory ∧ s'.voidItems = s.voidItems ∧ s'.player.money = s.player.money
  | (_, .missingItem) => False

theorem not_allOrNothing_of_missingItem {s : VoidState} {req : VoidTransferRequest}
    {answer : VoidState × VoidTransferOutcome} (h : answer.2 = .missingItem) : ¬ AllOrNothing s req answer := by
  obtain ⟨s', outcome⟩ := answer
  cases h
  exact id

/-- What holds of a player between requests. -/
structure WF (s : VoidState) : Prop where
  guids : (s.inventory.items.map (·.guid)).Nodup
  guids_lt : ∀ it ∈ s.inventory.items, it.guid < s.nextItemGuid
  counts : ∀ it ∈ s.inventory.items, 0 < it.count
  money : s.player.money ≤ maxMoneyAmount

section Conditions

variable (tables : ItemTables) (accounts : Accounts)

def DepositsClean (s : VoidState) : List Nat → Prop
  | [] => True
  | guid :: guids =>
    match s.inventory.getItemByGuid guid with
    | none => False
    | some (pos, it) =>
      s.inventory.bagIsEmpty pos ∧ DepositsClean (s.depositItem pos it) guids

def WithdrawsClean (s : VoidState) : List Nat → Prop
  | [] => True
  | id :: ids =>
    match s.getVoidStorageItem id with
    | none => False
    | some (slot, itemVS) =>
      let answer := s.withdrawAnswer tables accounts itemVS
      answer.result = .ok ∧ WithdrawsClean (s.withdrawItem tables slot itemVS answer.dest) ids

def FirstWithdrawRefused (s : VoidState) : List Nat → Prop
  | [] => False
  | id :: ids =>
    match s.getVoidStorageItem id with
    | none => FirstWithdrawRefused s ids
    | some (_, itemVS) => (s.withdrawAnswer tables accounts itemVS).result ≠ .ok

/-- The request is refused by the checks, both loops run to their end and pass nothing over, or there is no room
before anything is moved. -/
def TransfersCleanly (s : VoidState) (req : VoidTransferRequest) : Prop :=
  match s.checkTransfer req with
  | .error _ => True
  | .ok () =>
    (s.DepositsClean req.itemGuids ∧ match s.depositItems req.itemGuids with
      | .error _ => False
      | .ok s' => (s'.chargeDeposits req.itemGuids.length).WithdrawsClean tables accounts
          req.itemIds) ∨ (req.itemGuids = [] ∧ s.FirstWithdrawRefused tables accounts req.itemIds)

instance DepositsClean.decidable : ∀ s guids, Decidable (DepositsClean s guids)
  | _, [] => .isTrue trivial
  | s, guid :: guids =>
    match h : s.inventory.getItemByGuid guid with
    | none => .isFalse (by simp [DepositsClean, h])
    | some (pos, it) =>
      have := DepositsClean.decidable (s.depositItem pos it) guids
      decidable_of_iff (s.inventory.bagIsEmpty pos ∧ DepositsClean (s.depositItem pos it) guids)
        (by simp [DepositsClean, h])

instance WithdrawsClean.decidable : ∀ s ids, Decidable (WithdrawsClean tables accounts s ids)
  | _, [] => .isTrue trivial
  | s, id :: ids =>
    match h : s.getVoidStorageItem id with
    | none => .isFalse (by simp [WithdrawsClean, h])
    | some (slot, itemVS) =>
      let answer := s.withdrawAnswer tables accounts itemVS
      have := WithdrawsClean.decidable (s.withdrawItem tables slot itemVS answer.dest) ids
      decidable_of_iff (answer.result = .ok ∧
          WithdrawsClean tables accounts (s.withdrawItem tables slot itemVS answer.dest) ids)
        (by simp [WithdrawsClean, h, answer])

instance FirstWithdrawRefused.decidable :
    ∀ s ids, Decidable (FirstWithdrawRefused tables accounts s ids)
  | _, [] => .isFalse id
  | s, id :: ids =>
    match h : s.getVoidStorageItem id with
    | none =>
      have := FirstWithdrawRefused.decidable s ids
      decidable_of_iff (FirstWithdrawRefused tables accounts s ids)
        (by simp [FirstWithdrawRefused, h])
    | some (slot, itemVS) =>
      decidable_of_iff ((s.withdrawAnswer tables accounts itemVS).result ≠ .ok)
        (by simp [FirstWithdrawRefused, h])

instance TransfersCleanly.decidable (s : VoidState) (req : VoidTransferRequest) :
    Decidable (s.TransfersCleanly tables accounts req) := by
  unfold TransfersCleanly
  split
  · infer_instance
  · have : Decidable (match s.depositItems req.itemGuids with
        | .error _ => False
        | .ok s' => (s'.chargeDeposits req.itemGuids.length).WithdrawsClean tables accounts
            req.itemIds) := by
      split <;> infer_instance
    infer_instance

end Conditions

variable {tables : ItemTables} {accounts : Accounts} {s s' : VoidState}

private theorem voidContents_addVoidStorageItem (hfree : 0 < s.getNumOfVoidStorageFreeSlots)
    (itemVS : VoidStorageItem) : (s.addVoidStorageItem itemVS).voidContents = s.voidContents + {itemVS} := by
  unfold addVoidStorageItem
  cases hnext : s.getNextVoidStorageFreeSlot with
  | none =>
    have hfull := List.find?_eq_none.mp hnext
    have hnil : (voidSlots.filter fun slot => (s.voidItems slot).isNone) = [] :=
      List.filter_eq_nil_iff.mpr hfull
    unfold getNumOfVoidStorageFreeSlots at hfree
    rw [hnil] at hfree
    exact absurd hfree (lt_irrefl 0)
  | some slot =>
    have hmem : slot ∈ voidSlots := List.mem_of_find?_eq_some hnext
    have hempty : s.voidItems slot = none := by
      simpa using List.find?_some hnext
    have hupdate := contents_update List.nodup_range hmem s.voidItems (some itemVS)
    rw [hempty, held_none, add_zero, held_some] at hupdate
    exact hupdate

private theorem free_add_card (s : VoidState) :
    s.getNumOfVoidStorageFreeSlots + s.voidContents.card = voidStorageMaxSlot := by
  have h := length_free_add_card voidSlots s.voidItems
  rwa [show voidSlots.length = voidStorageMaxSlot from List.length_range] at h

private theorem depositItem_nextItemGuid (s : VoidState) (pos : ItemPos) (it : Item) :
    (s.depositItem pos it).nextItemGuid = s.nextItemGuid := by
  simp only [depositItem, addVoidStorageItem]
  split
  · rfl
  · rfl

private theorem depositItems_ok {guids : List Nat}
    (hroom : guids.length ≤ s.getNumOfVoidStorageFreeSlots) (hloop : s.depositItems guids = .ok s') :
    ∃ deposited : List Item, deposited.map (·.guid) = guids ∧ ↑deposited + s'.inventory.items ≤ s.inventory.items ∧
      s'.voidContents = s.voidContents + ↑(voidItemsOf s.nextVoidStorageItemId deposited) ∧
      s'.player.money = s.player.money ∧ s'.nextItemGuid = s.nextItemGuid ∧
      (s.DepositsClean guids ↔ ↑deposited + s'.inventory.items = s.inventory.items) := by
  induction guids generalizing s with
  | nil =>
    cases hloop
    exact ⟨[], rfl, by simp, by simp [voidItemsOf], rfl, rfl, by simp [DepositsClean]⟩
  | cons guid guids ih =>
    rw [depositItems] at hloop
    cases hfind : s.inventory.getItemByGuid guid with
    | none => simp [hfind] at hloop
    | some found =>
      obtain ⟨pos, it⟩ := found
      simp only [hfind] at hloop
      obtain ⟨hit, hguid⟩ := Inventory.getItemByGuid_eq_some hfind
      obtain ⟨hle, hclean⟩ := Inventory.destroyItem_items hit
      rw [List.length_cons] at hroom
      have hvoid : (s.depositItem pos it).voidContents =
          s.voidContents + {toVoid it s.nextVoidStorageItemId} :=
        voidContents_addVoidStorageItem (by omega) _
      have hfree := free_add_card s
      have hfree' := free_add_card (s.depositItem pos it)
      have hcard := congrArg Multiset.card hvoid
      rw [Multiset.card_add, Multiset.card_singleton] at hcard
      obtain ⟨deposited, hguids, hle', hvoid', hmoney, hnext, hclean'⟩ := ih (by omega) hloop
      have hinventory : (s.depositItem pos it).inventory = s.inventory.destroyItem pos := rfl
      rw [hinventory] at hle' hclean'
      have hsum : (↑(it :: deposited) : Multiset Item) + s'.inventory.items =
          (↑deposited + s'.inventory.items) + {it} := by
        rw [← Multiset.cons_coe, ← Multiset.singleton_add]
        abel
      refine ⟨it :: deposited, ?_, ?_, ?_, hmoney, hnext.trans (depositItem_nextItemGuid s pos it), ?_⟩
      · rw [List.map_cons, hguid, hguids]
      · rw [hsum]
        exact (add_le_add hle' le_rfl).trans hle
      · rw [hvoid', hvoid, voidItemsOf, ← Multiset.cons_coe, ← Multiset.singleton_add]
        exact add_assoc _ _ _
      · rw [hsum]
        simp only [DepositsClean, hfind]
        constructor
        · rintro ⟨hempty, hrest⟩
          rw [hclean'.mp hrest]
          exact hclean.mpr hempty
        · intro heq
          -- neither this deposit nor a later one can have lost anything
          have hlast : (s.inventory.destroyItem pos).items + {it} = s.inventory.items :=
            le_antisymm hle (heq ▸ add_le_add hle' le_rfl)
          refine ⟨hclean.mp hlast, hclean'.mpr ?_⟩
          exact add_right_cancel (heq.trans hlast.symm)

private theorem getVoidStorageItem_eq_some {id slot : Nat} {itemVS : VoidStorageItem}
    (h : s.getVoidStorageItem id = some (slot, itemVS)) :
    slot ∈ voidSlots ∧ s.voidItems slot = some itemVS ∧ itemVS.itemId = id := by
  obtain ⟨found, hmem, hfound⟩ := List.exists_of_findSome?_eq_some h
  cases hitem : s.voidItems found with
  | none => simp [hitem] at hfound
  | some itemVS' =>
    simp only [hitem] at hfound
    split at hfound
    next hid =>
      cases hfound
      exact ⟨hmem, hitem, hid⟩
    next => cases hfound

private theorem placed_one {dest : List ItemPosCount} (hpos : ∀ p ∈ dest, 0 < p.count)
    (hone : placed dest = 1) : ∃ pos, dest = [⟨pos, 1⟩] := by
  cases dest with
  | nil => cases hone
  | cons p dest =>
    have hp := hpos p List.mem_cons_self
    rw [placed_cons] at hone
    cases dest with
    | nil =>
      have hcount : p.count = 1 := by simpa using hone
      exact ⟨p.pos, by rw [← hcount]⟩
    | cons p' dest =>
      have hp' := hpos p' (List.mem_cons_of_mem p List.mem_cons_self)
      rw [placed_cons] at hone
      omega

/-- Between two states the void items `taken` went into the inventory: each is one more of its
entry, under a guid that was there or is new. -/
structure WithdrawnInto (s s' : VoidState) (taken : List VoidStorageItem) : Prop where
  void : s'.voidContents + ↑taken = s.voidContents
  counts : ∀ e, s'.inventory.itemCount e = s.inventory.itemCount e + taken.countP (·.itemEntry = e)
  guids : ∀ it ∈ s'.inventory.items, s.nextItemGuid ≤ it.guid ∨ ∃ it' ∈ s.inventory.items, it'.guid = it.guid
  next : s.nextItemGuid ≤ s'.nextItemGuid
  money : s'.player.money = s.player.money

theorem WithdrawnInto.refl (s : VoidState) : WithdrawnInto s s [] where
  void := by simp
  counts e := by simp
  guids it hit := .inr ⟨it, hit, rfl⟩
  next := le_rfl
  money := rfl

theorem WithdrawnInto.cons {w : VoidState} {itemVS : VoidStorageItem}
    {taken : List VoidStorageItem} (h : WithdrawnInto s w [itemVS])
    (h' : WithdrawnInto w s' taken) : WithdrawnInto s s' (itemVS :: taken) where
  void := by
    rw [← h.void, ← h'.void, ← Multiset.cons_coe, ← Multiset.singleton_add, Multiset.coe_singleton]
    abel
  counts e := by
    have hfirst := h.counts e
    have hrest := h'.counts e
    rw [List.countP_cons] at hfirst ⊢
    simp only [List.countP_nil] at hfirst
    omega
  guids it hit := by
    rcases h'.guids it hit with hnew | ⟨it', hit', hguid⟩
    · exact .inl (h.next.trans hnew)
    · rcases h.guids it' hit' with hnew | ⟨it'', hit'', hguid'⟩
      · exact .inl (hguid ▸ hnew)
      · exact .inr ⟨it'', hit'', hguid'.trans hguid⟩
  next := h.next.trans h'.next
  money := h'.money.trans h.money

private theorem withdrawItem_spec {slot : Nat} {itemVS : VoidStorageItem}
    (hslot : slot ∈ voidSlots) (hitem : s.voidItems slot = some itemVS)
    (hok : (s.withdrawAnswer tables accounts itemVS).result = .ok) : WithdrawnInto s
      (s.withdrawItem tables slot itemVS (s.withdrawAnswer tables accounts itemVS).dest) [itemVS] := by
  have hanswer : (s.player.canStoreItem tables accounts
      { entry := itemVS.itemEntry, count := 1 } []).result = .ok := hok
  obtain ⟨proto, hproto, hfeasible⟩ := Player.canStoreItem_feasible rfl Nat.one_pos hanswer
  obtain ⟨pos, hdest⟩ : ∃ pos, (s.withdrawAnswer tables accounts itemVS).dest = [⟨pos, 1⟩] :=
    placed_one (fun p hp => (hfeasible.admitted p hp).1) hfeasible.total
  have hplace : s.inventory.Admits proto pos 1 := by
    refine (hfeasible.admitted ⟨pos, 1⟩ ?_).2.toInventory fun _ _ => rfl
    change ⟨pos, 1⟩ ∈ (s.withdrawAnswer tables accounts itemVS).dest
    rw [hdest]
    exact List.mem_singleton_self _
  -- the new item as it is created
  let it := Item.create tables proto s.nextItemGuid 1 s.player.guid itemVS.itemRandomPropertyId
  have hcreate : Item.createItem tables itemVS.itemEntry s.nextItemGuid (placed [⟨pos, 1⟩])
      s.player.guid itemVS.itemRandomPropertyId = some it := by
    simp [Item.createItem, hproto, it]
  have hentry : it.entry = itemVS.itemEntry := tables.prototype_itemId _ _ hproto
  let stock : Stock := ⟨s.inventory, s.nextItemGuid + 1⟩
  have hplace' : stock.inventory.Admits it.proto pos 1 := hplace
  obtain ⟨stored, hput, hguid, hweight⟩ :=
    Stock.storeAt_put tables s.player.guid hplace' Nat.one_pos false
  obtain ⟨⟨hpos, hbag, -⟩, -⟩ := hplace
  have hstored : (s.inventory.put pos (some stored)).getItemByPos pos = some stored := by
    rw [Inventory.getItemByPos_put hpos hbag, Function.update_self]
  let marked : Item := { stored with creator := itemVS.creatorGuid, binded := true }
  have hwithdrawn : s.withdrawItem tables slot itemVS
      (s.withdrawAnswer tables accounts itemVS).dest = { s with
        player := { s.player with inventory := s.inventory.put pos (some marked) }
        nextItemGuid :=
          (stock.storeAt tables s.player.guid pos it 1 false).nextItemGuid
        voidItems := Function.update s.voidItems slot none } := by
    have hnew : Stock.storeNewItem tables s.player.guid ⟨s.inventory, s.nextItemGuid⟩
        [⟨pos, 1⟩] itemVS.itemEntry itemVS.itemRandomPropertyId =
        some (stock.storeAt tables s.player.guid pos it 1 false, some pos) := by
      simp only [Stock.storeNewItem, hcreate]
      rfl
    rw [hdest, withdrawItem, hnew]
    simp only [hput, stock, hstored, Inventory.put_put]
    rfl
  rw [hwithdrawn]
  have hview := Inventory.getItemByPos_put hpos hbag (some marked)
  refine ⟨?_, fun e => ?_, fun it' hit' => ?_, ?_, rfl⟩
  · have hupdate := contents_update List.nodup_range hslot s.voidItems none
    rw [hitem, held_some, held_none, add_zero] at hupdate
    exact hupdate
  · have hupdate := tally_update itemPositions_nodup (Inventory.hasPos_mem hpos) (Item.weight e)
      s.inventory.getItemByPos (some marked)
    have hmarked : Item.weight e marked = Item.weight e stored := rfl
    have hcount := hweight e
    rw [hentry] at hcount
    rw [Option.elim_some, hmarked, hcount] at hupdate
    change tally (Item.weight e) itemPositions (s.inventory.put pos (some marked)).getItemByPos =
      tally (Item.weight e) itemPositions s.inventory.getItemByPos + _
    rw [hview]
    change _ + (s.inventory.getItemByPos pos).elim 0 _ = _ + ((s.inventory.getItemByPos pos).elim 0 _ + _) at hupdate
    rw [List.countP_singleton]
    simp only [decide_eq_true_eq]
    omega
  · obtain ⟨q, hq⟩ := Inventory.mem_items.mp hit'
    change (s.inventory.put pos (some marked)).getItemByPos q = some it' at hq
    rw [hview] at hq
    by_cases hqpos : q = pos
    · rw [hqpos, Function.update_self] at hq
      cases hq
      change s.nextItemGuid ≤ stored.guid ∨ ∃ it' ∈ s.inventory.items, it'.guid = stored.guid
      rw [hguid]
      unfold Stock.guidAt
      split
      next it2 hit2 => exact .inr ⟨it2, Inventory.mem_items.mpr ⟨pos, hit2⟩, rfl⟩
      next => exact .inl le_rfl
    · rw [Function.update_of_ne hqpos] at hq
      exact .inr ⟨it', Inventory.mem_items.mpr ⟨q, hq⟩, rfl⟩
  · have hnext := @Stock.nextItemGuid_storeAt tables s.player.guid stock pos it 1 false
    exact (Nat.le_succ _).trans hnext

private theorem withdrawItems_ok {ids : List Nat} (hloop : s.withdrawItems tables accounts ids = .ok s') :
    ∃ taken, WithdrawnInto s s' taken ∧ taken.length ≤ ids.length ∧
      (s.WithdrawsClean tables accounts ids → taken.map (·.itemId) = ids) ∧
      (taken.length = ids.length → s.WithdrawsClean tables accounts ids) := by
  induction ids generalizing s with
  | nil =>
    cases hloop
    exact ⟨[], .refl _, le_rfl, fun _ => rfl, fun _ => trivial⟩
  | cons id ids ih =>
    rw [withdrawItems] at hloop
    cases hfind : s.getVoidStorageItem id with
    | none =>
      simp only [hfind] at hloop
      obtain ⟨taken, hinto, hle, -, -⟩ := ih hloop
      refine ⟨taken, hinto, hle.trans (Nat.le_succ _), fun hclean => ?_, fun hall => ?_⟩
      · simp only [WithdrawsClean, hfind] at hclean
      · rw [List.length_cons] at hall
        omega
    | some found =>
      obtain ⟨slot, itemVS⟩ := found
      obtain ⟨hslot, hitem, hid⟩ := getVoidStorageItem_eq_some hfind
      simp only [hfind] at hloop
      split at hloop
      · cases hloop
      next hok =>
        have hok' := not_not.mp hok
        obtain ⟨taken, hinto, hle, hids, hclean⟩ := ih hloop
        refine ⟨itemVS :: taken, (withdrawItem_spec hslot hitem hok').cons hinto, Nat.succ_le_succ hle, ?_, ?_⟩
        · intro hwhole
          simp only [WithdrawsClean, hfind] at hwhole
          rw [List.map_cons, hid, hids hwhole.2]
        · intro hall
          simp only [WithdrawsClean, hfind]
          exact ⟨hok', hclean (Nat.succ.inj hall)⟩

private theorem withdrawItems_error {ids : List Nat} (hloop : s.withdrawItems tables accounts ids = .error s') :
    ∃ taken, WithdrawnInto s s' taken ∧ ¬ s.WithdrawsClean tables accounts ids ∧
      (taken = [] → s.FirstWithdrawRefused tables accounts ids) := by
  induction ids generalizing s with
  | nil => cases hloop
  | cons id ids ih =>
    rw [withdrawItems] at hloop
    cases hfind : s.getVoidStorageItem id with
    | none =>
      simp only [hfind] at hloop
      obtain ⟨taken, hinto, -, hfirst⟩ := ih hloop
      refine ⟨taken, hinto, fun hclean => ?_, fun hnone => ?_⟩
      · simp only [WithdrawsClean, hfind] at hclean
      · simp only [FirstWithdrawRefused, hfind]
        exact hfirst hnone
    | some found =>
      obtain ⟨slot, itemVS⟩ := found
      obtain ⟨hslot, hitem, -⟩ := getVoidStorageItem_eq_some hfind
      simp only [hfind] at hloop
      split at hloop
      next hrefused =>
        cases hloop
        refine ⟨[], .refl _, fun hclean => ?_, fun _ => ?_⟩
        · simp only [WithdrawsClean, hfind] at hclean
          exact hrefused hclean.1
        · simp only [FirstWithdrawRefused, hfind]
          exact hrefused
      next hok =>
        have hok' := not_not.mp hok
        obtain ⟨taken, hinto, hunclean, -⟩ := ih hloop
        refine ⟨itemVS :: taken, (withdrawItem_spec hslot hitem hok').cons hinto,
          fun hclean => ?_, fun hnone => by cases hnone⟩
        simp only [WithdrawsClean, hfind] at hclean
        exact hunclean hclean.2

private theorem withdrawItems_firstRefused {ids : List Nat}
    (h : s.FirstWithdrawRefused tables accounts ids) : s.withdrawItems tables accounts ids = .error s := by
  induction ids with
  | nil => cases h
  | cons id ids ih =>
    rw [withdrawItems]
    simp only [FirstWithdrawRefused] at h
    cases hfind : s.getVoidStorageItem id with
    | none =>
      simp only [hfind] at h ⊢
      exact ih h
    | some found =>
      simp only [hfind] at h ⊢
      exact if_pos h

private theorem checkTransfer_ok {req : VoidTransferRequest} (h : s.checkTransfer req = .ok ()) :
    req.itemGuids.length ≤ s.getNumOfVoidStorageFreeSlots ∧
      req.itemGuids.length * voidStorageStoreItem ≤ s.player.money := by
  unfold checkTransfer at h
  split at h
  · cases h
  split at h
  · cases h
  split at h
  · cases h
  split at h
  · cases h
  split at h
  · cases h
  next hfree =>
    split at h
    · cases h
    split at h
    · cases h
    next hmoney => exact ⟨not_lt.mp hfree, not_lt.mp hmoney⟩

private theorem eq_of_weights {m n : Multiset Item} (hle : m ≤ n) (hpos : ∀ it ∈ n, 0 < it.count)
    (hweights : ∀ e, (m.map (Item.weight e)).sum = (n.map (Item.weight e)).sum) : m = n := by
  obtain ⟨lost, rfl⟩ := Multiset.le_iff_exists_add.mp hle
  have hnone : lost = 0 := by
    by_contra hsome
    obtain ⟨it, hit⟩ := Multiset.exists_mem_of_ne_zero hsome
    have hcount := hpos it (Multiset.mem_add.mpr (.inr hit))
    have hweight := hweights it.entry
    obtain ⟨others, rfl⟩ := Multiset.exists_cons_of_mem hit
    have hself : Item.weight it.entry it = it.count := if_pos rfl
    rw [Multiset.map_add, Multiset.sum_add, Multiset.map_cons, Multiset.sum_cons, hself] at hweight
    omega
  rw [hnone, add_zero]

private theorem eq_of_guids {m : Multiset Item} (hm : (m.map (·.guid)).Nodup)
    {its its' : List Item} (heq : its.map (·.guid) = its'.map (·.guid))
    (hits : ∀ it ∈ its, it ∈ m) (hits' : ∀ it ∈ its', it ∈ m) : its = its' := by
  induction its generalizing its' with
  | nil =>
    cases its' with
    | nil => rfl
    | cons it' its' => cases heq
  | cons it its ih =>
    cases its' with
    | nil => cases heq
    | cons it' its' =>
      obtain ⟨hfirst, hrest⟩ := List.cons.inj heq
      have hsame : it = it' := Multiset.inj_on_of_nodup_map hm it
        (hits it List.mem_cons_self) it' (hits' it' List.mem_cons_self) hfirst
      have htail := ih hrest (fun a ha => hits a (List.mem_cons_of_mem it ha))
        fun a ha => hits' a (List.mem_cons_of_mem it' ha)
      rw [hsame, htail]

private theorem setMoney_keeps (s : VoidState) (money : Nat) :
    (s.setMoney money).inventory = s.inventory ∧ (s.setMoney money).voidContents = s.voidContents ∧
      (s.setMoney money).nextItemGuid = s.nextItemGuid :=
  ⟨rfl, rfl, rfl⟩

private theorem chargeDeposits_keeps (s : VoidState) (count : Nat) :
    (s.chargeDeposits count).inventory = s.inventory ∧ (s.chargeDeposits count).voidContents = s.voidContents ∧
      (s.chargeDeposits count).nextItemGuid = s.nextItemGuid := by
  unfold chargeDeposits
  exact setMoney_keeps s _

private theorem chargeDeposits_money (hmoney : s.player.money ≤ maxMoneyAmount) {count : Nat}
    (hafford : count * voidStorageStoreItem ≤ s.player.money) :
    (s.chargeDeposits count).player.money + count * voidStorageStoreItem = s.player.money := by
  rw [chargeDeposits, modifyMoney_neg hafford hmoney]
  exact Nat.sub_add_cancel hafford

private theorem chargeDeposits_zero (hmoney : s.player.money ≤ maxMoneyAmount) : s.chargeDeposits 0 = s := by
  have hsame := modifyMoney_neg (Nat.zero_le s.player.money) hmoney
  rw [chargeDeposits, Nat.zero_mul, hsame, Nat.sub_zero]
  rfl

private theorem transferComplete (charged : VoidState) {req : VoidTransferRequest} (h : s.WF)
    {deposited : List Item} {taken : List VoidStorageItem} (hguids : deposited.map (·.guid) = req.itemGuids)
    (hitems : ↑deposited + charged.inventory.items = s.inventory.items) (hvoid : charged.voidContents =
      s.voidContents + ↑(voidItemsOf s.nextVoidStorageItemId deposited)) (hnext : charged.nextItemGuid = s.nextItemGuid)
    (hmoney : charged.player.money + req.itemGuids.length * voidStorageStoreItem = s.player.money)
    (hinto : WithdrawnInto charged s' taken) (hids : taken.map (·.itemId) = req.itemIds) :
    TransferComplete s s' req deposited taken := by
  have hheld : ∀ it ∈ deposited, it ∈ s.inventory.items := by
    intro it hit
    rw [← hitems]
    exact Multiset.mem_add.mpr (.inl hit)
  refine ⟨hguids, hheld, hids, fun it hit it' hit' heq => ?_, fun e => ?_, ?_, ?_⟩
  · rcases hinto.guids it' hit' with hnew | ⟨it'', hit'', hguid⟩
    · have hlt := h.guids_lt it (hheld it hit)
      omega
    · have hnodup := h.guids
      rw [← hitems, Multiset.map_add, Multiset.nodup_add] at hnodup
      have hleft := Multiset.mem_map_of_mem Item.guid (Multiset.mem_coe.mpr hit)
      have hright := Multiset.mem_map_of_mem Item.guid hit''
      rw [hguid, heq] at hright
      exact Multiset.disjoint_left.mp hnodup.2.2 hleft hright
  · have hcounts := hinto.counts e
    have hsum := congrArg (fun m => (Multiset.map (Item.weight e) m).sum) hitems
    simp only [Multiset.map_add, Multiset.sum_add, Multiset.map_coe, Multiset.sum_coe,
      ← Inventory.itemCount_eq_sum] at hsum
    omega
  · rw [hinto.void, hvoid]
  · rw [hinto.money]
    have hlength := congrArg List.length hguids
    rw [List.length_map] at hlength
    rw [hlength]
    exact hmoney

private theorem clean_of_complete (charged : VoidState) {req : VoidTransferRequest} (h : s.WF)
    {deposited : List Item} {taken : List VoidStorageItem} (hguids : deposited.map (·.guid) = req.itemGuids)
    (hitems : ↑deposited + charged.inventory.items ≤ s.inventory.items) (hvoid : charged.voidContents =
      s.voidContents + ↑(voidItemsOf s.nextVoidStorageItemId deposited))
    (hinto : WithdrawnInto charged s' taken) {claimed : List Item}
    {withdrawn : List VoidStorageItem} (hwhole : TransferComplete s s' req claimed withdrawn) :
    ↑deposited + charged.inventory.items = s.inventory.items ∧ taken.length = req.itemIds.length := by
  have hsame : claimed = deposited := by
    refine eq_of_guids h.guids (hwhole.deposits.trans hguids.symm) hwhole.held fun it hit => ?_
    exact Multiset.mem_of_le hitems (Multiset.mem_add.mpr (.inl hit))
  have htaken : (↑withdrawn : Multiset VoidStorageItem) = ↑taken := by
    have hleft := hwhole.void
    rw [hsame, ← hvoid, ← hinto.void] at hleft
    exact add_left_cancel hleft
  constructor
  · refine eq_of_weights hitems h.counts fun e => ?_
    have hclaimed := hwhole.inventory e
    have hcounts := hinto.counts e
    have hperm := Multiset.coe_eq_coe.mp htaken
    rw [hperm.countP_eq, hsame, Inventory.itemCount_eq_sum s.inventory] at hclaimed
    rw [Multiset.map_add, Multiset.sum_add, Multiset.map_coe, Multiset.sum_coe, ← Inventory.itemCount_eq_sum]
    omega
  · have hlength := congrArg List.length hwhole.withdrawals
    rw [List.length_map] at hlength
    rw [← hlength]
    exact (Multiset.coe_eq_coe.mp htaken).length_eq.symm

/-- A transfer is all or nothing exactly when it goes cleanly. -/
theorem voidTransfer_allOrNothing_iff (tables : ItemTables) (accounts : Accounts) (s : VoidState)
    (h : s.WF) (req : VoidTransferRequest) : AllOrNothing s req (s.handleVoidStorageTransfer tables accounts req) ↔
      s.TransfersCleanly tables accounts req := by
  unfold handleVoidStorageTransfer TransfersCleanly
  cases hcheck : s.checkTransfer req with
  | error sent => simp [AllOrNothing]
  | ok =>
    obtain ⟨hfree, hafford⟩ := checkTransfer_ok hcheck
    dsimp only
    cases hdeposits : s.depositItems req.itemGuids with
    | error s₁ =>
      simp only [AllOrNothing, and_false, false_or, false_iff, not_and]
      intro hnil
      rw [hnil] at hdeposits
      cases hdeposits
    | ok s₁ =>
      obtain ⟨deposited, hguids, hitems, hvoid, hmoney, hnext, hclean⟩ :=
        depositItems_ok hfree hdeposits
      have hcharge := chargeDeposits_money (hmoney ▸ h.money) (hmoney ▸ hafford)
      have hnil : req.itemGuids = [] → s₁.chargeDeposits req.itemGuids.length = s := by
        intro hnone
        rw [hnone] at hdeposits ⊢
        cases hdeposits
        exact chargeDeposits_zero h.money
      obtain ⟨hsame, hsame', hsame''⟩ := chargeDeposits_keeps s₁ req.itemGuids.length
      dsimp only
      generalize s₁.chargeDeposits req.itemGuids.length = charged at *
      rw [← hsame] at hitems hclean
      rw [← hsame'] at hvoid
      rw [← hsame''] at hnext
      rw [hmoney] at hcharge
      cases hwithdraws : charged.withdrawItems tables accounts req.itemIds with
      | ok s₂ =>
        obtain ⟨taken, hinto, -, hids, hall⟩ := withdrawItems_ok hwithdraws
        simp only [AllOrNothing]
        constructor
        · rintro ⟨claimed, withdrawn, hwhole⟩
          obtain ⟨hkept, hlength⟩ :=
            clean_of_complete charged h hguids hitems hvoid hinto hwhole
          exact .inl ⟨hclean.mpr hkept, hall hlength⟩
        · rintro (⟨hdep, hwit⟩ | ⟨hnone, hrefused⟩)
          · exact ⟨deposited, taken, transferComplete charged h hguids (hclean.mp hdep)
              hvoid hnext hcharge hinto (hids hwit)⟩
          · have hstop := withdrawItems_firstRefused hrefused
            rw [← hnil hnone, hwithdraws] at hstop
            cases hstop
      | error s₂ =>
        obtain ⟨taken, hinto, hunclean, hfirst⟩ := withdrawItems_error hwithdraws
        simp only [AllOrNothing]
        constructor
        · rintro ⟨-, hsameVoid, hsameMoney⟩
          have hnone : req.itemGuids = [] := by
            have hpaid := hinto.money
            simp only [voidStorageStoreItem] at hcharge
            refine List.length_eq_zero_iff.mp ?_
            omega
          have htaken : taken = [] := by
            have hvoid' := hinto.void
            have hsame : s₂.voidContents = s.voidContents := by
              simp only [voidContents, hsameVoid]
            rw [hnil hnone, hsame] at hvoid'
            simpa using hvoid'
          have hstop := hfirst htaken
          rw [hnil hnone] at hstop
          exact .inr ⟨hnone, hstop⟩
        · rintro (⟨-, hwit⟩ | ⟨hnone, hrefused⟩)
          · exact absurd hwit hunclean
          · have hstop := withdrawItems_firstRefused hrefused
            rw [← hnil hnone, hwithdraws] at hstop
            cases hstop
            rw [hnil hnone]
            exact ⟨rfl, rfl, rfl⟩

end VoidState

/-! A player with one bound ring and money for two deposits. -/

private def ring : ItemPrototype := .trinket 2862

private def ringOwner : VoidState where
  player :=
    { guid := 7, account := 1, money := 600000
      inventory := ⟨fun pos =>
        if pos = ⟨inventorySlotBag0, 23⟩ then
          some { guid := 101, proto := ring, count := 1, ownerGuid := 7, binded := true }
        else none⟩ }
  voidItems := fun _ => none
  unlocked := true
  nextItemGuid := 102
  nextVoidStorageItemId := 1

private def ringAccounts : Accounts := ⟨fun guid => if guid = 7 then 1 else 0, rfl⟩

private theorem fails_of_missingItem {tables : ItemTables} {accounts : Accounts} {s : VoidState}
    {req : VoidTransferRequest} (hwf : s.WF)
    (hmissing : (s.handleVoidStorageTransfer tables accounts req).2 = .missingItem) :
    ¬ ∀ (tables : ItemTables) (accounts : Accounts) (s : VoidState), s.WF →
      ∀ req, VoidState.AllOrNothing s req (s.handleVoidStorageTransfer tables accounts req) := by
  intro h
  exact VoidState.not_allOrNothing_of_missingItem hmissing (h tables accounts s hwf req)

private theorem ringOwner_wf : ringOwner.WF where
  guids := by decide +kernel
  guids_lt := by decide +kernel
  counts := by decide +kernel
  money := by decide

theorem voidTransfer_allOrNothing_ring : VoidState.AllOrNothing ringOwner ⟨true, [101], []⟩
      (ringOwner.handleVoidStorageTransfer (.ofPrototypes [ring]) ringAccounts ⟨true, [101], []⟩) :=
  (VoidState.voidTransfer_allOrNothing_iff (.ofPrototypes [ring]) ringAccounts ringOwner ringOwner_wf
    ⟨true, [101], []⟩).mpr (by decide +kernel)

/-- The ring is named twice: the second time there is no item any more. -/
theorem voidTransfer_repeated_guid : ¬ ∀ (tables : ItemTables) (accounts : Accounts) (s : VoidState), s.WF →
      ∀ req, VoidState.AllOrNothing s req (s.handleVoidStorageTransfer tables accounts req) := by
  have hmissing : (ringOwner.handleVoidStorageTransfer (.ofPrototypes [ring]) ringAccounts
      ⟨true, [101, 101], []⟩).2 = .missingItem := by decide +kernel
  exact fails_of_missingItem ringOwner_wf hmissing

end Mangos
