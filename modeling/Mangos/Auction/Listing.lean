import Mangos.Auction.House
import Mangos.Framework.Comparators
import Mathlib.Data.List.Infix

/-!
# The list a client is shown

The auctions are sorted by the columns the client asks for, and one page of those that match the search is
sent with the number of all of them.
-/

namespace Mangos

open Framework

/-- An entry with the name of its owner that is cached for sorting. -/
structure ListedAuction extends AuctionEntry where
  ownerName : List Nat

/-- What the list depends on besides the auctions: an item's name in the session's language after `Utf8toWStr`,
`CanUseItem`, and the spell that a recipe triggers. -/
structure AuctionViewer where
  itemName : ItemPrototype → Option (List Nat)
  canUseItem : Item → InventoryResult
  recipeSpell : ItemPrototype → Option Nat
  hasSpell : Nat → Bool

def maxAuctionSort : Nat := 12

def auctionSortReversed : Nat := 0x10

variable (tables : ItemTables) (viewer : AuctionViewer)

def comparePrototypes (cmp : ItemPrototype → ItemPrototype → Ordering) (auc auc' : ListedAuction) : Ordering :=
  match tables.prototype auc.itemTemplate, tables.prototype auc'.itemTemplate with
  | some proto, some proto' => cmp proto proto'
  | _, _ => .eq

def ListedAuction.currentBid (auc : ListedAuction) : Nat := if auc.bid ≠ 0 then auc.bid else auc.startbid

def compareAuctionEntry : Nat → ListedAuction → ListedAuction → Ordering
  | 0 => comparePrototypes tables (compareOn (·.requiredLevel))
  | 1 => comparePrototypes tables (compareOn (·.quality))
  | 2 => compareLex (compareOn (·.buyout)) (compareOn (·.bid))
  | 3 => compareOn (·.expireTime)
  | 4 => compareOn (·.bidder)
  | 5 => comparePrototypes tables (compareOn fun proto => (viewer.itemName proto).getD [])
  | 6 => compareLex (compareOn (·.currentBid)) (compareOn (·.buyout))
  | 7 => compareOn (·.ownerName)
  | 8 => compareOn (·.currentBid)
  | 9 => compareOn (·.itemCount)
  | 10 => compareOn (·.buyout)
  | _ => fun _ _ => .eq

/-- `AuctionSorter::operator()` with the array of sort columns. -/
def auctionSorter : List Nat → ListedAuction → ListedAuction → Bool
  | [], _, _ => false
  | s :: sort, auc, auc' =>
    if s = maxAuctionSort then false
    else
      let res := compareAuctionEntry tables viewer (s &&& 0xEF) auc auc'
      if res = .eq then auctionSorter sort auc auc'
      else (res = .lt : Bool) == (s &&& auctionSortReversed = 0 : Bool)

def KnownAuction : Type := { auc : ListedAuction // (tables.prototype auc.itemTemplate).isSome }

variable {tables viewer}

def KnownAuction.proto (auc : KnownAuction tables) : ItemPrototype :=
  (tables.prototype auc.1.itemTemplate).get auc.2

theorem comparePrototypes_known (cmp : ItemPrototype → ItemPrototype → Ordering) (auc auc' : KnownAuction tables) :
    comparePrototypes tables cmp auc.1 auc'.1 = cmp auc.proto auc'.proto := by
  have hproto : ∀ auc : KnownAuction tables, tables.prototype auc.1.itemTemplate = some auc.proto :=
    fun auc => (Option.some_get auc.2).symm
  rw [comparePrototypes, hproto, hproto]

open Std in
theorem transCmp_compareAuctionEntry (column : Nat) :
    TransCmp fun auc auc' : KnownAuction tables => compareAuctionEntry tables viewer column auc.1 auc'.1 := by
  have hprototypes : ∀ cmp : ItemPrototype → ItemPrototype → Ordering, TransCmp cmp →
      TransCmp fun auc auc' : KnownAuction tables => comparePrototypes tables cmp auc.1 auc'.1 := by
    intro cmp hcmp
    simp only [comparePrototypes_known]
    exact transCmp_on cmp KnownAuction.proto
  unfold compareAuctionEntry
  split
  · exact hprototypes _ inferInstance
  · exact hprototypes _ inferInstance
  · exact inferInstanceAs (TransCmp (compareLex (compareOn fun auc : KnownAuction tables => auc.1.buyout)
      (compareOn fun auc : KnownAuction tables => auc.1.bid)))
  · exact inferInstanceAs (TransCmp (compareOn fun auc : KnownAuction tables => auc.1.expireTime))
  · exact inferInstanceAs (TransCmp (compareOn fun auc : KnownAuction tables => auc.1.bidder))
  · exact hprototypes _ inferInstance
  · exact inferInstanceAs (TransCmp (compareLex (compareOn fun auc : KnownAuction tables => auc.1.currentBid)
      (compareOn fun auc : KnownAuction tables => auc.1.buyout)))
  · exact inferInstanceAs (TransCmp (compareOn fun auc : KnownAuction tables => auc.1.ownerName))
  · exact inferInstanceAs (TransCmp (compareOn fun auc : KnownAuction tables => auc.1.currentBid))
  · exact inferInstanceAs (TransCmp (compareOn fun auc : KnownAuction tables => auc.1.itemCount))
  · exact inferInstanceAs (TransCmp (compareOn fun auc : KnownAuction tables => auc.1.buyout))
  · exact transCmp_const

variable (tables viewer)

def sortColumns (sort : List Nat) : List (KnownAuction tables → KnownAuction tables → Ordering) :=
  (sort.takeWhile (· ≠ maxAuctionSort)).map fun s =>
    directed (fun auc auc' => compareAuctionEntry tables viewer (s &&& 0xEF) auc.1 auc'.1)
      (s &&& auctionSortReversed ≠ 0)

variable {tables viewer}

open Std in
theorem auctionSorter_eq (sort : List Nat) (auc auc' : KnownAuction tables) :
    auctionSorter tables viewer sort auc.1 auc'.1 =
      (columnsCmp (sortColumns tables viewer sort) auc auc' = .lt : Bool) := by
  induction sort with
  | nil => rfl
  | cons s sort ih =>
    rw [auctionSorter]
    by_cases hend : s = maxAuctionSort
    · simp [hend, sortColumns, columnsCmp]
    · have hcolumns : sortColumns tables viewer (s :: sort) =
          directed (fun auc auc' => compareAuctionEntry tables viewer (s &&& 0xEF) auc.1 auc'.1)
            (s &&& auctionSortReversed ≠ 0) :: sortColumns tables viewer sort := by
        simp [sortColumns, hend]
      have hswap : compareAuctionEntry tables viewer (s &&& 0xEF) auc'.1 auc.1 =
          (compareAuctionEntry tables viewer (s &&& 0xEF) auc.1 auc'.1).swap :=
        (transCmp_compareAuctionEntry (s &&& 0xEF)).eq_swap
      rw [if_neg hend, ih, hcolumns, columnsCmp, compareLex, directed, hswap]
      cases compareAuctionEntry tables viewer (s &&& 0xEF) auc.1 auc'.1 with
      | lt => by_cases hreversed : s &&& auctionSortReversed = 0 <;> simp [hreversed]
      | eq => simp
      | gt => by_cases hreversed : s &&& auctionSortReversed = 0 <;> simp [hreversed]

/-- Whatever the client asks for, the sorter is a strict weak order. -/
theorem auctionSorter_strictWeakOrder (tables : ItemTables) (viewer : AuctionViewer) (sort : List Nat) :
    IsStrictWeakOrder (KnownAuction tables) fun auc auc' => auctionSorter tables viewer sort auc.1 auc'.1 := by
  have htrans : Std.TransCmp (columnsCmp (sortColumns tables viewer sort)) := by
    apply transCmp_columnsCmp
    intro cmp hcmp
    obtain ⟨s, -, rfl⟩ := List.mem_map.mp hcmp
    have hcolumn := @transCmp_compareAuctionEntry tables viewer (s &&& 0xEF)
    exact transCmp_directed _ _
  simp only [auctionSorter_eq, decide_eq_true_eq]
  exact isStrictWeakOrder_of_transCmp _

def wcharToLower (c : Nat) : Nat :=
  if 0x41 ≤ c ∧ c ≤ 0x5A then c + 0x20
  else if 0xC0 ≤ c ∧ c ≤ 0xD6 then c + 0x20
  else if 0xD8 ≤ c ∧ c ≤ 0xDE then c + 0x20
  else if 0x100 ≤ c ∧ c ≤ 0x12E ∧ c % 2 = 0 then c + 1
  else if c = 0x1E9E then 0xDF
  else if c = 0x401 then 0x451
  else if 0x410 ≤ c ∧ c ≤ 0x42F then c + 0x20
  else c

/-- `Utf8FitTo` for a name that is widened already. -/
def utf8FitTo (name : Option (List Nat)) (search : List Nat) : Bool :=
  name.any fun temp => decide (search <:+: temp.map wcharToLower)

/-- The search of a client, `0xffffffff` for whatever is not asked for. -/
structure AuctionSearch where
  searchedName : List Nat
  levelmin : Nat
  levelmax : Nat
  usable : Nat
  inventoryType : Nat
  itemClass : Nat
  itemSubClass : Nat
  quality : Nat

def AuctionSearch.passes (viewer : AuctionViewer) (search : AuctionSearch) (item : Item) : Bool :=
  let proto := item.proto
  (search.itemClass = 0xffffffff || proto.itemClass.ctorIdx = search.itemClass) &&
    (search.itemSubClass = 0xffffffff || proto.subClass = search.itemSubClass) &&
    (search.inventoryType = 0xffffffff || proto.inventoryType = search.inventoryType) &&
    (search.quality = 0xffffffff || search.quality ≤ proto.quality) &&
    !(search.levelmin ≠ 0 && (proto.requiredLevel < search.levelmin ||
      search.levelmax ≠ 0 && search.levelmax < proto.requiredLevel)) &&
    (search.usable = 0 || viewer.canUseItem item = .ok &&
      !(proto.itemClass = .recipe && (viewer.recipeSpell proto).any viewer.hasSpell)) &&
    (search.searchedName = [] || utf8FitTo (viewer.itemName proto) search.searchedName)

/-- What is written to the packet, with the two counters. -/
structure AuctionPage where
  data : List ListedAuction := []
  count : Nat := 0
  totalcount : Nat := 0

def AuctionPage.visit (viewer : AuctionViewer) (mgr : AuctionHouseMgr) (search : AuctionSearch) (listfrom : Nat)
    (isFull : Bool) (page : AuctionPage) (auc : Option ListedAuction) : AuctionPage :=
  match auc with
  | none => page
  | some auc =>
    if auc.moneyDeliveryTime ≠ 0 then page
    else match mgr.getAItem auc.itemGuidLow with
      | none => page
      | some item =>
        if isFull then ⟨page.data ++ [auc], page.count + 1, page.totalcount + 1⟩
        else if !search.passes viewer item then page
        else if page.count < 50 ∧ listfrom ≤ page.totalcount then
          ⟨page.data ++ [auc], page.count + 1, page.totalcount + 1⟩
        else { page with totalcount := page.totalcount + 1 }

/-- `WorldSession::BuildListAuctionItems` from counters of zero. -/
def buildListAuctionItems (viewer : AuctionViewer) (mgr : AuctionHouseMgr) (auctions : List (Option ListedAuction))
    (search : AuctionSearch) (listfrom : Nat) (isFull : Bool) : AuctionPage :=
  auctions.foldl (AuctionPage.visit viewer mgr search listfrom isFull) {}

/-- An auction that is not sold, of an item that exists and passes the filters. -/
def AuctionSearch.matched (viewer : AuctionViewer) (mgr : AuctionHouseMgr) (search : AuctionSearch)
    (auc : Option ListedAuction) : Option ListedAuction :=
  auc.filter fun auc =>
    auc.moneyDeliveryTime = 0 && (mgr.getAItem auc.itemGuidLow).any (search.passes viewer)

/-- The page of these matches. -/
structure AuctionPage.Shows (listfrom : Nat) (hits : List ListedAuction) (page : AuctionPage) : Prop where
  data : page.data = (hits.drop listfrom).take 50
  count : page.count = page.data.length
  totalcount : page.totalcount = hits.length

variable {mgr : AuctionHouseMgr} {search : AuctionSearch} {listfrom : Nat} {hits : List ListedAuction}
  {page : AuctionPage}

theorem AuctionPage.Shows.one (h : page.Shows listfrom hits) (auc : ListedAuction) :
    (if page.count < 50 ∧ listfrom ≤ page.totalcount then
        (⟨page.data ++ [auc], page.count + 1, page.totalcount + 1⟩ : AuctionPage)
      else { page with totalcount := page.totalcount + 1 }).Shows listfrom (hits ++ [auc]) := by
  obtain ⟨hdata, hcount, htotal⟩ := h
  have hlength : page.data.length = min 50 (hits.length - listfrom) := by
    rw [hdata, List.length_take, List.length_drop]
  split
  next hemit =>
    refine ⟨?_, by simp [hcount], by simp [htotal]⟩
    have hdrop : listfrom ≤ hits.length := by omega
    have hroom : (hits.drop listfrom).length < 50 := by
      rw [List.length_drop]
      omega
    rw [hdata, List.drop_append_of_le_length hdrop, List.take_append, List.take_of_length_le hroom.le,
      List.take_of_length_le (by simp; omega)]
  next hskip =>
    refine ⟨?_, hcount, by simp [htotal]⟩
    by_cases hdrop : listfrom ≤ hits.length
    · rw [List.drop_append_of_le_length hdrop, List.take_append_of_le_length (by rw [List.length_drop]; omega)]
      exact hdata
    · rw [List.drop_of_length_le (by simp; omega)]
      rw [List.drop_of_length_le (by omega)] at hdata
      exact hdata

theorem AuctionPage.Shows.visit (h : page.Shows listfrom hits) (auc : Option ListedAuction) :
    (page.visit viewer mgr search listfrom false auc).Shows listfrom
      (hits ++ (search.matched viewer mgr auc).toList) := by
  have hnone : page.Shows listfrom (hits ++ (none : Option ListedAuction).toList) := by
    rw [Option.toList_none, List.append_nil]
    exact h
  cases auc with
  | none => exact hnone
  | some auc =>
    rw [AuctionPage.visit, AuctionSearch.matched]
    by_cases hsold : auc.moneyDeliveryTime = 0
    · rw [if_neg (not_not.mpr hsold)]
      cases hitem : mgr.getAItem auc.itemGuidLow with
      | none => simpa [Option.filter, hitem] using h
      | some item =>
        cases hpasses : search.passes viewer item with
        | false => simpa [Option.filter, hitem, hpasses] using h
        | true => simpa [Option.filter, hitem, hpasses, hsold] using h.one auc
    · simpa [Option.filter, hsold] using h

theorem AuctionPage.Shows.foldl (h : page.Shows listfrom hits) (auctions : List (Option ListedAuction)) :
    (auctions.foldl (AuctionPage.visit viewer mgr search listfrom false) page).Shows listfrom
      (hits ++ auctions.filterMap (search.matched viewer mgr)) := by
  induction auctions generalizing page hits with
  | nil => simpa using h
  | cons auc auctions ih =>
    have hrest := ih (@AuctionPage.Shows.visit viewer mgr search listfrom hits page h auc)
    rw [List.foldl_cons]
    cases hauc : search.matched viewer mgr auc with
    | none => simpa [List.filterMap_cons, hauc] using hrest
    | some found => simpa [List.filterMap_cons, hauc] using hrest

theorem pages_flatMap (hits : List ListedAuction) (listfrom n : Nat) :
    ((List.range n).flatMap fun i => (hits.drop (listfrom + 50 * i)).take 50) =
      (hits.drop listfrom).take (50 * n) := by
  induction n with
  | zero => simp
  | succ n ih =>
    have hnext : 50 * (n + 1) = 50 * n + 50 := by omega
    rw [List.range_succ, List.flatMap_append, ih, List.flatMap_singleton, hnext, List.take_add, List.drop_drop]

/-- A page has the matches from its start on and the number of all matches; neighbouring pages have each of
them once. -/
theorem buildListAuctionItems_pages (viewer : AuctionViewer) (mgr : AuctionHouseMgr)
    (auctions : List (Option ListedAuction)) (search : AuctionSearch) :
    (∀ listfrom, (buildListAuctionItems viewer mgr auctions search listfrom false).Shows listfrom
      (auctions.filterMap (search.matched viewer mgr))) ∧ ∀ listfrom n, ((List.range n).flatMap fun i =>
        (buildListAuctionItems viewer mgr auctions search (listfrom + 50 * i) false).data) =
      ((auctions.filterMap (search.matched viewer mgr)).drop listfrom).take (50 * n) := by
  have hshows : ∀ listfrom, (buildListAuctionItems viewer mgr auctions search listfrom false).Shows listfrom
      (auctions.filterMap (search.matched viewer mgr)) := by
    intro listfrom
    have hempty : ({} : AuctionPage).Shows listfrom [] := ⟨by simp, rfl, rfl⟩
    exact hempty.foldl auctions
  refine ⟨hshows, fun listfrom n => ?_⟩
  rw [← pages_flatMap]
  simp only [(hshows _).data]

end Mangos
