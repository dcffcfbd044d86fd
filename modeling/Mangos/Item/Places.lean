import Mangos.Item.CanStore

/-!
# What a search for places finds

Every search of the cascade places pieces at the positions it tries, each within the room there, whatever
those positions are known to be (`P`).
-/

namespace Mangos

open Framework

namespace StoreQuery

variable {q : StoreQuery} {inv : Inventory} {proto : ItemPrototype} {P : ItemPos → Prop}
  {start : List ItemPosCount} {total : Nat} {f : Filling ItemPos}

/-- The room at a position for `n` items: a free slot takes a full stack, a stack of the same item
what it lacks. -/
def TakesAt (q : StoreQuery) (inv : Inventory) (proto : ItemPrototype) (pos : ItemPos) (n : Nat) :
    Prop :=
  match q.itemAt inv pos with
  | none => n ≤ proto.getMaxStackSize
  | some it => it.entry = proto.itemId ∧ it.count + n ≤ proto.getMaxStackSize

/-- A search that goes on from a sound filling keeps it sound, and never refuses with
`EQUIP_ERR_OK`. -/
def Keeps (q : StoreQuery) (inv : Inventory) (proto : ItemPrototype) (P : ItemPos → Prop)
    (stage : Filling ItemPos → StageResult) : Prop :=
  ∀ start total f, f.Sound (fun pos n => P pos ∧ q.TakesAt inv proto pos n) start total → 0 < f.left →
    match stage f with
    | .placed f' => f'.Sound (fun pos n => P pos ∧ q.TakesAt inv proto pos n) start total
    | .skipped => True
    | .refused res _ => res ≠ .ok

private theorem room_takesAt {merge : Bool} {pos : ItemPos} (hpos : P pos) {space : Nat}
    (hroom : q.room inv proto merge pos = some space) :
    0 < space ∧ ∀ n, 0 < n → n ≤ space → P pos ∧ q.TakesAt inv proto pos n := by
  have hmax := proto.getMaxStackSize_pos
  unfold room at hroom
  unfold TakesAt
  cases hat : q.itemAt inv pos with
  | none =>
    rw [hat] at hroom
    cases merge with
    | true => simp at hroom
    | false =>
      simp only [Bool.false_eq_true, if_false, Option.some.injEq] at hroom
      exact ⟨by omega, fun n _ hn => ⟨hpos, by omega⟩⟩
  | some it =>
    simp only [hat] at hroom
    split at hroom
    next hmerge =>
      simp only [Bool.and_eq_true, decide_eq_true_eq] at hmerge
      obtain ⟨hentry, hcount⟩ := Item.entry_of_canBeMergedPartlyWith hmerge.2
      simp only [Option.some.injEq] at hroom
      exact ⟨by omega, fun n _ hn => ⟨hpos, hentry, by omega⟩⟩
    next => cases hroom

theorem fill_keeps {merge : Bool} {ks : List ItemPos} (hks : ∀ pos ∈ ks, P pos) :
    q.Keeps inv proto P fun f => .placed (fill (q.room inv proto merge) ks f) := by
  intro start total f hf hleft
  exact hf.fill hleft fun pos hpos space hroom => room_takesAt (hks pos hpos) hroom

theorem inInventorySlots_keeps (merge : Bool)
    (hP : ∀ pos ∈ slotsOf inventorySlotBag0 inventorySlotItemStart inventorySlotItemEnd, P pos) :
    q.Keeps inv proto P (q.inInventorySlots inv proto merge) :=
  fill_keeps fun pos hpos => hP pos (List.mem_of_mem_filter hpos)

theorem inBag_refused {bag : Nat} {merge nonSpecialized : Bool} {skipBag : Nat}
    {res : InventoryResult} {reported : Bool}
    (h : q.inBag inv proto bag merge nonSpecialized skipBag f = .refused res reported) :
    res = .itemDoesntGoIntoBag ∧ reported = true := by
  unfold inBag at h
  split at h
  · cases h
    exact ⟨rfl, rfl⟩
  split at h
  · cases h
    exact ⟨rfl, rfl⟩
  split at h
  · cases h
    exact ⟨rfl, rfl⟩
  split at h
  · cases h
    exact ⟨rfl, rfl⟩
  split at h
  · cases h
    exact ⟨rfl, rfl⟩
  cases h

theorem inBag_keeps {bag : Nat} {merge nonSpecialized : Bool} {skipBag : Nat}
    (hP : ∀ pBag, inv.getItemByPos ⟨inventorySlotBag0, bag⟩ = some pBag →
      q.pItem.any (·.guid = pBag.guid) = false → itemCanGoIntoBag proto pBag.proto →
      ∀ pos ∈ slotsOf bag 0 pBag.getBagSize, P pos) :
    q.Keeps inv proto P (q.inBag inv proto bag merge nonSpecialized skipBag) := by
  intro start total f hf hleft
  cases hsearch : q.inBag inv proto bag merge nonSpecialized skipBag f with
  | skipped => trivial
  | refused res reported => simp [(inBag_refused hsearch).1]
  | placed f' =>
    unfold inBag at hsearch
    split at hsearch
    · cases hsearch
    split at hsearch
    · cases hsearch
    next pBag hworn =>
      split at hsearch
      · cases hsearch
      next hother =>
        split at hsearch
        · cases hsearch
        split at hsearch
        · cases hsearch
        next hfits =>
          cases hsearch
          exact fill_keeps (fun pos hpos => hP pBag hworn (by simpa using hother)
            (by simpa using hfits) pos (List.mem_of_mem_filter hpos)) start total f hf hleft

theorem Keeps.orSkip {stage : Filling ItemPos → StageResult} (h : q.Keeps inv proto P stage) :
    q.Keeps inv proto P fun f => (stage f).orSkip := by
  intro start total f hf hleft
  have hstage := h start total f hf hleft
  dsimp only
  cases hresult : stage f with
  | placed f' =>
    rw [hresult] at hstage
    exact hstage
  | skipped => trivial
  | refused res reported => trivial

theorem inNamedBag_keeps {merge : Bool}
    (h : ∀ nonSpecialized, q.Keeps inv proto P (q.inBag inv proto q.bag merge nonSpecialized nullBag)) :
    q.Keeps inv proto P (q.inNamedBag inv proto merge) := by
  intro start total f hf hleft
  have hspecial := h false start total f hf hleft
  have hplain := h true start total f hf hleft
  unfold inNamedBag
  cases hfirst : q.inBag inv proto q.bag merge false nullBag f with
  | placed f' =>
    rw [hfirst] at hspecial
    exact hspecial
  | skipped => exact hplain
  | refused res reported => exact hplain

theorem checkBagEmpty_keeps : q.Keeps inv proto P q.checkBagEmpty := by
  intro start total f _ _
  by_cases hfull : (q.pItem.any (·.isBag) && !q.bagIsEmpty) = true
  · simp [checkBagEmpty, hfull]
  · simp [checkBagEmpty, hfull]

private theorem push_keeps {k : ItemPos} {space : Nat}
    (hf : f.Sound (fun pos n => P pos ∧ q.TakesAt inv proto pos n) start total)
    (hleft : 0 < f.left) (hspace : 0 < space) (hadmits : ∀ n, 0 < n → n ≤ space → P k ∧ q.TakesAt inv proto k n) :
    match (if f.dest.any (·.pos = k) then StageResult.placed f else .placed (f.push k space)) with
    | .placed f' => f'.Sound (fun pos n => P pos ∧ q.TakesAt inv proto pos n) start total
    | .skipped => True
    | .refused res _ => res ≠ .ok := by
  by_cases htaken : f.dest.any (·.pos = k)
  · rw [if_pos htaken]
    exact hf
  · rw [if_neg htaken]
    exact hf.push hleft (by simpa using htaken) hspace hadmits

def OwnSlot (q : StoreQuery) : Prop :=
  q.bag = inventorySlotBag0 ∧ q.slot < playerSlotEnd ∧ ¬ (buybackSlotStart ≤ q.slot ∧ q.slot < buybackSlotEnd)

theorem ownSlot_of_not_buyback (hback : q.bag = inventorySlotBag0)
    (hbuyback : ¬ ((buybackSlotStart ≤ q.slot && q.slot < buybackSlotEnd) ||
      playerSlotEnd ≤ q.slot) = true) : q.OwnSlot := by
  simp only [Bool.or_eq_true, Bool.and_eq_true, decide_eq_true_eq, not_or] at hbuyback
  exact ⟨hback, by omega, hbuyback.1⟩

theorem inSpecificSlot_keeps (hfree : q.swap = false ∨ q.itemAt inv ⟨q.bag, q.slot⟩ = none)
    (hP : (q.itemAt inv ⟨q.bag, q.slot⟩).isSome ∨ q.OwnSlot ∨
      (∃ bag, inv.getItemByPos ⟨inventorySlotBag0, q.bag⟩ = some bag ∧
        q.slot < bag.proto.containerSlots ∧ itemCanGoIntoBag proto bag.proto) → P ⟨q.bag, q.slot⟩) :
    q.Keeps inv proto P (q.inSpecificSlot inv proto) := by
  intro start total f hf hleft
  have hmax := proto.getMaxStackSize_pos
  unfold inSpecificSlot
  cases hat : q.itemAt inv ⟨q.bag, q.slot⟩ with
  | some it =>
    have hswap : q.swap = false := by
      rcases hfree with hswap | hnone
      · exact hswap
      · rw [hat] at hnone
        cases hnone
    have hpos : P ⟨q.bag, q.slot⟩ := hP (.inl (by rw [hat]; rfl))
    cases hmerge : it.canBeMergedPartlyWith proto with
    | ok =>
      have hroom : q.room inv proto true ⟨q.bag, q.slot⟩ = some (proto.getMaxStackSize - it.count) := by
        simp [room, hat, hmerge]
      obtain ⟨hspace, hadmits⟩ := room_takesAt hpos hroom
      simp only [hat, hswap, hmerge]
      exact push_keeps hf hleft hspace hadmits
    | _ => simp [hat, hswap, hmerge]
  | none =>
    have hroom : q.room inv proto false ⟨q.bag, q.slot⟩ = some proto.getMaxStackSize := by
      simp [room, hat]
    simp only [hat]
    by_cases hback : q.bag = inventorySlotBag0
    · rw [if_pos hback]
      by_cases hbuyback : ((buybackSlotStart ≤ q.slot && q.slot < buybackSlotEnd) ||
          playerSlotEnd ≤ q.slot) = true
      · rw [if_pos hbuyback]
        simp
      · rw [if_neg hbuyback]
        have hpos : P ⟨q.bag, q.slot⟩ := hP (.inr (.inl (ownSlot_of_not_buyback hback hbuyback)))
        exact push_keeps hf hleft hmax (room_takesAt hpos hroom).2
    · rw [if_neg hback]
      cases hworn : inv.getItemByPos ⟨inventorySlotBag0, q.bag⟩ with
      | none => simp
      | some bag =>
        dsimp only
        by_cases hsize : bag.proto.containerSlots ≤ q.slot
        · rw [if_pos hsize]
          simp
        by_cases hfits : (!itemCanGoIntoBag proto bag.proto) = true
        · rw [if_neg hsize, if_pos hfits]
          simp
        rw [if_neg hsize, if_neg hfits]
        have hpos : P ⟨q.bag, q.slot⟩ :=
          hP (.inr (.inr ⟨bag, hworn, by omega, by simpa using hfits⟩))
        exact push_keeps hf hleft hmax (room_takesAt hpos hroom).2

theorem mem_anywhereStages {stage : Filling ItemPos → StageResult} (hstage : stage ∈ q.anywhereStages inv proto) :
    stage = q.checkBagEmpty ∨ (∃ merge, stage = q.inInventorySlots inv proto merge) ∨
      ∃ merge nonSpecialized, stage ∈ q.inBags inv proto merge nonSpecialized := by
  unfold anywhereStages at hstage
  by_cases hstack : proto.stackable ≠ 1 <;> by_cases hfamily : proto.bagFamily ≠ 0 <;>
    simp only [hstack, hfamily, if_false, List.mem_append, List.mem_cons,
      List.not_mem_nil, or_false, List.nil_append, List.cons_append] at hstage <;> grind

theorem namedStages_eq : ∃ stages, q.namedStages inv proto =
    (if q.bag ≠ nullBag ∧ q.slot ≠ nullSlot then [q.inSpecificSlot inv proto] else []) ++ stages ∧
      ∀ stage ∈ stages, q.bag ≠ nullBag ∧
        ((q.bag = inventorySlotBag0 ∧ ∃ merge, stage = q.inInventorySlots inv proto merge) ∨
          (q.bag ≠ inventorySlotBag0 ∧ ∃ merge, stage = q.inNamedBag inv proto merge)) := by
  refine ⟨_, rfl, fun stage hsearch => ?_⟩
  split at hsearch
  next => cases hsearch
  next hbag =>
    refine ⟨hbag, ?_⟩
    have hall : ∃ merge, stage = if q.bag = inventorySlotBag0 then
        q.inInventorySlots inv proto merge else q.inNamedBag inv proto merge := by
      dsimp only at hsearch
      split at hsearch
      · rcases List.mem_cons.mp hsearch with hfirst | hsecond
        · exact ⟨true, hfirst⟩
        · exact ⟨false, List.mem_singleton.mp hsecond⟩
      · exact ⟨false, List.mem_singleton.mp hsearch⟩
    obtain ⟨merge, hmerge⟩ := hall
    by_cases hback : q.bag = inventorySlotBag0
    · rw [if_pos hback] at hmerge
      exact .inl ⟨hback, merge, hmerge⟩
    · rw [if_neg hback] at hmerge
      exact .inr ⟨hback, merge, hmerge⟩

theorem mem_namedStages {stage : Filling ItemPos → StageResult} (hstage : stage ∈ q.namedStages inv proto) :
    q.bag ≠ nullBag ∧ ((q.slot ≠ nullSlot ∧ stage = q.inSpecificSlot inv proto) ∨
      (q.bag = inventorySlotBag0 ∧ ∃ merge, stage = q.inInventorySlots inv proto merge) ∨
      (q.bag ≠ inventorySlotBag0 ∧ ∃ merge, stage = q.inNamedBag inv proto merge)) := by
  obtain ⟨stages, heq, hstages⟩ := @namedStages_eq q inv proto
  rw [heq, List.mem_append] at hstage
  rcases hstage with hspecific | hsearch
  · split at hspecific
    next hnamed => exact ⟨hnamed.1, .inl ⟨hnamed.2, List.mem_singleton.mp hspecific⟩⟩
    next => cases hspecific
  · obtain ⟨hbag, hkind⟩ := hstages stage hsearch
    exact ⟨hbag, .inr hkind⟩

theorem anywhereStages_keeps
    (hback : ∀ pos ∈ slotsOf inventorySlotBag0 inventorySlotItemStart inventorySlotItemEnd, P pos)
    (hbags : ∀ bag ∈ List.range' inventorySlotBagStart (inventorySlotBagEnd - inventorySlotBagStart),
      ∀ pBag, inv.getItemByPos ⟨inventorySlotBag0, bag⟩ = some pBag →
        q.pItem.any (·.guid = pBag.guid) = false → itemCanGoIntoBag proto pBag.proto →
        ∀ pos ∈ slotsOf bag 0 pBag.getBagSize, P pos) :
    ∀ stage ∈ q.anywhereStages inv proto, q.Keeps inv proto P stage := by
  intro stage hstage
  rcases mem_anywhereStages hstage with rfl | ⟨merge, rfl⟩ | ⟨merge, nonSpecialized, hmem⟩
  · exact checkBagEmpty_keeps
  · exact inInventorySlots_keeps merge hback
  · obtain ⟨bag, hbag, rfl⟩ := List.mem_map.mp hmem
    exact (inBag_keeps (hbags bag hbag)).orSkip

def Explains (stage : Filling ItemPos → StageResult) : Prop :=
  ∀ f res reported, stage f = .refused res reported → res ≠ .ok ∧ (reported = true ∨ res = .nonemptyBagOverOtherBag)

private theorem inSpecificSlot_explains : Explains (q.inSpecificSlot inv proto) := by
  intro f res reported h
  unfold inSpecificSlot at h
  dsimp only at h
  split at h
  · split at h
    · split at h <;> cases h
    next hmerge =>
      rw [StageResult.refused.injEq] at h
      obtain ⟨rfl, rfl⟩ := h
      exact ⟨hmerge, .inl rfl⟩
  · grind

private theorem inNamedBag_explains (merge : Bool) : Explains (q.inNamedBag inv proto merge) := by
  intro f res reported h
  unfold inNamedBag at h
  split at h
  · cases h
  · obtain ⟨rfl, rfl⟩ := inBag_refused h
    exact ⟨by decide, .inl rfl⟩

private theorem checkBagEmpty_explains : Explains q.checkBagEmpty := by
  intro f res reported h
  unfold checkBagEmpty at h
  split at h
  · cases h
    exact ⟨by decide, .inr rfl⟩
  · cases h

private theorem orSkip_explains (stage : Filling ItemPos → StageResult) : Explains fun f => (stage f).orSkip := by
  intro f res reported h
  dsimp only at h
  cases hresult : stage f with
  | placed f' => simp [hresult, StageResult.orSkip] at h
  | skipped => simp [hresult, StageResult.orSkip] at h
  | refused res reported => simp [hresult, StageResult.orSkip] at h

theorem stages_explain : ∀ stage ∈ q.namedStages inv proto ++ q.anywhereStages inv proto, Explains stage := by
  intro stage hstage
  rcases List.mem_append.mp hstage with hnamed | hanywhere
  · obtain ⟨-, ⟨-, rfl⟩ | ⟨-, merge, rfl⟩ | ⟨-, merge, rfl⟩⟩ := mem_namedStages hnamed
    · exact inSpecificSlot_explains
    · intro f res reported h
      cases h
    · exact inNamedBag_explains merge
  · rcases mem_anywhereStages hanywhere with rfl | ⟨merge, rfl⟩ | ⟨merge, nonSpecialized, hmem⟩
    · exact checkBagEmpty_explains
    · intro f res reported h
      cases h
    · obtain ⟨bag, -, rfl⟩ := List.mem_map.mp hmem
      exact orSkip_explains _

theorem runStages_keeps {noSimilarCount : Nat} {stages : List (Filling ItemPos → StageResult)}
    (hstages : ∀ stage ∈ stages, q.Keeps inv proto P stage)
    (hf : f.Sound (fun pos n => P pos ∧ q.TakesAt inv proto pos n) start total) (hleft : 0 < f.left) :
    ∃ left, Filling.Sound (fun pos n => P pos ∧ q.TakesAt inv proto pos n) start total
        ⟨(runStages noSimilarCount stages f).dest, left⟩ ∧
      ((runStages noSimilarCount stages f).result = .ok → left = 0 ∧ noSimilarCount = 0) ∧
      ((∀ stage ∈ stages, Explains stage) → total + noSimilarCount < 2 ^ 32 →
        (runStages noSimilarCount stages f).result ≠ .ok →
        (runStages noSimilarCount stages f).result ≠ .nonemptyBagOverOtherBag →
        (runStages noSimilarCount stages f).noSpaceCount = left + noSimilarCount) := by
  have hle : f.left ≤ total := by
    have htotal := hf.total
    omega
  induction stages generalizing f with
  | nil =>
    refine ⟨f.left, hf, ?_, fun _ hwords _ _ => Nat.mod_eq_of_lt (by omega)⟩
    intro hok
    cases hok
  | cons stage stages ih =>
    have hstage := hstages stage List.mem_cons_self start total f hf hleft
    have hrest := fun s hs => hstages s (List.mem_cons_of_mem stage hs)
    rw [runStages]
    cases hresult : stage f with
    | placed f' =>
      simp only [hresult] at hstage ⊢
      by_cases hdone : f'.left = 0
      · simp only [hdone, if_true]
        by_cases hsimilar : noSimilarCount = 0
        · simp only [hsimilar, if_true]
          exact ⟨f'.left, hstage, fun _ => ⟨hdone, trivial⟩, fun _ _ hno => absurd rfl hno⟩
        · simp only [hsimilar, if_false]
          refine ⟨f'.left, hstage, ?_, fun _ _ _ _ => by rw [hdone, Nat.zero_add]⟩
          intro hok
          cases hok
      · simp only [hdone, if_false]
        have hle' : f'.left ≤ total := by
          have htotal := hstage.total
          omega
        obtain ⟨left, hsound, hok, hreport⟩ :=
          ih hrest hstage (Nat.pos_of_ne_zero hdone) hle'
        exact ⟨left, hsound, hok, fun hall =>
          hreport fun s hs => hall s (List.mem_cons_of_mem stage hs)⟩
    | skipped =>
      simp only
      obtain ⟨left, hsound, hok, hreport⟩ := ih hrest hf hleft hle
      exact ⟨left, hsound, hok, fun hall =>
        hreport fun s hs => hall s (List.mem_cons_of_mem stage hs)⟩
    | refused res reported =>
      simp only [hresult] at hstage ⊢
      refine ⟨f.left, hf, fun hok => absurd hok hstage, fun hall hwords _ hbag => ?_⟩
      cases reported with
      | true => exact Nat.mod_eq_of_lt (by omega)
      | false =>
        obtain ⟨-, hreported | hfull⟩ := hall stage List.mem_cons_self f res false hresult
        · cases hreported
        · exact absurd hfull hbag

/-! A free place, or one to be swapped, is filled as if nothing lay there. -/

private theorem runStages_ok {noSimilarCount : Nat}
    {stages : List (Filling ItemPos → StageResult)} (hstages : ∀ stage ∈ stages, Explains stage)
    (h : (runStages noSimilarCount stages f).result = .ok) : noSimilarCount = 0 := by
  induction stages generalizing f with
  | nil => cases h
  | cons stage stages ih =>
    have hrest := fun s hs => hstages s (List.mem_cons_of_mem stage hs)
    rw [runStages] at h
    cases hresult : stage f with
    | placed f' =>
      simp only [hresult] at h
      split at h
      · split at h
        · assumption
        · cases h
      · exact ih hrest h
    | skipped =>
      simp only [hresult] at h
      exact ih hrest h
    | refused res reported =>
      simp only [hresult] at h
      exact absurd h (hstages stage List.mem_cons_self f res reported hresult).1

private theorem inSpecificSlot_whole (hfree : q.swap = true ∨ q.itemAt inv ⟨q.bag, q.slot⟩ = none)
    (hmax : f.left ≤ proto.getMaxStackSize) (hnew : f.dest = []) :
    (∃ res reported, q.inSpecificSlot inv proto f = .refused res reported ∧ res ≠ .ok) ∨
      q.inSpecificSlot inv proto f = .placed ⟨[⟨⟨q.bag, q.slot⟩, f.left⟩], 0⟩ := by
  have hpush : f.push ⟨q.bag, q.slot⟩ proto.getMaxStackSize = ⟨[⟨⟨q.bag, q.slot⟩, f.left⟩], 0⟩ := by
    simp [Filling.push, hnew, Nat.min_eq_right hmax]
  unfold inSpecificSlot
  rcases hfree with hfree | hfree <;>
    simp only [hfree, hnew, List.any_nil, Bool.false_eq_true, if_false, hpush] <;> grind

theorem runStages_whole {noSimilarCount : Nat} {stages : List (Filling ItemPos → StageResult)}
    (hfree : q.swap = true ∨ q.itemAt inv ⟨q.bag, q.slot⟩ = none)
    (hmax : f.left ≤ proto.getMaxStackSize) (hnew : f.dest = [])
    (hok : (runStages noSimilarCount (q.inSpecificSlot inv proto :: stages) f).result = .ok) :
    (runStages noSimilarCount (q.inSpecificSlot inv proto :: stages) f).dest = [⟨⟨q.bag, q.slot⟩, f.left⟩] := by
  rw [runStages] at hok ⊢
  rcases inSpecificSlot_whole hfree hmax hnew with ⟨res, reported, hrefused, hres⟩ | hplaced
  · rw [hrefused] at hok
    exact absurd hok hres
  · rw [hplaced]
    dsimp only
    rw [if_pos rfl]
    split <;> rfl

theorem runStages_merges {noSimilarCount : Nat} {stages : List (Filling ItemPos → StageResult)}
    {it : Item} (hswap : q.swap = false) (hat : q.itemAt inv ⟨q.bag, q.slot⟩ = some it)
    (hok : (runStages noSimilarCount (q.inSpecificSlot inv proto :: stages) f).result = .ok) :
    it.canBeMergedPartlyWith proto = .ok := by
  rw [runStages] at hok
  cases hmerge : it.canBeMergedPartlyWith proto with
  | ok => rfl
  | _ =>
    have hrefused : q.inSpecificSlot inv proto f = .refused (it.canBeMergedPartlyWith proto) true := by
      simp [inSpecificSlot, hat, hswap, hmerge]
    rw [hrefused, hmerge] at hok
    cases hok

end StoreQuery

/-- What a search adds to the places `start` found before. -/
structure StoreQuery.Places (q : StoreQuery) (inv : Inventory) (proto : ItemPrototype)
    (P : ItemPos → Prop) (start : List ItemPosCount) (answer : StoreAnswer) : Prop where
  kept : start <+: answer.dest
  distinct : (answer.dest.map (·.pos)).Nodup
  admitted : ∀ p ∈ addedTo start answer.dest, 0 < p.count ∧ P p.pos ∧ q.TakesAt inv proto p.pos p.count
  total : answer.result = .ok → placed (addedTo start answer.dest) = q.count

private theorem uint32Sub_pos {a b : Nat} (hab : a ≠ b) : 0 < uint32Sub a b := by
  unfold uint32Sub
  split
  · omega
  · have hlt := Nat.mod_lt (b - a) (show 0 < 2 ^ 32 by decide)
    omega

private theorem canTake_ok {inv : Inventory} {proto : ItemPrototype} {count : Nat}
    {pItem : Option Item} (h : (inv.canTakeMoreSimilarItems proto count pItem).1 = .ok) :
    (inv.canTakeMoreSimilarItems proto count pItem).2 = 0 := by
  unfold Inventory.canTakeMoreSimilarItems at h ⊢
  grind

private theorem StoreQuery.Places.refused {q : StoreQuery} {inv : Inventory}
    {proto : ItemPrototype} {P : ItemPos → Prop} {start : List ItemPosCount}
    (hstart : (start.map (·.pos)).Nodup) {res : InventoryResult} (hres : res ≠ .ok) (n : Nat) :
    q.Places inv proto P start ⟨res, start, n⟩ :=
  ⟨List.prefix_rfl, hstart, by simp, fun hok => absurd hok hres⟩

theorem Player.canStoreItem_cases {tables : ItemTables} {pl : Player} {q : StoreQuery}
    {proto : ItemPrototype} (hproto : tables.prototype q.entry = some proto) (accounts : Accounts)
    (start : List ItemPosCount) : (∃ res, res ≠ .ok ∧ pl.canStoreItem tables accounts q start = ⟨res, start, q.count⟩) ∨
      let similar := pl.inventory.canTakeMoreSimilarItems proto q.count q.pItem
      ¬ (similar.1 ≠ .ok ∧ q.count = similar.2) ∧ pl.canStoreItem tables accounts q start =
        runStages similar.2 (q.namedStages pl.inventory proto ++ q.anywhereStages pl.inventory proto)
          ⟨start, uint32Sub q.count similar.2⟩ := by
  unfold canStoreItem
  simp only [hproto]
  split
  · exact .inl ⟨_, by decide, rfl⟩
  split
  · exact .inl ⟨_, by decide, rfl⟩
  split
  next hrefused => exact .inl ⟨_, hrefused.1, congrArg _ hrefused.2.symm⟩
  next hsimilar => exact .inr ⟨hsimilar, rfl⟩

theorem Inventory.uint32Sub_similar_pos {inv : Inventory} {proto : ItemPrototype} {count : Nat}
    {pItem : Option Item} (hcount : 0 < count) (h : ¬ ((inv.canTakeMoreSimilarItems proto count pItem).1 ≠ .ok ∧
      count = (inv.canTakeMoreSimilarItems proto count pItem).2)) :
    0 < uint32Sub count (inv.canTakeMoreSimilarItems proto count pItem).2 := by
  refine uint32Sub_pos fun heq => h ⟨fun hok => ?_, heq⟩
  have hzero := canTake_ok hok
  omega

theorem Player.canStoreItem_places {tables : ItemTables} {accounts : Accounts} {pl : Player}
    {q : StoreQuery} {proto : ItemPrototype} {P : ItemPos → Prop} {start : List ItemPosCount}
    (hproto : tables.prototype q.entry = some proto)
    (hstages : ∀ stage ∈ q.namedStages pl.inventory proto ++ q.anywhereStages pl.inventory proto,
      q.Keeps pl.inventory proto P stage) (hcount : 0 < q.count) (hstart : (start.map (·.pos)).Nodup) :
    q.Places pl.inventory proto P start (pl.canStoreItem tables accounts q start) := by
  rcases canStoreItem_cases hproto accounts start with ⟨res, hres, hanswer⟩ | ⟨hsimilar, hanswer⟩
  · rw [hanswer]
    exact .refused hstart hres _
  · rw [hanswer]
    have hleft := Inventory.uint32Sub_similar_pos hcount hsimilar
    generalize (pl.inventory.canTakeMoreSimilarItems proto q.count q.pItem).2 = noSimilarCount at *
    have hbegin := Filling.Sound.refl
      (fun pos n => P pos ∧ q.TakesAt pl.inventory proto pos n) hstart (uint32Sub q.count noSimilarCount)
    obtain ⟨left, hsound, hall, -⟩ := @StoreQuery.runStages_keeps q pl.inventory proto P start _ _
      noSimilarCount _ hstages hbegin hleft
    refine ⟨hsound.kept, hsound.distinct, hsound.admitted, fun hok => ?_⟩
    obtain ⟨hnone, hzero⟩ := hall hok
    have htotal := hsound.total
    rw [hnone, hzero, Nat.add_zero] at htotal
    simpa [uint32Sub, hzero] using htotal

private theorem Player.canStoreItem_eq_runStages {tables : ItemTables} {accounts : Accounts} {pl : Player}
    {q : StoreQuery} {proto : ItemPrototype} (hproto : tables.prototype q.entry = some proto)
    (hok : (pl.canStoreItem tables accounts q []).result = .ok) : pl.canStoreItem tables accounts q [] =
      runStages 0 (q.namedStages pl.inventory proto ++ q.anywhereStages pl.inventory proto) ⟨[], q.count⟩ := by
  rcases canStoreItem_cases hproto accounts [] with ⟨res, hres, hanswer⟩ | ⟨-, hanswer⟩
  · rw [hanswer] at hok
    exact absurd hok hres
  · rw [hanswer] at hok ⊢
    have hnone := StoreQuery.runStages_ok StoreQuery.stages_explain hok
    rw [hnone]
    simp [uint32Sub]

theorem Player.canStoreItem_whole {tables : ItemTables} {accounts : Accounts} {pl : Player}
    {q : StoreQuery} {proto : ItemPrototype} (hbag : q.bag ≠ nullBag) (hslot : q.slot ≠ nullSlot)
    (hfree : q.swap = true ∨ q.itemAt pl.inventory ⟨q.bag, q.slot⟩ = none)
    (hproto : tables.prototype q.entry = some proto) (hmax : q.count ≤ proto.getMaxStackSize)
    (hok : (pl.canStoreItem tables accounts q []).result = .ok) :
    (pl.canStoreItem tables accounts q []).dest = [⟨⟨q.bag, q.slot⟩, q.count⟩] := by
  have hstages : ∃ stages, q.namedStages pl.inventory proto ++ q.anywhereStages pl.inventory proto =
      q.inSpecificSlot pl.inventory proto :: stages := by
    simp [StoreQuery.namedStages, hbag, hslot]
  obtain ⟨stages, hcons⟩ := hstages
  have hrun := Player.canStoreItem_eq_runStages hproto hok
  rw [hcons] at hrun
  rw [hrun] at hok ⊢
  exact StoreQuery.runStages_whole hfree hmax rfl hok

theorem Player.canStoreItem_merges {tables : ItemTables} {accounts : Accounts} {pl : Player}
    {q : StoreQuery} {proto : ItemPrototype} {it : Item} (hbag : q.bag ≠ nullBag)
    (hslot : q.slot ≠ nullSlot) (hswap : q.swap = false)
    (hat : q.itemAt pl.inventory ⟨q.bag, q.slot⟩ = some it) (hproto : tables.prototype q.entry = some proto)
    (hok : (pl.canStoreItem tables accounts q []).result = .ok) : it.canBeMergedPartlyWith proto = .ok := by
  have hstages : ∃ stages, q.namedStages pl.inventory proto ++ q.anywhereStages pl.inventory proto =
      q.inSpecificSlot pl.inventory proto :: stages := by
    simp [StoreQuery.namedStages, hbag, hslot]
  obtain ⟨stages, hcons⟩ := hstages
  rw [Player.canStoreItem_eq_runStages hproto hok, hcons] at hok
  exact StoreQuery.runStages_merges hswap hat hok

end Mangos
