import Mangos.Framework.Run
import Mangos.Trade.TradeData

/-!
# Who trades with whom

The windows of all players.
-/

namespace Mangos

open Framework

/-- A player's window with the partner. -/
structure TradeSession where
  trader : Nat
  data : TradeData

inductive TradeStatus
  | youDead | youStunned | youLogout | targetToFar | noTarget | busy | targetDead | targetStunned
  | targetLogout | ignoreYou | beginTrade
  deriving DecidableEq, Repr

/-- What stops a player from trading. -/
structure TradeHindrance where
  dead : Bool := false
  stunned : Bool := false
  taxiFlying : Bool := false

/-- What a request to trade finds: both players, and how they stand to each other. -/
structure InitiateView where
  mine : TradeHindrance := {}
  his : TradeHindrance := {}
  hisInWorld : Bool := true
  ignored : Bool := false
  near : Bool := true

/-- All players with their windows. `crashed` is set when a window that is not there is asked for. -/
structure TradeWorld where
  players : Nat → Option Player
  sessions : Nat → Option TradeSession
  nextItemGuid : Nat
  stranded : List Item
  crashed : Bool

namespace TradeWorld

def start : TradeWorld where
  players := fun _ => none
  sessions := fun _ => none
  nextItemGuid := 1
  stranded := []
  crashed := false

variable (w : TradeWorld)

def setPlayer (guid : Nat) (pl : Option Player) : TradeWorld :=
  { w with players := Function.update w.players guid pl }

def setSession (guid : Nat) (session : Option TradeSession) : TradeWorld :=
  { w with sessions := Function.update w.sessions guid session }

def setPair (me other : Nat) (pair : Option TradePair) : TradeWorld :=
  (w.setSession me (pair.map fun pair => ⟨other, pair.my⟩)).setSession other
    (pair.map fun pair => ⟨me, pair.his⟩)

/-- A player's window and, through `GetTraderData`, the partner's. -/
def withTrade (me : Nat) (f : Player → TradePair → TradePair) : TradeWorld :=
  match w.players me, w.sessions me with
  | some pl, some mine =>
    match w.sessions mine.trader with
    | some his => w.setPair me mine.trader (some (f pl ⟨mine.data, his.data⟩))
    | none => { w with crashed := true }
  | _, _ => w

/-- What `HandleInitiateTrade` answers a player who cannot trade. -/
def myRefusal (pl : Player) (view : InitiateView) : Option TradeStatus :=
  if view.mine.dead then some .youDead
  else if view.mine.stunned then some .youStunned
  else if pl.logingOut then some .youLogout
  else if view.mine.taxiFlying then some .targetToFar
  else none

def hisRefusal (pOther : Player) (view : InitiateView) : Option TradeStatus :=
  if view.his.dead then some .targetDead
  else if view.his.taxiFlying then some .targetToFar
  else if view.his.stunned then some .targetStunned
  else if pOther.logingOut then some .targetLogout
  else if view.ignored then some .ignoreYou
  else if !view.near then some .targetToFar
  else none

/-- `HandleInitiateTrade`; there is no answer to who has a window already. -/
def handleInitiateTrade (me other : Nat) (view : InitiateView) : TradeWorld × Option TradeStatus :=
  match w.players me, w.sessions me with
  | some pl, none =>
    match myRefusal pl view, (w.players other).filter fun _ => view.hisInWorld with
    | some status, _ => (w, some status)
    | none, none => (w, some .noTarget)
    | none, some pOther =>
      if other = me ∨ (w.sessions other).isSome then (w, some .busy)
      else match hisRefusal pOther view with
        | some status => (w, some status)
        | none => (w.setPair me other (some ⟨.opened, .opened⟩), some .beginTrade)
  | _, _ => (w, none)

def tradeCancel (me : Nat) : TradeWorld :=
  match w.sessions me with
  | none => w
  | some mine => w.setPair me mine.trader none

/-- The end of a session at the logout (`CleanupsBeforeDelete`). -/
def logout (me : Nat) : TradeWorld := (w.tradeCancel me).setPlayer me none

/-- `HandleAcceptTrade` for a player and the partner. -/
def handleAcceptTrade (tables : ItemTables) (accounts : Accounts) (spells : TradeSpells) (me : Nat) :
    TradeWorld :=
  match w.players me, w.sessions me with
  | some pl, some mine =>
    match w.players mine.trader, w.sessions mine.trader with
    | some trader, some his =>
      let s := (TradeState.handleAcceptTrade tables accounts spells
        ⟨pl, trader, some ⟨mine.data, his.data⟩, w.nextItemGuid, w.stranded⟩).1
      { ((w.setPlayer me (some s.player)).setPlayer mine.trader (some s.trader)).setPair me mine.trader
          s.trade with
        nextItemGuid := s.nextItemGuid
        stranded := s.stranded }
    | some _, none => w
    | none, _ => { w with crashed := true }
  | _, _ => w

end TradeWorld

/-- What players ask for, and what else changes a player (`reform`). A spell is put into the window when it
is cast on the item there. -/
inductive TradeRequest
  | login (guid : Nat) (pl : Player)
  | logout (me : Nat)
  | initiate (me other : Nat) (view : InitiateView)
  | begin (me : Nat)
  | setItem (me tradeSlot : Nat) (pos : ItemPos)
  | clearItem (me tradeSlot : Nat)
  | setGold (me gold : Nat)
  | setSpell (me spell castItem : Nat)
  | accept (me : Nat)
  | unaccept (me : Nat)
  | cancel (me : Nat)
  | reform (guid : Nat) (pl : Player)

namespace TradeWorld

variable (tables : ItemTables) (accounts : Accounts) (spells : TradeSpells)

def step (w : TradeWorld) : TradeRequest → TradeWorld
  | .login guid pl => if (w.players guid).isSome then w else w.setPlayer guid (some pl)
  | .logout me => w.logout me
  | .initiate me other view => (w.handleInitiateTrade me other view).1
  | .begin _ => w
  | .setItem me tradeSlot pos =>
    w.withTrade me fun pl pair => (pair.handleSetTradeItem pl tradeSlot pos).getD pair
  | .clearItem me tradeSlot => w.withTrade me fun _ pair => pair.handleClearTradeItem tradeSlot
  | .setGold me gold => w.withTrade me fun pl pair => pair.setMoney pl.money gold
  | .setSpell me spell castItem => w.withTrade me fun _ pair => pair.setSpell spell castItem
  | .accept me => w.handleAcceptTrade tables accounts spells me
  | .unaccept me => w.withTrade me fun _ pair => { pair with my := pair.my.setAccepted false }
  | .cancel me => w.tradeCancel me
  | .reform guid pl => if (w.players guid).isSome then w.setPlayer guid (some pl) else w

/-- Everyone who trades is there and trades with someone else who trades back. -/
structure Paired (w : TradeWorld) : Prop where
  back : ∀ a s, w.sessions a = some s → s.trader ≠ a ∧ ∃ s', w.sessions s.trader = some s' ∧ s'.trader = a
  present : ∀ a s, w.sessions a = some s → (w.players a).isSome
  sane : w.crashed = false

variable {w : TradeWorld} {me other : Nat}

theorem paired_start : start.Paired where
  back := fun _ _ h => absurd h (by simp [start])
  present := fun _ _ h => absurd h (by simp [start])
  sane := rfl

theorem sessions_setPair (w : TradeWorld) (me other : Nat) (pair : Option TradePair) (a : Nat) :
    (w.setPair me other pair).sessions a = if a = other then pair.map fun pair => ⟨me, pair.his⟩
      else if a = me then pair.map fun pair => ⟨other, pair.my⟩ else w.sessions a := by
  simp only [setPair, setSession, Function.update_apply]

theorem Paired.setPair (h : w.Paired) (hne : other ≠ me) (hmine : ∀ s, w.sessions me = some s → s.trader = other)
    (hhis : ∀ s, w.sessions other = some s → s.trader = me)
    (hme : (w.players me).isSome) (hother : (w.players other).isSome) (pair : Option TradePair) :
    (w.setPair me other pair).Paired := by
  refine ⟨?_, ?_, h.sane⟩
  · intro a s hs
    rw [sessions_setPair] at hs
    split at hs
    next ha =>
      obtain ⟨p, hp, hdata⟩ := Option.map_eq_some_iff.mp hs
      subst ha hp hdata
      refine ⟨hne.symm, ⟨a, p.my⟩, ?_, rfl⟩
      rw [sessions_setPair, if_neg hne.symm, if_pos rfl, Option.map_some]
    next ha =>
      split at hs
      next hame =>
        obtain ⟨p, hp, hdata⟩ := Option.map_eq_some_iff.mp hs
        subst hame hp hdata
        refine ⟨hne, ⟨a, p.his⟩, ?_, rfl⟩
        rw [sessions_setPair, if_pos rfl, Option.map_some]
      next hame =>
        obtain ⟨htrader, s', hs', hback⟩ := h.back a s hs
        refine ⟨htrader, s', ?_, hback⟩
        have hnotOther : s.trader ≠ other := fun heq => by
          rw [heq] at hs'
          exact hame (hback.symm.trans (hhis s' hs'))
        have hnotMe : s.trader ≠ me := fun heq => by
          rw [heq] at hs'
          exact ha (hback.symm.trans (hmine s' hs'))
        rw [sessions_setPair, if_neg hnotOther, if_neg hnotMe, hs']
  · intro a s hs
    rw [sessions_setPair] at hs
    split at hs
    next ha => exact ha ▸ hother
    next =>
      split at hs
      next hame => exact hame ▸ hme
      next => exact h.present a s hs

theorem Paired.congr {w' : TradeWorld} (h : w.Paired) (hsessions : w'.sessions = w.sessions)
    (hplayers : ∀ a, (w.players a).isSome → (w.sessions a).isSome → (w'.players a).isSome)
    (hsane : w'.crashed = w.crashed) : w'.Paired where
  back := fun a s hs => by
    rw [hsessions] at hs ⊢
    exact h.back a s hs
  present := fun a s hs => by
    rw [hsessions] at hs
    exact hplayers a (h.present a s hs) (by rw [hs]; rfl)
  sane := hsane.trans h.sane

theorem Paired.setPlayer (h : w.Paired) (guid : Nat) (pl : Player) : (w.setPlayer guid (some pl)).Paired := by
  refine Paired.congr h rfl (fun a ha _ => ?_) rfl
  simp only [TradeWorld.setPlayer, Function.update_apply]
  split
  · rfl
  · exact ha

theorem Paired.partner (h : w.Paired) {mine : TradeSession} (hmine : w.sessions me = some mine) :
    ∃ his, w.sessions mine.trader = some his ∧ his.trader = me ∧ mine.trader ≠ me ∧ (w.players mine.trader).isSome := by
  obtain ⟨hne, his, hhis, hback⟩ := h.back me mine hmine
  exact ⟨his, hhis, hback, hne, h.present _ his hhis⟩

theorem Paired.change (h : w.Paired) {mine : TradeSession} (hmine : w.sessions me = some mine)
    (pair : Option TradePair) : (w.setPair me mine.trader pair).Paired := by
  obtain ⟨his, hhis, hback, hne, hpresent⟩ := h.partner hmine
  apply h.setPair hne _ _ (h.present me mine hmine) hpresent
  · intro s hs
    rw [hmine] at hs
    rw [← Option.some.inj hs]
  · intro s hs
    rw [hhis] at hs
    rw [← Option.some.inj hs, hback]

theorem Paired.withTrade (h : w.Paired) (me : Nat) (f : Player → TradePair → TradePair) :
    (w.withTrade me f).Paired := by
  rw [TradeWorld.withTrade]
  split
  next pl mine _ hmine =>
    obtain ⟨his, hhis, -⟩ := h.partner hmine
    rw [hhis]
    exact h.change hmine _
  next => exact h

theorem handleInitiateTrade_cases (w : TradeWorld) (me other : Nat) (view : InitiateView) :
    (w.handleInitiateTrade me other view).1 = w ∨
      ((w.players me).isSome ∧ w.sessions me = none ∧ other ≠ me ∧ w.sessions other = none ∧ (w.players other).isSome ∧
        (w.handleInitiateTrade me other view).1 = w.setPair me other (some ⟨.opened, .opened⟩)) := by
  rw [handleInitiateTrade]
  split
  next pl hpl hmine =>
    split
    next => exact .inl rfl
    next => exact .inl rfl
    next pOther _ hother =>
      have hpresent : (w.players other).isSome := by
        rw [(Option.filter_eq_some_iff.mp hother).1]
        rfl
      by_cases hbusy : other = me ∨ (w.sessions other).isSome
      · exact .inl (by rw [if_pos hbusy])
      · rw [if_neg hbusy]
        rw [not_or, Option.not_isSome_iff_eq_none] at hbusy
        split
        next => exact .inl rfl
        next => exact .inr ⟨by rw [hpl]; rfl, hmine, hbusy.1, hbusy.2, hpresent, rfl⟩
  next => exact .inl rfl

theorem Paired.initiate (h : w.Paired) (me other : Nat) (view : InitiateView) :
    (w.handleInitiateTrade me other view).1.Paired := by
  rcases w.handleInitiateTrade_cases me other view with hsame | ⟨hme, hmine, hne, hhis, hother, hpair⟩
  · rw [hsame]
    exact h
  · rw [hpair]
    apply h.setPair hne _ _ hme hother
    · intro s hs
      exact absurd (hmine.symm.trans hs) (by simp)
    · intro s hs
      exact absurd (hhis.symm.trans hs) (by simp)

theorem Paired.tradeCancel (h : w.Paired) (me : Nat) : (w.tradeCancel me).Paired := by
  rw [TradeWorld.tradeCancel]
  split
  next => exact h
  next mine hmine => exact h.change hmine none

theorem sessions_tradeCancel (w : TradeWorld) (me : Nat) : (w.tradeCancel me).sessions me = none := by
  rw [TradeWorld.tradeCancel]
  split
  next hmine => exact hmine
  next mine hmine =>
    rw [sessions_setPair]
    split
    · rfl
    · rw [if_pos rfl, Option.map_none]

theorem Paired.logout (h : w.Paired) (me : Nat) : (w.logout me).Paired := by
  have hcancel := h.tradeCancel me
  refine Paired.congr hcancel rfl (fun a ha hsession => ?_) rfl
  simp only [TradeWorld.logout, TradeWorld.setPlayer, Function.update_apply]
  split
  next heq =>
    rw [heq, sessions_tradeCancel] at hsession
    exact absurd hsession (by simp)
  next => exact ha

theorem Paired.accept (h : w.Paired) (me : Nat) : (w.handleAcceptTrade tables accounts spells me).Paired := by
  rw [TradeWorld.handleAcceptTrade]
  split
  next pl mine _ hmine =>
    obtain ⟨his, hhis, -, -, hpresent⟩ := h.partner hmine
    split
    next trader his' _ _ =>
      exact Paired.congr (((h.setPlayer me _).setPlayer mine.trader _).change hmine _) rfl
        (fun _ ha _ => ha) rfl
    next => exact h
    next hnone =>
      rw [hnone] at hpresent
      exact absurd hpresent (by simp)
  next => exact h

theorem Paired.step (h : w.Paired) (request : TradeRequest) : (w.step tables accounts spells request).Paired := by
  cases request with
  | login guid pl =>
    rw [TradeWorld.step]
    split
    · exact h
    · exact h.setPlayer guid pl
  | logout me => exact h.logout me
  | initiate me other view => exact h.initiate me other view
  | begin me => exact h
  | setItem me tradeSlot pos =>
    rw [TradeWorld.step]
    exact h.withTrade me _
  | clearItem me tradeSlot =>
    rw [TradeWorld.step]
    exact h.withTrade me _
  | setGold me gold =>
    rw [TradeWorld.step]
    exact h.withTrade me _
  | setSpell me spell castItem =>
    rw [TradeWorld.step]
    exact h.withTrade me _
  | accept me => exact h.accept tables accounts spells me
  | unaccept me =>
    rw [TradeWorld.step]
    exact h.withTrade me _
  | cancel me => exact h.tradeCancel me
  | reform guid pl =>
    rw [TradeWorld.step]
    split
    · exact h.setPlayer guid pl
    · exact h

theorem paired_run (requests : List TradeRequest) : (run (step tables accounts spells) start requests).Paired := by
  have hany : Guarded (step tables accounts spells) (fun _ _ => True) start requests :=
    guarded_of_forall (fun _ _ => trivial) start requests
  apply run_invariant _ hany paired_start
  intro w request _ h
  exact h.step tables accounts spells request

theorem Paired.trader_iff (h : w.Paired) (a b : Nat) :
    (∃ s, w.sessions a = some s ∧ s.trader = b) → ∃ s, w.sessions b = some s ∧ s.trader = a := by
  rintro ⟨s, hs, rfl⟩
  exact (h.back a s hs).2

/-- Whatever players ask for: who trades with someone is traded with by that player, nobody trades with
himself, and nothing is offered twice. -/
theorem trades_symmetric (requests : List TradeRequest) (a b : Nat) :
    let w := run (step tables accounts spells) start requests
    ((∃ s, w.sessions a = some s ∧ s.trader = b) ↔ ∃ s, w.sessions b = some s ∧ s.trader = a) ∧
      (∀ s, w.sessions a = some s → s.trader ≠ a ∧
        ∀ i j, s.data.items i = s.data.items j → s.data.items i ≠ 0 → i = j) := by
  have h := paired_run tables accounts spells requests
  exact ⟨⟨h.trader_iff a b, h.trader_iff b a⟩, fun s hs => ⟨(h.back a s hs).1, s.data.items_distinct⟩⟩

end TradeWorld

end Mangos
