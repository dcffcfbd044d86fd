import Mangos.Guild.BankTaken

/-!
# What a member takes out of a tab in a day

The day of a member at a tab lasts until asking for what is left of it begins a new one.
-/

namespace Mangos

open Framework

namespace BankDesk

def dayStart (s : BankDesk) (tab : Fin guildBankMaxTabs) : Option Nat :=
  (s.guild.getMemberSlot s.player.guid).map (·.bankResetTimeTab tab)

def carried (s s' : BankDesk) (tab : Fin guildBankMaxTabs) (taken : Nat) : Nat :=
  if s'.dayStart tab = s.dayStart tab then taken else 0

end BankDesk

/-- What happens at the bank: a request of the member, a look at a tab, or something that others do there
or the member does elsewhere. -/
inductive BankEvent
  | request (loaded canInteract : Bool) (online : Nat → Bool) (curTime : Nat) (req : BankSwapItems)
  | view (online : Nat → Bool) (curTime tabId : Nat)
  | meanwhile (s : BankDesk)

/-- The bank with the number of requests that took something out of the tab in the day of the member. -/
structure BankDay where
  desk : BankDesk
  taken : Nat

theorem dayOver_zero {curTime : Nat} (h : minutesPerDay ≤ curTime) : dayOver curTime 0 = true := by
  simp [dayOver, uint32Sub, h]

namespace BankDay

def deskAfter (tables : ItemTables) (accounts : Accounts) (s : BankDesk) : BankEvent → BankDesk
  | .request loaded canInteract online curTime req =>
    (s.handleGuildBankSwapItems tables accounts loaded canInteract online curTime req).1
  | .view online curTime tabId =>
    s.setGuild (s.guild.displayGuildBankContentUpdate online curTime tabId)
  | .meanwhile s' => s'

def step (tables : ItemTables) (accounts : Accounts) (tab : Fin guildBankMaxTabs) (day : BankDay)
    (event : BankEvent) : BankDay :=
  let s' := deskAfter tables accounts day.desk event
  let kept := day.desk.carried s' tab day.taken
  match event with
  | .request .. =>
    ⟨s', if BankDesk.TakesOut tab day.desk s' then kept + 1 else kept⟩
  | .view .. | .meanwhile _ => ⟨s', kept⟩

/-- No rank and no rights change. Whatever others do, the entry of the member stays what it is, and every
object is in one place. -/
def Steady (tables : ItemTables) (day : BankDay) : BankEvent → Prop
  | .request _ _ _ curTime _ | .view _ curTime _ => minutesPerDay ≤ curTime
  | .meanwhile s => s.Sound tables 0 ∧ s.guild.ranks = day.desk.guild.ranks ∧ s.player.guid = day.desk.player.guid ∧
      s.guild.getMemberSlot s.player.guid = day.desk.guild.getMemberSlot day.desk.player.guid

def NoUnpaidMove (tab : Fin guildBankMaxTabs) (day : BankDay) : BankEvent → Prop
  | .request loaded canInteract _ curTime req =>
    day.desk.movesUnpaid loaded canInteract curTime req tab = false
  | .view .. | .meanwhile _ => True

def Paying (tables : ItemTables) (tab : Fin guildBankMaxTabs) (day : BankDay) (event : BankEvent) :
    Prop :=
  day.Steady tables event ∧ day.NoUnpaidMove tab event

end BankDay

namespace BankDesk

variable {tables : ItemTables} {accounts : Accounts} {tab : Fin guildBankMaxTabs}
  {s s' s₁ : BankDesk} {curTime limit taken : Nat}

/-- What an operation takes out of the tab is paid for. -/
structure Paid (curTime limit : Nat) (tab : Fin guildBankMaxTabs) (s s' : BankDesk) : Prop where
  limited : s'.guild.Limited s.player.guid tab limit
  paid : ∃ a, s.guild.allowance s.player.guid tab = some a ∧ 0 < (a.renew (dayOver curTime) curTime limit).rem ∧
    s'.guild.allowance s.player.guid tab = some (a.renew (dayOver curTime) curTime limit).pay

def Accounted (curTime limit : Nat) (tab : Fin guildBankMaxTabs) (s s' : BankDesk) : Prop :=
  (Guild.Asked curTime s.player.guid limit tab s.guild s'.guild ∧ ¬ TakesOut tab s s') ∨ Paid curTime limit tab s s'

theorem Untouched.accounted (h : Untouched curTime s s') (hsound : s.Sound tables 0)
    (hlimited : s.guild.Limited s.player.guid tab limit) : Accounted curTime limit tab s s' := by
  obtain ⟨tabs, htabs⟩ := h.guild
  refine .inl ⟨?_, ?_⟩
  · rw [htabs]
    exact hlimited.askAll curTime s.player.guid tabs
  · refine (h.conserves hsound).not_takesOut_of_tab (tabItems_congr h.purchasedTabs fun q _ => ?_)
    rw [h.slots]

theorem Moved.accounted {tabs leaves : List Nat} (h : Moved tables (s.asked curTime tabs) leaves s')
    (hsound : s.Sound tables 0) (hlimited : s.guild.Limited s.player.guid tab limit)
    (hstay : tab.val ∉ leaves) : Accounted curTime limit tab s s' := by
  refine .inl ⟨?_, h.not_takesOut (hsound.asked tabs) hstay⟩
  rw [h.frame.1]
  exact hlimited.askAll curTime s.player.guid tabs

theorem Moved.accounted_paid {tabId : Nat} (h : Moved tables (s.asked curTime [tabId]) [tabId] s₁)
    (hsound : s.Sound tables 0) (hlimited : s.guild.Limited s.player.guid tab limit)
    (hallowed : (s.checkWithdraw curTime tabId).2 = true)
    (hwithin : (s.guild.getMemberSlotWithdrawRem curTime s.player.guid tab).2 ≤ limit) :
    Accounted curTime limit tab s (s₁.memberItemWithdraw curTime tabId) := by
  obtain ⟨hguild, -, hplayer⟩ := h.frame
  have hguild' : s₁.guild = (s.guild.getMemberSlotWithdrawRem curTime s.player.guid tabId).1 := hguild
  have hplayer' : s₁.player.guid = s.player.guid := hplayer
  have hafter : (s₁.memberItemWithdraw curTime tabId).guild =
      (((s.guild.getMemberSlotWithdrawRem curTime s.player.guid tabId).1).memberItemWithdraw curTime
        tabId s.player.guid).1 := by
    show (s₁.guild.memberItemWithdraw curTime tabId s₁.player.guid).1 = _
    rw [hguild', hplayer']
  by_cases htab : tabId = tab
  · subst htab
    have hpos : 0 < (s.guild.getMemberSlotWithdrawRem curTime s.player.guid tab).2 := by
      simpa [checkWithdraw] using hallowed
    obtain ⟨hlimited', hpaid⟩ := hlimited.paid hpos (Nat.lt_of_le_of_lt hwithin hlimited.finite)
    refine .inr ⟨?_, ?_⟩
    · rw [hafter]
      exact hlimited'
    · rw [hafter]
      exact hpaid
  · have hasked := hlimited.asked curTime s.player.guid tabId
    refine .inl ⟨?_, ?_⟩
    · rw [hafter]
      exact hasked.trans (hasked.1.paid_other htab)
    · have hstay : tab.val ∉ [tabId] := by simpa using Ne.symm htab
      exact h.not_takesOut (hsound.asked [tabId]) hstay

theorem Accounted.display {r : BankDesk × Bool} (h : Accounted curTime limit tab s r.1)
    (online : Nat → Bool) (tabs : List Nat) :
    Accounted curTime limit tab s (BankDesk.display online curTime tabs r).1 := by
  obtain ⟨s', done⟩ := r
  cases done with
  | false => exact h
  | true =>
    have hshown : ∀ guild : Guild, guild.Limited s.player.guid tab limit →
        Guild.Asked curTime s.player.guid limit tab guild (tabs.foldl (fun guild tabId =>
          guild.displayGuildBankContentUpdate online curTime tabId) guild) := by
      induction tabs with
      | nil => exact fun guild hlimited => .refl hlimited
      | cons tabId tabs ih =>
        intro guild hlimited
        have hfirst := hlimited.display online curTime tabId
        exact hfirst.trans (ih _ hfirst.1)
    rcases h with ⟨hasked, hkept⟩ | ⟨hlimited, a, ha, hrem, hpaid⟩
    · exact .inl ⟨hasked.trans (hshown s'.guild hasked.1), hkept⟩
    · have hlast := hshown s'.guild hlimited
      refine .inr ⟨hlast.1, a, ha, hrem, ?_⟩
      rcases hlast.2 with hsame | hrenewed
      · exact hsame.trans hpaid
      · refine hrenewed.trans ?_
        rw [hpaid, Option.map_some]
        exact congrArg some (Allowance.renew_pay (dayOver_self curTime))

theorem Accounted.limited (h : Accounted curTime limit tab s s') : s'.guild.Limited s.player.guid tab limit := by
  rcases h with ⟨hasked, -⟩ | hpaid
  · exact hasked.1
  · exact hpaid.limited

theorem handle_accounted {loaded canInteract : Bool} {online : Nat → Bool} {req : BankSwapItems}
    (hsound : s.Sound tables 0) (hlimited : s.guild.Limited s.player.guid tab limit)
    (hwithin : (s.guild.getMemberSlotWithdrawRem curTime s.player.guid tab).2 ≤ limit)
    (hpaying : s.movesUnpaid loaded canInteract curTime req tab = false) : Accounted curTime limit tab s
      (s.handleGuildBankSwapItems tables accounts loaded canInteract online curTime req).1 := by
  obtain ⟨tabs, r, hshown, houtcome⟩ :=
    @handleGuildBankSwapItems_cases tables accounts s curTime online loaded canInteract req hsound
  rw [hshown]
  apply Accounted.display
  cases houtcome with
  | refused _ h => exact h.accounted hsound hlimited
  | moved _ tabs leaves hmoved hunpaid =>
    refine hmoved.accounted hsound hlimited fun htab => ?_
    have hleaves := hunpaid tab htab
    rw [hpaying] at hleaves
    cases hleaves
  | paid _ hallowed hmoved hpaid =>
    rw [hpaid]
    exact hmoved.accounted_paid hsound hlimited hallowed hwithin

theorem carried_eq {a a' : Allowance} (h : s.guild.allowance s.player.guid tab = some a)
    (h' : s'.guild.allowance s'.player.guid tab = some a') : s.carried s' tab taken = Allowance.carried a a' taken := by
  have hstart : ∀ {s : BankDesk} {a : Allowance}, s.guild.allowance s.player.guid tab = some a →
      s.dayStart tab = some a.start := by
    intro s a h
    have hmap := congrArg (Option.map Allowance.start) h
    rw [Guild.allowance, Option.map_map] at hmap
    exact hmap
  simp only [carried, hstart h, hstart h', Allowance.carried, Option.some.injEq]

theorem withdrawRem_le {a : Allowance} (hlimited : s.guild.Limited s.player.guid tab limit)
    (hclock : minutesPerDay ≤ curTime) (ha : s.guild.allowance s.player.guid tab = some a)
    (hcounted : a.Counted limit taken) : (s.guild.getMemberSlotWithdrawRem curTime s.player.guid tab).2 ≤ limit := by
  rcases Nat.eq_zero_or_pos (s.guild.getMemberSlotWithdrawRem curTime s.player.guid tab).2 with
    hzero | hpos
  · omega
  · obtain ⟨a', ha', -, hrem, -⟩ := hlimited.asked_self hpos
    have hone : a' = a := Option.some.inj (ha'.symm.trans ha)
    subst hone
    have hwithin := hcounted.renew (dayOver_self curTime) (dayOver_zero hclock)
    rw [hrem]
    exact Nat.le_of_add_left_le hwithin

theorem counted_asked {a : Allowance} (hclock : minutesPerDay ≤ curTime) (hplayer : s'.player.guid = s.player.guid)
    (hasked : Guild.Asked curTime s.player.guid limit tab s.guild s'.guild)
    (ha : s.guild.allowance s.player.guid tab = some a) (hcounted : a.Counted limit taken) :
    ∃ a', s'.guild.allowance s'.player.guid tab = some a' ∧ a'.Counted limit (s.carried s' tab taken) := by
  have hafter : s'.guild.allowance s'.player.guid tab = s'.guild.allowance s.player.guid tab := by
    rw [hplayer]
  rcases hasked.2 with hsame | hrenewed
  · have ha' := hafter.trans (hsame.trans ha)
    refine ⟨a, ha', ?_⟩
    rw [carried_eq ha ha', Allowance.carried_self]
    exact hcounted
  · rw [ha, Option.map_some] at hrenewed
    have ha' := hafter.trans hrenewed
    refine ⟨_, ha', ?_⟩
    rw [carried_eq ha ha']
    exact .inr (hcounted.renew (dayOver_self curTime) (dayOver_zero hclock))

theorem Accounted.counted {a : Allowance} (h : Accounted curTime limit tab s s')
    (hclock : minutesPerDay ≤ curTime) (hplayer : s'.player.guid = s.player.guid)
    (ha : s.guild.allowance s.player.guid tab = some a) (hcounted : a.Counted limit taken) :
    ∃ a', s'.guild.allowance s'.player.guid tab = some a' ∧ a'.Counted limit
        (if TakesOut tab s s' then s.carried s' tab taken + 1 else s.carried s' tab taken) := by
  rcases h with ⟨hasked, hkept⟩ | ⟨-, a₀, ha₀, hrem, hpaid⟩
  · rw [if_neg hkept]
    exact counted_asked hclock hplayer hasked ha hcounted
  · have hone : a₀ = a := Option.some.inj (ha₀.symm.trans ha)
    subst hone
    have ha' : s'.guild.allowance s'.player.guid tab =
        some (a₀.renew (dayOver curTime) curTime limit).pay := by
      rw [hplayer]
      exact hpaid
    have hwithin := hcounted.pay (dayOver_self curTime) (dayOver_zero hclock) hrem
    refine ⟨_, ha', .inr ?_⟩
    rw [carried_eq ha ha']
    split
    · exact hwithin
    · exact hwithin.mono (Nat.le_succ _)

end BankDesk

namespace BankDay

variable {tables : ItemTables} {accounts : Accounts} {tab : Fin guildBankMaxTabs} {limit : Nat}

/-- The member has a finite limit, and what was counted and what is left are within it. -/
structure InLimit (tables : ItemTables) (tab : Fin guildBankMaxTabs) (limit : Nat) (day : BankDay) :
    Prop where
  sound : day.desk.Sound tables 0
  limited : day.desk.guild.Limited day.desk.player.guid tab limit
  counted : ∃ a, day.desk.guild.allowance day.desk.player.guid tab = some a ∧ a.Counted limit day.taken

theorem inLimit_step (tables : ItemTables) (accounts : Accounts) (tab : Fin guildBankMaxTabs)
    (limit : Nat) (day : BankDay) (event : BankEvent) (hpaying : Paying tables tab day event)
    (h : day.InLimit tables tab limit) : (step tables accounts tab day event).InLimit tables tab limit := by
  obtain ⟨hsound, hlimited, a, ha, hcounted⟩ := h
  cases event with
  | request loaded canInteract online curTime req =>
    obtain ⟨hclock, hunpaid⟩ := hpaying
    have hconserves := @BankDesk.conserves_handle tables accounts day.desk loaded canInteract online curTime
      req hsound
    have hwithin := BankDesk.withdrawRem_le hlimited hclock ha hcounted
    have haccounted := @BankDesk.handle_accounted tables accounts tab day.desk curTime limit loaded
      canInteract online req hsound hlimited hwithin hunpaid
    have hplayer := @BankDesk.handleGuildBankSwapItems_playerGuid tables day.desk accounts loaded
      canInteract online curTime req hsound
    have hlimited' := haccounted.limited
    rw [← hplayer] at hlimited'
    exact ⟨hconserves.sound, hlimited', haccounted.counted hclock hplayer ha hcounted⟩
  | view online curTime tabId =>
    have hasked := hlimited.display online curTime tabId
    exact ⟨hsound.setGuild _, hasked.1, BankDesk.counted_asked hpaying.1 rfl hasked ha hcounted⟩
  | meanwhile s' =>
    obtain ⟨⟨hsound', hranks, hplayer, hslot⟩, -⟩ := hpaying
    have hallowance : s'.guild.allowance s'.player.guid tab =
        day.desk.guild.allowance day.desk.player.guid tab := by
      rw [Guild.allowance, hslot, Guild.allowance]
    have ha' := hallowance.trans ha
    refine ⟨hsound', hlimited.congr hranks hslot, a, ha', ?_⟩
    show a.Counted limit (day.desk.carried s' tab day.taken)
    rw [BankDesk.carried_eq ha ha', Allowance.carried_self]
    exact hcounted

/-- The member takes something out of the tab no more often in a day than the rank allows, and what is
left never wraps. -/
theorem taken_le_limit (tables : ItemTables) (accounts : Accounts) (tab : Fin guildBankMaxTabs)
    (limit : Nat) (s : BankDesk) (hsound : s.Sound tables 0) (hlimited : s.guild.Limited s.player.guid tab limit)
    (hstart : ∃ a, s.guild.allowance s.player.guid tab = some a ∧ (a.start = 0 ∨ a.rem ≤ limit))
    (events : List BankEvent) (hpaying : Guarded (step tables accounts tab) (Paying tables tab) ⟨s, 0⟩ events) :
    let day := run (step tables accounts tab) ⟨s, 0⟩ events
    day.taken ≤ limit ∧ ∃ a, day.desk.guild.allowance day.desk.player.guid tab = some a ∧
      (a.start = 0 ∨ day.taken + a.rem ≤ limit) := by
  intro day
  obtain ⟨a, ha, hinitial⟩ := hstart
  have hcounted : a.Counted limit 0 := by
    rcases hinitial with hzero | hrem
    · exact .inl ⟨hzero, rfl⟩
    · exact .inr (by simpa [Allowance.Within] using hrem)
  have hfirst : (⟨s, 0⟩ : BankDay).InLimit tables tab limit := ⟨hsound, hlimited, a, ha, hcounted⟩
  obtain ⟨-, -, b, hb, hlast⟩ := run_invariant (inLimit_step tables accounts tab limit) hpaying hfirst
  rcases hlast with ⟨hzero, htaken⟩ | hwithin
  · refine ⟨?_, b, hb, .inl hzero⟩
    show day.taken ≤ limit
    rw [htaken]
    exact Nat.zero_le _
  · exact ⟨Nat.le_of_add_right_le hwithin, b, hb, .inr hwithin⟩

end BankDay

/-! The member with the potions may take something out of the first tab twice a day. -/

theorem potionDesk_limited : potionDesk.guild.Limited 7 ⟨0, by decide⟩ 2 where
  ranked := ⟨.new 7 1, rfl, by decide, rfl⟩
  finite := by decide

/-- He takes a potion, looks at the tab, merges two more with his own, and is turned down then. -/
def potionRequests : List BankEvent :=
  [.request true true (fun _ => true) 2000 (.withChar ⟨0, 0⟩ ⟨255, 24⟩ true 1), .view (fun _ => true) 2010 0,
   .request true true (fun _ => true) 2020 (.withChar ⟨0, 0⟩ ⟨255, 23⟩ true 2),
   .request true true (fun _ => true) 2030 (.withChar ⟨0, 0⟩ ⟨255, 25⟩ true 1)]

theorem taken_le_limit_potions :
    (run (BankDay.step potionTables potionAccounts ⟨0, by decide⟩) ⟨potionDesk, 0⟩ potionRequests).taken = 2 ∧
      (run (BankDay.step potionTables potionAccounts ⟨0, by decide⟩) ⟨potionDesk, 0⟩
        potionRequests).taken ≤ 2 :=
  ⟨by decide +kernel,
    (BankDay.taken_le_limit potionTables potionAccounts ⟨0, by decide⟩ 2 potionDesk potionDesk_sound
      potionDesk_limited ⟨⟨0, 0⟩, rfl, .inl rfl⟩ potionRequests
      ⟨⟨(by decide : minutesPerDay ≤ 2000), rfl⟩, ⟨(by decide : minutesPerDay ≤ 2010), trivial⟩,
        ⟨(by decide : minutesPerDay ≤ 2020), rfl⟩, ⟨(by decide : minutesPerDay ≤ 2030), rfl⟩, trivial⟩).1⟩

/-- One potion after the other goes into the second tab, and nothing counts them. -/
theorem taken_exceeds_limit : ¬ ∀ (tables : ItemTables) (accounts : Accounts) (tab : Fin guildBankMaxTabs) (limit : Nat)
      (s : BankDesk), s.Sound tables 0 → s.guild.Limited s.player.guid tab limit →
      (∃ a, s.guild.allowance s.player.guid tab = some a ∧ (a.start = 0 ∨ a.rem ≤ limit)) →
      ∀ events, Guarded (BankDay.step tables accounts tab) (BankDay.Steady tables) ⟨s, 0⟩ events →
        let day := run (BankDay.step tables accounts tab) ⟨s, 0⟩ events
        day.taken ≤ limit ∧ ∃ a, day.desk.guild.allowance day.desk.player.guid tab = some a ∧
          (a.start = 0 ∨ day.taken + a.rem ≤ limit) := by
  intro h
  let request : BankEvent :=
    .request true true (fun _ => true) 2000 (.bankToBank ⟨1, 0⟩ ⟨0, 0⟩ 1)
  have hclock : minutesPerDay ≤ 2000 := by decide
  have hsteady : Guarded (BankDay.step potionTables potionAccounts ⟨0, by decide⟩)
      (BankDay.Steady potionTables) ⟨potionDesk, 0⟩ [request, request, request] :=
    ⟨hclock, hclock, hclock, trivial⟩
  have hlimit := (h potionTables potionAccounts ⟨0, by decide⟩ 2 potionDesk potionDesk_sound
    potionDesk_limited ⟨⟨0, 0⟩, rfl, .inl rfl⟩ _ hsteady).1
  exact absurd hlimit (by decide +kernel)

end Mangos
