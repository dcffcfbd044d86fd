import Mangos.Framework.Run
import Mangos.Realmd.AuthSocket

/-!
# Whose realms are listed

The flag that the client proved who he is stays for the rest of the connection, while every challenge
puts in the name that it asks for.
-/

namespace Mangos

open Framework

namespace AuthSocket

variable (settings : RealmdSettings) (c : AuthSocket)

def completesProof (req : AuthRequest) : Bool := ({ c with authed := false }.step settings req).authed

def registeredName (name : List UInt8) (q : LogonQueries) : List UInt8 :=
  if q.ipBanned = false ∧ q.account.isNone ∧ settings.autoRegistration ∧
      ¬ (name.any (· ∈ forbiddenCharacters) || name.length ≤ 3) ∧ ¬ settings.autoRegistrationAmount ≤ q.registered then
    name.map towupper
  else name

def requestedName : AuthRequest → Option (List UInt8)
  | .logonChallenge buf q =>
    if 4 < (challengeOs buf).length then none
    else some (registeredName settings (settings.escapeString (challengeName buf)) q)
  | .reconnectChallenge buf _ _ => some (settings.escapeString (challengeName buf))
  | _ => none

/-- Both the flag and the name are as in `c'`. -/
def SameClient (c c' : AuthSocket) : Prop := c'.authed = c.authed ∧ c'.safelogin = c.safelogin

variable {settings c}

theorem sameClient_replyChallenge (q : LogonQueries) (answer : AuthSocket × AuthResult) :
    SameClient answer.1 (replyChallenge q answer) := by
  obtain ⟨c, result⟩ := answer
  cases result <;> exact ⟨rfl, rfl⟩

theorem sameClient_logonAccount (row : AccountRow) (q : LogonQueries) :
    SameClient c (c.logonAccount settings row q).1 := by
  unfold logonAccount
  split
  · exact ⟨rfl, rfl⟩
  split
  · exact ⟨rfl, rfl⟩
  split
  · exact ⟨rfl, rfl⟩
  · exact ⟨rfl, rfl⟩
  · split <;> exact ⟨rfl, rfl⟩

theorem logonRegister_fst (q : LogonQueries) : (c.logonRegister settings q).1.authed = c.authed ∧
      (c.logonRegister settings q).1.safelogin =
        if ¬ (c.safelogin.any (· ∈ forbiddenCharacters) || c.safelogin.length ≤ 3) ∧
          ¬ settings.autoRegistrationAmount ≤ q.registered then c.safelogin.map towupper
        else c.safelogin := by
  unfold logonRegister
  split
  next hname => exact ⟨rfl, by rw [if_neg fun h => h.1 hname]⟩
  next hname =>
    split
    next hamount => exact ⟨rfl, by rw [if_neg fun h => h.2 hamount]⟩
    next hamount => exact ⟨rfl, by rw [if_pos ⟨hname, hamount⟩]; rfl⟩

theorem logonResult_fst (q : LogonQueries) : (c.logonResult settings q).1.authed = c.authed ∧
      (c.logonResult settings q).1.safelogin = registeredName settings c.safelogin q := by
  unfold logonResult registeredName
  cases hbanned : q.ipBanned with
  | true => simp
  | false =>
    cases haccount : q.account with
    | some row => simpa [SameClient] using sameClient_logonAccount row q
    | none =>
      cases hauto : settings.autoRegistration with
      | false => simp
      | true => simpa using logonRegister_fst q

theorem handleLogonChallenge_fst (buf : List UInt8) (q : LogonQueries) :
    (c.handleLogonChallenge settings buf q).1.authed = c.authed ∧ (c.handleLogonChallenge settings buf q).1.safelogin =
        (requestedName settings (.logonChallenge buf q)).getD c.safelogin := by
  simp only [handleLogonChallenge, requestedName]
  split
  · exact ⟨rfl, rfl⟩
  · have hreply := sameClient_replyChallenge q
      (logonResult settings { c with
        login := challengeName buf, build := challengeBuild buf
        safelogin := settings.escapeString (challengeName buf) } q)
    have hresult := @logonResult_fst settings { c with
        login := challengeName buf, build := challengeBuild buf
        safelogin := settings.escapeString (challengeName buf) } q
    exact ⟨hreply.1.trans hresult.1, hreply.2.trans hresult.2⟩

theorem safelogin_offerPatch (q : ProofQueries) : (c.offerPatch q).1.safelogin = c.safelogin := by
  unfold offerPatch
  split
  · rfl
  · split <;> rfl

theorem safelogin_handleLogonProof (lp : LogonProof) (q : ProofQueries) :
    (c.handleLogonProof settings lp q).1.safelogin = c.safelogin := by
  rw [handleLogonProof]
  split
  · exact safelogin_offerPatch q
  · dsimp only
    split
    · rfl
    · split
      · simp only [sendProof]
        split <;> rfl
      · split <;> rfl

theorem authed_handleLogonProof (lp : LogonProof) (q : ProofQueries) : (c.handleLogonProof settings lp q).1.authed =
      (c.authed || completesProof settings c (.logonProof lp q)) := by
  have hcompletes : completesProof settings c (.logonProof lp q) = true ↔ Accepts settings c lp q :=
    Iff.rfl
  rw [Bool.eq_iff_iff, authed_handleLogonProof_iff, Bool.or_eq_true, hcompletes, accepts_iff]

theorem handleReconnectChallenge_fst (buf : List UInt8) (sessionkey : Option HexString)
    (rand : Rand 128) : (c.handleReconnectChallenge settings buf sessionkey rand).1.authed = c.authed ∧
      (c.handleReconnectChallenge settings buf sessionkey rand).1.safelogin =
        settings.escapeString (challengeName buf) := by
  simp only [handleReconnectChallenge]
  split
  · exact ⟨rfl, rfl⟩
  · cases sessionkey <;> exact ⟨rfl, rfl⟩

theorem handleReconnectProof_fst (lp : ReconnectProof) : (c.handleReconnectProof settings lp).1.authed =
        (c.authed || completesProof settings c (.reconnectProof lp)) ∧
      (c.handleReconnectProof settings lp).1.safelogin = c.safelogin := by
  simp only [completesProof, step, admits, handle, if_true, handleReconnectProof]
  split
  · simp
  · split <;> simp [send, closeConnection]

theorem handleRealmList_fst (accounts : List UInt8 → Option Nat) :
    SameClient c (c.handleRealmList settings accounts).1 := by
  unfold handleRealmList
  split <;> exact ⟨rfl, rfl⟩

theorem sameClient_initPatch (opens : Bool) : SameClient c (c.initPatch opens) := by
  unfold initPatch
  split <;> exact ⟨rfl, rfl⟩

theorem sameClient_handleXferResume (seeks opens : Bool) : SameClient c (c.handleXferResume seeks opens).1 := by
  unfold handleXferResume
  split
  · exact sameClient_initPatch opens
  · exact ⟨rfl, rfl⟩

theorem authed_step_of_same {req : AuthRequest} (h : ∀ c, (step settings c req).authed = c.authed) :
    (c.step settings req).authed = (c.authed || completesProof settings c req) := by
  rw [completesProof, h, h, Bool.or_false]

theorem step_fst (c : AuthSocket) (req : AuthRequest) :
    (c.step settings req).authed = (c.authed || completesProof settings c req) ∧
      (c.step settings req).safelogin = (requestedName settings req).getD c.safelogin := by
  cases req with
  | logonChallenge buf q =>
    exact ⟨authed_step_of_same fun c => (@handleLogonChallenge_fst settings c buf q).1,
      (handleLogonChallenge_fst buf q).2⟩
  | logonProof lp q => exact ⟨authed_handleLogonProof lp q, safelogin_handleLogonProof lp q⟩
  | reconnectChallenge buf sessionkey rand =>
    exact ⟨authed_step_of_same fun c =>
        (@handleReconnectChallenge_fst settings c buf sessionkey rand).1,
      (handleReconnectChallenge_fst buf sessionkey rand).2⟩
  | reconnectProof lp => exact handleReconnectProof_fst lp
  | realmList accounts =>
    have hsame : ∀ c, SameClient c (step settings c (.realmList accounts)) := by
      intro c
      rw [step]
      split
      · exact handleRealmList_fst accounts
      · exact ⟨rfl, rfl⟩
    exact ⟨authed_step_of_same fun c => (hsame c).1, (hsame c).2⟩
  | xferAccept opens =>
    exact ⟨authed_step_of_same fun c => (@sameClient_initPatch c opens).1, (sameClient_initPatch opens).2⟩
  | xferResume seeks opens =>
    exact ⟨authed_step_of_same fun c => (@sameClient_handleXferResume c seeks opens).1,
      (sameClient_handleXferResume seeks opens).2⟩
  | xferCancel => exact ⟨authed_step_of_same fun _ => rfl, rfl⟩

end AuthSocket

/-- A connection together with the account of its last successful proof. -/
structure ProvenSocket where
  socket : AuthSocket
  proven : Option (List UInt8)

namespace ProvenSocket

def new : ProvenSocket := ⟨AuthSocket.new, none⟩

variable (settings : RealmdSettings)

/-- A proof is for the account that is looked up when it succeeds. -/
def step (t : ProvenSocket) (req : AuthRequest) : ProvenSocket where
  socket := t.socket.step settings req
  proven :=
    if t.socket.completesProof settings req then some t.socket.safelogin else t.proven

/-- If the realm list is asked for now and a reply is sent, then for the account of the last proof. -/
def ServesProven (t : ProvenSocket) : Prop :=
  ∀ accounts, t.socket.admits (.realmList accounts) = true →
    (t.socket.handleRealmList settings accounts).2 = true → t.proven = some t.socket.safelogin

/-- Once the flag is set, no message puts in another name. -/
def KeepsName (t : ProvenSocket) (req : AuthRequest) : Prop :=
  t.socket.authed = true → ∀ name ∈ AuthSocket.requestedName settings req, name = t.socket.safelogin

/-- A client that proved who he is has still the name he did it for. -/
def Sound (t : ProvenSocket) : Prop := t.socket.authed = true → t.proven = some t.socket.safelogin

variable {settings} {t : ProvenSocket} {req : AuthRequest}

theorem servesProven_iff : t.ServesProven settings ↔ t.Sound := by
  constructor
  · intro h hauthed
    exact h (fun _ => some 0) hauthed rfl
  · intro h accounts hauthed _
    exact h hauthed

theorem requestedName_of_completesProof {c : AuthSocket} (h : c.completesProof settings req = true) :
    AuthSocket.requestedName settings req = none := by
  cases req with
  | logonChallenge buf q =>
    have hsame := (@AuthSocket.handleLogonChallenge_fst settings { c with authed := false } buf q).1
    exact absurd (hsame.symm.trans h) Bool.false_ne_true
  | reconnectChallenge buf sessionkey rand =>
    have hsame := (@AuthSocket.handleReconnectChallenge_fst settings { c with authed := false } buf
      sessionkey rand).1
    exact absurd (hsame.symm.trans h) Bool.false_ne_true
  | _ => rfl

theorem sound_step (hkeeps : t.KeepsName settings req) (h : t.Sound) : (t.step settings req).Sound := by
  intro hauthed
  obtain ⟨hflag, hname⟩ := @AuthSocket.step_fst settings t.socket req
  change (if t.socket.completesProof settings req then some t.socket.safelogin else t.proven) =
    some (t.socket.step settings req).safelogin
  rw [hname]
  cases hcompletes : t.socket.completesProof settings req with
  | true => simp [requestedName_of_completesProof hcompletes]
  | false =>
    have hbefore : t.socket.authed = true := by
      change (t.socket.step settings req).authed = true at hauthed
      simpa [hflag, hcompletes] using hauthed
    cases hrequested : AuthSocket.requestedName settings req with
    | none => simpa using h hbefore
    | some name => simpa [hkeeps hbefore name hrequested] using h hbefore

theorem not_sound_step (hkeeps : ¬ t.KeepsName settings req) (h : t.Sound) : ¬ (t.step settings req).Sound := by
  simp only [KeepsName, not_forall] at hkeeps
  obtain ⟨hauthed, name, hrequested, hne⟩ := hkeeps
  obtain ⟨hflag, hname⟩ := @AuthSocket.step_fst settings t.socket req
  have hnot : t.socket.completesProof settings req = false := by
    by_contra hcompletes
    rw [Bool.not_eq_false] at hcompletes
    simp [requestedName_of_completesProof hcompletes] at hrequested
  intro hsound
  have hafter := hsound (hflag.trans (by rw [hauthed, Bool.true_or]))
  change (if t.socket.completesProof settings req then some t.socket.safelogin else t.proven) =
    some (t.socket.step settings req).safelogin at hafter
  rw [hname, Option.mem_def.mp hrequested, hnot, if_neg Bool.false_ne_true, h hauthed] at hafter
  exact hne (Option.some.inj hafter).symm

/-- Whenever the realm list is asked for in the course of a connection, it is served for the account of
the last proof exactly when no challenge puts in another name once the flag is set. -/
theorem servesProven_run (settings : RealmdSettings) (reqs : List AuthRequest) :
    (∀ before, before <+: reqs → (run (step settings) new before).ServesProven settings) ↔
      Guarded (step settings) (KeepsName settings) new reqs :=
  @run_always_iff _ _ (step settings) (KeepsName settings) Sound (ServesProven settings)
    (fun _ => servesProven_iff.mpr) (fun _ _ => sound_step)
    (fun _ _ hkeeps hsound hserves => not_sound_step hkeeps hsound (servesProven_iff.mp hserves))
    new reqs fun hauthed => nomatch hauthed

end ProvenSocket

/-! A client logs on with one account, is challenged for another one and asks for the realms. -/

private def oneHash : RealmdSettings where
  sha1 _ := .ofByte 1
  escapeString := id
  autoRegistration := false
  autoRegistrationAmount := 1
  loadRealmlist _ _ := []

private def challengeFor (name : UInt8) : AuthRequest :=
  .logonChallenge
    ([0x00, 8, 31, 0, 87, 111, 87, 0, 4, 3, 4, 0xEB, 0x3C, 54, 56, 120, 0, 110, 105, 87, 0, 83, 85, 110,
      101, 0, 0, 0, 0, 127, 0, 0, 1, 1] ++ [name])
    { ipBanned := false
      account := some { shaPassHash := [], locked := 0, lastIPDiffers := false, v := [], s := [] }
      multiIPExceeded := false
      banned := none
      registered := 0
      randS := .least 254
      randB := .least 150
      unk3 := .least 126 }

private def onePerson : AuthRequest :=
  .logonProof ⟨List.replicate 32 1, List.replicate 20 1, by simp, by simp⟩ ⟨none, fun _ => 0⟩

/-- The client proved who he is as `A`, and gets the realms of `B`. -/
theorem servesProven_run_otherName : ¬ ∀ (settings : RealmdSettings) (reqs before : List AuthRequest), before <+: reqs →
      (run (ProvenSocket.step settings) ProvenSocket.new before).ServesProven settings := by
  intro h
  let reqs := [challengeFor 65, onePerson, challengeFor 66]
  let last := run (ProvenSocket.step oneHash) ProvenSocket.new reqs
  have hproven : last.proven = some [65] := by decide +kernel
  have hname : last.socket.safelogin = [66] := by decide +kernel
  have hserved := h oneHash reqs reqs (List.prefix_refl reqs) (fun _ => some 0) (by decide +kernel) rfl
  change last.proven = some last.socket.safelogin at hserved
  rw [hproven, hname] at hserved
  cases hserved

end Mangos
