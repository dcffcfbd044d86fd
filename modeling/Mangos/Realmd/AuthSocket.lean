import Mangos.Realmd.BigNumber

/-!
# A connection to the logon server

The handlers of the client's messages share the numbers of the key exchange, the name of the account and the
flag that tells that the client proved who he is.
-/

namespace Mangos

open Framework

/-- `SHA_DIGEST_LENGTH` bytes. -/
structure Digest where
  bytes : List UInt8
  length_eq : bytes.length = 20
  deriving DecidableEq

def Digest.ofByte (b : UInt8) : Digest := ⟨List.replicate 20 b, by simp⟩

/-- What lies behind the handlers: the hash function, the escaping of names, the settings, and the
packet with the realms of an account for a build of the client. -/
structure RealmdSettings where
  sha1 : List UInt8 → Digest
  escapeString : List UInt8 → List UInt8
  autoRegistration : Bool
  autoRegistrationAmount : Int
  loadRealmlist : Nat → Nat → List UInt8

def cString (buf : List UInt8) : List UInt8 := buf.takeWhile (· ≠ 0)

/-- The fields of `sAuthLogonChallenge_C` that the handlers read. A zero stands behind the packet. -/
def challengeBuild (buf : List UInt8) : Nat := ofBytes ((buf.drop 11).take 2)

def challengeOs (buf : List UInt8) : List UInt8 := cString (buf.drop 17 ++ [0])

def challengeName (buf : List UInt8) : List UInt8 := cString (buf.drop 34 ++ [0])

/-- The fields of `sAuthLogonProof_C` that the handler reads. -/
structure LogonProof where
  A : List UInt8
  M1 : List UInt8
  length_A : A.length = 32
  length_M1 : M1.length = 20

/-- The fields of `sAuthReconnectProof_C` that the handler reads. -/
structure ReconnectProof where
  R1 : List UInt8
  R2 : List UInt8
  length_R1 : R1.length = 16
  length_R2 : R2.length = 20

abbrev HexString := List (Fin 16)

def HexString.value (digits : HexString) : Nat := Nat.ofDigits 16 (digits.reverse.map Fin.val)

/-- `SetHexStr`, which leaves the number alone where there are no digits. -/
def BigNumber.setHexStr (z : BigNumber) (digits : HexString) : BigNumber :=
  if digits = [] then z else z.assign digits.value

/-- A row of `account`. -/
structure AccountRow where
  shaPassHash : HexString
  locked : Nat
  lastIPDiffers : Bool
  v : HexString
  s : HexString

/-- What the queries of `_HandleLogonChallenge` answer, and the numbers it may draw. An account is
banned for good or for a time. -/
structure LogonQueries where
  ipBanned : Bool
  account : Option AccountRow
  multiIPExceeded : Bool
  banned : Option Bool
  registered : Int
  randS : Rand 256
  randB : Rand 152
  unk3 : Rand 128

/-- The patch that answers an unknown version, if one is there, and what follows the byte array of `M`
in memory. -/
structure ProofQueries where
  patch : Option (Option Nat × List UInt8)
  behind : Nat → UInt8

inductive AuthResult
  | success | failUnknown0 | failBanned | failUnknownAccount | failSuspended | failParentControl
  | failDisconnected
  deriving DecidableEq, Repr

def AuthResult.code : AuthResult → UInt8
  | .success => 0x00
  | .failUnknown0 => 0x01
  | .failBanned => 0x03
  | .failUnknownAccount => 0x04
  | .failSuspended => 0x0C
  | .failParentControl => 0x0F
  | .failDisconnected => 0xFF

structure AuthSocket where
  s : BigNumber
  v : BigNumber
  b : BigNumber
  B : BigNumber
  K : BigNumber
  reconnectProof : BigNumber
  authed : Bool
  login : List UInt8
  safelogin : List UInt8
  build : Nat
  /-- `patch_` is open. -/
  patch : Bool
  closed : Bool
  sent : List (List UInt8)

namespace AuthSocket

def N : Nat := 0x894B645E89E1535BBDAD5B8B290650530801B18EBFBF5E8FAB3C82872A3E9BB7

def g : Nat := 7

def new : AuthSocket where
  s := .ofNat 0
  v := .ofNat 0
  b := .ofNat 0
  B := .ofNat 0
  K := .ofNat 0
  reconnectProof := .ofNat 0
  authed := false
  login := []
  safelogin := []
  build := 0
  patch := false
  closed := false
  sent := []

variable (settings : RealmdSettings) (c : AuthSocket)

def send (packet : List UInt8) : AuthSocket := { c with sent := c.sent ++ [packet] }

def closeConnection : AuthSocket := { c with closed := true }

/-- `ExpectedRealmdClientBuilds`, of which the first is the lowest of those that are always accepted. -/
def expectedBuilds : List Nat := [16357, 16135, 15595, 15050, 13623, 12340, 8606, 6141, 6005, 5875]

def findBuildInfo (build : Nat) : Bool := 16357 ≤ build || build ∈ expectedBuilds

def passDigest (I : Nat) : List UInt8 :=
  if numBytes I ≤ 20 then List.replicate (20 - numBytes I) 0 ++ (toBytes I).reverse
  else List.replicate 20 0

def verifierExponent (s : List UInt8) (I : Nat) : Nat :=
  ofBytes (settings.sha1 (s ++ passDigest I)).bytes

/-- `_SetVSFields`. -/
def setVSFields (I : Nat) (randS : Rand 256) : AuthSocket :=
  let s := c.s.assign randS.val
  { c with
    s := s.cached 0
    v := c.v.assign (modExp g (verifierExponent settings (s.byteArray 0) I) N) }

def forbiddenCharacters : List UInt8 :=
  ("\t\x0b\x08\x0c\x07\n\r\\\"'? <>[](\x29\x7b\x7d_=+-|/!@#$%^&*~\x60.,").toUTF8.toList

def towupper (byte : UInt8) : UInt8 := if 97 ≤ byte ∧ byte ≤ 122 then byte - 32 else byte

def logonAccount (row : AccountRow) (q : LogonQueries) : AuthSocket × AuthResult :=
  if row.locked = 1 ∧ row.lastIPDiffers then (c, .failSuspended)
  else if q.multiIPExceeded then (c, .failParentControl)
  else match q.banned with
    | some true => (c, .failBanned)
    | some false => (c, .failSuspended)
    | none =>
      if row.v.length ≠ 64 ∨ row.s.length ≠ 64 then
        (c.setVSFields settings row.shaPassHash.value q.randS, .success)
      else ({ c with s := c.s.setHexStr row.s, v := c.v.setHexStr row.v }, .success)

def logonRegister (q : LogonQueries) : AuthSocket × AuthResult :=
  if c.safelogin.any (· ∈ forbiddenCharacters) || c.safelogin.length ≤ 3 then (c, .failUnknown0)
  else if settings.autoRegistrationAmount ≤ q.registered then (c, .failDisconnected)
  else
    let name := c.safelogin.map towupper
    let digest := settings.sha1 (name ++ [58] ++ name)
    ({ c with safelogin := name }.setVSFields settings (ofBytes digest.bytes.reverse) q.randS, .success)

def logonResult (q : LogonQueries) : AuthSocket × AuthResult :=
  if q.ipBanned then (c, .failBanned)
  else match q.account with
    | some row => c.logonAccount settings row q
    | none =>
      if settings.autoRegistration then c.logonRegister settings q else (c, .failUnknownAccount)

def challengePacket (s B : BigNumber) (unk3 : Rand 128) : List UInt8 :=
  [0x00, 0x00, AuthResult.success.code] ++ (B.byteArray 32).take 32 ++ [1] ++
    (BigNumber.ofNat g).byteArray 0 ++ [32] ++ (BigNumber.ofNat N).byteArray 32 ++ s.byteArray 0 ++
    (BigNumber.ofNat unk3.val).byteArray 16 ++ [0x00]

def sendChallenge (q : LogonQueries) : AuthSocket :=
  let B := c.B.assign ((c.v.bn * 3 + modExp g q.randB.val N) % N)
  { c with b := c.b.assign q.randB.val, B := B.cached 32, s := c.s.cached 0 }.send
    (challengePacket c.s B q.unk3)

def replyChallenge (q : LogonQueries) : AuthSocket × AuthResult → AuthSocket
  | (c, .success) => c.sendChallenge q
  | (c, result) => c.send [0x00, 0x00, result.code]

/-- `_HandleLogonChallenge`, with the whole packet at hand. -/
def handleLogonChallenge (buf : List UInt8) (q : LogonQueries) : AuthSocket × Bool :=
  let c := { c with login := challengeName buf, build := challengeBuild buf }
  if 4 < (challengeOs buf).length then (c, false)
  else
    let c := { c with safelogin := settings.escapeString c.login }
    (replyChallenge q (c.logonResult settings q), true)

def evens : List UInt8 → List UInt8
  | [] => []
  | [x] => [x]
  | x :: _ :: xs => x :: evens xs

def odds (xs : List UInt8) : List UInt8 := evens xs.tail

def interleave : List UInt8 → List UInt8 → List UInt8
  | x :: xs, y :: ys => x :: y :: interleave xs ys
  | _, _ => []

def sessionKey (t : List UInt8) : List UInt8 :=
  interleave (settings.sha1 (evens t)).bytes (settings.sha1 (odds t)).bytes

def secret (A v u b : Nat) : Nat := modExp (A * modExp v u N) b N

/-- The hashes of `N` and `g`, mixed. -/
def groupHash : List UInt8 :=
  List.zipWith (· ^^^ ·) (settings.sha1 ((BigNumber.ofNat N).byteArray 0)).bytes
    (settings.sha1 ((BigNumber.ofNat g).byteArray 0)).bytes

/-- `u`, from the numbers that were exchanged. -/
def scrambler (A : Nat) : Nat :=
  ofBytes (settings.sha1 ((BigNumber.ofNat A).byteArray 0 ++ c.B.byteArray 0)).bytes

/-- `K`, where the array of the secret has 32 bytes. -/
def proofKey (A : Nat) : List UInt8 :=
  let S := secret A c.v.bn (c.scrambler settings A) c.b.bn
  sessionKey settings ((BigNumber.ofNat S).byteArray 32)

def proofHash (A : Nat) (K : BigNumber) : Digest :=
  settings.sha1 ((BigNumber.ofNat (ofBytes (groupHash settings))).byteArray 0 ++
    (settings.sha1 c.login).bytes ++ c.s.byteArray 0 ++ (BigNumber.ofNat A).byteArray 0 ++
    c.B.byteArray 0 ++ K.byteArray 0)

/-- What `memcmp` reads of `M`. -/
def comparedM (A : Nat) (K : BigNumber) (behind : Nat → UInt8) : List UInt8 :=
  let M := ofBytes (c.proofHash settings A K).bytes
  ((BigNumber.ofNat M).byteArray 0 ++ (List.range 20).map behind).take 20

def sendProof (M2 : Digest) : AuthSocket :=
  if c.build ∈ [5875, 6005, 6141] then c.send ([0x01, 0] ++ M2.bytes ++ List.replicate 4 0)
  else c.send ([0x01, 0] ++ M2.bytes ++ [0x00, 0x00, 0x80, 0x00] ++ List.replicate 6 0)

def offerPatch (q : ProofQueries) : AuthSocket × Bool :=
  if c.patch then (c, false)
  else match q.patch with
    | none => (c.send [0x00, 0x00, 0x09], true)
    | some (none, _) => ({ c with patch := true }.closeConnection, false)
    | some (some fileSize, md5) =>
      let sizeBytes := (List.range 8).map fun i => UInt8.ofNat (fileSize / 256 ^ i)
      (({ c with patch := true }.send [0x01, 0x0A]).send
        ([0x30, 5, 80, 97, 116, 99, 104] ++ sizeBytes ++ md5), true)

/-- `_HandleLogonProof`. -/
def handleLogonProof (lp : LogonProof) (q : ProofQueries) : AuthSocket × Bool :=
  if !findBuildInfo c.build then c.offerPatch q
  else
    let A := ofBytes lp.A
    if A = 0 then (c, false)
    else
      let K := c.K.assign (ofBytes (c.proofKey settings A))
      let M := ofBytes (c.proofHash settings A K).bytes
      let hashed := { c with B := c.B.cached 0, s := c.s.cached 0, K := K.cached 0 }
      if c.comparedM settings A K q.behind = lp.M1 then
        let M2 := settings.sha1 ((BigNumber.ofNat A).byteArray 0 ++ (BigNumber.ofNat M).byteArray 0 ++
          K.byteArray 0)
        ({ hashed.sendProof M2 with authed := true }, true)
      else if 6005 < c.build then (hashed.send [0x01, 0x04, 3, 0], true)
      else (hashed.send [0x01, 0x04], true)

/-- `_HandleReconnectChallenge`, with the whole packet at hand. -/
def handleReconnectChallenge (buf : List UInt8) (sessionkey : Option HexString) (rand : Rand 128) :
    AuthSocket × Bool :=
  let login := challengeName buf
  let c := { c with login := login, safelogin := settings.escapeString login, build := challengeBuild buf }
  if 4 < (challengeOs buf).length then (c, false)
  else match sessionkey with
    | none => (c.closeConnection, false)
    | some key =>
      let reconnectProof := c.reconnectProof.assign rand.val
      ({ c with K := c.K.setHexStr key, reconnectProof := reconnectProof.cached 16 }.send
        ([0x02, 0x00] ++ reconnectProof.byteArray 16 ++ List.replicate 16 0), true)

/-- `_HandleReconnectProof`. -/
def handleReconnectProof (lp : ReconnectProof) : AuthSocket × Bool :=
  if c.login = [] ∨ c.reconnectProof.getNumBytes = 0 ∨ c.K.getNumBytes = 0 then (c, false)
  else
    let t1 := BigNumber.ofNat (ofBytes lp.R1)
    let digest := settings.sha1 (c.login ++ t1.byteArray 0 ++ c.reconnectProof.byteArray 0 ++ c.K.byteArray 0)
    let hashed := { c with reconnectProof := c.reconnectProof.cached 0, K := c.K.cached 0 }
    if digest.bytes = lp.R2 then ({ hashed.send [0x03, 0x00, 0x00, 0x00] with authed := true }, true)
    else (hashed.closeConnection, false)

/-- `_HandleRealmList`, where `accounts` tells the id that a name has in the table. -/
def handleRealmList (accounts : List UInt8 → Option Nat) : AuthSocket × Bool :=
  match accounts c.safelogin with
  | none => (c.closeConnection, false)
  | some id =>
    let packet := settings.loadRealmlist c.build id
    (c.send ([0x10, UInt8.ofNat packet.length, UInt8.ofNat (packet.length / 256)] ++ packet), true)

/-- `InitPatch`, which may fail to open the handler. -/
def initPatch (opens : Bool) : AuthSocket :=
  if opens then { c with patch := false } else { c with patch := false }.closeConnection

/-- `_HandleXferResume`, where the file may be sought to the position or not. -/
def handleXferResume (seeks opens : Bool) : AuthSocket × Bool :=
  if c.patch && seeks then (c.initPatch opens, true) else (c.closeConnection, false)

end AuthSocket

/-- A message, with the answers of the tables that its handler asks. -/
inductive AuthRequest
  | logonChallenge (buf : List UInt8) (q : LogonQueries)
  | logonProof (lp : LogonProof) (q : ProofQueries)
  | reconnectChallenge (buf : List UInt8) (sessionkey : Option HexString) (rand : Rand 128)
  | reconnectProof (lp : ReconnectProof)
  | realmList (accounts : List UInt8 → Option Nat)
  | xferAccept (opens : Bool)
  | xferResume (seeks opens : Bool)
  | xferCancel

namespace AuthSocket

variable (settings : RealmdSettings) (c : AuthSocket)

/-- The status that `table` asks of the connection. -/
def admits : AuthRequest → Bool
  | .realmList _ => c.authed
  | _ => true

/-- The handler of a message and whether it goes on to the next one. -/
def handle : AuthRequest → AuthSocket × Bool
  | .logonChallenge buf q => c.handleLogonChallenge settings buf q
  | .logonProof lp q => c.handleLogonProof settings lp q
  | .reconnectChallenge buf sessionkey rand =>
    c.handleReconnectChallenge settings buf sessionkey rand
  | .reconnectProof lp => c.handleReconnectProof settings lp
  | .realmList accounts => c.handleRealmList settings accounts
  | .xferAccept opens => (c.initPatch opens, true)
  | .xferResume seeks opens => c.handleXferResume seeks opens
  | .xferCancel => (c.closeConnection, true)

/-- A message is handled if the connection admits it. -/
def step (req : AuthRequest) : AuthSocket :=
  if c.admits req then (c.handle settings req).1 else c

end AuthSocket

/-!
## The safeguard of the key exchange

The handler of the proof turns down zero, not every multiple of the modulus, although with these the secret
does not depend on the verifier.
-/

namespace AuthSocket

variable {settings : RealmdSettings} {c : AuthSocket} {lp : LogonProof} {q : ProofQueries}

/-- The handler sets the flag that tells that the client proved who he is. -/
def Accepts (settings : RealmdSettings) (c : AuthSocket) (lp : LogonProof) (q : ProofQueries) : Prop :=
  ({ c with authed := false }.handleLogonProof settings lp q).1.authed = true

def Degenerate (A : Nat) : Prop :=
  ∀ u b, 0 < b → ∀ v v', secret A v u b = secret A v' u b

theorem authed_offerPatch : (c.offerPatch q).1.authed = c.authed := by
  unfold offerPatch
  split
  · rfl
  · split <;> rfl

theorem authed_handleLogonProof_iff : (c.handleLogonProof settings lp q).1.authed = true ↔
    c.authed = true ∨ findBuildInfo c.build = true ∧ ofBytes lp.A ≠ 0 ∧ c.comparedM settings (ofBytes lp.A)
        (c.K.assign (ofBytes (c.proofKey settings (ofBytes lp.A)))) q.behind = lp.M1 := by
  rw [handleLogonProof]
  by_cases hbuild : findBuildInfo c.build = true
  · rw [if_neg (by simpa using hbuild)]
    dsimp only
    by_cases hA : ofBytes lp.A = 0
    · simp [hA]
    · rw [if_neg hA]
      split
      next hM => exact iff_of_true rfl (.inr ⟨hbuild, hA, hM⟩)
      next hM => split <;> simp [send, hM]
  · rw [if_pos (by simpa using hbuild), authed_offerPatch]
    simp [hbuild]

theorem accepts_iff : Accepts settings c lp q ↔ findBuildInfo c.build = true ∧ ofBytes lp.A ≠ 0 ∧
    c.comparedM settings (ofBytes lp.A)
      (c.K.assign (ofBytes (c.proofKey settings (ofBytes lp.A)))) q.behind = lp.M1 := by
  rw [Accepts, authed_handleLogonProof_iff, or_iff_right Bool.false_ne_true]
  exact Iff.rfl

theorem length_comparedM (A : Nat) (K : BigNumber) (behind : Nat → UInt8) :
    (c.comparedM settings A K behind).length = 20 := by
  simp [comparedM]

theorem accepts_comparedM (hbuild : findBuildInfo c.build = true) (hA : ofBytes lp.A ≠ 0) : Accepts settings c { lp with
        M1 := c.comparedM settings (ofBytes lp.A)
          (c.K.assign (ofBytes (c.proofKey settings (ofBytes lp.A)))) q.behind
        length_M1 := length_comparedM _ _ _ } q :=
  accepts_iff.mpr ⟨hbuild, hA, rfl⟩

theorem eq_N_of_dvd {A : Nat} (hne : A ≠ 0) (hlt : A < 256 ^ 32) (hdvd : N ∣ A) : A = N := by
  obtain ⟨k, rfl⟩ := hdvd
  have hbound : 256 ^ 32 < N * 2 := by decide +kernel
  have hsmall : k < 2 := Nat.lt_of_mul_lt_mul_left (hlt.trans hbound)
  have hpos : k ≠ 0 := by
    rintro rfl
    exact hne rfl
  rw [show k = 1 by omega, mul_one]

theorem secret_eq (A v u b : Nat) : secret A v u b = (A * v ^ u) ^ b % N := by
  rw [secret, modExp_eq, modExp_eq]
  exact (((Nat.mod_modEq (v ^ u) N).mul_left A).pow b)

theorem secret_of_dvd {A b : Nat} (hdvd : N ∣ A) (hb : 0 < b) (v u : Nat) : secret A v u b = 0 := by
  rw [secret_eq]
  apply Nat.mod_eq_zero_of_dvd
  exact (hdvd.mul_right (v ^ u)).trans (dvd_pow_self _ hb.ne')

theorem degenerate_iff {A : Nat} : Degenerate A ↔ N ∣ A := by
  constructor
  · intro h
    have hsame := h 1 1 Nat.one_pos 1 0
    simp only [secret_eq, pow_one, mul_one, mul_zero, Nat.zero_mod] at hsame
    exact Nat.dvd_of_mod_eq_zero hsame
  · intro hdvd u b hb v v'
    rw [secret_of_dvd hdvd hb, secret_of_dvd hdvd hb]

/-- An `A` is never accepted when it is degenerate exactly when it is not the modulus itself, or the
version is turned down before. -/
theorem accepts_dependsOnPassword_iff (settings : RealmdSettings) (c : AuthSocket) (lp : LogonProof)
    (q : ProofQueries) : (∀ M1 length_M1, Accepts settings c { lp with M1 := M1, length_M1 := length_M1 } q →
      ¬ N ∣ ofBytes lp.A ∧ ¬ Degenerate (ofBytes lp.A)) ↔ (findBuildInfo c.build = false ∨ ofBytes lp.A ≠ N) := by
  constructor
  · intro h
    by_contra hnot
    rw [not_or, Bool.not_eq_false, not_not] at hnot
    obtain ⟨hbuild, hA⟩ := hnot
    have hne : ofBytes lp.A ≠ 0 := by
      rw [hA]
      decide
    have hsafe := h _ _ (accepts_comparedM hbuild hne)
    exact hsafe.1 (Dvd.intro 1 (by rw [mul_one, hA]))
  · intro hcond M1 length_M1 haccepts
    obtain ⟨hbuild, hne, -⟩ := accepts_iff.mp haccepts
    have hA : ofBytes lp.A ≠ N := by
      rcases hcond with hinvalid | hA
      · rw [hbuild] at hinvalid
        cases hinvalid
      · exact hA
    have hlt : ofBytes lp.A < 256 ^ 32 := lp.length_A ▸ ofBytes_lt lp.A
    have hdvd : ¬ N ∣ ofBytes lp.A := fun hdvd => hA (eq_N_of_dvd hne hlt hdvd)
    exact ⟨hdvd, fun hdegenerate => hdvd (degenerate_iff.mp hdegenerate)⟩

end AuthSocket

private def plainHash : RealmdSettings where
  sha1 _ := .ofByte 1
  escapeString := id
  autoRegistration := false
  autoRegistrationAmount := 1
  loadRealmlist _ _ := []

/-- The client sends the modulus. -/
theorem accepts_modulus : ¬ ∀ (settings : RealmdSettings) (c : AuthSocket) (lp : LogonProof) (q : ProofQueries),
      AuthSocket.Accepts settings c lp q → ¬ AuthSocket.N ∣ ofBytes lp.A := by
  intro h
  let lp : LogonProof := ⟨toBytes AuthSocket.N, List.replicate 20 0, by decide +kernel, by simp⟩
  have hA : ofBytes lp.A = AuthSocket.N := ofBytes_toBytes AuthSocket.N
  have hne : ofBytes lp.A ≠ 0 := by
    rw [hA]
    decide
  have haccepts := @AuthSocket.accepts_comparedM plainHash { AuthSocket.new with build := 15595 } lp
    ⟨none, fun _ => 0⟩ (by decide) hne
  exact h _ _ _ _ haccepts (by rw [hA])

end Mangos
