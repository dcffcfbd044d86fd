import Mangos.Framework.Run
import Mangos.Framework.Srp6
import Mangos.Realmd.AuthSocket

/-!
# Honest clients

A client that knows the password answers the last challenge it received.
-/

namespace Mangos

open Framework

/-- The fields of a challenge that the client reads from the packet. -/
structure ServerChallenge where
  B : List UInt8
  g : List UInt8
  N : List UInt8
  s : List UInt8

def ServerChallenge.read (packet : List UInt8) : ServerChallenge where
  B := (packet.drop 3).take 32
  g := (packet.drop 36).take 1
  N := (packet.drop 38).take 32
  s := (packet.drop 70).take 32

/-- A client with his name, the digest of name and password, and the exponent he draws. -/
structure HonestClient where
  name : List UInt8
  passDigest : List UInt8
  a : Nat

namespace HonestClient

variable (settings : RealmdSettings) (client : HonestClient) (challenge : ServerChallenge)

def A : Nat := modExp (ofBytes challenge.g) client.a (ofBytes challenge.N)

def x : Nat := ofBytes (settings.sha1 (challenge.s ++ client.passDigest)).bytes

def u : Nat := ofBytes (settings.sha1 (toBytesWide 32 (client.A challenge) ++ challenge.B)).bytes

def S : Nat :=
  clientSecret (ofBytes challenge.N) (ofBytes challenge.g) 3 (ofBytes challenge.B)
    (client.x settings challenge) (client.u settings challenge) client.a

def K : List UInt8 :=
  AuthSocket.sessionKey settings (toBytesWide 32 (client.S settings challenge))

def M1 : Digest :=
  settings.sha1 (List.zipWith (· ^^^ ·) (settings.sha1 challenge.N).bytes
      (settings.sha1 challenge.g).bytes ++ (settings.sha1 client.name).bytes ++ challenge.s ++
    toBytesWide 32 (client.A challenge) ++ challenge.B ++ client.K settings challenge)

def M2 : Digest :=
  settings.sha1 (toBytesWide 32 (client.A challenge) ++ (client.M1 settings challenge).bytes ++
    client.K settings challenge)

def reply : LogonProof where
  A := toBytesWide 32 (client.A challenge)
  M1 := (client.M1 settings challenge).bytes
  length_A := length_toBytesWide 32 _
  length_M1 := (client.M1 settings challenge).length_eq

end HonestClient

namespace AuthSocket

variable (settings : RealmdSettings) (c : AuthSocket) (buf : List UInt8) (q : LogonQueries)

def storedRow : Option AccountRow :=
  q.account.filter fun row => row.v.length = 64 && row.s.length = 64

def salt : Nat :=
  match storedRow q with
  | some row => row.s.value
  | none => q.randS.val

def passHash : Nat :=
  match q.account with
  | some row => row.shaPassHash.value
  | none =>
    let name := (settings.escapeString (challengeName buf)).map towupper
    ofBytes (settings.sha1 (name ++ [58] ++ name)).bytes.reverse

def verifier : Nat :=
  modExp g (verifierExponent settings (toBytes (salt q)) (passHash settings buf q)) N

def meantChallenge : ServerChallenge where
  B := toBytesWide 32 (serverPublic N g 3 (verifier settings buf q) q.randB.val)
  g := [7]
  N := toBytesWide 32 N
  s := toBytesWide 32 (salt q)

def named : AuthSocket :=
  { c with
    login := challengeName buf
    build := challengeBuild buf
    safelogin := settings.escapeString (challengeName buf) }

/-- The challenge is answered with the numbers of an exchange. -/
def Met : Prop :=
  (challengeOs buf).length ≤ 4 ∧ ((c.named settings buf).logonResult settings q).2 = .success

/-- The client has the name and the password of the account, whose stored verifier is the one that
belongs to them. -/
structure RightPassword (client : HonestClient) : Prop where
  name : client.name = challengeName buf
  password : client.passDigest = passDigest (passHash settings buf q)
  stored : ∀ row ∈ storedRow q, row.v.value = verifier settings buf q

/-- Every number of the exchange needs the full width that the client takes it with. -/
structure FullWidth (client : HonestClient) : Prop where
  salt : numBytes (salt q) = 32
  B : numBytes (serverPublic N g 3 (verifier settings buf q) q.randB.val) = 32
  A : numBytes (client.A (meantChallenge settings buf q)) = 32
  S : numBytes (client.S settings (meantChallenge settings buf q)) = 32
  K : numBytes (ofBytes (client.K settings (meantChallenge settings buf q))) = 40
  M1 : numBytes (ofBytes (client.M1 settings (meantChallenge settings buf q)).bytes) = 20
  groupHash : numBytes (ofBytes (groupHash settings)) = 20

/-- No array of an earlier challenge is returned for the numbers of this one. -/
structure NothingStale : Prop where
  s : (c.s.assign (salt q)).Fresh 32
  B : (c.B.assign (serverPublic N g 3 (verifier settings buf q) q.randB.val)).Fresh 32

/-- The account is loaded: the salt is sent as it is, and the verifier belongs to it. -/
structure Loaded (c c' : AuthSocket) : Prop where
  s : c'.s.byteArray 0 = toBytes (salt q)
  v : c'.v.bn = verifier settings buf q
  B : c'.B = c.B
  K : c'.K = c.K
  login : c'.login = c.login
  build : c'.build = c.build

variable {settings c buf q}

theorem loaded_setVSFields {I : Nat} (hsalt : (c.s.assign q.randS.val).byteArray 0 = toBytes q.randS.val)
    (hstored : storedRow q = none) (hhash : I = passHash settings buf q) :
    Loaded settings buf q c (c.setVSFields settings I q.randS) := by
  have hdrawn : salt q = q.randS.val := by simp [salt, hstored]
  constructor
  · rw [setVSFields, BigNumber.byteArray_cached _ rfl, hsalt, hdrawn]
  · simp [setVSFields, verifier, hsalt, hdrawn, hhash]
  all_goals rfl

theorem setHexStr_eq (z : BigNumber) {digits : HexString} (hlength : digits.length = 64) :
    z.setHexStr digits = z.assign digits.value := by
  apply if_neg
  rintro rfl
  cases hlength

theorem loaded_logonAccount {row : AccountRow} (haccount : q.account = some row)
    (hsalt : (c.s.assign (salt q)).byteArray 0 = toBytes (salt q))
    (hstored : ∀ row ∈ storedRow q, row.v.value = verifier settings buf q)
    (hmet : (c.logonAccount settings row q).2 = .success) :
    Loaded settings buf q c (c.logonAccount settings row q).1 := by
  unfold logonAccount at hmet ⊢
  split at hmet
  · cases hmet
  next hlocked =>
  rw [if_neg hlocked]
  split at hmet
  · cases hmet
  next hip =>
  rw [if_neg hip]
  cases hbanned : q.banned with
  | some forGood =>
    rw [hbanned] at hmet
    cases forGood <;> cases hmet
  | none =>
    dsimp only
    by_cases hlength : row.v.length ≠ 64 ∨ row.s.length ≠ 64
    · have hnone : storedRow q = none := by
        simp only [storedRow, haccount, Option.filter_eq_none_iff, Option.some.injEq]
        rintro _ rfl
        simpa [imp_iff_not_or] using hlength
      have hdrawn : salt q = q.randS.val := by simp [salt, hnone]
      rw [if_pos hlength]
      exact loaded_setVSFields (hdrawn ▸ hsalt) hnone (by simp [passHash, haccount])
    · rw [if_neg hlength]
      simp only [not_or, not_not] at hlength
      have hsome : storedRow q = some row := by
        simp [storedRow, haccount, hlength]
      have hrow : salt q = row.s.value := by simp [salt, hsome]
      rw [hrow] at hsalt
      refine ⟨?_, ?_, rfl, rfl, rfl, rfl⟩
      · rw [hrow, ← hsalt, setHexStr_eq _ hlength.2]
      · rw [← hstored row hsome, setHexStr_eq _ hlength.1, BigNumber.assign_bn]

theorem loaded_logonResult (hname : c.safelogin = settings.escapeString (challengeName buf))
    (hsalt : (c.s.assign (salt q)).byteArray 0 = toBytes (salt q))
    (hstored : ∀ row ∈ storedRow q, row.v.value = verifier settings buf q)
    (hmet : (c.logonResult settings q).2 = .success) : Loaded settings buf q c (c.logonResult settings q).1 := by
  unfold logonResult at hmet ⊢
  split at hmet
  · cases hmet
  next hip =>
  rw [if_neg hip]
  cases haccount : q.account with
  | some row =>
    rw [haccount] at hmet
    exact loaded_logonAccount haccount hsalt hstored hmet
  | none =>
    rw [haccount] at hmet
    dsimp only at hmet ⊢
    split at hmet
    next hauto =>
      have hnone : storedRow q = none := by simp [storedRow, haccount]
      have hdrawn : salt q = q.randS.val := by simp [salt, hnone]
      rw [if_pos hauto]
      unfold logonRegister at hmet ⊢
      split at hmet
      · cases hmet
      next hallowed =>
      rw [if_neg hallowed]
      split at hmet
      · cases hmet
      next hamount =>
      rw [if_neg hamount]
      have hhash : ofBytes (settings.sha1 (c.safelogin.map towupper ++ [58] ++
          c.safelogin.map towupper)).bytes.reverse = passHash settings buf q := by
        simp only [passHash, haccount, hname]
      have hloaded := @loaded_setVSFields settings { c with safelogin := c.safelogin.map towupper }
        buf q _ (hdrawn ▸ hsalt) hnone hhash
      exact ⟨hloaded.s, hloaded.v, hloaded.B, hloaded.K, hloaded.login, hloaded.build⟩
    next => cases hmet

theorem numBytes_N : numBytes N = 32 := by decide +kernel

theorem byteArray_N : (BigNumber.ofNat N).byteArray 32 = toBytes N :=
  (BigNumber.ofNat N).newArray_full numBytes_N.ge

theorem byteArray_g : (BigNumber.ofNat g).byteArray 0 = [7] := by decide +kernel

theorem read_packet {B N s : List UInt8} (hB : B.length = 32) (hN : N.length = 32)
    (hs : s.length = 32) (rest : List UInt8) :
    ServerChallenge.read ([0, 0, 0] ++ B ++ [1] ++ [7] ++ [32] ++ N ++ s ++ rest) = ⟨B, [7], N, s⟩ := by
  simp [ServerChallenge.read, List.drop_append, List.take_append, hB, hN, hs]

variable {client : HonestClient}

theorem meantChallenge_full (hfull : FullWidth settings buf q client) : meantChallenge settings buf q =
      ⟨toBytes (serverPublic N g 3 (verifier settings buf q) q.randB.val), [7], toBytes N, toBytes (salt q)⟩ := by
  rw [meantChallenge, toBytesWide_full hfull.B, toBytesWide_full numBytes_N, toBytesWide_full hfull.salt]

theorem handleLogonChallenge_met (hmet : Met settings c buf q) : (c.handleLogonChallenge settings buf q).1 =
      ((c.named settings buf).logonResult settings q).1.sendChallenge q := by
  have hos : ¬ 4 < (challengeOs buf).length := Nat.not_lt.mpr hmet.1
  have hsuccess := hmet.2
  simp only [handleLogonChallenge]
  rw [if_neg hos]
  change replyChallenge q ((c.named settings buf).logonResult settings q) = _
  generalize (c.named settings buf).logonResult settings q = answer at hsuccess ⊢
  obtain ⟨c', result⟩ := answer
  rw [show result = .success from hsuccess]
  rfl

/-- The challenge went out as it is meant to, and its numbers are kept as they were sent. -/
structure Sent (c c' : AuthSocket) : Prop where
  packet : ∃ before packet, c'.sent = before ++ [packet] ∧ ServerChallenge.read packet = meantChallenge settings buf q
  v : c'.v.bn = verifier settings buf q
  b : c'.b.bn = q.randB.val
  B : c'.B.byteArray 0 = toBytes (serverPublic N g 3 (verifier settings buf q) q.randB.val)
  s : c'.s.byteArray 0 = toBytes (salt q)
  K : c'.K = c.K
  login : c'.login = challengeName buf
  build : c'.build = challengeBuild buf

theorem sent_handleLogonChallenge (hmet : Met settings c buf q)
    (hpass : RightPassword settings buf q client) (hfull : FullWidth settings buf q client)
    (hstale : NothingStale settings c buf q) : @Sent settings buf q c (c.handleLogonChallenge settings buf q).1 := by
  have hsaltWidth : (c.s.assign (salt q)).getNumBytes = 32 := hfull.salt
  have hsalt : (c.s.assign (salt q)).byteArray 0 = toBytes (salt q) :=
    BigNumber.Fresh.byteArray_eq (hsaltWidth ▸ hstale.s) (Nat.zero_le _)
  have hloaded := @loaded_logonResult settings (c.named settings buf) buf q rfl hsalt hpass.stored
    hmet.2
  rw [handleLogonChallenge_met hmet]
  generalize ((c.named settings buf).logonResult settings q).1 = c' at hloaded ⊢
  let B := serverPublic N g 3 (verifier settings buf q) q.randB.val
  have hBWidth : (c.B.assign B).getNumBytes = 32 := hfull.B
  have hassigned : c'.B.assign ((c'.v.bn * 3 + modExp g q.randB.val N) % N) = c.B.assign B := by
    rw [hloaded.B, hloaded.v]
    rfl
  have hB : (c.B.assign B).byteArray 32 = toBytes B :=
    BigNumber.Fresh.byteArray_eq (hBWidth ▸ hstale.B) hBWidth.ge
  have hlengthB : (toBytes B).length = 32 := hfull.B
  refine ⟨?_, hloaded.v, rfl, ?_, ?_, hloaded.K, hloaded.login, hloaded.build⟩
  · refine ⟨c'.sent, challengePacket c'.s (c.B.assign B) q.unk3, ?_, ?_⟩
    · simp only [sendChallenge, send, hassigned]
    · rw [meantChallenge_full hfull, challengePacket, hB, hloaded.s, byteArray_N, byteArray_g,
        List.take_of_length_le hlengthB.le, List.append_assoc _ _ [0x00]]
      exact read_packet hlengthB numBytes_N hfull.salt _
  · simp only [sendChallenge, send, hassigned]
    rw [BigNumber.byteArray_cached, hB]
    rw [BigNumber.arrayLength, BigNumber.arrayLength, hBWidth]
    rfl
  · simp only [sendChallenge, send]
    rw [BigNumber.byteArray_cached _ rfl, hloaded.s]

theorem client_A (hfull : FullWidth settings buf q client) :
    client.A (meantChallenge settings buf q) = modExp g client.a N := by
  rw [meantChallenge_full hfull, HonestClient.A, ofBytes_toBytes]
  rfl

theorem secret_eq_client_S (hpass : RightPassword settings buf q client) (hfull : FullWidth settings buf q client) :
    secret (client.A (meantChallenge settings buf q)) (verifier settings buf q)
      (client.u settings (meantChallenge settings buf q)) q.randB.val =
    client.S settings (meantChallenge settings buf q) := by
  have hx : client.x settings (meantChallenge settings buf q) =
      verifierExponent settings (toBytes (salt q)) (passHash settings buf q) := by
    rw [meantChallenge_full hfull, HonestClient.x, hpass.password]
    rfl
  have hgenerator : ofBytes (meantChallenge settings buf q).g = g := by
    change ofBytes [7] = g
    decide
  have hmodulus : ofBytes (meantChallenge settings buf q).N = N := by
    rw [meantChallenge_full hfull, ofBytes_toBytes]
  have hB : ofBytes (meantChallenge settings buf q).B =
      serverPublic N g 3 (verifier settings buf q) q.randB.val := by
    rw [meantChallenge_full hfull, ofBytes_toBytes]
  rw [HonestClient.S, hgenerator, hmodulus, hB, hx, client_A hfull]
  exact serverSecret_eq_clientSecret (by decide) g 3 _ client.a q.randB.val _

theorem length_interleave {xs ys : List UInt8} (h : xs.length = ys.length) :
    (interleave xs ys).length = 2 * xs.length := by
  induction xs generalizing ys with
  | nil => rfl
  | cons x xs ih =>
    cases ys with
    | nil => cases h
    | cons y ys =>
      rw [List.length_cons, List.length_cons, Nat.add_right_cancel_iff] at h
      rw [interleave, List.length_cons, List.length_cons, ih h, List.length_cons]
      omega

theorem length_sessionKey (t : List UInt8) : (sessionKey settings t).length = 40 := by
  rw [sessionKey, length_interleave (by rw [Digest.length_eq, Digest.length_eq]), Digest.length_eq]

theorem byteArray_client_A (hfull : FullWidth settings buf q client) :
    (BigNumber.ofNat (client.A (meantChallenge settings buf q))).byteArray 0 =
      toBytesWide 32 (client.A (meantChallenge settings buf q)) := by
  rw [toBytesWide_full hfull.A]
  exact (BigNumber.ofNat _).newArray_full (Nat.zero_le _)

theorem proofHash_eq_client_M1 {c' : AuthSocket} {K : BigNumber}
    (hpass : RightPassword settings buf q client) (hfull : FullWidth settings buf q client)
    (h : @Sent settings buf q c c') (hK : K.byteArray 0 = client.K settings (meantChallenge settings buf q)) :
    c'.proofHash settings (client.A (meantChallenge settings buf q)) K =
      client.M1 settings (meantChallenge settings buf q) := by
  have hlength : (groupHash settings).length = 20 := by
    rw [groupHash, List.length_zipWith, Digest.length_eq, Digest.length_eq]
    rfl
  have hgroup : (BigNumber.ofNat (ofBytes (groupHash settings))).byteArray 0 = groupHash settings :=
    ((BigNumber.ofNat _).newArray_full (Nat.zero_le _)).trans
      (toBytes_ofBytes (hfull.groupHash.trans hlength.symm))
  have hmodulus : (BigNumber.ofNat N).byteArray 0 = toBytes N :=
    (BigNumber.ofNat N).newArray_full (Nat.zero_le _)
  rw [proofHash, HonestClient.M1, hgroup, h.login, h.s, byteArray_client_A hfull, h.B, hK, groupHash, hmodulus,
    byteArray_g, hpass.name, meantChallenge_full hfull]

theorem ofBytes_reply_A (hfull : FullWidth settings buf q client) :
    ofBytes (client.reply settings (meantChallenge settings buf q)).A = client.A (meantChallenge settings buf q) := by
  change ofBytes (toBytesWide 32 (client.A _)) = client.A _
  rw [toBytesWide_full hfull.A, ofBytes_toBytes]

theorem proofKey_eq_client_K {c' : AuthSocket} (hpass : RightPassword settings buf q client)
    (hfull : FullWidth settings buf q client) (h : @Sent settings buf q c c') :
    c'.proofKey settings (client.A (meantChallenge settings buf q)) =
      client.K settings (meantChallenge settings buf q) := by
  have hu : c'.scrambler settings (client.A (meantChallenge settings buf q)) =
      client.u settings (meantChallenge settings buf q) := by
    rw [scrambler, HonestClient.u, byteArray_client_A hfull, h.B, meantChallenge_full hfull]
  rw [proofKey, hu, h.v, h.b, secret_eq_client_S hpass hfull, HonestClient.K, toBytesWide_full hfull.S]
  exact congrArg (sessionKey settings) ((BigNumber.ofNat _).newArray_full hfull.S.ge)

theorem byteArray_client_K {c' : AuthSocket} (hfull : FullWidth settings buf q client) (hK : c.K = .ofNat 0)
    (h : @Sent settings buf q c c') :
    (c'.K.assign (ofBytes (client.K settings (meantChallenge settings buf q)))).byteArray 0 =
      client.K settings (meantChallenge settings buf q) := by
  have hlength : numBytes (ofBytes (client.K settings (meantChallenge settings buf q))) =
      (client.K settings (meantChallenge settings buf q)).length :=
    hfull.K.trans (length_sessionKey _).symm
  rw [h.K, hK]
  exact ((BigNumber.ofNat _).newArray_full (Nat.zero_le _)).trans (toBytes_ofBytes hlength)

theorem byteArray_client_M1 (hfull : FullWidth settings buf q client) :
    (BigNumber.ofNat (ofBytes (client.M1 settings (meantChallenge settings buf q)).bytes)).byteArray 0 =
      (client.M1 settings (meantChallenge settings buf q)).bytes := by
  have hM := (client.M1 settings (meantChallenge settings buf q)).length_eq
  exact ((BigNumber.ofNat _).newArray_full (Nat.zero_le _)).trans (toBytes_ofBytes (hfull.M1.trans hM.symm))

theorem accepts_reply {c' : AuthSocket} (hbuild : findBuildInfo (challengeBuild buf) = true)
    (hpass : RightPassword settings buf q client) (hfull : FullWidth settings buf q client)
    (hK : c.K = .ofNat 0) (h : @Sent settings buf q c c') (pq : ProofQueries) :
    Accepts settings c' (client.reply settings (meantChallenge settings buf q)) pq := by
  refine accepts_iff.mpr ⟨h.build ▸ hbuild, ?_, ?_⟩
  · intro hzero
    have hwidth : numBytes (client.A (meantChallenge settings buf q)) = 32 := hfull.A
    rw [← ofBytes_reply_A hfull, hzero] at hwidth
    exact absurd hwidth (by decide +kernel)
  · rw [ofBytes_reply_A hfull, comparedM, proofKey_eq_client_K hpass hfull h,
      proofHash_eq_client_M1 hpass hfull h (byteArray_client_K hfull hK h), byteArray_client_M1 hfull,
      List.take_left' (client.M1 settings (meantChallenge settings buf q)).length_eq]
    rfl

/-- A connection after challenges, whether they were met or not. -/
def afterChallenges (settings : RealmdSettings) (challenges : List (List UInt8 × LogonQueries)) :
    AuthSocket :=
  run (fun c challenge => (c.handleLogonChallenge settings challenge.1 challenge.2).1) new challenges

def lastPacket (c : AuthSocket) : List UInt8 := c.sent.getLast?.getD []

theorem K_logonResult : (c.logonResult settings q).1.K = c.K := by
  unfold logonResult
  split
  · rfl
  split
  · unfold logonAccount
    split
    · rfl
    split
    · rfl
    split
    · rfl
    · rfl
    · split <;> rfl
  · split
    · unfold logonRegister
      split
      · rfl
      · split <;> rfl
    · rfl

theorem K_handleLogonChallenge : (c.handleLogonChallenge settings buf q).1.K = c.K := by
  simp only [handleLogonChallenge]
  split
  · rfl
  · have hresult := @K_logonResult settings (c.named settings buf) q
    change (replyChallenge q ((c.named settings buf).logonResult settings q)).K = c.K
    generalize (c.named settings buf).logonResult settings q = answer at hresult ⊢
    obtain ⟨c', result⟩ := answer
    cases result <;> exact hresult

theorem K_afterChallenges (challenges : List (List UInt8 × LogonQueries)) :
    (afterChallenges settings challenges).K = .ofNat 0 :=
  @run_invariant _ _ _ (fun _ _ => True) (fun c => c.K = .ofNat 0)
    (fun _ _ _ h => K_handleLogonChallenge.trans h) new challenges
    (guarded_of_forall (fun _ _ => trivial) new challenges) rfl

theorem afterChallenges_concat (earlier : List (List UInt8 × LogonQueries)) :
    afterChallenges settings (earlier ++ [(buf, q)]) =
      ((afterChallenges settings earlier).handleLogonChallenge settings buf q).1 := by
  rw [afterChallenges, run_append]
  rfl

/-- A client with the password that answers the last of any number of challenges is accepted, if every number needs
its full width and no array of an earlier challenge is returned. -/
theorem honestClient_accepted (settings : RealmdSettings)
    (earlier : List (List UInt8 × LogonQueries)) (buf : List UInt8) (q : LogonQueries)
    (client : HonestClient) (pq : ProofQueries) (hmet : Met settings (afterChallenges settings earlier) buf q)
    (hbuild : findBuildInfo (challengeBuild buf) = true)
    (hpass : RightPassword settings buf q client) (hfull : FullWidth settings buf q client)
    (hstale : NothingStale settings (afterChallenges settings earlier) buf q) :
    Accepts settings (afterChallenges settings (earlier ++ [(buf, q)])) (client.reply settings
        (.read (afterChallenges settings (earlier ++ [(buf, q)])).lastPacket)) pq := by
  have hsent := sent_handleLogonChallenge hmet hpass hfull hstale
  have hstep : afterChallenges settings (earlier ++ [(buf, q)]) =
      ((afterChallenges settings earlier).handleLogonChallenge settings buf q).1 := by
    rw [afterChallenges, run_append]
    rfl
  obtain ⟨before, packet, hlog, hread⟩ := hsent.packet
  rw [hstep, lastPacket, hlog, List.getLast?_concat, Option.getD_some, hread]
  exact accepts_reply hbuild hpass hfull (K_afterChallenges earlier) hsent pq

theorem handleLogonProof_of_accepts {lp : LogonProof} {pq : ProofQueries} (h : Accepts settings c lp pq) :
    let K := c.K.assign (ofBytes (c.proofKey settings (ofBytes lp.A)))
    (c.handleLogonProof settings lp pq).1.authed = true ∧ (c.handleLogonProof settings lp pq).1.K = K.cached 0 ∧
      ∃ flags, (c.handleLogonProof settings lp pq).1.lastPacket = [0x01, 0] ++
        (settings.sha1 ((BigNumber.ofNat (ofBytes lp.A)).byteArray 0 ++ (BigNumber.ofNat (ofBytes
          (c.proofHash settings (ofBytes lp.A) K).bytes)).byteArray 0 ++ K.byteArray 0)).bytes ++ flags := by
  obtain ⟨hbuild, hA, hM⟩ := accepts_iff.mp h
  rw [handleLogonProof, if_neg (by simpa using hbuild)]
  dsimp only
  rw [if_neg hA, if_pos hM]
  refine ⟨rfl, ?_, ?_⟩
  · unfold sendProof
    split <;> rfl
  · unfold sendProof
    split
    · exact ⟨List.replicate 4 0, by simp [send, lastPacket]⟩
    · exact ⟨[0x00, 0x00, 0x80, 0x00] ++ List.replicate 6 0, by simp [send, lastPacket]⟩

/-- Such a client and the server end with one key, and the server proves to the client that it has the key. -/
theorem honestClient_sharesKey (settings : RealmdSettings)
    (earlier : List (List UInt8 × LogonQueries)) (buf : List UInt8) (q : LogonQueries)
    (client : HonestClient) (pq : ProofQueries) (hmet : Met settings (afterChallenges settings earlier) buf q)
    (hbuild : findBuildInfo (challengeBuild buf) = true)
    (hpass : RightPassword settings buf q client) (hfull : FullWidth settings buf q client)
    (hstale : NothingStale settings (afterChallenges settings earlier) buf q) :
    let c := afterChallenges settings (earlier ++ [(buf, q)])
    let challenge := ServerChallenge.read c.lastPacket
    let answered := (c.handleLogonProof settings (client.reply settings challenge) pq).1
    answered.authed = true ∧ answered.K.byteArray 0 = client.K settings challenge ∧
      ∃ flags, answered.lastPacket = [0x01, 0] ++ (client.M2 settings challenge).bytes ++ flags := by
  have hsent := sent_handleLogonChallenge hmet hpass hfull hstale
  have hK := @K_afterChallenges settings earlier
  have hread : ServerChallenge.read
      ((afterChallenges settings earlier).handleLogonChallenge settings buf q).1.lastPacket =
        meantChallenge settings buf q := by
    obtain ⟨before, packet, hlog, hread⟩ := hsent.packet
    rw [lastPacket, hlog, List.getLast?_concat, Option.getD_some, hread]
  obtain ⟨hauthed, hkey, flags, hlast⟩ :=
    handleLogonProof_of_accepts (accepts_reply hbuild hpass hfull hK hsent pq)
  rw [ofBytes_reply_A hfull, proofKey_eq_client_K hpass hfull hsent] at hkey hlast
  have harray := byteArray_client_K hfull hK hsent
  rw [proofHash_eq_client_M1 hpass hfull hsent harray, byteArray_client_M1 hfull, byteArray_client_A hfull,
    harray] at hlast
  simp only [afterChallenges_concat, hread]
  refine ⟨hauthed, ?_, flags, hlast⟩
  rw [hkey, BigNumber.byteArray_cached _ rfl, harray]

end AuthSocket

/-! A client of an account whose salt and verifier are drawn at the challenge. -/

private def sumHash : RealmdSettings where
  sha1 bytes := ⟨List.replicate 20 (UInt8.ofNat ((bytes.map UInt8.toNat).sum % 255 + 1)), by simp⟩
  escapeString := id
  autoRegistration := false
  autoRegistrationAmount := 1
  loadRealmlist _ _ := []

private def honestPacket : List UInt8 :=
  [0x00, 8, 31, 0, 87, 111, 87, 0, 4, 3, 4, 0xEB, 0x3C, 54, 56, 120, 0, 110, 105, 87, 0, 83, 85, 110,
    101, 0, 0, 0, 0, 127, 0, 0, 1, 1, 65]

private def honestQueries (b : Nat) (hb : 2 ^ 151 ≤ b ∧ b < 2 ^ 152 ∧ b % 2 = 1) : LogonQueries where
  ipBanned := false
  account := some { shaPassHash := [1, 2], locked := 0, lastIPDiffers := false, v := [], s := [] }
  multiIPExceeded := false
  banned := none
  registered := 0
  randS := .least 254
  randB := ⟨b, hb.1, hb.2.1, hb.2.2⟩
  unk3 := .least 126

private def honest : HonestClient := ⟨[65], AuthSocket.passDigest 0x12, 1000⟩

/-- The first challenge of a connection. -/
theorem honestClient_accepted_first : AuthSocket.Accepts sumHash (AuthSocket.afterChallenges sumHash
        [(honestPacket, honestQueries (2 ^ 151 + 1) (by decide))])
      (honest.reply sumHash (.read (AuthSocket.afterChallenges sumHash
        [(honestPacket, honestQueries (2 ^ 151 + 1) (by decide))]).lastPacket)) ⟨none, fun _ => 0⟩ :=
  AuthSocket.honestClient_accepted sumHash [] honestPacket
    (honestQueries (2 ^ 151 + 1) (by decide)) honest ⟨none, fun _ => 0⟩
    ⟨by decide, by decide +kernel⟩ (by decide)
    ⟨by decide, by decide +kernel, by rintro row ⟨⟩⟩
    ⟨by decide +kernel, by decide +kernel, by decide +kernel, by decide +kernel, by decide +kernel,
      by decide +kernel, by decide +kernel⟩
    ⟨BigNumber.fresh_ofNat _ _, BigNumber.fresh_ofNat _ _⟩

/-- The key of that client. -/
theorem honestClient_sharesKey_first :
    let c := AuthSocket.afterChallenges sumHash [(honestPacket, honestQueries (2 ^ 151 + 1) (by decide))]
    let challenge := ServerChallenge.read c.lastPacket
    (c.handleLogonProof sumHash (honest.reply sumHash challenge) ⟨none, fun _ => 0⟩).1.K.byteArray 0 =
      honest.K sumHash challenge :=
  (AuthSocket.honestClient_sharesKey sumHash [] honestPacket
    (honestQueries (2 ^ 151 + 1) (by decide)) honest ⟨none, fun _ => 0⟩
    ⟨by decide, by decide +kernel⟩ (by decide)
    ⟨by decide, by decide +kernel, by rintro row ⟨⟩⟩
    ⟨by decide +kernel, by decide +kernel, by decide +kernel, by decide +kernel, by decide +kernel,
      by decide +kernel, by decide +kernel⟩
    ⟨BigNumber.fresh_ofNat _ _, BigNumber.fresh_ofNat _ _⟩).2.1

/-- The second challenge of a connection is sent with the number of the first. -/
theorem honestClient_accepted_second :
    ¬ ∀ (settings : RealmdSettings) (earlier : List (List UInt8 × LogonQueries)) (buf : List UInt8)
      (q : LogonQueries) (client : HonestClient) (pq : ProofQueries),
      AuthSocket.Met settings (AuthSocket.afterChallenges settings earlier) buf q →
      AuthSocket.findBuildInfo (challengeBuild buf) = true → AuthSocket.RightPassword settings buf q client →
      AuthSocket.Accepts settings (AuthSocket.afterChallenges settings (earlier ++ [(buf, q)])) (client.reply settings
          (.read (AuthSocket.afterChallenges settings (earlier ++ [(buf, q)])).lastPacket)) pq := by
  intro h
  have haccepts := h sumHash [(honestPacket, honestQueries (2 ^ 151 + 1) (by decide))] honestPacket
    (honestQueries (2 ^ 151 + 3) (by decide)) honest ⟨none, fun _ => 0⟩
    ⟨by decide, by decide +kernel⟩ (by decide)
    ⟨by decide, by decide +kernel, by rintro row ⟨⟩⟩
  rw [AuthSocket.accepts_iff] at haccepts
  exact absurd haccepts.2.2 (by decide +kernel)

end Mangos
