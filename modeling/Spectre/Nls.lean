/-
Logging in to Battle.net without sending the password (`nls.rs`).

The client proves that it knows the password, and has the server prove
the same, by computing one secret number in two ways. `NlsSession` is
the client as the source has it. `NlsServer` is the other party, as the
protocol means it and not in the source: it keeps the verifier the
client registered and draws its own secret. Both hash what they
computed into a key and compare proofs made from it.

SHA-1 is not part of the source, and nothing is needed of it but the
length of what it returns (`Sha1`). The big integers are natural
numbers.
-/
import Spectre.Rust
import Spectre.Lib.Srp

namespace Spectre.Bnet

open Lib.Srp

-- ================================================================== the pieces

/-- SHA-1. -/
class Sha1 where
  /-- `sha1_digest`. -/
  digest : List UInt8 → List UInt8
  digest_length : ∀ data, (digest data).length = 20

/-- `NLS_PRIME_BYTES`. -/
def nlsPrimeBytes : List UInt8 :=
  [0x87, 0xC7, 0x23, 0x85, 0x65, 0xF6, 0x16, 0x12, 0xD9, 0x12, 0x32, 0xC7, 0x78, 0x6C, 0x97, 0x7E,
   0x55, 0xB5, 0x92, 0xA0, 0x8C, 0xB6, 0x86, 0x21, 0x03, 0x18, 0x99, 0x61, 0x8B, 0x1A, 0xFF, 0xF8]

/-- The modulus. -/
def nlsPrime : Nat := ofBytesLe nlsPrimeBytes

/-- `NLS_G`. -/
def nlsG : Nat := 47

/-- `NLS_I`. -/
def nlsI : List UInt8 :=
  [0x6C, 0x0E, 0x97, 0xED, 0x0A, 0xF9, 0x6B, 0xAB, 0xB1, 0x58, 0x89, 0xEB, 0x8B, 0xBA, 0x25, 0xA4,
   0xF0, 0x8C, 0x01, 0xF8]

/-- `NlsError`. -/
inductive NlsError where
  | invalidServerPublicKey
deriving DecidableEq, Repr

/-- `BigUint::modpow`. -/
def modpow (base exp n : Nat) : Nat := base ^ exp % n

/-- A number copied into an array of 32 zeros, little-endian. -/
def bytes32 (n : Nat) : List UInt8 := padTo 32 (toBytesLe n)

/-- `u32::from_be_bytes` of the first four bytes. -/
def beWord (bytes : List UInt8) : Nat :=
  (bytes.getD 0 0).toNat * 16777216 + (bytes.getD 1 0).toNat * 65536 + (bytes.getD 2 0).toNat * 256
    + (bytes.getD 3 0).toNat

/-- `compute_k`: the bytes at even and at odd places are hashed apart,
and the hashes are interleaved. -/
def computeK [Sha1] (sBytes : List UInt8) : List UInt8 :=
  let odd := (List.range 16).map fun i => sBytes.getD (i * 2) 0
  let even := (List.range 16).map fun i => sBytes.getD (i * 2 + 1) 0
  let oddHash := Sha1.digest odd
  let evenHash := Sha1.digest even
  (List.range 20).flatMap fun i => [oddHash.getD i 0, evenHash.getD i 0]

-- ================================================================== the client

/-- `NlsSession`: the public key belongs to the secret. -/
structure NlsSession where
  username : Text
  password : Text
  a : Nat
  aPub : List UInt8
  aPub_eq : aPub = bytes32 (modpow nlsG a nlsPrime)

/-- `NlsAccountCreatePacket`. -/
structure NlsAccountCreatePacket where
  salt : List UInt8
  v : List UInt8
  username : Text

namespace NlsSession

/-- `NlsSession::new`, given the random bytes it draws. -/
def new (username password : Text) (aBytes : List UInt8) : NlsSession :=
  let a := ofBytesLe aBytes % nlsPrime
  { username, password, a, aPub := bytes32 (modpow nlsG a nlsPrime), aPub_eq := rfl }

/-- `with_private_key_for_test`. -/
def withPrivateKeyForTest (username password : Text) (privateKey : UInt32) : NlsSession :=
  let a := privateKey.toNat
  { username, password, a, aPub := bytes32 (modpow nlsG a nlsPrime), aPub_eq := rfl }

variable [Sha1] (n : NlsSession)

/-- `compute_x`. -/
def computeX (salt : List UInt8) : Nat :=
  let userpass := n.username.map asciiUpper ++ txt ":" ++ n.password.map asciiUpper
  ofBytesLe (Sha1.digest (salt ++ Sha1.digest userpass))

/-- `compute_v`. -/
def computeV (salt : List UInt8) : List UInt8 := bytes32 (modpow nlsG (n.computeX salt) nlsPrime)

/-- `compute_s`. -/
def computeS (serverPublicKey salt : List UInt8) : Except NlsError (List UInt8) :=
  let b := ofBytesLe serverPublicKey
  if b = 0 ∨ nlsPrime ≤ b then .error .invalidServerPublicKey
  else
    let x := n.computeX salt
    let v := modpow nlsG x nlsPrime
    let u := beWord (Sha1.digest serverPublicKey)
    let base := (b + nlsPrime - v % nlsPrime) % nlsPrime
    let exp := n.a + u * x
    .ok (bytes32 (modpow base exp nlsPrime))

/-- `compute_m1`. -/
def computeM1 (serverPublicKey salt : List UInt8) : Except NlsError (List UInt8) := do
  let s ← n.computeS serverPublicKey salt
  let k := computeK s
  let usernameHash := Sha1.digest (n.username.map asciiUpper)
  return Sha1.digest (nlsI ++ usernameHash ++ salt ++ n.aPub ++ serverPublicKey ++ k)

/-- `compute_m2`. -/
def computeM2 (serverPublicKey salt m1 : List UInt8) : Except NlsError (List UInt8) := do
  let s ← n.computeS serverPublicKey salt
  let k := computeK s
  return Sha1.digest (n.aPub ++ m1 ++ k)

/-- `check_m2`. -/
def checkM2 (varM2 serverPublicKey salt : List UInt8) : Bool :=
  match n.computeM1 serverPublicKey salt with
  | .error _ => false
  | .ok m1 =>
      match n.computeM2 serverPublicKey salt m1 with
      | .error _ => false
      | .ok expected => expected == varM2

/-- `account_create`, given the salt it draws. -/
def accountCreate (salt : List UInt8) : NlsAccountCreatePacket :=
  { salt, v := n.computeV salt, username := n.username }

end NlsSession

-- ================================================================== the server

/-- The server: the account it was sent, and a secret of its own. -/
structure NlsServer where
  account : NlsAccountCreatePacket
  b : Nat

namespace NlsServer

variable (s : NlsServer)

/-- `B = (v + g^b) mod N`. -/
def publicKey : Nat := (ofBytesLe s.account.v + nlsG ^ s.b) % nlsPrime

variable [Sha1]

/-- `(A * v^u)^b mod N`, the keys being what was sent. -/
def secret (aPub serverPublicKey : List UInt8) : Nat :=
  let u := beWord (Sha1.digest serverPublicKey)
  (ofBytesLe aPub * ofBytesLe s.account.v ^ u) ^ s.b % nlsPrime

/-- The key made of the secret. -/
def key (aPub serverPublicKey : List UInt8) : List UInt8 :=
  computeK (bytes32 (s.secret aPub serverPublicKey))

/-- The proof the server expects. -/
def m1 (aPub serverPublicKey : List UInt8) : List UInt8 :=
  Sha1.digest (nlsI ++ Sha1.digest (s.account.username.map asciiUpper) ++ s.account.salt ++ aPub
    ++ serverPublicKey ++ s.key aPub serverPublicKey)

/-- The proof the server gives for one it got. -/
def m2 (aPub serverPublicKey m1 : List UInt8) : List UInt8 :=
  Sha1.digest (aPub ++ m1 ++ s.key aPub serverPublicKey)

end NlsServer

-- ============================================================== they agree

theorem nlsPrime_pos : 0 < nlsPrime := by decide +kernel

theorem mod_prime_lt (n : Nat) : n % nlsPrime < 256 ^ 32 :=
  Nat.lt_trans (Nat.mod_lt n nlsPrime_pos) (ofBytesLe_lt nlsPrimeBytes)

/-- The bytes of a residue are its 32 bytes. -/
theorem isBytes_residue (n : Nat) : IsBytes 32 (bytes32 (n % nlsPrime)) (n % nlsPrime) :=
  isBytes_padTo (by decide) (mod_prime_lt n)

section Agreement

variable [Sha1] (n : NlsSession) {salt serverPublicKey : List UInt8} {b : Nat}

/-- The server after the client has registered, with its secret. -/
def NlsSession.registered (salt : List UInt8) (b : Nat) : NlsServer := ⟨n.accountCreate salt, b⟩

/-- The client's secret is the server's. -/
theorem computeS_eq (hkey : IsBytes 32 serverPublicKey (n.registered salt b).publicKey)
    (hne : (n.registered salt b).publicKey ≠ 0) :
    n.computeS serverPublicKey salt
      = .ok (bytes32 ((n.registered salt b).secret n.aPub serverPublicKey)) := by
  have hv : ofBytesLe (n.computeV salt) = nlsG ^ n.computeX salt % nlsPrime := (isBytes_residue _).2
  have ha : ofBytesLe n.aPub = nlsG ^ n.a % nlsPrime := by
    rw [n.aPub_eq]
    exact (isBytes_residue _).2
  have hvlt : nlsG ^ n.computeX salt % nlsPrime < nlsPrime := Nat.mod_lt _ nlsPrime_pos
  have hpublic : (n.registered salt b).publicKey
      = (nlsG ^ n.computeX salt % nlsPrime + nlsG ^ b) % nlsPrime := by
    rw [← hv]
    rfl
  have hkeylt : (n.registered salt b).publicKey < nlsPrime := Nat.mod_lt _ nlsPrime_pos
  unfold NlsSession.computeS
  dsimp only
  rw [hkey.2, if_neg (by omega)]
  unfold modpow
  rw [Nat.mod_eq_of_lt hvlt, hpublic, strip_verifier nlsG hvlt, secrets_agree]
  unfold NlsServer.secret
  have haccount : ofBytesLe (n.registered salt b).account.v = nlsG ^ n.computeX salt % nlsPrime :=
    hv
  rw [ha, haccount]
  rfl

/-- Client and server come to the same secret, key and proofs: the
client's secret is the 32 bytes of the server's, and it accepts the
server's proof and no other. -/
theorem srp_key_agreement (hkey : IsBytes 32 serverPublicKey (n.registered salt b).publicKey)
    (hne : (n.registered salt b).publicKey ≠ 0) :
    IsBytes 32 n.aPub (nlsG ^ n.a % nlsPrime)
      ∧ IsBytes 32 (n.computeV salt) (nlsG ^ n.computeX salt % nlsPrime)
      ∧ ∃ s m1, n.computeS serverPublicKey salt = .ok s
        ∧ IsBytes 32 s (((nlsG ^ n.a % nlsPrime) * (nlsG ^ n.computeX salt % nlsPrime)
            ^ beWord (Sha1.digest serverPublicKey)) ^ b % nlsPrime)
        ∧ computeK s = (n.registered salt b).key n.aPub serverPublicKey
        ∧ n.computeM1 serverPublicKey salt = .ok m1 ∧ m1 = (n.registered salt b).m1 n.aPub
          serverPublicKey
        ∧ ∀ m2, n.checkM2 m2 serverPublicKey salt = true
          ↔ m2 = (n.registered salt b).m2 n.aPub serverPublicKey m1 := by
  have hs := computeS_eq n hkey hne
  have ha : IsBytes 32 n.aPub (nlsG ^ n.a % nlsPrime) := by
    rw [n.aPub_eq]
    exact isBytes_residue _
  have hv : IsBytes 32 (n.computeV salt) (nlsG ^ n.computeX salt % nlsPrime) := isBytes_residue _
  -- the server starts from the bytes it was sent, which stand for these residues
  have hsecret : (n.registered salt b).secret n.aPub serverPublicKey
      = ((nlsG ^ n.a % nlsPrime) * (nlsG ^ n.computeX salt % nlsPrime)
        ^ beWord (Sha1.digest serverPublicKey)) ^ b % nlsPrime := by
    rw [← ha.2, ← hv.2]
    rfl
  have hm1 : n.computeM1 serverPublicKey salt
    = .ok ((n.registered salt b).m1 n.aPub serverPublicKey) := by
    unfold NlsSession.computeM1
    rw [hs]
    rfl
  refine ⟨ha, hv, _, _, hs, ?_, rfl, hm1, rfl, ?_⟩
  · rw [hsecret]
    exact isBytes_residue _
  · intro m2
    have hm2 : n.computeM2 serverPublicKey salt ((n.registered salt b).m1 n.aPub serverPublicKey)
        = .ok ((n.registered salt b).m2 n.aPub serverPublicKey
          ((n.registered salt b).m1 n.aPub serverPublicKey)) := by
      unfold NlsSession.computeM2
      rw [hs]
      rfl
    unfold NlsSession.checkM2
    rw [hm1]
    dsimp only
    rw [hm2]
    dsimp only
    rw [beq_iff_eq]
    exact eq_comm

end Agreement

section Scenario

/-- A hash that keeps the length only. -/
@[reducible] def lengthHash : Sha1 :=
  ⟨fun data => UInt8.ofNat data.length :: List.replicate 19 0, fun _ => rfl⟩

attribute [local instance] lengthHash

/-- A client with the secret 2. -/
def smallSession : NlsSession := .withPrivateKeyForTest [0x61] [0x62] 2

/-- The salt it registers with. -/
def smallSalt : List UInt8 := List.replicate 32 0x19

/-- The key of a server with the secret 3. -/
def smallKey : List UInt8 := bytes32 (smallSession.registered smallSalt 3).publicKey

/-- The theorem at a client with the secret 2 and a server with the
secret 3. -/
theorem srp_key_agreement_small :
    (∃ s, smallSession.computeS smallKey smallSalt = .ok s
        ∧ computeK s = (smallSession.registered smallSalt 3).key smallSession.aPub smallKey)
      ∧ ∃ m1, smallSession.computeM1 smallKey smallSalt = .ok m1
        ∧ smallSession.checkM2
          ((smallSession.registered smallSalt 3).m2 smallSession.aPub smallKey m1)
          smallKey smallSalt = true := by
  have hkey : IsBytes 32 smallKey (smallSession.registered smallSalt 3).publicKey :=
    isBytes_residue _
  have hne : (smallSession.registered smallSalt 3).publicKey ≠ 0 := by decide +kernel
  obtain ⟨_, _, s, m1, hs, _, hk, hm1, _, hcheck⟩ := srp_key_agreement smallSession hkey hne
  exact ⟨⟨s, hs, hk⟩, m1, hm1, (hcheck _).2 rfl⟩

end Scenario

end Spectre.Bnet
