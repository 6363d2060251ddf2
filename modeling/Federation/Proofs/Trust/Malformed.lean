import Federation.Trust

namespace Federation

def P256.InRange (number : Nat) : Prop := 0 < number ∧ number < P256.order

instance (number : Nat) : Decidable (P256.InRange number) :=
  inferInstanceAs (Decidable (0 < number ∧ number < P256.order))

/-- Values that are no signature of the algorithm, whatever the key. -/
def SignatureAlgorithm.Malformed (value : Bytes) : SignatureAlgorithm → Prop
  | .ed25519 => value.length ≠ 64
  | .ecdsaP256 =>
    value.length ≠ 64 ∨ ¬ P256.InRange (Bytes.toNat (value.take 32)) ∨
      ¬ P256.InRange (Bytes.toNat (value.drop 32))

instance (value : Bytes) : (algorithm : SignatureAlgorithm) → Decidable (algorithm.Malformed value)
  | .ed25519 => inferInstanceAs (Decidable (value.length ≠ 64))
  | .ecdsaP256 =>
    inferInstanceAs (Decidable (value.length ≠ 64 ∨ ¬ P256.InRange (Bytes.toNat (value.take 32)) ∨
      ¬ P256.InRange (Bytes.toNat (value.drop 32))))

theorem P256.decodeSignature_malformed {value : Bytes}
    (malformed : SignatureAlgorithm.ecdsaP256.Malformed value) :
    ∃ reason, P256.decodeSignature value = .error (.invalidSignature reason) := by
  unfold P256.decodeSignature
  by_cases length : value.length ≠ P256.signatureLength
  · exact ⟨_, if_pos length⟩
  · rw [if_neg length]
    have outside : Bytes.toNat (value.take 32) = 0 ∨ P256.order ≤ Bytes.toNat (value.take 32) ∨
        Bytes.toNat (value.drop 32) = 0 ∨ P256.order ≤ Bytes.toNat (value.drop 32) := by
      simp only [SignatureAlgorithm.Malformed, P256.InRange, P256.signatureLength] at malformed length
      omega
    exact ⟨_, if_pos outside⟩

theorem P256.decodeSignature_wellFormed {value : Bytes}
    (wellFormed : ¬ SignatureAlgorithm.ecdsaP256.Malformed value) :
    ∃ decoded, P256.decodeSignature value = .ok decoded := by
  unfold P256.decodeSignature
  simp only [SignatureAlgorithm.Malformed, P256.InRange] at wellFormed
  have length : ¬ value.length ≠ P256.signatureLength := by
    simp only [P256.signatureLength]
    omega
  have inside : ¬ (Bytes.toNat (value.take 32) = 0 ∨ P256.order ≤ Bytes.toNat (value.take 32) ∨
      Bytes.toNat (value.drop 32) = 0 ∨ P256.order ≤ Bytes.toNat (value.drop 32)) := by omega
  rw [if_neg length]
  exact ⟨_, if_neg inside⟩

theorem Ed25519.decodeKey_cases (key : Bytes) :
    (∃ point, Ed25519.decodeKey key = .ok point) ∨
      ∃ reason, Ed25519.decodeKey key = .error (.invalidPublicKey reason) := by
  unfold Ed25519.decodeKey
  split
  · exact .inr ⟨_, rfl⟩
  · split
    · exact .inl ⟨_, rfl⟩
    · exact .inr ⟨_, rfl⟩

theorem P256.decodeKey_cases (key : Bytes) :
    (∃ point, P256.decodeKey key = .ok point) ∨
      ∃ reason, P256.decodeKey key = .error (.invalidPublicKey reason) := by
  unfold P256.decodeKey
  split
  · exact .inl ⟨_, rfl⟩
  · exact .inr ⟨_, rfl⟩

theorem verifySignature_malformed {algorithm : SignatureAlgorithm} {value : Bytes}
    (malformed : algorithm.Malformed value) :
    ∃ reason, ∀ key data, verifySignature algorithm key data value = .error (.invalidSignature reason) := by
  cases algorithm with
  | ed25519 =>
    refine ⟨s!"Ed25519 signature must be 64 bytes, got {value.length}", fun key data => ?_⟩
    exact if_pos malformed
  | ecdsaP256 =>
    obtain ⟨reason, failed⟩ := P256.decodeSignature_malformed malformed
    refine ⟨reason, fun key data => ?_⟩
    simp only [verifySignature, P256.verify, failed, Bind.bind, Except.bind]

theorem verifySignature_wellFormed {algorithm : SignatureAlgorithm} {value : Bytes}
    (wellFormed : ¬ algorithm.Malformed value) (key data : Bytes) :
    (∃ answer, verifySignature algorithm key data value = .ok answer) ∨
      ∃ reason, verifySignature algorithm key data value = .error (.invalidPublicKey reason) := by
  cases algorithm with
  | ed25519 =>
    have length : ¬ value.length ≠ Ed25519.signatureLength := wellFormed
    simp only [verifySignature, Ed25519.verify, if_neg length]
    rcases Ed25519.decodeKey_cases key with ⟨point, decoded⟩ | ⟨reason, failed⟩
    · exact .inl ⟨_, by rw [decoded]; rfl⟩
    · exact .inr ⟨reason, by rw [failed]; rfl⟩
  | ecdsaP256 =>
    obtain ⟨signature, readable⟩ := P256.decodeSignature_wellFormed wellFormed
    simp only [verifySignature, P256.verify, readable]
    rcases P256.decodeKey_cases key with ⟨point, decoded⟩ | ⟨reason, failed⟩
    · exact .inl ⟨_, by rw [decoded]; rfl⟩
    · exact .inr ⟨reason, by rw [failed]; rfl⟩

def verifies (algorithm : SignatureAlgorithm) (content value key : Bytes) : Bool :=
  match verifySignature algorithm key content value with
  | .ok answer => answer
  | .error _ => false

theorem verifies_iff {algorithm : SignatureAlgorithm} {content value key : Bytes} :
    verifies algorithm content value key = true ↔
      verifySignature algorithm key content value = .ok true := by
  unfold verifies
  split
  · rename_i answer verified
    rw [verified, Except.ok.injEq]
  · rename_i failed
    rw [failed]
    exact iff_of_false Bool.false_ne_true nofun

namespace ExplicitTrust

theorem anyVerifies_malformed {algorithm : SignatureAlgorithm} {value : Bytes}
    (malformed : algorithm.Malformed value) :
    ∃ reason, ∀ content credentials, credentials ≠ [] →
      anyVerifies algorithm content value credentials = .error (.crypto (.invalidSignature reason)) := by
  obtain ⟨reason, failed⟩ := verifySignature_malformed malformed
  refine ⟨reason, fun content credentials some => ?_⟩
  cases credentials with
  | nil => exact absurd rfl some
  | cons credential rest =>
    unfold anyVerifies
    rw [failed]

theorem anyVerifies_wellFormed {algorithm : SignatureAlgorithm} {value : Bytes}
    (wellFormed : ¬ algorithm.Malformed value) (content : Bytes) (credentials : List Credential) :
    anyVerifies algorithm content value credentials =
      .ok (credentials.any fun credential => verifies algorithm content value credential.publicKey) := by
  induction credentials with
  | nil => rfl
  | cons credential rest ih =>
    unfold anyVerifies
    rw [List.any_cons, verifies]
    rcases verifySignature_wellFormed wellFormed credential.publicKey content with
      ⟨answer, verified⟩ | ⟨reason, failed⟩
    · rw [verified]
      cases answer with
      | true => rfl
      | false => exact ih
    · rw [failed]
      exact ih

end ExplicitTrust

end Federation
