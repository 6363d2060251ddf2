import Federation.Proofs.Results
import Federation.Proofs.Trust.Malformed

namespace Federation

theorem SignatureAlgorithm.ofUri_ok_iff {text : String} {algorithm : SignatureAlgorithm} :
    ofUri text = .ok algorithm ↔ algorithm.uri = text := by
  unfold ofUri
  constructor
  · intro read
    split at read
    · rename_i found
      cases read
      have named := List.find?_some found
      exact eq_of_beq named
    · cases read
  · rintro rfl
    cases algorithm <;> decide

def SignatureAlgorithm.Among (used : SignatureAlgorithm) (credentials : List Credential) : Prop :=
  ∃ credential ∈ credentials, credential.algorithm = used

def SignatureAlgorithm.Unusable (key : Bytes) : SignatureAlgorithm → Prop
  | .ed25519 => ∀ point, Ed25519.decodeKey key ≠ .ok point
  | .ecdsaP256 => ∀ point, P256.decodeKey key ≠ .ok point

theorem SignatureAlgorithm.Unusable.unverified {algorithm : SignatureAlgorithm} {key : Bytes}
    (unusable : algorithm.Unusable key) (content value : Bytes) :
    verifySignature algorithm key content value ≠ .ok true := by
  intro verified
  cases algorithm with
  | ed25519 =>
    simp only [verifySignature, Ed25519.verify] at verified
    split at verified
    · cases verified
    · obtain ⟨point, decoded, _⟩ := bind_eq_ok_iff.mp verified
      exact unusable point decoded
  | ecdsaP256 =>
    simp only [verifySignature, P256.verify] at verified
    obtain ⟨_, _, later⟩ := bind_eq_ok_iff.mp verified
    obtain ⟨point, decoded, _⟩ := bind_eq_ok_iff.mp later
    exact unusable point decoded

def Ed25519.sampleKey : Bytes :=
  Bytes.ofNat 32 0xd75a980182b10ab7d54bfed3c964073a0ee172f3daa62325af021a68f707511a

def Ed25519.sampleValue : Bytes :=
  Bytes.ofNat 64 (0xe5564300c360ac729086e2cc806e828a84877f1eb8e5d974d873e065224901555 * Nat.pow 16 63 +
    0xfb8821590a33bacc61e39701cf9b46bd25bf5f0595bbe24655141438e7a100b)

theorem Ed25519.sample_verifies :
    verifySignature .ed25519 Ed25519.sampleKey [] Ed25519.sampleValue = .ok true :=
  verifies_iff.mp (by decide +kernel)

namespace ExplicitTrust

theorem algorithm_of_uri {signature : Signature} {used : SignatureAlgorithm}
    (named : used.uri = signature.algorithm) : algorithm signature.algorithm = .ok used := by
  unfold algorithm
  rw [SignatureAlgorithm.ofUri_ok_iff.mpr named]

theorem validate_of_uri {source : CredentialSource} {signature : Signature} {basis : CriteriaSet}
    {used : SignatureAlgorithm} {credentials : List Credential}
    (named : used.uri = signature.algorithm) (asked : trusted source basis = .ok credentials) :
    validate source signature basis =
      anyVerifies used signature.content signature.value
        (credentials.filter (·.algorithm == used)) := by
  unfold validate
  rw [algorithm_of_uri named]
  simp only [Bind.bind, Except.bind]
  rw [asked]

theorem anyVerifies_exact (algorithm : SignatureAlgorithm) (content value : Bytes)
    (credentials : List Credential) :
    (anyVerifies algorithm content value credentials = .ok true ↔
      ∃ credential ∈ credentials,
        verifySignature algorithm credential.publicKey content value = .ok true) ∧
    ((∃ reason, anyVerifies algorithm content value credentials =
        .error (.crypto (.invalidSignature reason))) ↔
      algorithm.Malformed value ∧ credentials ≠ []) ∧
    ((∃ answer, anyVerifies algorithm content value credentials = .ok answer) ∨
      ∃ reason, anyVerifies algorithm content value credentials =
        .error (.crypto (.invalidSignature reason))) := by
  by_cases malformed : algorithm.Malformed value
  · obtain ⟨reason, failed⟩ := anyVerifies_malformed malformed
    obtain ⟨_, refused⟩ := verifySignature_malformed malformed
    have unverified : ¬ ∃ credential ∈ credentials,
        verifySignature algorithm credential.publicKey content value = .ok true := by
      rintro ⟨credential, _, verified⟩
      rw [refused] at verified
      cases verified
    by_cases none : credentials = []
    · subst none
      have untrusted : anyVerifies algorithm content value [] = .ok false := rfl
      simp [untrusted]
    · rw [failed content credentials none]
      refine ⟨iff_of_false nofun unverified, ?_, .inr ⟨reason, rfl⟩⟩
      exact iff_of_true ⟨reason, rfl⟩ ⟨malformed, none⟩
  · rw [anyVerifies_wellFormed malformed]
    refine ⟨?_, iff_of_false nofun fun both => malformed both.1, .inl ⟨_, rfl⟩⟩
    simp only [Except.ok.injEq, List.any_eq_true, verifies_iff]

/-- Lists of keys decide alike if both hold keys, or none does, and the signature verifies under some key
    of both, or of neither. -/
theorem anyVerifies_congr {algorithm : SignatureAlgorithm} {content value : Bytes}
    {left right : List Credential} (none : left = [] ↔ right = [])
    (same : (∃ credential ∈ left,
        verifySignature algorithm credential.publicKey content value = .ok true) ↔
      ∃ credential ∈ right,
        verifySignature algorithm credential.publicKey content value = .ok true) :
    anyVerifies algorithm content value left = anyVerifies algorithm content value right := by
  -- A malformed value fails at the first key there is, whichever that is.
  by_cases malformed : algorithm.Malformed value
  · obtain ⟨reason, failed⟩ := anyVerifies_malformed malformed
    by_cases empty : left = []
    · rw [empty, none.mp empty]
    · rw [failed content left empty, failed content right (mt none.mpr empty)]
  · rw [anyVerifies_wellFormed malformed, anyVerifies_wellFormed malformed]
    congr 1
    rw [Bool.eq_iff_iff, List.any_eq_true, List.any_eq_true]
    simpa only [verifies_iff] using same

theorem exists_mem_filter {credentials : List Credential} {used : SignatureAlgorithm}
    {meaning : Credential → Prop} :
    (∃ credential ∈ credentials.filter (·.algorithm == used), meaning credential) ↔
      ∃ credential ∈ credentials, credential.algorithm = used ∧ meaning credential := by
  simp only [List.mem_filter, beq_iff_eq, and_assoc]

theorem filter_eq_nil {credentials : List Credential} {used : SignatureAlgorithm} :
    credentials.filter (·.algorithm == used) = [] ↔ ¬ used.Among credentials := by
  simp only [SignatureAlgorithm.Among, List.filter_eq_nil_iff, beq_iff_eq, not_exists, not_and]

/-- What credentials decide of which only those of an algorithm are tried. -/
def decision (used : SignatureAlgorithm) (content value : Bytes) (credentials : List Credential) :
    Except TrustError Bool :=
  anyVerifies used content value (credentials.filter (·.algorithm == used))

section

variable {used : SignatureAlgorithm} {content value : Bytes} {credentials others : List Credential}

theorem decision_of_not_among (none : ¬ used.Among credentials) :
    decision used content value credentials = .ok false := by
  unfold decision
  rw [filter_eq_nil.mpr none]
  rfl

theorem decision_of_malformed (malformed : used.Malformed value) :
    ∃ reason, ∀ content credentials, used.Among credentials →
      decision used content value credentials = .error (.crypto (.invalidSignature reason)) := by
  obtain ⟨reason, failed⟩ := anyVerifies_malformed malformed
  refine ⟨reason, fun content credentials some => failed content _ ?_⟩
  exact fun none => filter_eq_nil.mp none some

theorem decision_of_wellFormed (wellFormed : ¬ used.Malformed value) (content : Bytes)
    (credentials : List Credential) :
    ∃ answer, decision used content value credentials = .ok answer ∧
      (answer = true ↔ ∃ credential ∈ credentials, credential.algorithm = used ∧
        verifySignature used credential.publicKey content value = .ok true) := by
  refine ⟨_, anyVerifies_wellFormed wellFormed content _, ?_⟩
  simp only [List.any_eq_true, verifies_iff, exists_mem_filter]

theorem decision_eq_true_iff :
    decision used content value credentials = .ok true ↔
      ∃ credential ∈ credentials, credential.algorithm = used ∧
        verifySignature used credential.publicKey content value = .ok true := by
  unfold decision
  rw [(anyVerifies_exact ..).1, exists_mem_filter]

theorem decision_of_same_members
    (same : ∀ credential, credential ∈ others ↔ credential ∈ credentials) :
    decision used content value others = decision used content value credentials := by
  apply anyVerifies_congr
  · simp only [filter_eq_nil, SignatureAlgorithm.Among, same]
  · simp only [exists_mem_filter, same]

/-- Keys that cannot be used make no difference beside one of the algorithm. -/
theorem decision_of_unusable (some : used.Among credentials)
    (kept : ∀ credential ∈ credentials, credential ∈ others)
    (fresh : ∀ credential ∈ others, credential ∈ credentials ∨
      credential.algorithm.Unusable credential.publicKey) :
    decision used content value others = decision used content value credentials := by
  apply anyVerifies_congr
  · have more : used.Among others := by
      obtain ⟨credential, member, uses⟩ := some
      exact ⟨credential, kept credential member, uses⟩
    rw [filter_eq_nil, filter_eq_nil]
    exact iff_of_false (not_not_intro more) (not_not_intro some)
  · rw [exists_mem_filter, exists_mem_filter]
    constructor
    · rintro ⟨credential, member, rfl, verified⟩
      rcases fresh credential member with old | unusable
      · exact ⟨credential, old, rfl, verified⟩
      · exact absurd verified (unusable.unverified content value)
    · rintro ⟨credential, member, uses, verified⟩
      exact ⟨credential, kept credential member, uses, verified⟩

theorem decision_mono (kept : ∀ credential ∈ credentials, credential ∈ others)
    (accepted : decision used content value credentials = .ok true) :
    decision used content value others = .ok true := by
  obtain ⟨credential, member, uses, verified⟩ := decision_eq_true_iff.mp accepted
  exact decision_eq_true_iff.mpr ⟨credential, kept credential member, uses, verified⟩

end

/-- The judgment on a signature of a known algorithm, by the credentials that are trusted. Those of its
    algorithm decide it: without any it is untrusted, a malformed value is an error, and otherwise it is
    trusted if it verifies under one of them. So neither the order of the credentials counts, nor how often
    each is there, nor keys that cannot be used; and more credentials never take trust away. -/
theorem decided_by_keys {signature : Signature} {used : SignatureAlgorithm}
    (spelled : used.uri = signature.algorithm) (basis : CriteriaSet) :
    let judgment (credentials : List Credential) := validate (fun _ => .ok credentials) signature basis
    (∀ source credentials, trusted source basis = .ok credentials →
      validate source signature basis = judgment credentials) ∧
    (∃ reason, ∀ credentials,
      (¬ used.Among credentials → judgment credentials = .ok false) ∧
      (used.Among credentials → used.Malformed signature.value →
        judgment credentials = .error (.crypto (.invalidSignature reason))) ∧
      (used.Among credentials → ¬ used.Malformed signature.value →
        ∃ answer, judgment credentials = .ok answer ∧
          (answer = true ↔ ∃ credential ∈ credentials, credential.algorithm = used ∧
            verifySignature used credential.publicKey signature.content signature.value = .ok true))) ∧
    (∀ credentials others, (∀ credential, credential ∈ others ↔ credential ∈ credentials) →
      judgment others = judgment credentials) ∧
    (∀ credentials others, used.Among credentials → (∀ credential ∈ credentials, credential ∈ others) →
      (∀ credential ∈ others, credential ∈ credentials ∨
        credential.algorithm.Unusable credential.publicKey) →
      judgment others = judgment credentials) ∧
    ∀ credentials others, (∀ credential ∈ credentials, credential ∈ others) →
      judgment credentials = .ok true → judgment others = .ok true := by
  intro judgment
  have judged : judgment = decision used signature.content signature.value := by
    funext credentials
    exact validate_of_uri spelled rfl
  rw [judged]
  refine ⟨fun source credentials => validate_of_uri spelled, ?_, ?_, ?_, ?_⟩
  · by_cases malformed : used.Malformed signature.value
    · obtain ⟨reason, failed⟩ := decision_of_malformed malformed
      refine ⟨reason, fun credentials => ⟨decision_of_not_among, fun some _ => ?_, ?_⟩⟩
      · exact failed signature.content credentials some
      · exact fun _ wellFormed => absurd malformed wellFormed
    · refine ⟨"", fun credentials => ⟨decision_of_not_among, ?_, fun _ _ => ?_⟩⟩
      · exact fun _ bad => absurd bad malformed
      · exact decision_of_wellFormed malformed signature.content credentials
  · exact fun credentials others => decision_of_same_members
  · exact fun credentials others => decision_of_unusable
  · exact fun credentials others => decision_mono

theorem decided_by_keys_around :
    let credential (key : Bytes) : Credential := ⟨none, none, .signing, .ed25519, key⟩
    let signature : Signature := ⟨SignatureAlgorithm.ed25519.uri, [], Ed25519.sampleValue, []⟩
    let judgment (credentials : List Credential) :=
      validate (fun _ => .ok credentials) signature (.ofEntityId "a")
    SignatureAlgorithm.ed25519.uri = signature.algorithm ∧
      judgment [credential [], credential Ed25519.sampleKey] = .ok true ∧
      judgment [credential Ed25519.sampleKey, credential []] = .ok true := by
  intro credential signature judgment
  have spelled : SignatureAlgorithm.ed25519.uri = signature.algorithm := rfl
  obtain ⟨_, ⟨_, cases⟩, order, _⟩ := decided_by_keys spelled (.ofEntityId "a")
  have among : SignatureAlgorithm.ed25519.Among [credential [], credential Ed25519.sampleKey] :=
    ⟨credential [], List.mem_cons_self, rfl⟩
  obtain ⟨answer, answered, trusts⟩ := (cases _).2.2 among (by decide)
  have trusted : judgment [credential [], credential Ed25519.sampleKey] = .ok true := by
    refine answered.trans (congrArg Except.ok (trusts.mpr ?_))
    exact ⟨credential Ed25519.sampleKey, by simp, rfl, Ed25519.sample_verifies⟩
  refine ⟨spelled, trusted, (order _ _ fun other => ?_).trans trusted⟩
  simp only [List.mem_cons, List.not_mem_nil, or_false]
  exact or_comm

end ExplicitTrust

end Federation
