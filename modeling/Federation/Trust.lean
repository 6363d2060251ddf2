import Federation.Credential

namespace Federation

structure Signature where
  algorithm : String
  content : Bytes
  value : Bytes
  keyInfo : List Credential
deriving DecidableEq, Repr

/-- Judgments ask whether a signature is trusted; with a candidate, whether it is trusted as made
    by that credential. -/
structure Question where
  signature : Signature
  basis : CriteriaSet
  candidate : Option Credential

namespace ExplicitTrust

def trusted (source : CredentialSource) (basis : CriteriaSet) : Except TrustError (List Credential) :=
  source (if basis.usages.isEmpty then basis.insert (.usage .signing) else basis)

def algorithm (identifier : String) : Except TrustError SignatureAlgorithm :=
  match SignatureAlgorithm.ofUri identifier with
  | .ok algorithm => .ok algorithm
  | .error _ => .error (.unsupportedAlgorithm identifier)

/-- Tries credentials in order up to the first under which the signature verifies. A key that cannot
    be used is passed over; a signature that cannot be used ends the search. -/
def anyVerifies (algorithm : SignatureAlgorithm) (content value : Bytes) :
    List Credential → Except TrustError Bool
  | [] => .ok false
  | credential :: rest =>
    match verifySignature algorithm credential.publicKey content value with
    | .ok true => .ok true
    | .ok false | .error (.invalidPublicKey _) => anyVerifies algorithm content value rest
    | .error cause => .error (.crypto cause)

def validate (source : CredentialSource) (signature : Signature) (basis : CriteriaSet) :
    Except TrustError Bool := do
  let used ← algorithm signature.algorithm
  let credentials ← trusted source basis
  anyVerifies used signature.content signature.value (credentials.filter (·.algorithm == used))

def validateCandidate (source : CredentialSource) (signature : Signature) (basis : CriteriaSet)
    (candidate : Credential) : Except TrustError Bool := do
  let used ← algorithm signature.algorithm
  let credentials ← trusted source basis
  let isTrusted := credentials.any fun credential =>
    credential.algorithm == candidate.algorithm &&
      Bytes.equalInFull credential.publicKey candidate.publicKey
  if !isTrusted || candidate.algorithm != used then return false
  else
    (verifySignature used candidate.publicKey signature.content signature.value).mapError
      TrustError.crypto

def judge (source : CredentialSource) (question : Question) : Except TrustError Bool :=
  match question.candidate with
  | none => validate source question.signature question.basis
  | some candidate => validateCandidate source question.signature question.basis candidate

end ExplicitTrust

inductive Engine (α : Type) where
  | leaf (leaf : α)
  | chain (engines : List (Option (Engine α)))

structure Verdict (α : Type) where
  answer : Except TrustError Bool
  asked : List α

namespace Engine

mutual

def evaluate {α : Type} (judge : α → Except TrustError Bool) : Engine α → Verdict α
  | .leaf asked => ⟨judge asked, [asked]⟩
  | .chain engines => evaluateChain judge engines

def evaluateChain {α : Type} (judge : α → Except TrustError Bool) :
    List (Option (Engine α)) → Verdict α
  | [] => ⟨.ok false, []⟩
  | none :: rest => evaluateChain judge rest
  | some engine :: rest =>
    let first := evaluate judge engine
    match first.answer with
    | .ok false =>
      let others := evaluateChain judge rest
      ⟨others.answer, first.asked ++ others.asked⟩
    | _ => first

end

mutual

def leaves {α : Type} : Engine α → List α
  | .leaf only => [only]
  | .chain engines => chainLeaves engines

def chainLeaves {α : Type} : List (Option (Engine α)) → List α
  | [] => []
  | none :: rest => chainLeaves rest
  | some engine :: rest => engine.leaves ++ chainLeaves rest

end

def members {α : Type} : Engine α → List (Engine α)
  | .leaf _ => []
  | .chain engines => engines.filterMap id

end Engine

end Federation
