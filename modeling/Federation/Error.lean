import Federation.Crypto.Algorithm

namespace Federation

inductive MetadataError where
  | configuration (message : String)
  | initialization (resolverId : String) (cause : MetadataError)
  | notFound (path : String)
  | unreadable (path reason : String)
  | fetch (message : String)
  | parse (message : String)
  | validation (entityId reason : String)
  | documentRejected (reason : String)
  | refresh (resolverId : String) (cause : MetadataError)
  | shutDown (resolverId : String)
  | emptyCriteria
  | unknownCriterion (name : String)
  | invalidCriterion (name value : String)
  | ambiguousMatch (count : Nat)
deriving DecidableEq, Repr

namespace MetadataError

def message : MetadataError → String
  | configuration message => s!"Configuration error: {message}"
  | initialization resolverId cause =>
    s!"Resolver '{resolverId}' failed to initialize: " ++ cause.message
  | notFound path => s!"Metadata file not found: {path}"
  | unreadable path reason => s!"Metadata file {path} is unreadable: {reason}"
  | fetch message => s!"Fetch error: {message}"
  | parse message => s!"Parse error: {message}"
  | validation entityId reason => s!"Entity '{entityId}' rejected: {reason}"
  | documentRejected reason => s!"Metadata document rejected: {reason}"
  | refresh resolverId cause => s!"Refresh of resolver '{resolverId}' failed: " ++ cause.message
  | shutDown resolverId => s!"Resolver '{resolverId}' has been shut down"
  | emptyCriteria => "Criteria set must not be empty"
  | unknownCriterion name => s!"Unknown criterion: {name}"
  | invalidCriterion name value => s!"Invalid value '{value}' for criterion {name}"
  | ambiguousMatch count => s!"Criteria matched {count} entities; add an entityID criterion"

def isFetchError : MetadataError → Bool
  | notFound _ | unreadable _ _ | fetch _ => true
  | _ => false

def isFatal : MetadataError → Bool
  | configuration _ | initialization _ _ => true
  | _ => false

def isRecoverable : MetadataError → Bool
  | parse _ | validation _ _ | documentRejected _ => true
  | other => other.isFetchError

def isCallerError : MetadataError → Bool
  | shutDown _ | emptyCriteria | unknownCriterion _ | invalidCriterion _ _ | ambiguousMatch _ => true
  | _ => false

def rootCause : MetadataError → MetadataError
  | initialization _ cause | refresh _ cause => cause.rootCause
  | other => other

end MetadataError

/-- Why a signature could not be judged. None of these says that it is untrusted. -/
inductive TrustError where
  | crypto (cause : CryptoError)
  | unsupportedAlgorithm (algorithm : String)
  | credentialResolution (message : String)
deriving DecidableEq, Repr

namespace TrustError

def message : TrustError → String
  | crypto cause => s!"Crypto error: {cause.message}"
  | unsupportedAlgorithm algorithm => s!"Unsupported signature algorithm: {algorithm}"
  | credentialResolution message => s!"Credential resolution failed: {message}"

def ofMetadata (error : MetadataError) : TrustError := credentialResolution error.message

end TrustError

end Federation
