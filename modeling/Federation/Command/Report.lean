import Federation.Crypto.Signing
import Federation.Json.Printer
import Federation.Resolver.Basic

namespace Federation.Command

def printLines (lines : List String) : String := String.join (lines.map (· ++ "\n"))

structure Report where
  criteria : Option CriteriaSet
  entities : List Entity
  settings : Settings
  state : State

namespace Report

def criteriaText (report : Report) : String :=
  match report.criteria with
  | some criteria => criteria.display
  | none => "\x7b\x7d"

section

open Json (Value)

def textJson (text : Option String) : Value := (text.map Value.string).getD .null

def timeJson (time : Option Instant) : Value := textJson (time.map Instant.text)

def keyJson (key : KeyDescriptor) : Value := .ofMembers [
  ("use", .string key.usage.name),
  ("algorithm", .string key.algorithm.name),
  ("key_name", textJson key.keyName),
  ("fingerprint", .string (fingerprint key.publicKey))]

def endpointJson (endpoint : Endpoint) : Value := .ofMembers [
  ("binding", .string endpoint.binding),
  ("location", .string endpoint.location)]

def roleJson (role : RoleDescriptor) : Value := .ofMembers [
  ("kind", .string role.kind.name),
  ("protocols", .array (role.protocols.map .string)),
  ("keys", .array (role.keys.map keyJson)),
  ("endpoints", .array (role.endpoints.map endpointJson))]

def entityJson (entity : Entity) : Value := .ofMembers [
  ("entity_id", .string entity.entityId),
  ("organization", textJson entity.organization),
  ("valid_until", timeJson entity.validUntil),
  ("roles", .array (entity.roles.map roleJson))]

def failureJson (failure : Failure) : Value := .ofMembers [
  ("at", .string failure.time.text),
  ("message", .string failure.message),
  ("fetch_error", .boolean failure.isFetchError)]

def stateJson (settings : Settings) (state : State) : Value := .ofMembers [
  ("last_successful_refresh", timeJson state.lastSuccess),
  ("last_refresh_attempt", timeJson state.lastAttempt),
  ("next_scheduled_refresh", timeJson state.nextRefresh),
  ("last_failure", (state.lastFailure.map failureJson).getD .null),
  ("entity_count", .number (.natural state.entityCount)),
  ("fail_fast_initialization", .boolean settings.failsFast),
  ("require_valid_metadata", .boolean settings.requiresValid),
  ("degraded", .boolean state.isDegraded)]

def json (report : Report) : Value := .ofMembers [
  ("criteria", .string report.criteriaText),
  ("matches", .number (.natural report.entities.length)),
  ("entities", .array (report.entities.map entityJson)),
  ("state", stateJson report.settings report.state)]

end

def roleLines (role : RoleDescriptor) : List String :=
  [s!"  Role: {role.kind.name}"] ++
    role.protocols.map (fun protocol => s!"    Protocol: {protocol}") ++
    role.keys.map (fun key =>
      s!"    Key: {key.usage.name} {key.algorithm.name} {fingerprint key.publicKey}") ++
    role.endpoints.map fun endpoint => s!"    Endpoint: {endpoint.binding} {endpoint.location}"

def entityLines (entity : Entity) : List String :=
  [entity.entityId] ++
    (entity.organization.map (s!"  Organization: {·}")).toList ++
    (entity.validUntil.map fun time => s!"  Valid until:  {time.display}").toList ++
    entity.roles.flatMap roleLines

def lines (report : Report) : List String :=
  (if report.state.isDegraded then ["WARNING: serving metadata from backup file", ""] else []) ++
    (match report.state.lastFailure with
      | some failure => [s!"WARNING: metadata could not be loaded: {failure.message}", ""]
      | none => []) ++
    [s!"{report.entities.length} of {report.state.entityCount} entities match " ++
      report.criteriaText, ""] ++
    report.entities.flatMap entityLines

def print (json : Bool) (report : Report) : String :=
  if json then report.json.pretty ++ "\n"
  else printLines report.lines

end Report

end Federation.Command
