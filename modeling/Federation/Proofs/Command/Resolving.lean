import Federation.Proofs.Command.Asking
import Federation.Proofs.Cycle.Reporting
import Federation.Proofs.Index.Aging
import Federation.Proofs.Index.Pruning
import Federation.Proofs.Resolver.Single
import Federation.Proofs.Settings.Choices

namespace Federation

def Document.inFile? (files : Storage) (path : String) : Option Document :=
  match files.read path with
  | .ok bytes => (parse bytes).toOption
  | .error _ => none

namespace Pipeline

variable {pipeline : Pipeline}

/-- A first cycle over a file publishes the document that the file holds, or else fails. -/
theorem ending_file {path : String} (source : pipeline.settings.source = .file path)
    (reads : pipeline.read = Document.parse) (unfiltered : pipeline.filters = []) (turn : Turn) :
    (∃ document fetched publication,
      Document.inFile? turn.surroundings.files path = some document ∧
      pipeline.ending turn.readings (pipeline.fetchIn .start turn) = .published fetched publication ∧
      fetched.origin = .file ∧
      publication.index = pipeline.indexOf turn.readings.selected document) ∨
    ∃ failure, Document.inFile? turn.surroundings.files path = none ∧
      pipeline.ending turn.readings (pipeline.fetchIn .start turn) = .failed failure := by
  have fetch : pipeline.fetchIn .start turn = Source.readFile turn.surroundings.files path none := by
    rw [fetchIn, source]
    rfl
  unfold Document.inFile?
  rcases Source.readFile_first turn.surroundings.files path with
    ⟨bytes, modified, content, fetched⟩ | ⟨fault, failure, content, failed⟩
  · rw [fetch, fetched, content]
    dsimp only
    have accept : pipeline.accept turn.readings.filtered bytes = Document.parse bytes := by
      rw [accept_unfiltered unfiltered, reads]
    cases parsed : Document.parse bytes with
    | ok document =>
      have accepted : pipeline.accept turn.readings.filtered
          (Fetched.mk bytes .file (some (.file modified))).bytes = .ok document := accept.trans parsed
      obtain ⟨publication, published, index⟩ := ending_of_accept accepted
      exact .inl ⟨document, _, publication, rfl, published, rfl, index⟩
    | error failure =>
      rw [parsed] at accept
      refine .inr ⟨failure, rfl, ?_⟩
      simp only [ending, publication_eq, accept, Except.map]
  · rw [fetch, failed, content]
    exact .inr ⟨failure, rfl, rfl⟩

end Pipeline

namespace Command

namespace LookUp

/-- The entities that criteria are put to: those of the document in order, only the valid ones if that is
    required, and of these the first of each identifier. -/
def indexed (arguments : LookUp) (document : Option Document) (now : Instant) : List FlattenedEntity :=
  match document with
  | some document =>
    firstOccurrences (document.flatten.filter fun flat => !arguments.requiresValid || flat.isValidAt now)
  | none => []

def answer (arguments : LookUp) (document : Option Document) (now : Instant) : List Entity :=
  ((arguments.indexed document now).map (·.entity)).filter arguments.isMetBy

def draft (arguments : LookUp) (path : String) : Settings.Draft :=
  ({ id := "cli", source := .file path } : Settings.Draft).chooseAll [
    .timeout (.ofSeconds arguments.source.timeout),
    .requiresValid arguments.requiresValid,
    .failsFast arguments.failsFast,
    .background false]

variable {arguments : LookUp} {path : String}

structure Started (arguments : LookUp) (document : Option Document) (now : Instant) (state : State) :
    Prop where
  represents : state.index.Represents (arguments.indexed document now)
  served : ∀ flat ∈ arguments.indexed document now,
    flat.isServed state.index.enforcesValidity now = true
  entityCount : state.entityCount = (arguments.indexed document now).length
  direct : state.isDegraded = false
  failed : state.lastFailure.isSome = document.isNone

theorem started (pipeline : Pipeline) (source : pipeline.settings.source = .file path)
    (reads : pipeline.read = Document.parse) (unfiltered : pipeline.filters = [])
    (requires : pipeline.settings.requiresValid = arguments.requiresValid) (turn : Turn) :
    arguments.Started (Document.inFile? turn.surroundings.files path) turn.readings.selected
      (pipeline.next .start turn) := by
  have served := pipeline.next_served .start turn
  have failure := pipeline.next_lastFailure .start turn
  rcases pipeline.ending_file source reads unfiltered turn with
    ⟨document, fetched, publication, content, published, origin, made⟩ | ⟨cause, none, failed⟩
  · rw [published] at served failure
    have index : (pipeline.next .start turn).index =
        pipeline.indexOf turn.readings.selected document := (congrArg Served.index served).trans made
    have count : (pipeline.next .start turn).entityCount = publication.index.size :=
      congrArg Served.entityCount served
    have degraded : (pipeline.next .start turn).isDegraded = (fetched.origin == .backup) :=
      congrArg Served.isDegraded served
    have represents : (pipeline.indexOf turn.readings.selected document).Represents
        (arguments.indexed (some document) turn.readings.selected) := by
      rw [indexed, ← requires]
      exact pipeline.indexOf_represents turn.readings.selected document
    rw [content]
    refine ⟨index ▸ represents, fun flat member => ?_, ?_, ?_, ?_⟩
    · rw [index, pipeline.indexOf_enforcesValidity, requires]
      exact (List.mem_filter.mp (mem_of_mem_firstOccurrences member)).2
    · rw [count, made, represents.size_eq]
    · rw [degraded, origin]
      rfl
    · rw [failure]
      rfl
  · rw [failed] at served failure
    have index : (pipeline.next .start turn).index = .start false := congrArg Served.index served
    rw [none]
    refine ⟨index ▸ Index.start_represents false, fun _ member => absurd member List.not_mem_nil,
      congrArg Served.entityCount served, congrArg Served.isDegraded served, ?_⟩
    rw [failure]
    rfl

end LookUp

def warnings : Option String → List String
  | some message => [s!"WARNING: metadata could not be loaded: {message}", ""]
  | none => []

/-- What is printed of the entities that are found, of their number, and of the number of all. Text has
    before it why there is no document, if there is none. -/
inductive Shows (failure : Option String) (criteria : String) (found : List Entity) (count : Nat) :
    (json : Bool) → String → Prop
  | text : Shows failure criteria found count false
      (printLines (warnings failure ++ [s!"{found.length} of {count} entities match " ++ criteria, ""] ++
        found.flatMap Report.entityLines))
  | json {members state : List (String × Json.Value)}
      (described : Json.member? "criteria" members = some (.string criteria))
      (matched : Json.member? "matches" members = some (.number (.natural found.length)))
      (entities : Json.member? "entities" members = some (.array (found.map Report.entityJson)))
      (reported : Json.member? "state" members = some (.object state))
      (counted : Json.member? "entity_count" state = some (.number (.natural count))) :
      Shows failure criteria found count true ((Json.Value.object members).pretty ++ "\n")

theorem Report.lines_eq {report : Report} (direct : report.state.isDegraded = false) :
    report.lines = warnings (report.state.lastFailure.map (·.message)) ++
      [s!"{report.entities.length} of {report.state.entityCount} entities match " ++ report.criteriaText, ""] ++
      report.entities.flatMap entityLines := by
  unfold lines
  rw [direct, if_neg Bool.false_ne_true, List.nil_append]
  cases report.state.lastFailure <;> rfl

theorem Report.shows {report : Report} (direct : report.state.isDegraded = false) (json : Bool) :
    Shows (report.state.lastFailure.map (·.message)) report.criteriaText report.entities
      report.state.entityCount json (report.print json) := by
  cases json with
  | true =>
    exact .json (Json.member?_membersOf _ _) (Json.member?_membersOf _ _) (Json.member?_membersOf _ _)
      (Json.member?_membersOf _ _) (Json.member?_membersOf _ _)
  | false =>
    rw [Report.print, if_neg Bool.false_ne_true, report.lines_eq direct]
    exact .text

variable {arguments : LookUp} {path : String}

variable {error : MetadataError} {asked : Option CriteriaSet} {settings : Settings}

end Command

end Federation
