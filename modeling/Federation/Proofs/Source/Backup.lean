import Federation.Proofs.Json.Reading
import Federation.Proofs.Source.Unchanged
import Federation.Proofs.Storage.Replacing

namespace Federation

def Record.body? (record : Record) : Option Bytes :=
  match record.outcome with
  | .ok (.fetched fetched) => if fetched.origin = .network then some fetched.bytes else none
  | _ => none

def lastBody? (records : List Record) : Option Bytes := (records.filterMap Record.body?).getLast?

namespace Pipeline

def leaves (pipeline : Pipeline) (state : State) (turn : Turn) : Storage :=
  (pipeline.runCycle turn.readings turn.jitter turn.surroundings state).files

def Replaces (pipeline : Pipeline) (backup : String) (state : State) (turn : Turn) : Prop :=
  ∀ body, Record.body? ⟨turn, pipeline.fetchIn state turn⟩ = some body →
    turn.surroundings.hasSpace = true ∧ ∃ files,
      turn.surroundings.files.replace backup body turn.readings.started.sinceEpoch = .ok files

/-- Cycles whose every write of the backup file succeeds, while nothing else changes that file; and the
    files that they leave. -/
inductive Backed (pipeline : Pipeline) (backup : String) : List Turn → Storage → Prop where
  | start (files : Storage) : Backed pipeline backup [] files
  | cycle {turns : List Turn} {files : Storage} (backed : Backed pipeline backup turns files)
    (turn : Turn) (undisturbed : turn.surroundings.files.read backup = files.read backup)
    (replaces : pipeline.Replaces backup (pipeline.after turns) turn) :
    Backed pipeline backup (turns ++ [turn]) (pipeline.leaves (pipeline.after turns) turn)

end Pipeline

theorem lastBody?_snoc (records : List Record) (record : Record) :
    lastBody? (records ++ [record]) = record.body?.or (lastBody? records) := by
  unfold lastBody?
  rw [List.filterMap_append, List.getLast?_append]
  cases body : record.body? <;> simp [body]

namespace Source

theorem writeBackup_read {surroundings : Surroundings} {path : String} {bytes : Bytes} {now : Instant}
    {files : Storage} (space : surroundings.hasSpace = true)
    (replaced : surroundings.files.replace path bytes now.sinceEpoch = .ok files) :
    (writeBackup surroundings path bytes now).read path = .ok bytes := by
  unfold writeBackup
  rw [if_pos space, replaced]
  exact Storage.read_replace replaced

end Source

namespace Pipeline

variable {pipeline : Pipeline} {address : Url} {backup : String}

/-- A cycle fetches and leaves what its source does. -/
theorem fetch_eq (backedUrl : pipeline.settings.source = .backedUrl address backup) {state : State}
    {turn : Turn} {outcome : Except MetadataError FetchOutcome} {files : Storage}
    (fetched : (Source.backedUrl address backup).fetch state.validators turn.readings.started
      turn.surroundings = (outcome, files)) :
    pipeline.fetchIn state turn = outcome ∧ pipeline.leaves state turn = files := by
  rw [← backedUrl] at fetched
  exact ⟨congrArg Prod.fst fetched, congrArg Prod.snd fetched⟩

theorem fetch_delivered (backedUrl : pipeline.settings.source = .backedUrl address backup)
    (state : State) {turn : Turn} {fetched : Fetched}
    (delivered : Source.exchange address state.validators turn.surroundings = .ok (.fetched fetched)) :
    pipeline.fetchIn state turn = .ok (.fetched fetched) ∧
      pipeline.leaves state turn =
        Source.writeBackup turn.surroundings backup fetched.bytes turn.readings.started :=
  fetch_eq backedUrl (Source.fetch_of_delivered delivered backup _)

theorem fetch_unchanged (backedUrl : pipeline.settings.source = .backedUrl address backup)
    (state : State) {turn : Turn}
    (unchanged : Source.exchange address state.validators turn.surroundings = .ok .notModified) :
    pipeline.fetchIn state turn = .ok .notModified ∧
      pipeline.leaves state turn = turn.surroundings.files :=
  fetch_eq backedUrl (Source.fetch_of_unchanged unchanged backup _)

theorem fetch_down (backedUrl : pipeline.settings.source = .backedUrl address backup)
    (state : State) {turn : Turn} {failure : MetadataError}
    (down : Source.exchange address state.validators turn.surroundings = .error failure) :
    pipeline.fetchIn state turn = Source.readBackup turn.surroundings.files backup failure ∧
      pipeline.leaves state turn = turn.surroundings.files :=
  fetch_eq backedUrl (Source.fetch_of_failure down backup _)

theorem readBackup_body? {files : Storage} {failure : MetadataError} (turn : Turn) :
    Record.body? ⟨turn, Source.readBackup files backup failure⟩ = none := by
  unfold Record.body? Source.readBackup
  split
  · rename_i fetched given
    dsimp only at given
    split at given
    · cases given
      rfl
    · cases given
  · rfl

/-- A cycle leaves in the backup file the body that was delivered, or else what was there. -/
theorem leaves_read (backedUrl : pipeline.settings.source = .backedUrl address backup) {state : State}
    {turn : Turn} (replaces : pipeline.Replaces backup state turn) :
    (∃ body, Record.body? ⟨turn, pipeline.fetchIn state turn⟩ = some body ∧
        (pipeline.leaves state turn).read backup = .ok body) ∨
      Record.body? ⟨turn, pipeline.fetchIn state turn⟩ = none ∧
        pipeline.leaves state turn = turn.surroundings.files := by
  cases exchanged : Source.exchange address state.validators turn.surroundings with
  | error failure =>
    obtain ⟨fetched, left⟩ := fetch_down backedUrl state exchanged
    right
    rw [fetched]
    exact ⟨readBackup_body? turn, left⟩
  | ok outcome =>
    cases outcome with
    | notModified =>
      obtain ⟨fetched, left⟩ := fetch_unchanged backedUrl state exchanged
      right
      rw [fetched]
      exact ⟨rfl, left⟩
    | fetched fetched =>
      have network : fetched.origin = .network := by
        obtain ⟨_, _, _, _, _, rfl⟩ := Source.exchange_delivers exchanged
        rfl
      obtain ⟨delivered, written⟩ := fetch_delivered backedUrl state exchanged
      have body : Record.body? ⟨turn, pipeline.fetchIn state turn⟩ = some fetched.bytes := by
        rw [delivered]
        exact if_pos network
      obtain ⟨space, files, replaced⟩ := replaces fetched.bytes body
      left
      refine ⟨fetched.bytes, body, ?_⟩
      rw [written]
      exact Source.writeBackup_read space replaced

/-- Whatever became of the bodies that were delivered, the backup file holds the last of them. -/
theorem Backed.read (backedUrl : pipeline.settings.source = .backedUrl address backup)
    {turns : List Turn} {files : Storage} (backed : Backed pipeline backup turns files) {body : Bytes}
    (last : lastBody? (pipeline.history turns) = some body) : files.read backup = .ok body := by
  induction backed generalizing body with
  | start files => cases last
  | @cycle turns files backed turn undisturbed replaces ih =>
    rw [history_snoc, lastBody?_snoc] at last
    rcases leaves_read backedUrl replaces with ⟨newer, delivered, written⟩ | ⟨nothing, left⟩
    · rw [delivered] at last
      rw [written, Option.some.inj last]
    · rw [nothing] at last
      rw [left, undisturbed]
      exact ih last

/-- A resolver that starts from the backup file, and then serves these entities. -/
def Restores (pipeline : Pipeline) (turn : Turn) (entities : List Entity) : Prop :=
  ∃ resolver,
    (Resolver.start pipeline turn.readings turn.jitter turn.surroundings).resolver = .ok resolver ∧
    (pipeline.runCycle turn.readings turn.jitter turn.surroundings .start).outcome.isOk = true ∧
    resolver.state.isDegraded = true ∧ resolver.state.index.entities = entities

theorem restores_iff (backedUrl : pipeline.settings.source = .backedUrl address backup) {turn : Turn}
    {failure : MetadataError} (down : Source.exchange address none turn.surroundings = .error failure)
    {body : Bytes} (kept : turn.surroundings.files.read backup = .ok body) (entities : List Entity) :
    pipeline.Restores turn entities ↔
      body ≠ [] ∧ ∃ document, pipeline.accept turn.readings.filtered body = .ok document ∧
        (pipeline.indexOf turn.readings.selected document).entities = entities := by
  have fetched := (fetch_down backedUrl .start down).1
  unfold Source.readBackup at fetched
  rw [kept] at fetched
  -- An empty backup file counts as none.
  cases body with
  | nil =>
    refine iff_of_false ?_ fun both => both.1 rfl
    rintro ⟨resolver, _, succeeded, _⟩
    rw [pipeline.runCycle_isOk, fetched] at succeeded
    cases succeeded
  | cons first rest =>
    dsimp only at fetched
    have served := pipeline.next_served .start turn
    rw [fetched] at served
    constructor
    · rintro ⟨resolver, running, succeeded, _, rfl⟩
      refine ⟨List.cons_ne_nil first rest, ?_⟩
      rw [pipeline.runCycle_isOk, fetched] at succeeded
      rw [Resolver.start_ok running]
      cases accepted : pipeline.accept turn.readings.filtered (first :: rest) with
      | error refused =>
        simp only [ending, publication_eq, accepted, Except.map, Ending.isFailure] at succeeded
        cases succeeded
      | ok document => exact ⟨document, rfl, by rw [next_index fetched accepted]⟩
    · rintro ⟨_, document, accepted, rfl⟩
      have whole : pipeline.accept turn.readings.filtered
          (Fetched.mk (first :: rest) .backup none).bytes = .ok document := accepted
      obtain ⟨publication, ended, _⟩ := ending_of_accept whole
      rw [ended] at served
      have succeeded : (pipeline.runCycle turn.readings turn.jitter turn.surroundings
          .start).outcome.isOk = true := by
        rw [pipeline.runCycle_isOk, fetched, ended]
        rfl
      refine ⟨_, Resolver.start_of_isOk succeeded, succeeded, ?_, ?_⟩
      · exact congrArg Served.isDegraded served
      · rw [← next_index fetched accepted]

/-- The document that was published last of those that the URL delivered, and the cycles since then. -/
structure LastPublished (pipeline : Pipeline) (records : List Record) (fetched : Fetched)
    (document : Document) (since : List Record) : Prop where
  published : ∃ earlier publisher, records = earlier ++ publisher :: since ∧
    publisher.outcome = .ok (.fetched fetched) ∧
    pipeline.accept publisher.turn.readings.filtered fetched.bytes = .ok document
  network : fetched.origin = .network
  last : ∀ record ∈ since, ∀ newer publication,
    pipeline.endingOf record = .published newer publication → newer.origin ≠ .network

theorem exists_lastPublished {records : List Record}
    (some : ∃ record ∈ records, ∃ fetched publication,
      pipeline.endingOf record = .published fetched publication ∧ fetched.origin = .network) :
    ∃ fetched document since, pipeline.LastPublished records fetched document since := by
  rcases Record.last_of_kind (fun record => ∃ fetched publication,
      pipeline.endingOf record = .published fetched publication ∧ fetched.origin = .network) records with
    never | ⟨earlier, publisher, since, split, ⟨fetched, publication, published, network⟩, others⟩
  · obtain ⟨record, member, published⟩ := some
    exact absurd published (never record member)
  · obtain ⟨outcome, made⟩ := ending_published published
    obtain ⟨document, accepted, _⟩ := accept_of_publication made
    refine ⟨fetched, document, since, ⟨earlier, publisher, split, outcome, accepted⟩, network, ?_⟩
    intro record member newer publication later origin
    exact others record member ⟨newer, publication, later, origin⟩

theorem LastPublished.lastBody? {records since : List Record} {fetched : Fetched} {document : Document}
    (published : pipeline.LastPublished records fetched document since) :
    lastBody? records = (lastBody? since).or (some fetched.bytes) := by
  obtain ⟨earlier, publisher, rfl, outcome, _⟩ := published.published
  have body : publisher.body? = some fetched.bytes := by
    unfold Record.body?
    rw [outcome]
    exact if_pos published.network
  unfold Federation.lastBody?
  rw [List.filterMap_append, List.filterMap_cons_some body, List.getLast?_append, List.getLast?_cons]
  cases (since.filterMap Record.body?).getLast? <;> rfl

/-- After a restart while the URL is down, the document that was published last is restored exactly if
    the last body that was delivered is not empty, is accepted now, and gives the same entities. So it
    is if nothing was delivered after that document and it is still accepted. -/
theorem restores_published_iff (backedUrl : pipeline.settings.source = .backedUrl address backup)
    {turns : List Turn} {files : Storage} (backed : Backed pipeline backup turns files)
    (urlPublished : ∃ record ∈ pipeline.history turns, ∃ fetched publication,
      pipeline.endingOf record = .published fetched publication ∧ fetched.origin = .network)
    {restart : Turn} {failure : MetadataError}
    (down : Source.exchange address none restart.surroundings = .error failure)
    (undisturbed : restart.surroundings.files.read backup = files.read backup) :
    (∃ fetched document since, pipeline.LastPublished (pipeline.history turns) fetched document since) ∧
    ∀ fetched document since,
      pipeline.LastPublished (pipeline.history turns) fetched document since →
      let entities := (pipeline.indexOf restart.readings.selected document).entities
      (pipeline.Restores restart entities ↔
        ∃ body, Federation.lastBody? (pipeline.history turns) = some body ∧ body ≠ [] ∧
          ∃ current, pipeline.accept restart.readings.filtered body = .ok current ∧
            (pipeline.indexOf restart.readings.selected current).entities = entities) ∧
      (since.filterMap Record.body? = [] → fetched.bytes ≠ [] →
        pipeline.accept restart.readings.filtered fetched.bytes = .ok document →
          pipeline.Restores restart entities) ∧
      ∀ body, Federation.lastBody? since = some body →
        (body = [] ∨ ∀ current, pipeline.accept restart.readings.filtered body ≠ .ok current) →
          ∀ others, ¬ pipeline.Restores restart others := by
  refine ⟨exists_lastPublished urlPublished, ?_⟩
  intro fetched document since published entities
  have delivered : ∃ body, Federation.lastBody? (pipeline.history turns) = some body := by
    rw [published.lastBody?]
    cases Federation.lastBody? since with
    | none => exact ⟨_, rfl⟩
    | some body => exact ⟨body, rfl⟩
  obtain ⟨body, last⟩ := delivered
  have kept : restart.surroundings.files.read backup = .ok body :=
    undisturbed.trans (backed.read backedUrl last)
  simp only [restores_iff backedUrl down kept]
  refine ⟨?_, ?_, ?_⟩
  · rw [last]
    simp only [Option.some.injEq, exists_eq_left']
  · intro quiet whole accepted
    rw [published.lastBody?] at last
    unfold Federation.lastBody? at last
    rw [quiet] at last
    rw [← Option.some.inj last]
    exact ⟨whole, document, accepted, rfl⟩
  · rintro later newer unusable others ⟨whole, current, accepted, _⟩
    rw [published.lastBody?, newer] at last
    have same : later = body := Option.some.inj last
    subst same
    rcases unusable with empty | refused
    · exact whole empty
    · exact refused current accepted

end Pipeline

def Turn.delivering (body : Bytes) (files : Storage) : Turn :=
  ⟨.still .epoch, .zero, files, fun _ => .answered ⟨200, [], some body⟩, true⟩

def Turn.offline (files : Storage) : Turn :=
  ⟨.still .epoch, .zero, files, fun _ => .unanswered, true⟩

namespace Pipeline

variable {pipeline : Pipeline} {address : Url} {backup : String}

theorem Backed.delivering (backedUrl : pipeline.settings.source = .backedUrl address backup)
    (anonymous : address.credentials? = none) (nameable : Http.canName address = true)
    {turns : List Turn} {files : Storage} (backed : Backed pipeline backup turns files) {body : Bytes}
    {found left : Storage} (undisturbed : found.read backup = files.read backup)
    (replaced : found.replace backup body 0 = .ok left) :
    Backed pipeline backup (turns ++ [Turn.delivering body found]) left ∧
      pipeline.fetchIn (pipeline.after turns) (Turn.delivering body found) =
        .ok (.fetched ⟨body, .network, some (.response none none)⟩) := by
  have exchanged : Source.exchange address (pipeline.after turns).validators
      (Turn.delivering body found).surroundings =
        .ok (.fetched ⟨body, .network, some (.response none none)⟩) :=
    Source.exchange_plain anonymous nameable _ _
  obtain ⟨fetched, leaves⟩ := fetch_delivered backedUrl _ exchanged
  have written : pipeline.leaves (pipeline.after turns) (Turn.delivering body found) = left := by
    have replacedNow : found.replace backup body Instant.epoch.sinceEpoch = .ok left := replaced
    rw [leaves]
    unfold Source.writeBackup
    simp only [Turn.delivering, Readings.still, if_true, replacedNow]
    rfl
  have replaces : pipeline.Replaces backup (pipeline.after turns) (Turn.delivering body found) := by
    intro newer delivered
    rw [fetched] at delivered
    rw [← Option.some.inj delivered]
    exact ⟨rfl, left, replaced⟩
  have grown := backed.cycle (Turn.delivering body found) undisturbed replaces
  rw [written] at grown
  exact ⟨grown, fetched⟩

end Pipeline

theorem Document.parse_identifier :
    parse [123, 34, 101, 110, 116, 105, 116, 121, 73, 68, 34, 58, 34, 97, 34, 125] =
      .ok (.entity ⟨"a", none, none, [], none⟩) := by
  have read : Json.read [123, 34, 101, 110, 116, 105, 116, 121, 73, 68, 34, 58, 34, 97, 34, 125] =
      .ok (.object [("entityID", .string "a")]) := by
    have spelled := Json.read_encoding "\x7b\"entityID\":\"a\"\x7d".toList
    rw [String.toList_ofList] at spelled
    exact spelled.trans rfl
  rw [parse, ofBytes, if_neg (by decide), read]
  rfl

namespace Pipeline

theorem restores_published_iff_undisturbed :
    let address : Url := ⟨"http", "", none, some (.name "a"), none, .segments ["md"], none, none⟩
    let pipeline := Pipeline.plain (.backedUrl address "backup") Document.parse
    let body := [123, 34, 101, 110, 116, 105, 116, 121, 73, 68, 34, 58, 34, 97, 34, 125]
    let stored : Storage := ⟨[(["backup"], .file ⟨body, 0, true⟩)]⟩
    let entity : Entity := ⟨"a", none, none, [], none⟩
    let fetched : Fetched := ⟨body, .network, some (.response none none)⟩
    let turn := Turn.delivering body .empty
    let turns := [turn]
    let restart := Turn.offline stored
    pipeline.Backed "backup" turns stored ∧
      pipeline.LastPublished (pipeline.history turns) fetched (.entity entity) [] ∧
      (∃ failure, Source.exchange address none restart.surroundings = .error failure) ∧
      pipeline.Restores restart [entity] := by
  intro address pipeline body stored entity fetched turn turns restart
  have anonymous : address.credentials? = none := Url.credentials?_eq_none rfl rfl
  have nameable : Http.canName address = true := by decide
  have replaced : Storage.empty.replace "backup" body 0 = .ok stored := rfl
  have start : pipeline.Backed "backup" [] .empty := .start .empty
  have only : pipeline.settings.source = .backedUrl address "backup" := rfl
  obtain ⟨backed, delivered⟩ := start.delivering only anonymous nameable (Eq.refl _) replaced
  have accepted : pipeline.accept .epoch body = .ok (.entity entity) :=
    accept_plain Document.parse_identifier .epoch
  have recorded := pipeline.history_snoc [] (Turn.delivering body .empty)
  rw [delivered] at recorded
  have published : pipeline.LastPublished (pipeline.history turns) fetched (.entity entity) [] := by
    refine ⟨⟨[], _, recorded, rfl, accepted⟩, rfl, ?_⟩
    exact fun _ member => absurd member List.not_mem_nil
  have down : Source.exchange address none restart.surroundings =
      Source.interpret address .unanswered := Source.exchange_plain anonymous nameable _ _
  have read : pipeline.accept turn.readings.filtered fetched.bytes = .ok (.entity entity) := accepted
  obtain ⟨publication, ended, _⟩ := ending_of_accept read
  have urlPublished : ∃ record ∈ pipeline.history ([] ++ [turn]), ∃ fetched publication,
      pipeline.endingOf record = .published fetched publication ∧ fetched.origin = .network := by
    rw [recorded]
    exact ⟨⟨turn, .ok (.fetched fetched)⟩, List.mem_singleton_self _, fetched, publication, ended, rfl⟩
  have restored := ((restores_published_iff only backed urlPublished down (Eq.refl _)).2 fetched _ []
    published).2.1 rfl (List.cons_ne_nil _ _) accepted
  exact ⟨backed, published, ⟨_, down⟩, restored⟩

/-- A body without content is written over the document that was published, and nothing is restored. -/
theorem emptied_backup_restores_nothing :
    let address : Url := ⟨"http", "", none, some (.name "a"), none, .segments ["md"], none, none⟩
    let pipeline := Pipeline.plain (.backedUrl address "backup") Document.parse
    let body := [123, 34, 101, 110, 116, 105, 116, 121, 73, 68, 34, 58, 34, 97, 34, 125]
    let stored : Storage := ⟨[(["backup"], .file ⟨body, 0, true⟩)]⟩
    let emptied : Storage := ⟨[(["backup"], .file ⟨[], 0, true⟩)]⟩
    let entity : Entity := ⟨"a", none, none, [], none⟩
    let fetched : Fetched := ⟨body, .network, some (.response none none)⟩
    let turns := [Turn.delivering body .empty, Turn.delivering [] stored]
    let restart := Turn.offline emptied
    pipeline.Backed "backup" turns emptied ∧
      (∃ since, pipeline.LastPublished (pipeline.history turns) fetched (.entity entity) since) ∧
      (∃ failure, Source.exchange address none restart.surroundings = .error failure) ∧
      ∀ entities, ¬ pipeline.Restores restart entities := by
  intro address pipeline body stored emptied entity fetched turns restart
  have anonymous : address.credentials? = none := Url.credentials?_eq_none rfl rfl
  have nameable : Http.canName address = true := by decide
  have only : pipeline.settings.source = .backedUrl address "backup" := rfl
  have accepted : pipeline.accept .epoch body = .ok (.entity entity) :=
    accept_plain Document.parse_identifier .epoch
  have start : pipeline.Backed "backup" [] .empty := .start .empty
  have replaced : Storage.empty.replace "backup" body 0 = .ok stored := rfl
  obtain ⟨good, delivered⟩ := start.delivering only anonymous nameable (Eq.refl _) replaced
  have replacedAgain : stored.replace "backup" [] 0 = .ok emptied := rfl
  obtain ⟨bad, nothing⟩ := good.delivering only anonymous nameable (Eq.refl _) replacedAgain
  have first := pipeline.history_snoc [] (Turn.delivering body .empty)
  rw [delivered] at first
  have recorded := pipeline.history_snoc ([] ++ [Turn.delivering body .empty]) (Turn.delivering [] stored)
  rw [first, nothing] at recorded
  have refused : pipeline.endingOf ⟨Turn.delivering [] stored,
      .ok (.fetched ⟨[], .network, some (.response none none)⟩)⟩ =
        .failed (.parse "Metadata document is empty") := rfl
  have published : pipeline.LastPublished (pipeline.history turns) fetched (.entity entity)
      [⟨Turn.delivering [] stored, .ok (.fetched ⟨[], .network, some (.response none none)⟩)⟩] := by
    refine ⟨⟨[], _, recorded, rfl, accepted⟩, rfl, ?_⟩
    intro record member newer publication later
    rw [List.mem_singleton.mp member, refused] at later
    cases later
  have down : Source.exchange address none restart.surroundings =
      Source.interpret address .unanswered := Source.exchange_plain anonymous nameable _ _
  refine ⟨bad, ⟨_, published⟩, ⟨_, down⟩, fun entities restored => ?_⟩
  have kept : restart.surroundings.files.read "backup" = .ok [] := rfl
  exact ((restores_iff only down kept entities).mp restored).1 rfl

end Pipeline

end Federation
