import Federation.Proofs.Cycle.History
import Federation.Proofs.Source.Fetching

namespace Federation

structure Holding where
  bytes : Bytes
  validators : Validators
deriving DecidableEq, Repr

/-- When a server takes the conditions of a request to be about what it holds. -/
abbrev Identification := List (String × String) → Holding → Prop

namespace Source

variable (identifies : Identification)

/-- What a fetch can meet of a source that holds something: a file is read as it is; a server answers
    with what it holds, or says that nothing has changed if the conditions identify what it holds.
    Anything may fail, and nothing is said of a backup. -/
def Shows (source : Source) (held : Holding) (surroundings : Surroundings) : Prop :=
  match source with
  | file path => ∀ found, surroundings.files.find path = .ok (.file found) →
      held = ⟨found.content, .file found.modified⟩
  | url address | backedUrl address _ => ∀ previous response,
      surroundings.send (request address previous) = .answered response →
        (response.isSuccess = true → ∀ body, response.body = some body →
          held = ⟨body, .response (response.header? "etag") (response.header? "last-modified")⟩) ∧
        (response.isNotModified = true →
          Validators.headers previous ≠ [] ∧ identifies (Validators.headers previous) held)

/-- A source that tells a later holding from an earlier one: by when the file was modified, or by not
    taking the earlier validators to identify it. -/
def TellsApart (source : Source) (earlier later : Holding) : Prop :=
  match source with
  | file _ => ∀ seen modified, earlier.validators = .file seen → later.validators = .file modified →
      seen < modified
  | url _ | backedUrl _ _ => ¬ identifies (Validators.headers (some earlier.validators)) later

structure Honest (source : Source) (turns : List Turn) (held : Nat → Holding) : Prop where
  shows : ∀ count turn, turns[count]? = some turn → source.Shows identifies (held count) turn.surroundings
  tells : ∀ earlier later, earlier < later → later < turns.length →
    (held earlier).bytes ≠ (held later).bytes → source.TellsApart identifies (held earlier) (held later)

def Confirms (source : Source) (seen : Validators) (held : Holding) : Prop :=
  match source with
  | file _ => ∃ read modified, seen = .file read ∧ held.validators = .file modified ∧ modified ≤ read
  | url _ | backedUrl _ _ => identifies (Validators.headers (some seen)) held

variable {identifies}

theorem bytes_of_confirms {source : Source} {earlier later : Holding}
    (confirms : source.Confirms identifies earlier.validators later)
    (tells : earlier.bytes ≠ later.bytes → source.TellsApart identifies earlier later) :
    earlier.bytes = later.bytes := by
  by_contra differ
  have apart := tells differ
  cases source with
  | file path =>
    obtain ⟨read, modified, seen, current, old⟩ := confirms
    have newer : read < modified := apart read modified seen current
    omega
  | url address => exact apart confirms
  | backedUrl address backup => exact apart confirms

theorem exchange_fetched {address : Url} {held : Holding} {surroundings : Surroundings}
    {previous : Option Validators} {fetched : Fetched}
    (shows : (url address).Shows identifies held surroundings)
    (done : exchange address previous surroundings = .ok (.fetched fetched)) :
    fetched = ⟨held.bytes, .network, some held.validators⟩ := by
  obtain ⟨response, body, answered, success, complete, rfl⟩ := exchange_delivers done
  rw [(shows previous response answered).1 success body complete]

theorem exchange_notModified {address : Url} {held : Holding} {surroundings : Surroundings}
    {previous : Option Validators} (shows : (url address).Shows identifies held surroundings)
    (done : exchange address previous surroundings = .ok .notModified) :
    ∃ seen, previous = some seen ∧ (url address).Confirms identifies seen held := by
  obtain ⟨response, answered, ⟨_, unchanged⟩ | ⟨body, _, _, given⟩⟩ := exchange_cases done
  · obtain ⟨some, confirms⟩ := (shows previous response answered).2 unchanged
    cases previous with
    | none => exact absurd rfl some
    | some seen => exact ⟨seen, rfl, confirms⟩
  · cases given

/-- Bytes that do not come from the backup are what the source holds; those from the backup leave
    nothing to ask about later. -/
theorem fetch_fetched {source : Source} {held : Holding} {surroundings : Surroundings}
    {previous : Option Validators} {now : Instant} {fetched : Fetched}
    (shows : source.Shows identifies held surroundings)
    (done : (source.fetch previous now surroundings).1 = .ok (.fetched fetched)) :
    fetched.origin ≠ .backup ∧ fetched.bytes = held.bytes ∧
        fetched.validators = some held.validators ∨
      fetched.origin = .backup ∧ fetched.validators = none := by
  unfold fetch at done
  cases source with
  | file path =>
    dsimp only at done
    obtain ⟨found, located, ⟨none, _⟩ | given⟩ := readFile_cases done
    · cases none
    · have whole := shows found located
      cases given
      rw [whole]
      exact .inl ⟨nofun, rfl, rfl⟩
  | url address =>
    dsimp only at done
    rw [exchange_fetched shows done]
    exact .inl ⟨nofun, rfl, rfl⟩
  | backedUrl address backup =>
    dsimp only at done
    have unbacked : (url address).Shows identifies held surroundings := shows
    split at done
    · rename_i given
      cases done
      rw [exchange_fetched unbacked given]
      exact .inl ⟨nofun, rfl, rfl⟩
    · cases done
    · obtain ⟨_, _, _, restored⟩ := readBackup_cases done
      cases restored
      exact .inr ⟨rfl, rfl⟩

/-- A source is only said not to have changed by the validators of an earlier fetch. -/
theorem fetch_notModified {source : Source} {held : Holding} {surroundings : Surroundings}
    {previous : Option Validators} {now : Instant}
    (shows : source.Shows identifies held surroundings)
    (done : (source.fetch previous now surroundings).1 = .ok .notModified) :
    ∃ seen, previous = some seen ∧ source.Confirms identifies seen held := by
  unfold fetch at done
  cases source with
  | file path =>
    dsimp only at done
    obtain ⟨found, located, ⟨_, seen, asked, old⟩ | given⟩ := readFile_cases done
    · have whole := shows found located
      rw [whole]
      exact ⟨_, asked, seen, found.modified, rfl, rfl, old⟩
    · cases given
  | url address =>
    dsimp only at done
    exact exchange_notModified shows done
  | backedUrl address backup =>
    dsimp only at done
    have unbacked : (url address).Shows identifies held surroundings := shows
    split at done
    · cases done
    · rename_i given
      exact exchange_notModified unbacked given
    · unfold readBackup at done
      split at done <;> cases done

theorem Honest.initial {source : Source} {turns more : List Turn} {held : Nat → Holding}
    (honest : source.Honest identifies (turns ++ more) held) : source.Honest identifies turns held where
  shows count turn present := by
    apply honest.shows
    rw [List.getElem?_append_left (List.getElem?_eq_some_iff.mp present).1]
    exact present
  tells earlier later before within := by
    apply honest.tells earlier later before
    rw [List.length_append]
    omega

variable {pipeline : Pipeline} {turns : List Turn} {held : Nat → Holding}

/-- The validators of a state are those of the bytes that its index was made from. -/
theorem Honest.validators (honest : pipeline.settings.source.Honest identifies turns held)
    {seen : Validators} (known : (pipeline.after turns).validators = some seen) :
    ∃ earlier publisher since fetched publication,
      pipeline.history turns = earlier ++ publisher :: since ∧
      pipeline.endingOf publisher = .published fetched publication ∧ fetched.origin ≠ .backup ∧
      fetched.bytes = (held earlier.length).bytes ∧ seen = (held earlier.length).validators ∧
      ∀ record ∈ since, ¬ pipeline.Publishes record := by
  have validators : (pipeline.replay (pipeline.history turns) State.start.served).validators = some seen := by
    rw [← pipeline.after_served, State.served_validators]
    exact known
  -- Validators come from the last publication, and only from one that did not use the backup.
  rcases Record.last_of_kind pipeline.Publishes (pipeline.history turns) with
    never | ⟨earlier, publisher, since, split, ⟨fetched, publication, published⟩, quiet⟩
  · rw [(Pipeline.replay_unpublished never _).1] at validators
    cases validators
  · rw [split, (Pipeline.replay_publisher published quiet _).1] at validators
    obtain ⟨before, rest, parts, length, _, outcome⟩ := Pipeline.history_split split
    have shows := honest.shows earlier.length publisher.turn (by simp [parts, ← length])
    have done := (Pipeline.ending_published published).1
    rw [outcome] at done
    rcases fetch_fetched shows done with ⟨direct, bytes, marked⟩ | ⟨_, unmarked⟩
    · rw [marked] at validators
      exact ⟨earlier, publisher, since, fetched, publication, split, published, direct, bytes,
        (Option.some.inj validators).symm, quiet⟩
    · rw [unmarked] at validators
      cases validators

/-- A cycle that succeeds without the backup serves bytes that the source holds then. They were
    published from it last, by this cycle or by an earlier one. -/
theorem Honest.publisher {turn : Turn}
    (honest : pipeline.settings.source.Honest identifies (turns ++ [turn]) held)
    (succeeded : (pipeline.ending turn.readings (pipeline.fetchIn (pipeline.after turns) turn)).isFailure =
      false)
    (direct : ∀ fetched publication,
      pipeline.ending turn.readings (pipeline.fetchIn (pipeline.after turns) turn) =
        .published fetched publication → fetched.origin ≠ .backup) :
    ∃ earlier publisher since fetched publication,
      pipeline.history (turns ++ [turn]) = earlier ++ publisher :: since ∧
      pipeline.endingOf publisher = .published fetched publication ∧ fetched.origin ≠ .backup ∧
      fetched.bytes = (held earlier.length).bytes ∧ fetched.bytes = (held turns.length).bytes ∧
      ∀ record ∈ since, ¬ pipeline.Publishes record := by
  have shows := honest.shows turns.length turn (by simp)
  rw [pipeline.history_snoc]
  cases ended : pipeline.ending turn.readings (pipeline.fetchIn (pipeline.after turns) turn) with
  | failed failure =>
    rw [ended] at succeeded
    cases succeeded
  | published fetched publication =>
    have fromSource := direct fetched publication ended
    have bytes : fetched.bytes = (held turns.length).bytes := by
      rcases fetch_fetched shows (Pipeline.ending_published ended).1 with ⟨_, bytes, _⟩ | ⟨backup, _⟩
      · exact bytes
      · exact absurd backup fromSource
    have here : (pipeline.history turns).length = turns.length := pipeline.history_length turns
    refine ⟨pipeline.history turns, _, [], fetched, publication, rfl, ended, fromSource, ?_, bytes, ?_⟩
    · rw [here]
      exact bytes
    · exact fun _ member => absurd member List.not_mem_nil
  | confirmed =>
    -- What the source confirms is what the stored validators were given for.
    obtain ⟨seen, known, confirms⟩ := fetch_notModified shows (Pipeline.ending_confirmed ended)
    obtain ⟨earlier, publisher, since, fetched, publication, split, published, fromSource, bytes, marks,
      quiet⟩ := honest.initial.validators known
    have before : earlier.length < turns.length := by
      rw [← pipeline.history_length turns, split, List.length_append, List.length_cons]
      omega
    rw [marks] at confirms
    have same := bytes_of_confirms confirms
      (honest.tells earlier.length turns.length before (by simp))
    refine ⟨earlier, publisher, since ++ [⟨turn, pipeline.fetchIn (pipeline.after turns) turn⟩], fetched,
      publication, by simp [split], published, fromSource, bytes, bytes.trans same, ?_⟩
    intro record member
    rcases List.mem_append.mp member with old | last
    · exact quiet record old
    · rw [List.mem_singleton.mp last]
      rintro ⟨other, made, publishes⟩
      cases ended.symm.trans publishes

end Source

theorem Pipeline.fetchIn_url {pipeline : Pipeline} {address : Url}
    (only : pipeline.settings.source = .url address) (state : State) (turn : Turn) :
    pipeline.fetchIn state turn = Source.exchange address state.validators turn.surroundings := by
  unfold fetchIn Source.fetch
  rw [only]

/-- In any life with an honest source, after a cycle that succeeded and did not fall back to the backup,
    the index is the one that was made of what the source holds then, when this was published last,
    less the entities that had ended whenever it was confirmed since. Nothing is confirmed that was
    never published from the source. -/
theorem Life.serves_what_is_held {identifies : Identification} {pipeline : Pipeline}
    {turns : List Turn} {turn : Turn} {resolver : Resolver} {held : Nat → Holding}
    (life : Life pipeline (turns ++ [turn]) resolver)
    (honest : pipeline.settings.source.Honest identifies (turns ++ [turn]) held)
    (succeeded : (pipeline.runCycle turn.readings turn.jitter turn.surroundings
      (pipeline.after turns)).outcome.isOk = true)
    (direct : resolver.state.isDegraded = false) :
    (∃ earlier publisher since fetched document,
      pipeline.history (turns ++ [turn]) = earlier ++ publisher :: since ∧
      publisher.outcome = .ok (.fetched fetched) ∧ fetched.origin ≠ .backup ∧
      fetched.bytes = (held earlier.length).bytes ∧ fetched.bytes = (held turns.length).bytes ∧
      (∀ record ∈ since, ¬ pipeline.Publishes record) ∧
      pipeline.accept publisher.turn.readings.filtered fetched.bytes = .ok document ∧
      resolver.state.index = (pipeline.confirmedAt since).foldl Index.prune
        (pipeline.indexOf publisher.turn.readings.selected document) ∧
      resolver.state.index.contents =
        (firstOccurrences (pipeline.select publisher.turn.readings.selected document)).filter
          fun flat => (pipeline.confirmedAt since).all
            (flat.isServed pipeline.settings.requiresValid ·)) ∧
    ∀ bytes, (∀ record ∈ pipeline.history (turns ++ [turn]), ∀ fetched,
        record.outcome = .ok (.fetched fetched) → fetched.origin ≠ .backup → fetched.bytes = bytes →
          ¬ pipeline.Publishes record) →
      (held turns.length).bytes ≠ bytes := by
  have served := life.served.2.trans (pipeline.after_snoc_served turns turn)
  rw [pipeline.runCycle_isOk, Bool.not_eq_true'] at succeeded
  have fromSource : ∀ fetched publication,
      pipeline.ending turn.readings (pipeline.fetchIn (pipeline.after turns) turn) =
        .published fetched publication → fetched.origin ≠ .backup := by
    intro fetched publication published backup
    have degraded := congrArg Served.isDegraded served
    rw [published, State.served_isDegraded, direct] at degraded
    simp only [Ending.serve, backup, beq_self_eq_true, Bool.false_eq_true] at degraded
  obtain ⟨earlier, publisher, since, fetched, publication, split, published, origin, taken, bytes, quiet⟩ :=
    honest.publisher succeeded fromSource
  obtain ⟨outcome, made⟩ := Pipeline.ending_published published
  refine ⟨?_, ?_⟩
  · obtain ⟨document, accepted, index⟩ := Pipeline.accept_of_publication made
    have final := life.index_eq split published quiet
    rw [index] at final
    have represents := (pipeline.indexOf_represents publisher.turn.readings.selected document).foldl_prune
      (pipeline.confirmedAt since)
    rw [← final, pipeline.indexOf_enforcesValidity] at represents
    exact ⟨earlier, publisher, since, fetched, document, split, outcome, origin, taken, bytes, quiet,
      accepted, final, represents.contents_eq⟩
  · intro refused unpublished same
    have member : publisher ∈ pipeline.history (turns ++ [turn]) := by simp [split]
    exact unpublished publisher member fetched outcome origin (bytes.trans same)
      ⟨fetched, publication, published⟩

theorem Life.serves_what_is_held_unchanged :
    let address : Url := ⟨"http", "", none, some (.name "a"), none, .segments ["md"], none, none⟩
    let server : Http.Request → Http.Delivery := fun request =>
      .answered (if ("if-none-match", "1") ∈ request.headers then ⟨304, [], none⟩
        else ⟨200, [("etag", "1")], some [1]⟩)
    let turn : Turn := ⟨.still .epoch, .zero, .empty, server, true⟩
    let pipeline := Pipeline.plain (.url address) fun _ => .ok (.group .empty)
    let identifies : Identification := fun conditions held =>
      ∃ etag lastModified, ("if-none-match", etag) ∈ conditions ∧
        held.validators = .response (some etag) lastModified
    let held : Nat → Holding := fun _ => ⟨[1], .response (some "1") none⟩
    ∃ resolver, Life pipeline [turn, turn] resolver ∧
      pipeline.settings.source.Honest identifies [turn, turn] held ∧
      pipeline.fetchIn (pipeline.after [turn]) turn = .ok .notModified ∧
      (pipeline.runCycle turn.readings turn.jitter turn.surroundings
        (pipeline.after [turn])).outcome.isOk = true ∧
      resolver.state.isDegraded = false ∧
      ∃ earlier publisher since fetched,
        pipeline.history [turn, turn] = earlier ++ publisher :: since ∧
          publisher.outcome = .ok (.fetched fetched) ∧ fetched.bytes = [1] := by
  intro address server turn pipeline identifies held
  have anonymous : address.credentials? = none := Url.credentials?_eq_none rfl rfl
  have exchanged := Source.exchange_plain anonymous (by decide)
  have obtained : pipeline.fetchIn (pipeline.after []) turn =
      .ok (.fetched ⟨[1], .network, some (.response (some "1") none)⟩) := by
    rw [Pipeline.fetchIn_url rfl, exchanged]
    rfl
  have served := pipeline.after_snoc_served [] turn
  rw [obtained] at served
  have validators : (pipeline.after [turn]).validators = some (.response (some "1") none) := by
    rw [← State.served_validators]
    exact congrArg Served.validators served
  have unchanged : pipeline.fetchIn (pipeline.after [turn]) turn = .ok .notModified := by
    rw [Pipeline.fetchIn_url rfl, validators, exchanged]
    rfl
  have first : (pipeline.runCycle turn.readings turn.jitter turn.surroundings
      (pipeline.after [])).outcome.isOk = true := by
    rw [pipeline.runCycle_isOk, obtained]
    rfl
  have second : (pipeline.runCycle turn.readings turn.jitter turn.surroundings
      (pipeline.after [turn])).outcome.isOk = true := by
    rw [pipeline.runCycle_isOk, unchanged]
    rfl
  obtain ⟨resolver, life⟩ : ∃ resolver, Life pipeline ([turn] ++ [turn]) resolver :=
    ⟨_, (Life.started turn (Resolver.start_of_isOk first)).refreshed turn rfl⟩
  have refreshed := life.served.2.trans (pipeline.after_snoc_served [turn] turn)
  rw [unchanged] at refreshed
  have direct : resolver.state.isDegraded = false := congrArg Served.isDegraded refreshed
  have honest : pipeline.settings.source.Honest identifies [turn, turn] held := by
    refine ⟨fun count later present => ?_, fun earlier later _ _ differ => absurd rfl differ⟩
    have same : later = turn := by
      have member := List.mem_of_getElem? present
      simpa using member
    intro previous response answered
    rw [same, Source.request_plain anonymous previous] at answered
    have given := (Http.Delivery.answered.inj answered).symm
    split at given
    · rename_i asked
      have conditional : ("if-none-match", "1") ∈ Validators.headers previous := by
        rcases List.mem_append.mp asked with inside | agent
        · exact inside
        · exact absurd (List.mem_singleton.mp agent) (by decide)
      rw [given]
      refine ⟨?_, fun _ => ⟨List.ne_nil_of_mem conditional, "1", none, conditional, rfl⟩⟩
      intro successful
      cases successful
    · rw [given]
      constructor
      · intro _ body complete
        rw [← Option.some.inj complete]
        decide
      · intro asked
        cases asked
  obtain ⟨⟨earlier, publisher, since, fetched, _, split, outcome, _, _, bytes, _⟩, _⟩ :=
    life.serves_what_is_held honest second direct
  exact ⟨resolver, life, honest, unchanged, second, direct, earlier, publisher, since, fetched, split, outcome,
    bytes⟩
end Federation
