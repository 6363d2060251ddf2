import Federation.Source.Fetch

namespace Federation

/-- A server that says that nothing has changed only to requests with a condition. -/
def Surroundings.AnswersConditions (surroundings : Surroundings) : Prop :=
  ∀ request response, surroundings.send request = .answered response → response.isNotModified = true →
    ∃ header ∈ request.headers, header.1 = "if-none-match" ∨ header.1 = "if-modified-since"

namespace Source

theorem readFile_cases {files : Storage} {path : String} {previous : Option Validators}
    {outcome : FetchOutcome} (done : readFile files path previous = .ok outcome) :
    ∃ found, files.find path = .ok (.file found) ∧
      (outcome = .notModified ∧ (∃ seen, previous = some (.file seen) ∧ found.modified ≤ seen) ∨
        outcome = .fetched ⟨found.content, .file, some (.file found.modified)⟩) := by
  unfold readFile at done
  split at done
  · cases done
  · cases done
  · rename_i found located
    refine ⟨found, located, ?_⟩
    dsimp only at done
    split at done
    · rename_i seen
      split at done
      · rename_i unchanged
        exact .inl ⟨(Except.ok.inj done).symm, seen, rfl, of_decide_eq_true unchanged⟩
      · exact .inr (Except.ok.inj done).symm
    · exact .inr (Except.ok.inj done).symm

theorem readFile_first (files : Storage) (path : String) :
    (∃ bytes modified, files.read path = .ok bytes ∧
      readFile files path none = .ok (.fetched ⟨bytes, .file, some (.file modified)⟩)) ∨
    ∃ fault failure, files.read path = .error fault ∧ readFile files path none = .error failure := by
  unfold readFile Storage.read
  cases files.find path with
  | error fault => exact .inr ⟨fault, _, rfl, rfl⟩
  | ok entry =>
    cases entry with
    | directory => exact .inr ⟨_, _, rfl, rfl⟩
    | file found => exact .inl ⟨found.content, found.modified, rfl, rfl⟩

theorem exchange_cases {address : Url} {previous : Option Validators} {surroundings : Surroundings}
    {outcome : FetchOutcome} (done : exchange address previous surroundings = .ok outcome) :
    ∃ response, surroundings.send (request address previous) = .answered response ∧
      (outcome = .notModified ∧ response.isNotModified = true ∨
        ∃ body, response.isSuccess = true ∧ response.body = some body ∧
          outcome = .fetched ⟨body, .network,
            some (.response (response.header? "etag") (response.header? "last-modified"))⟩) := by
  unfold exchange at done
  dsimp only at done
  split at done
  · unfold interpret at done
    split at done
    · cases done
    · cases done
    · rename_i response answered
      refine ⟨response, answered, ?_⟩
      split at done
      · rename_i unchanged
        exact .inl ⟨(Except.ok.inj done).symm, unchanged⟩
      · split at done
        · cases done
        · rename_i success
          split at done
          · cases done
          · rename_i body complete
            refine .inr ⟨body, ?_, complete, (Except.ok.inj done).symm⟩
            simpa using success
  · cases done

theorem exchange_nameable {address : Url} {previous : Option Validators} {surroundings : Surroundings}
    {outcome : FetchOutcome} (done : exchange address previous surroundings = .ok outcome) :
    Http.canName address.withoutCredentials = true := by
  unfold exchange at done
  dsimp only at done
  split at done
  · rename_i nameable
    exact nameable
  · cases done

theorem exchange_delivers {address : Url} {previous : Option Validators} {surroundings : Surroundings}
    {fetched : Fetched} (done : exchange address previous surroundings = .ok (.fetched fetched)) :
    ∃ response body, surroundings.send (request address previous) = .answered response ∧
      response.isSuccess = true ∧ response.body = some body ∧
      fetched = ⟨body, .network,
        some (.response (response.header? "etag") (response.header? "last-modified"))⟩ := by
  obtain ⟨response, answered, ⟨none, _⟩ | ⟨body, success, complete, given⟩⟩ := exchange_cases done
  · cases none
  · exact ⟨response, body, answered, success, complete, FetchOutcome.fetched.inj given⟩

theorem request_plain {address : Url} (anonymous : address.credentials? = none)
    (previous : Option Validators) :
    request address previous =
      ⟨address, Validators.headers previous ++ [("user-agent", Http.agent)]⟩ := by
  unfold request
  rw [Url.withoutCredentials_of_anonymous anonymous, anonymous]
  rfl

theorem exchange_plain {address : Url} (anonymous : address.credentials? = none)
    (nameable : Http.canName address = true) (previous : Option Validators)
    (surroundings : Surroundings) :
    exchange address previous surroundings =
      interpret address (surroundings.send
        ⟨address, Validators.headers previous ++ [("user-agent", Http.agent)]⟩) := by
  unfold exchange
  rw [Url.withoutCredentials_of_anonymous anonymous, request_plain anonymous]
  exact if_pos nameable

theorem readBackup_cases {files : Storage} {path : String} {failure : MetadataError}
    {outcome : FetchOutcome} (done : readBackup files path failure = .ok outcome) :
    ∃ bytes, files.read path = .ok bytes ∧ bytes ≠ [] ∧ outcome = .fetched ⟨bytes, .backup, none⟩ := by
  unfold readBackup at done
  split at done
  · rename_i first rest content
    exact ⟨first :: rest, content, List.cons_ne_nil _ _, (Except.ok.inj done).symm⟩
  · cases done

theorem readBackup_of_read {files : Storage} {path : String} {bytes : Bytes}
    (content : files.read path = .ok bytes) (some : bytes ≠ []) (failure : MetadataError) :
    readBackup files path failure = .ok (.fetched ⟨bytes, .backup, none⟩) := by
  unfold readBackup
  rw [content]
  cases bytes with
  | nil => exact absurd rfl some
  | cons first rest => rfl

theorem readBackup_of_nothing {files : Storage} {path : String}
    (nothing : ∀ bytes, files.read path = .ok bytes → bytes = []) (failure : MetadataError) :
    readBackup files path failure = .error failure := by
  unfold readBackup
  split
  · rename_i content
    exact absurd (nothing _ content) (List.cons_ne_nil _ _)
  · rfl

theorem readBackup_error {files : Storage} {path : String} {failure error : MetadataError}
    (failed : readBackup files path failure = .error error) : error = failure := by
  unfold readBackup at failed
  split at failed
  · cases failed
  · exact (Except.error.inj failed).symm

theorem readFile_error {files : Storage} {path : String} {previous : Option Validators}
    {error : MetadataError} (failed : readFile files path previous = .error error) :
    error.isFetchError = true := by
  unfold readFile at failed
  split at failed
  · rename_i fault _
    rw [← Except.error.inj failed]
    cases fault <;> rfl
  · rw [← Except.error.inj failed]
    rfl
  · dsimp only at failed
    split at failed
    · split at failed <;> cases failed
    · cases failed

theorem exchange_failure {address : Url} {previous : Option Validators} {surroundings : Surroundings}
    {error : MetadataError} (failed : exchange address previous surroundings = .error error) :
    ∃ message, error = .fetch message := by
  unfold exchange at failed
  dsimp only at failed
  split at failed
  · unfold interpret at failed
    split at failed
    · exact ⟨_, (Except.error.inj failed).symm⟩
    · exact ⟨_, (Except.error.inj failed).symm⟩
    · split at failed
      · cases failed
      · split at failed
        · exact ⟨_, (Except.error.inj failed).symm⟩
        · split at failed
          · exact ⟨_, (Except.error.inj failed).symm⟩
          · cases failed
  · exact ⟨_, (Except.error.inj failed).symm⟩

theorem exchange_error {address : Url} {previous : Option Validators} {surroundings : Surroundings}
    {error : MetadataError} (failed : exchange address previous surroundings = .error error) :
    error.isFetchError = true := by
  obtain ⟨message, rfl⟩ := exchange_failure failed
  rfl

section

variable {address : Url} {previous : Option Validators} {surroundings : Surroundings}

theorem fetch_of_delivered {fetched : Fetched}
    (delivered : exchange address previous surroundings = .ok (.fetched fetched)) (backup : String)
    (now : Instant) :
    (backedUrl address backup).fetch previous now surroundings =
      (.ok (.fetched fetched), writeBackup surroundings backup fetched.bytes now) := by
  unfold fetch
  dsimp only
  rw [delivered]

theorem fetch_of_unchanged (unchanged : exchange address previous surroundings = .ok .notModified)
    (backup : String) (now : Instant) :
    (backedUrl address backup).fetch previous now surroundings =
      (.ok .notModified, surroundings.files) := by
  unfold fetch
  dsimp only
  rw [unchanged]

theorem fetch_of_failure {failure : MetadataError}
    (failed : exchange address previous surroundings = .error failure) (backup : String) (now : Instant) :
    (backedUrl address backup).fetch previous now surroundings =
      (readBackup surroundings.files backup failure, surroundings.files) := by
  unfold fetch
  dsimp only
  rw [failed]

end

/-- Whatever a fetch meets, its failures are told from those of later stages. -/
theorem fetch_error {source : Source} {previous : Option Validators} {now : Instant}
    {surroundings : Surroundings} {error : MetadataError}
    (failed : (source.fetch previous now surroundings).1 = .error error) : error.isFetchError = true := by
  unfold fetch at failed
  cases source with
  | file path =>
    dsimp only at failed
    exact readFile_error failed
  | url address =>
    dsimp only at failed
    exact exchange_error failed
  | backedUrl address backup =>
    dsimp only at failed
    split at failed
    · cases failed
    · cases failed
    · rename_i failure exchanged
      rw [readBackup_error failed]
      exact exchange_error exchanged

/-- Bytes from the backup leave nothing to ask about later. -/
theorem fetch_backup {source : Source} {previous : Option Validators} {now : Instant}
    {surroundings : Surroundings} {fetched : Fetched}
    (done : (source.fetch previous now surroundings).1 = .ok (.fetched fetched))
    (degraded : fetched.origin = .backup) : fetched.validators = none := by
  have exchanged : ∀ {address}, exchange address previous surroundings = .ok (.fetched fetched) →
      fetched.validators = none := by
    intro address given
    obtain ⟨_, _, _, _, _, rfl⟩ := exchange_delivers given
    cases degraded
  unfold fetch at done
  cases source with
  | file path =>
    dsimp only at done
    obtain ⟨_, _, ⟨none, _⟩ | whole⟩ := readFile_cases done
    · cases none
    · rw [FetchOutcome.fetched.inj whole] at degraded
      cases degraded
  | url address =>
    dsimp only at done
    exact exchanged done
  | backedUrl address backup =>
    dsimp only at done
    split at done
    · rename_i given
      cases done
      exact exchanged given
    · cases done
    · obtain ⟨_, _, _, whole⟩ := readBackup_cases done
      rw [FetchOutcome.fetched.inj whole]

def SaysUnchanged (source : Source) (previous : Option Validators) (surroundings : Surroundings) : Prop :=
  match source with
  | file _ => False
  | url address | backedUrl address _ =>
    Http.canName address.withoutCredentials = true ∧
      ∃ response, surroundings.send (request address previous) = .answered response ∧
        response.isNotModified = true

theorem exchange_notModified_iff {address : Url} {previous : Option Validators}
    {surroundings : Surroundings} :
    exchange address previous surroundings = .ok .notModified ↔
      (url address).SaysUnchanged previous surroundings := by
  constructor
  · intro done
    obtain ⟨response, answered, ⟨_, unchanged⟩ | ⟨_, _, _, given⟩⟩ := exchange_cases done
    · exact ⟨exchange_nameable done, response, answered, unchanged⟩
    · cases given
  · rintro ⟨nameable, response, answered, unchanged⟩
    unfold exchange
    simp only [nameable, if_true, answered, interpret, unchanged]

/-- Nothing has changed: since a file was read before, or because a server says so. -/
theorem fetch_notModified_cases {source : Source} {previous : Option Validators} {now : Instant}
    {surroundings : Surroundings}
    (done : (source.fetch previous now surroundings).1 = .ok .notModified) :
    (∃ path seen, source = .file path ∧ previous = some (.file seen)) ∨
      source.SaysUnchanged previous surroundings := by
  unfold fetch at done
  cases source with
  | file path =>
    dsimp only at done
    obtain ⟨_, _, ⟨_, seen, asked, _⟩ | given⟩ := readFile_cases done
    · exact .inl ⟨path, seen, rfl, asked⟩
    · cases given
  | url address =>
    dsimp only at done
    exact .inr (exchange_notModified_iff.mp done)
  | backedUrl address backup =>
    dsimp only at done
    split at done
    · cases done
    · rename_i given
      exact .inr (exchange_notModified_iff.mp given)
    · obtain ⟨_, _, _, given⟩ := readBackup_cases done
      cases given

theorem fetch_of_saysUnchanged {source : Source} {previous : Option Validators}
    {surroundings : Surroundings} (unchanged : source.SaysUnchanged previous surroundings) (now : Instant) :
    (source.fetch previous now surroundings).1 = .ok .notModified := by
  unfold fetch
  cases source with
  | file path => cases unchanged
  | url address =>
    dsimp only
    exact exchange_notModified_iff.mpr unchanged
  | backedUrl address backup =>
    have given : exchange address previous surroundings = .ok .notModified :=
      exchange_notModified_iff.mpr unchanged
    dsimp only
    rw [given]

theorem request_unconditional (address : Url) :
    ∀ header ∈ (request address none).headers,
      header.1 ≠ "if-none-match" ∧ header.1 ≠ "if-modified-since" := by
  intro header member
  have among : header.1 = "authorization" ∨ header.1 = "user-agent" := by
    simp only [request, Validators.headers, List.append_nil, List.mem_append, List.mem_singleton] at member
    rcases member with credentials | agent
    · left
      obtain ⟨pair, _, rfl⟩ := Option.map_eq_some_iff.mp (Option.mem_toList.mp credentials)
      rfl
    · right
      rw [agent]
  rcases among with same | same <;> rw [same] <;> decide

theorem previous_of_notModified {source : Source} {previous : Option Validators} {now : Instant}
    {surroundings : Surroundings} (conditional : surroundings.AnswersConditions)
    (done : (source.fetch previous now surroundings).1 = .ok .notModified) : previous ≠ none := by
  rintro rfl
  have unasked : ∀ address, ¬ (url address).SaysUnchanged none surroundings := by
    rintro address ⟨_, response, answered, unchanged⟩
    obtain ⟨header, member, condition⟩ := conditional _ _ answered unchanged
    obtain ⟨notMatch, notSince⟩ := request_unconditional address header member
    rcases condition with tag | date
    · exact notMatch tag
    · exact notSince date
  rcases fetch_notModified_cases done with ⟨_, _, _, asked⟩ | unchanged
  · cases asked
  · cases source with
    | file path => exact unchanged
    | url address => exact unasked address unchanged
    | backedUrl address backup => exact unasked address unchanged

end Source

end Federation
