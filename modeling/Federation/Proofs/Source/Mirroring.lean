import Federation.Proofs.Source.Backup

namespace Federation

structure Visit where
  previous : Option Validators
  now : Instant
  surroundings : Surroundings

namespace Visit

def fetch (visit : Visit) (address : Url) (backup : String) :
    Except MetadataError FetchOutcome × Storage :=
  (Source.backedUrl address backup).fetch visit.previous visit.now visit.surroundings

def delivered? (address : Url) (visit : Visit) : Option Bytes :=
  if Http.canName address.withoutCredentials then
    match visit.surroundings.send (Source.request address visit.previous) with
    | .answered response => if response.isSuccess then response.body else none
    | _ => none
  else none

def IsUnchanged (address : Url) (visit : Visit) : Prop :=
  (Source.url address).SaysUnchanged visit.previous visit.surroundings

def canWrite (backup : String) (visit : Visit) (bytes : Bytes) : Bool :=
  visit.surroundings.hasSpace &&
    (visit.surroundings.files.replace backup bytes visit.now.sinceEpoch).isOk

def written? (address : Url) (backup : String) (visit : Visit) : Option Bytes :=
  (visit.delivered? address).filter (visit.canWrite backup)

end Visit

/-- Fetches one after another that start from some files, while nothing else changes the backup file; and
    the files that they leave. -/
inductive Visited (address : Url) (backup : String) (initial : Storage) : List Visit → Storage → Prop where
  | start : Visited address backup initial [] initial
  | next {visits : List Visit} {files : Storage} (visited : Visited address backup initial visits files)
    (visit : Visit) (undisturbed : visit.surroundings.files.read backup = files.read backup) :
    Visited address backup initial (visits ++ [visit]) (visit.fetch address backup).2

/-- What is left in the backup file: the last body that was written, or what was there at first. -/
def held (address : Url) (backup : String) (initial : Storage) (visits : List Visit) :
    Except Storage.Fault Bytes :=
  match (visits.filterMap (Visit.written? address backup)).getLast? with
  | some body => .ok body
  | none => initial.read backup

variable {address : Url} {backup : String}

theorem held_snoc (address : Url) (backup : String) (initial : Storage) (visits : List Visit)
    (visit : Visit) :
    held address backup initial (visits ++ [visit]) =
      match visit.written? address backup with
      | some body => .ok body
      | none => held address backup initial visits := by
  unfold held
  rw [List.filterMap_append, List.getLast?_append]
  cases written : visit.written? address backup <;> simp [written]

namespace Visit

theorem exchange_of_delivered? {visit : Visit} {body : Bytes}
    (delivered : visit.delivered? address = some body) :
    ∃ validators, Source.exchange address visit.previous visit.surroundings =
      .ok (.fetched ⟨body, .network, some validators⟩) := by
  unfold delivered? at delivered
  split at delivered
  · rename_i nameable
    split at delivered
    · rename_i response answered
      split at delivered
      · rename_i success
        have changed : response.isNotModified = false := by
          simp only [Http.Response.isSuccess, Bool.and_eq_true, decide_eq_true_eq] at success
          simp only [Http.Response.isNotModified, beq_eq_false_iff_ne]
          omega
        refine ⟨.response (response.header? "etag") (response.header? "last-modified"), ?_⟩
        simp [Source.exchange, nameable, answered, Source.interpret, changed, success, delivered]
      · cases delivered
    · cases delivered
  · cases delivered

theorem delivered?_of_exchange {visit : Visit} {fetched : Fetched}
    (exchanged : Source.exchange address visit.previous visit.surroundings = .ok (.fetched fetched)) :
    visit.delivered? address = some fetched.bytes := by
  obtain ⟨response, body, answered, success, whole, rfl⟩ := Source.exchange_delivers exchanged
  simp only [delivered?, Source.exchange_nameable exchanged, answered, success, whole, if_true]

/-- What a request comes to: a body, no change, or a failure to fetch. -/
theorem exchange_eq (address : Url) (visit : Visit) :
    (∃ body validators, visit.delivered? address = some body ∧
      Source.exchange address visit.previous visit.surroundings =
        .ok (.fetched ⟨body, .network, some validators⟩)) ∨
    (visit.delivered? address = none ∧ visit.IsUnchanged address ∧
      Source.exchange address visit.previous visit.surroundings = .ok .notModified) ∨
    (visit.delivered? address = none ∧ ¬ visit.IsUnchanged address ∧
      ∃ message, Source.exchange address visit.previous visit.surroundings =
        .error (.fetch message)) := by
  cases delivered : visit.delivered? address with
  | some body =>
    obtain ⟨validators, exchanged⟩ := exchange_of_delivered? delivered
    exact .inl ⟨body, validators, rfl, exchanged⟩
  | none =>
    cases exchanged : Source.exchange address visit.previous visit.surroundings with
    | error failure =>
      obtain ⟨message, rfl⟩ := Source.exchange_failure exchanged
      refine .inr (.inr ⟨rfl, fun unchanged => ?_, message, rfl⟩)
      rw [Source.exchange_notModified_iff.mpr unchanged] at exchanged
      cases exchanged
    | ok outcome =>
      cases outcome with
      | notModified =>
        exact .inr (.inl ⟨rfl, Source.exchange_notModified_iff.mp exchanged, rfl⟩)
      | fetched fetched =>
        rw [delivered?_of_exchange exchanged] at delivered
        cases delivered

theorem writeBackup_read_eq (backup : String) (visit : Visit) (bytes : Bytes) :
    (Source.writeBackup visit.surroundings backup bytes visit.now).read backup =
      if visit.canWrite backup bytes then .ok bytes else visit.surroundings.files.read backup := by
  by_cases space : visit.surroundings.hasSpace = true
  · cases replaced : visit.surroundings.files.replace backup bytes visit.now.sinceEpoch with
    | ok files =>
      have writes : visit.canWrite backup bytes = true := by
        simp [canWrite, space, replaced, Except.isOk, Except.toBool]
      rw [Source.writeBackup_read space replaced, if_pos writes]
    | error fault =>
      simp [Source.writeBackup, canWrite, space, replaced, Except.isOk, Except.toBool, Except.toOption]
  · simp [Source.writeBackup, canWrite, space]

/-- A fetch leaves in the backup file the body that is written, or else what was there. -/
theorem fetch_read (address : Url) (backup : String) (visit : Visit) :
    (visit.fetch address backup).2.read backup =
      match visit.written? address backup with
      | some body => .ok body
      | none => visit.surroundings.files.read backup := by
  rcases exchange_eq address visit with
    ⟨body, validators, delivered, exchanged⟩ | ⟨none, _, exchanged⟩ | ⟨none, _, _, exchanged⟩
  · rw [fetch, Source.fetch_of_delivered exchanged, writeBackup_read_eq, written?, delivered, Option.filter_some]
    split <;> rfl
  · rw [fetch, Source.fetch_of_unchanged exchanged, written?, none, Option.filter_none]
  · rw [fetch, Source.fetch_of_failure exchanged, written?, none, Option.filter_none]

end Visit

namespace Visited

variable {initial files : Storage} {visits : List Visit}

theorem read (visited : Visited address backup initial visits files) :
    files.read backup = held address backup initial visits := by
  induction visited with
  | start => rfl
  | next _ visit undisturbed ih => rw [visit.fetch_read, held_snoc, undisturbed, ih]

/-- After any fetches the backup file holds the last body that was delivered and written, or what it held
    at first. The next fetch gives a body that it is delivered whether or not it can write it; if its
    request fails it gives what the backup file holds, without validators, or if that is nothing the
    failure of the request itself. -/
theorem mirrors_and_falls_back (visited : Visited address backup initial visits files) :
    files.read backup = held address backup initial visits ∧
    ∀ next : Visit, next.surroundings.files.read backup = files.read backup →
      (∀ body, next.delivered? address = some body → ∃ validators,
        (next.fetch address backup).1 = .ok (.fetched ⟨body, .network, some validators⟩)) ∧
      (next.delivered? address = none →
        (next.fetch address backup).2 = next.surroundings.files ∧
        (next.IsUnchanged address → (next.fetch address backup).1 = .ok .notModified) ∧
        (¬ next.IsUnchanged address → ∃ message,
          Source.exchange address next.previous next.surroundings = .error (.fetch message) ∧
          (∀ bytes, held address backup initial visits = .ok bytes → bytes ≠ [] →
            (next.fetch address backup).1 = .ok (.fetched ⟨bytes, .backup, none⟩)) ∧
          ((∀ bytes, held address backup initial visits = .ok bytes → bytes = []) →
            (next.fetch address backup).1 = .error (.fetch message)))) := by
  refine ⟨visited.read, fun next undisturbed => ?_⟩
  have content : next.surroundings.files.read backup = held address backup initial visits :=
    undisturbed.trans visited.read
  rcases next.exchange_eq address with
    ⟨body, validators, delivered, exchanged⟩ | ⟨undelivered, unchanged, exchanged⟩ |
    ⟨undelivered, changed, message, exchanged⟩
  · rw [delivered, Visit.fetch, Source.fetch_of_delivered exchanged]
    refine ⟨?_, nofun⟩
    rintro _ ⟨⟩
    exact ⟨validators, rfl⟩
  · rw [undelivered, Visit.fetch, Source.fetch_of_unchanged exchanged]
    exact ⟨nofun, fun _ => ⟨rfl, fun _ => rfl, fun changed => absurd unchanged changed⟩⟩
  · rw [undelivered, Visit.fetch, Source.fetch_of_failure exchanged]
    refine ⟨nofun, fun _ => ⟨rfl, fun unchanged => absurd unchanged changed, fun _ => ?_⟩⟩
    refine ⟨message, exchanged, fun bytes holds some => ?_, fun nothing => ?_⟩
    · exact Source.readBackup_of_read (content.trans holds) some _
    · exact Source.readBackup_of_nothing (fun bytes found => nothing bytes (content.symm.trans found)) _

/-- The second body finds no room, so the first one stands in for the URL when that is down; without any
    fetch before there is nothing to stand in for it. -/
theorem mirrors_and_falls_back_unwritten :
    let address : Url := ⟨"http", "", none, some (.name "a"), none, .segments ["md"], none, none⟩
    let delivering (body : Bytes) (found : Storage) (room : Bool) : Visit :=
      ⟨none, .epoch, found, fun _ => .answered ⟨200, [], some body⟩, room⟩
    let offline (found : Storage) : Visit :=
      ⟨some (.response (some "tag") none), .epoch, found, fun _ => .unanswered, true⟩
    let stored : Storage := ⟨[(["backup"], .file ⟨[97], 0, true⟩)]⟩
    Visited address "backup" .empty [delivering [97] .empty true, delivering [98] stored false] stored ∧
      stored.read "backup" = .ok [97] ∧
      (∃ validators, ((delivering [98] stored false).fetch address "backup").1 =
        .ok (.fetched ⟨[98], .network, some validators⟩)) ∧
      ((offline stored).fetch address "backup").1 = .ok (.fetched ⟨[97], .backup, none⟩) ∧
      ∃ message, ((offline .empty).fetch address "backup").1 = .error (.fetch message) := by
  intro address delivering offline stored
  have anonymous : address.credentials? = none := Url.credentials?_eq_none rfl rfl
  have nameable : Http.canName address = true := by decide
  have same : address.withoutCredentials = address := Url.withoutCredentials_of_anonymous anonymous
  have delivered (body : Bytes) (found : Storage) (room : Bool) :
      (delivering body found room).delivered? address = some body := by
    rw [Visit.delivered?, same, if_pos nameable]
    rfl
  have failed (found : Storage) :
      (offline found).delivered? address = none ∧ ¬ (offline found).IsUnchanged address := by
    refine ⟨by rw [Visit.delivered?, same, if_pos nameable], ?_⟩
    rintro ⟨_, response, answered, _⟩
    cases answered
  have left (body : Bytes) (found : Storage) (room : Bool) :
      ((delivering body found room).fetch address "backup").2 =
        Source.writeBackup (delivering body found room).surroundings "backup" body .epoch := by
    rw [Visit.fetch, Source.fetch_of_delivered (Source.exchange_plain anonymous nameable _ _)]
  have none : Visited address "backup" .empty [] .empty := .start
  have first : Visited address "backup" .empty [delivering [97] .empty true] stored := by
    have grown := none.next (delivering [97] .empty true) rfl
    rwa [left] at grown
  have second : Visited address "backup" .empty
      [delivering [97] .empty true, delivering [98] stored false] stored := by
    have grown := first.next (delivering [98] stored false) rfl
    rwa [left] at grown
  have kept : held address "backup" .empty [delivering [97] .empty true, delivering [98] stored false] =
      .ok [97] := second.read.symm
  obtain ⟨mirrored, answers⟩ := second.mirrors_and_falls_back
  obtain ⟨_, silent⟩ := answers (offline stored) rfl
  obtain ⟨_, _, failure⟩ := silent (failed stored).1
  obtain ⟨_, _, stands, _⟩ := failure (failed stored).2
  obtain ⟨_, silentAtFirst⟩ := none.mirrors_and_falls_back.2 (offline .empty) rfl
  obtain ⟨_, _, failureAtFirst⟩ := silentAtFirst (failed .empty).1
  obtain ⟨message, _, _, fails⟩ := failureAtFirst (failed .empty).2
  refine ⟨second, mirrored.trans kept, ?_, stands [97] kept (by decide), message, fails ?_⟩
  · exact (answers (delivering [98] stored false) rfl).1 [98] (delivered [98] stored false)
  · intro bytes found
    cases found

end Visited

end Federation
