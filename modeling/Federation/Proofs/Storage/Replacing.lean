import Federation.Storage.Basic

namespace Federation.Storage

theorem walk_put {storage : Storage} {place : Place} (vacant : storage.entryAt place ≠ some .directory)
    (entry : Entry) {start reached : Place} {steps : List String}
    (walked : storage.walk start steps = .ok reached) :
    (storage.put place entry).walk start steps = .ok reached := by
  induction steps generalizing start with
  | nil => exact walked
  | cons step rest ih =>
    unfold walk at walked ⊢
    cases here : storage.entryAt start with
    | none =>
      rw [here] at walked
      cases walked
    | some found =>
      cases found with
      | file file =>
        rw [here] at walked
        cases walked
      | directory =>
        -- The walk has not come to the place of the file yet.
        have apart : start ≠ place := by
          rintro rfl
          exact vacant here
        rw [here] at walked
        rw [entryAt_put_other apart, here]
        dsimp only at walked ⊢
        split at walked
        · cases walked
        · rename_i short
          rw [if_neg short]
          split at walked
          · rename_i still
            rw [if_pos still]
            exact ih walked
          · rename_i moves
            rw [if_neg moves]
            split at walked
            · rename_i up
              rw [if_pos up]
              exact ih walked
            · rename_i down
              rw [if_neg down]
              exact ih walked

theorem locate_put {storage : Storage} {place reached : Place} {path : String}
    (vacant : storage.entryAt place ≠ some .directory) (entry : Entry)
    (located : storage.locate path = .ok reached) :
    (storage.put place entry).locate path = .ok reached := by
  unfold locate at located ⊢
  split at located
  · cases located
  · rename_i plain
    rw [if_neg plain]
    split at located
    · cases located
    · rename_i named
      rw [if_neg named]
      split at located
      · cases located
      · rename_i short
        rw [if_neg short]
        exact walk_put vacant entry located

theorem find_put {storage : Storage} {place : Place} {path : String}
    (vacant : storage.entryAt place ≠ some .directory) (entry : Entry)
    (located : storage.locate path = .ok place) :
    (storage.put place entry).find path = .ok entry := by
  have below : place ≠ [] := by
    rintro rfl
    exact vacant rfl
  unfold find
  rw [locate_put vacant entry located]
  simp only [Bind.bind, Except.bind, entryAt_put_same below]

/-- What replaced a file is what is read. -/
theorem read_replace {storage left : Storage} {path : String} {content : Bytes} {modified : Int}
    (replaced : storage.replace path content modified = .ok left) : left.read path = .ok content := by
  unfold replace putFile at replaced
  cases located : storage.locate path with
  | error fault =>
    rw [located] at replaced
    cases replaced
  | ok place =>
    rw [located] at replaced
    simp only [Bind.bind, Except.bind] at replaced
    have vacant : storage.entryAt place ≠ some .directory := by
      intro directory
      rw [directory] at replaced
      cases replaced
    have put : left = storage.put place (.file ⟨content, modified, true⟩) := by
      split at replaced
      · cases replaced
      · exact (Except.ok.inj replaced).symm
      · exact (Except.ok.inj replaced).symm
    unfold read
    rw [put, find_put vacant _ located]
    rfl

end Federation.Storage
