import Mathlib.Logic.Relation
import Federation.Trust

namespace Federation

variable {α : Type} {judge : α → Except TrustError Bool}

/-- What leaves come to that are asked in order, up to the first that decides. -/
inductive Verdict.Settles (judge : α → Except TrustError Bool) : List α → Verdict α → Prop where
  | never {leaves : List α} (declined : ∀ leaf ∈ leaves, judge leaf = .ok false) :
    Settles judge leaves ⟨.ok false, leaves⟩
  | first {before after : List α} {leaf : α} (declined : ∀ earlier ∈ before, judge earlier = .ok false)
    (decides : judge leaf ≠ .ok false) :
    Settles judge (before ++ leaf :: after) ⟨judge leaf, before ++ [leaf]⟩

namespace Verdict.Settles

theorem first_unique {before after earlier later : List α} {leaf other : α}
    (same : before ++ leaf :: after = earlier ++ other :: later)
    (declined : ∀ leaf ∈ before, judge leaf = .ok false) (decides : judge leaf ≠ .ok false)
    (otherDeclined : ∀ leaf ∈ earlier, judge leaf = .ok false) (otherDecides : judge other ≠ .ok false) :
    before = earlier ∧ leaf = other := by
  induction before generalizing earlier with
  | nil =>
    cases earlier with
    | nil => exact ⟨rfl, (List.cons.inj same).1⟩
    | cons head rest =>
      rw [(List.cons.inj same).1] at decides
      exact absurd (otherDeclined head List.mem_cons_self) decides
  | cons head rest ih =>
    have first := declined head List.mem_cons_self
    cases earlier with
    | nil =>
      rw [(List.cons.inj same).1] at first
      exact absurd first otherDecides
    | cons otherHead otherRest =>
      obtain ⟨heads, tails⟩ := List.cons.inj same
      obtain ⟨rests, leaves⟩ := ih tails
        (fun leaf member => declined leaf (List.mem_cons_of_mem _ member))
        (fun leaf member => otherDeclined leaf (List.mem_cons_of_mem _ member))
      exact ⟨by rw [heads, rests], leaves⟩

theorem unique {leaves : List α} {left right : Verdict α} (settles : Settles judge leaves left)
    (settled : Settles judge leaves right) : left = right := by
  generalize whole : leaves = all at settled
  cases settles with
  | never declined =>
    cases settled with
    | never => rw [whole]
    | @first before after leaf _ decides =>
      have member : leaf ∈ leaves := whole ▸ List.mem_append_right before List.mem_cons_self
      exact absurd (declined leaf member) decides
  | @first before after leaf declined decides =>
    cases settled with
    | never all =>
      have member : leaf ∈ before ++ leaf :: after := List.mem_append_right before List.mem_cons_self
      exact absurd (all leaf (whole ▸ member)) decides
    | first otherDeclined otherDecides =>
      obtain ⟨rfl, rfl⟩ := first_unique whole declined decides otherDeclined otherDecides
      rfl

theorem append_of_declined {leaves more : List α} {verdict others : Verdict α}
    (settles : Settles judge leaves verdict) (declined : verdict.answer = .ok false)
    (rest : Settles judge more others) :
    Settles judge (leaves ++ more) ⟨others.answer, verdict.asked ++ others.asked⟩ := by
  cases settles with
  | first _ decides => exact absurd declined decides
  | never all =>
    cases rest with
    | never later =>
      exact .never fun leaf member => (List.mem_append.mp member).elim (all leaf) (later leaf)
    | @first before after leaf later decides =>
      rw [← List.append_assoc]
      dsimp only
      rw [← List.append_assoc]
      exact .first (fun leaf member => (List.mem_append.mp member).elim (all leaf) (later leaf)) decides

theorem append_of_decided {leaves : List α} {verdict : Verdict α} (settles : Settles judge leaves verdict)
    (decided : verdict.answer ≠ .ok false) (more : List α) : Settles judge (leaves ++ more) verdict := by
  cases settles with
  | never => exact absurd rfl decided
  | first declined decides =>
    rw [List.append_assoc, List.cons_append]
    exact .first declined decides

end Verdict.Settles

namespace Engine

open Verdict (Settles)

theorem evaluateChain_declined {engine : Engine α} (declined : (engine.evaluate judge).answer = .ok false)
    (rest : List (Option (Engine α))) :
    evaluateChain judge (some engine :: rest) =
      ⟨(evaluateChain judge rest).answer,
        (engine.evaluate judge).asked ++ (evaluateChain judge rest).asked⟩ := by
  simp only [evaluateChain, declined]

theorem evaluateChain_decided {engine : Engine α} (decided : (engine.evaluate judge).answer ≠ .ok false)
    (rest : List (Option (Engine α))) :
    evaluateChain judge (some engine :: rest) = engine.evaluate judge := by
  unfold evaluateChain
  dsimp only
  split
  · rename_i declined
    exact absurd declined decided
  · rfl

mutual

theorem evaluate_settles (judge : α → Except TrustError Bool) :
    ∀ engine : Engine α, Settles judge engine.leaves (engine.evaluate judge)
  | .leaf only => by
    unfold leaves evaluate
    by_cases declined : judge only = .ok false
    · rw [declined]
      exact .never fun leaf member => List.mem_singleton.mp member ▸ declined
    · exact .first (fun _ member => absurd member List.not_mem_nil) declined
  | .chain engines => by
    unfold leaves evaluate
    exact evaluateChain_settles judge engines

theorem evaluateChain_settles (judge : α → Except TrustError Bool) :
    ∀ engines : List (Option (Engine α)),
      Settles judge (chainLeaves engines) (evaluateChain judge engines)
  | [] => .never fun _ member => absurd member List.not_mem_nil
  | none :: rest => evaluateChain_settles judge rest
  | some engine :: rest => by
    have here := evaluate_settles judge engine
    unfold chainLeaves
    -- The first member's answer alone says whether the rest of the chain is asked.
    by_cases declined : (engine.evaluate judge).answer = .ok false
    · rw [evaluateChain_declined declined]
      exact here.append_of_declined declined (evaluateChain_settles judge rest)
    · rw [evaluateChain_decided declined]
      exact here.append_of_decided declined (chainLeaves rest)

end

inductive Insertion : Engine α → Engine α → Prop where
  | absent (before after : List (Option (Engine α))) :
    Insertion (.chain (before ++ after)) (.chain (before ++ none :: after))
  | empty (before after : List (Option (Engine α))) :
    Insertion (.chain (before ++ after)) (.chain (before ++ some (.chain []) :: after))
  | within (before after : List (Option (Engine α))) {engine inserted : Engine α}
    (insertion : Insertion engine inserted) :
    Insertion (.chain (before ++ some engine :: after)) (.chain (before ++ some inserted :: after))

theorem chainLeaves_append (left right : List (Option (Engine α))) :
    chainLeaves (left ++ right) = chainLeaves left ++ chainLeaves right := by
  induction left with
  | nil => rfl
  | cons first rest ih =>
    cases first with
    | none => exact ih
    | some engine => simp only [List.cons_append, chainLeaves, ih, List.append_assoc]

theorem Insertion.leaves_eq {engine inserted : Engine α} (insertion : Insertion engine inserted) :
    inserted.leaves = engine.leaves := by
  induction insertion with
  | absent before after => simp only [leaves, chainLeaves_append, chainLeaves]
  | empty before after => simp only [leaves, chainLeaves_append, chainLeaves, List.nil_append]
  | within before after _ ih => simp only [leaves, chainLeaves_append, chainLeaves, ih]

theorem leaves_of_insertions {engine inserted : Engine α}
    (insertions : Relation.ReflTransGen Insertion engine inserted) : inserted.leaves = engine.leaves := by
  induction insertions with
  | refl => rfl
  | tail _ insertion ih => exact insertion.leaves_eq.trans ih

/-- Engines judge like their leaves in order, whatever is asked, with a candidate or without; and absent
    members and empty chains that come in anywhere change neither the answer nor who is asked. -/
theorem judges_like_leaves {engine inserted : Engine α}
    (insertions : Relation.ReflTransGen Insertion engine inserted)
    (judge : Question → α → Except TrustError Bool) (question : Question) :
    Settles (judge question) engine.leaves (engine.evaluate (judge question)) ∧
      inserted.evaluate (judge question) = engine.evaluate (judge question) := by
  have settles := evaluate_settles (judge question) engine
  have settled := evaluate_settles (judge question) inserted
  rw [leaves_of_insertions insertions] at settled
  exact ⟨settles, settled.unique settles⟩

theorem judges_like_leaves_nested :
    let failing : Except TrustError Bool := .error (.credentialResolution "down")
    let members : List (Option (Engine (Except TrustError Bool))) :=
      [some (.chain [some (.leaf (.ok false)), some (.leaf (.ok true))]), some (.leaf failing)]
    let engine := Engine.chain members
    let inserted := Engine.chain (some (.chain []) :: none :: members)
    let judge : Question → Except TrustError Bool → Except TrustError Bool := fun _ answer => answer
    let question : Question := ⟨⟨"", [], [], []⟩, .ofEntityId "a", none⟩
    Relation.ReflTransGen Insertion engine inserted ∧
      inserted.evaluate (judge question) = ⟨.ok true, [.ok false, .ok true]⟩ := by
  intro failing members engine inserted judge question
  -- Who trusts is the second leaf; the failing one after it is not asked.
  have insertions : Relation.ReflTransGen Insertion engine inserted :=
    .tail (.tail .refl (.absent [] members)) (.empty [] (none :: members))
  obtain ⟨settles, same⟩ := judges_like_leaves insertions judge question
  have leaves : engine.leaves = [.ok false] ++ .ok true :: [failing] := rfl
  have settled : Settles (judge question) engine.leaves ⟨.ok true, [.ok false, .ok true]⟩ := by
    rw [leaves]
    exact .first (fun answer member => List.mem_singleton.mp member) nofun
  exact ⟨insertions, same.trans (settles.unique settled)⟩

end Engine

end Federation
