import Federation.Json.Reader
import Federation.Proofs.Results

namespace Federation

namespace Json

inductive Value.IsExact : Value → Prop
  | null : IsExact .null
  | boolean (value : Bool) : IsExact (.boolean value)
  | natural {value : Nat} (small : value < 0x10000000000000000) : IsExact (.number (.natural value))
  | negative (magnitude : Nat) : IsExact (.number (.negative magnitude))
  | real (value : Float) : IsExact (.number (.real value))
  | string (text : String) : IsExact (.string text)
  | array {elements : List Value} (exact : ∀ element ∈ elements, IsExact element) :
      IsExact (.array elements)
  | object {members : List (String × Value)} (exact : ∀ member ∈ members, IsExact member.2) :
      IsExact (.object members)

variable {isNegative : Bool} {significand dropped : Nat} {base : Int} {text rest : List Char}

theorem takeDigits_lt (small : significand < 0x10000000000000000) (text : List Char) :
    (takeDigits significand text).1 < 0x10000000000000000 := by
  fun_induction takeDigits significand text with
  | case1 => exact small
  | case2 significand c rest next fits ih => exact ih fits
  | case3 => exact small

theorem floatOf_isExact {n : Number} (done : floatOf isNegative significand base = .ok n) :
    (Value.number n).IsExact := by
  obtain ⟨x, _, done⟩ := bind_eq_ok_iff.mp done
  cases done
  exact .real _

theorem exponentPart_isExact {n : Number}
    (done : exponentPart isNegative significand base text = .ok (n, rest)) : (Value.number n).IsExact := by
  unfold exponentPart at done
  split at done
  next down text _ =>
    dsimp only at done
    split at done
    · split at done <;> cases done
    · split at done
      · obtain ⟨number, scaled, done⟩ := bind_eq_ok_iff.mp done
        cases done
        exact floatOf_isExact scaled
      · split at done
        · cases done
        · cases done
          exact .real _

theorem fractionPart_isExact {n : Number} (small : significand < 0x10000000000000000)
    (done : fractionPart isNegative significand dropped text = .ok (n, rest)) :
    (Value.number n).IsExact := by
  unfold fractionPart at done
  split at done
  · dsimp only at done
    split at done
    · split at done <;> cases done
    · split at done
      · exact exponentPart_isExact done
      · exact exponentPart_isExact done
      · obtain ⟨number, scaled, done⟩ := bind_eq_ok_iff.mp done
        cases done
        exact floatOf_isExact scaled
  · exact exponentPart_isExact done
  · exact exponentPart_isExact done
  · split at done
    · obtain ⟨number, scaled, done⟩ := bind_eq_ok_iff.mp done
      cases done
      exact floatOf_isExact scaled
    · split at done
      · split at done
        · cases done
          exact .negative _
        · cases done
          exact .real _
      · cases done
        exact .natural small

theorem number_isExact {n : Number} (done : number isNegative text = .ok (n, rest)) :
    (Value.number n).IsExact := by
  unfold number at done
  dsimp only at done
  split at done
  · split at done <;> cases done
  · cases done
  · exact fractionPart_isExact (takeDigits_lt (by decide) _) done

theorem mem_insertMember {name : String} {value : Value} {members : List (String × Value)}
    {member : String × Value} (inserted : member ∈ insertMember name value members) :
    member = (name, value) ∨ member ∈ members := by
  fun_induction insertMember name value members <;> grind

theorem mem_membersOf {members : List (String × Value)} {member : String × Value}
    (kept : member ∈ membersOf members) : member ∈ members := by
  have folded : ∀ sorted, member ∈ members.foldl (fun sorted member =>
      insertMember member.1 member.2 sorted) sorted → member ∈ sorted ∨ member ∈ members := by
    clear kept
    induction members with
    | nil => exact fun _ => .inl
    | cons first rest ih =>
      intro sorted kept
      rcases ih _ kept with inserted | later
      · rcases mem_insertMember inserted with rfl | before
        · exact .inr List.mem_cons_self
        · exact .inl before
      · exact .inr (List.mem_cons_of_mem _ later)
  exact (folded [] kept).resolve_left List.not_mem_nil

/-- Of members with one name, the last counts. -/
theorem member?_membersOf (name : String) (members : List (String × Value)) :
    member? name (membersOf members) = (members.reverse.find? (·.1 == name)).map (·.2) := by
  have folded : ∀ sorted, member? name (members.foldl
      (fun sorted member => insertMember member.1 member.2 sorted) sorted) =
        ((members.reverse.find? (·.1 == name)).map (·.2)).or (member? name sorted) := by
    induction members with
    | nil => exact fun _ => rfl
    | cons first rest ih =>
      intro sorted
      rw [List.foldl_cons, ih, List.reverse_cons, List.find?_append]
      by_cases same : first.1 = name
      · subst same
        rw [member?_insertMember_self]
        cases rest.reverse.find? (·.1 == first.1) <;> simp
      · rw [member?_insertMember_of_ne _ _ same]
        cases rest.reverse.find? (·.1 == name) <;> simp [same]
  rw [membersOf, folded]
  simp [member?]

/-- What a value can be that is read from a text, and what it is read from in turn. -/
inductive ValueRead (fuel : Nat) (text rest : List Char) : Value → Prop
  | null : ValueRead fuel text rest .null
  | boolean (value : Bool) : ValueRead fuel text rest (.boolean value)
  | number {isNegative : Bool} {digits : List Char} {n : Number}
      (read : number isNegative digits = .ok (n, rest)) : ValueRead fuel text rest (.number n)
  | string (content : String) : ValueRead fuel text rest (.string content)
  | noElements : ValueRead fuel text rest (.array [])
  | elements {depth : Nat} {inside : List Char} {found : List Value}
      (read : elements fuel depth inside = .ok (found, rest)) : ValueRead fuel text rest (.array found)
  | noMembers (brace : '\x7b' ∈ text) : ValueRead fuel text rest (.object [])
  | members {depth : Nat} {inside : List Char} {found : List (String × Value)} (brace : '\x7b' ∈ text)
      (read : members fuel depth inside = .ok (found, rest)) : ValueRead fuel text rest (.ofMembers found)

theorem mem_of_skipSpaces {first : Char} {inside : List Char}
    (skipped : skipSpaces text = first :: inside) : first ∈ text :=
  (List.dropWhile_sublist _).subset (skipped ▸ List.mem_cons_self)

theorem value_read {fuel depth : Nat} {found : Value}
    (done : value (fuel + 1) depth text = .ok (found, rest)) : ValueRead fuel text rest found := by
  unfold value at done
  split at done
  · cases done
  · obtain ⟨_, _, done⟩ := bind_eq_ok_iff.mp done
    cases done
    exact .null
  · obtain ⟨_, _, done⟩ := bind_eq_ok_iff.mp done
    cases done
    exact .boolean true
  · obtain ⟨_, _, done⟩ := bind_eq_ok_iff.mp done
    cases done
    exact .boolean false
  · obtain ⟨_, read, done⟩ := bind_eq_ok_iff.mp done
    cases done
    exact .number read
  · obtain ⟨_, _, done⟩ := bind_eq_ok_iff.mp done
    cases done
    exact .string _
  · split at done
    · cases done
    · split at done
      · cases done
        exact .noElements
      · obtain ⟨_, read, done⟩ := bind_eq_ok_iff.mp done
        cases done
        exact .elements read
  · next opened =>
    split at done
    · cases done
    · split at done
      · cases done
        exact .noMembers (mem_of_skipSpaces opened)
      · obtain ⟨_, read, done⟩ := bind_eq_ok_iff.mp done
        cases done
        exact .members (mem_of_skipSpaces opened) read
  · split at done
    · obtain ⟨_, read, done⟩ := bind_eq_ok_iff.mp done
      cases done
      exact .number read
    · cases done

structure ReadsExact (fuel : Nat) : Prop where
  value : ∀ {depth text found rest}, value fuel depth text = .ok (found, rest) → found.IsExact
  elements : ∀ {depth text found rest}, elements fuel depth text = .ok (found, rest) →
    ∀ element ∈ found, element.IsExact
  members : ∀ {depth text found rest}, members fuel depth text = .ok (found, rest) →
    ∀ member ∈ found, member.2.IsExact

namespace ReadsExact

variable {fuel depth : Nat}

theorem value_succ {found : Value} (exact : ReadsExact fuel)
    (done : Json.value (fuel + 1) depth text = .ok (found, rest)) : found.IsExact := by
  cases value_read done with
  | null => exact .null
  | boolean value => exact .boolean value
  | number read => exact number_isExact read
  | string content => exact .string content
  | noElements => exact .array nofun
  | elements read => exact .array (exact.elements read)
  | noMembers => exact .object nofun
  | members _ read => exact .object fun member kept => exact.members read member (mem_membersOf kept)

theorem elements_succ {found : List Value} (exact : ReadsExact fuel)
    (done : Json.elements (fuel + 1) depth text = .ok (found, rest)) :
    ∀ element ∈ found, element.IsExact := by
  unfold Json.elements at done
  obtain ⟨first, read, done⟩ := bind_eq_ok_iff.mp done
  dsimp only at done
  split at done
  · cases done
  · cases done
    exact List.forall_mem_singleton.mpr (exact.value read)
  · obtain ⟨others, tail, done⟩ := bind_eq_ok_iff.mp done
    cases done
    exact List.forall_mem_cons.mpr ⟨exact.value read, exact.elements tail⟩
  · cases done

theorem members_succ {found : List (String × Value)} (exact : ReadsExact fuel)
    (done : Json.members (fuel + 1) depth text = .ok (found, rest)) :
    ∀ member ∈ found, member.2.IsExact := by
  unfold Json.members at done
  split at done
  · cases done
  · obtain ⟨name, _, done⟩ := bind_eq_ok_iff.mp done
    dsimp only at done
    split at done
    · cases done
    · obtain ⟨first, read, done⟩ := bind_eq_ok_iff.mp done
      split at done
      · cases done
      · cases done
        exact List.forall_mem_singleton.mpr (exact.value read)
      · obtain ⟨others, tail, done⟩ := bind_eq_ok_iff.mp done
        cases done
        exact List.forall_mem_cons.mpr ⟨exact.value read, exact.members tail⟩
      · cases done
    · cases done
  · cases done

theorem of_fuel (fuel : Nat) : ReadsExact fuel := by
  induction fuel with
  | zero => exact ⟨nofun, nofun, nofun⟩
  | succ fuel exact => exact ⟨exact.value_succ, exact.elements_succ, exact.members_succ⟩

end ReadsExact

theorem read_value {bytes : Bytes} {found : Value} (done : read bytes = .ok found) :
    ∃ text fuel depth rest, bytes = text.flatMap String.utf8EncodeChar ∧
      value (fuel + 1) depth text = .ok (found, rest) := by
  unfold read at done
  split at done
  · next text decoded =>
    obtain ⟨⟨value, rest⟩, started, done⟩ := bind_eq_ok_iff.mp done
    dsimp only at done
    split at done
    · cases done
      exact ⟨text.toList, _, _, rest, Bytes.eq_encoding decoded, started⟩
    · cases done
  · cases done

theorem read_isExact {bytes : Bytes} {found : Value} (done : read bytes = .ok found) : found.IsExact := by
  obtain ⟨_, fuel, _, _, _, started⟩ := read_value done
  exact (ReadsExact.of_fuel (fuel + 1)).value started

theorem read_encoding (text : List Char) :
    read (text.flatMap String.utf8EncodeChar) = readText text := by
  simp only [read, Bytes.toText?_encoding, String.toList_ofList]

theorem not_blank_of_read_object {bytes : Bytes} {members : List (String × Value)}
    (done : read bytes = .ok (.object members)) : bytes.all Bytes.isAsciiBlank = false := by
  obtain ⟨text, fuel, _, rest, rfl, started⟩ := read_value done
  have brace : '\x7b' ∈ text := by
    generalize object : Value.object members = found at started
    cases value_read started with
    | noMembers brace => exact brace
    | members brace => exact brace
    | _ => cases object
  have encoded : 0x7B ∈ text.flatMap String.utf8EncodeChar :=
    List.mem_flatMap.mpr ⟨_, brace, by decide⟩
  exact List.all_eq_false.mpr ⟨_, encoded, by decide⟩

end Json

end Federation
