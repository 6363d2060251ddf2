namespace Federation.Json

/-- Whole numbers of 64 bits are kept exact; every other number is a double. -/
inductive Number where
  | natural (value : Nat)
  | negative (magnitude : Nat)
  | real (value : Float)
deriving BEq, Repr, Inhabited

inductive Value where
  | null
  | boolean (value : Bool)
  | number (value : Number)
  | string (value : String)
  | array (elements : List Value)
  | object (members : List (String × Value))
deriving BEq, Repr, Inhabited

def insertMember (name : String) (value : Value) : List (String × Value) → List (String × Value)
  | [] => [(name, value)]
  | (other, kept) :: rest =>
    if name < other then (name, value) :: (other, kept) :: rest
    else if name = other then (name, value) :: rest
    else (other, kept) :: insertMember name value rest

def membersOf (members : List (String × Value)) : List (String × Value) :=
  members.foldl (fun sorted member => insertMember member.1 member.2 sorted) []

def Value.ofMembers (members : List (String × Value)) : Value := .object (membersOf members)

def member? (name : String) : List (String × Value) → Option Value
  | [] => none
  | (other, value) :: rest => if other = name then some value else member? name rest

theorem member?_insertMember_self (name : String) (value : Value) (members : List (String × Value)) :
    member? name (insertMember name value members) = some value := by
  fun_induction insertMember name value members with
  | case1 => simp [member?]
  | case2 => simp [member?]
  | case3 => simp [member?]
  | case4 other kept rest _ different ih => simp [member?, Ne.symm different, ih]

theorem member?_insertMember_of_ne {name other : String} (value : Value)
    (members : List (String × Value)) (different : name ≠ other) :
    member? other (insertMember name value members) = member? other members := by
  fun_induction insertMember name value members with
  | case1 => simp [member?, different]
  | case2 => simp [member?, different]
  | case3 => simp_all [member?]
  | case4 first kept rest _ _ ih => simp [member?, ih]

end Federation.Json
