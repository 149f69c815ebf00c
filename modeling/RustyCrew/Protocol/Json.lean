import Mathlib

namespace RustyCrew.Protocol

/-- A JSON value. A number is kept as its literal; an object lists its members by key. -/
inductive Json where
  | null
  | bool (value : Bool)
  | number (literal : String)
  | string (value : String)
  | array (items : List Json)
  | object (members : List (String × Json))
  deriving Repr, Inhabited

namespace Json

mutual

def decEq : (a b : Json) → Decidable (a = b)
  | .null, .null => isTrue rfl
  | .bool a, .bool b => decidable_of_iff (a = b) (by simp)
  | .number a, .number b => decidable_of_iff (a = b) (by simp)
  | .string a, .string b => decidable_of_iff (a = b) (by simp)
  | .array a, .array b =>
    have := decEqItems a b
    decidable_of_iff (a = b) (by simp)
  | .object a, .object b =>
    have := decEqMembers a b
    decidable_of_iff (a = b) (by simp)
  | .null, .bool _ | .null, .number _ | .null, .string _ | .null, .array _ | .null, .object _
  | .bool _, .null | .bool _, .number _ | .bool _, .string _ | .bool _, .array _
  | .bool _, .object _ | .number _, .null | .number _, .bool _ | .number _, .string _
  | .number _, .array _ | .number _, .object _ | .string _, .null | .string _, .bool _
  | .string _, .number _ | .string _, .array _ | .string _, .object _ | .array _, .null
  | .array _, .bool _ | .array _, .number _ | .array _, .string _ | .array _, .object _
  | .object _, .null | .object _, .bool _ | .object _, .number _ | .object _, .string _
  | .object _, .array _ => isFalse (by simp)

def decEqItems : (a b : List Json) → Decidable (a = b)
  | [], [] => isTrue rfl
  | [], _ :: _ => isFalse (by simp)
  | _ :: _, [] => isFalse (by simp)
  | a :: as, b :: bs =>
    have := decEq a b
    have := decEqItems as bs
    decidable_of_iff (a = b ∧ as = bs) (by simp)

def decEqMembers : (a b : List (String × Json)) → Decidable (a = b)
  | [], [] => isTrue rfl
  | [], _ :: _ => isFalse (by simp)
  | _ :: _, [] => isFalse (by simp)
  | (k, a) :: as, (l, b) :: bs =>
    have := decEq a b
    have := decEqMembers as bs
    decidable_of_iff (k = l ∧ a = b ∧ as = bs) (by simp [and_assoc])

end

instance : DecidableEq Json := decEq

def insertMember (key : String) (value : Json) : List (String × Json) → List (String × Json)
  | [] => [(key, value)]
  | (k, v) :: rest =>
    if key = k then (key, value) :: rest
    else if key < k then (key, value) :: (k, v) :: rest
    else (k, v) :: insertMember key value rest

/-- An object from its members in any order, the later of two with one key winning. -/
def ofMembers (members : List (String × Json)) : Json :=
  .object (members.foldl (fun done (key, value) => insertMember key value done) [])

def asObject : Json → Option (List (String × Json))
  | .object members => some members
  | _ => none

def asStr : Json → Option String
  | .string value => some value
  | _ => none

def get (value : Json) (key : String) : Option Json :=
  value.asObject.bind (List.lookup key)

@[simp] theorem get_object (members : List (String × Json)) (key : String) :
    (Json.object members).get key = members.lookup key := rfl

/-- The members are in the order of their keys, so a new key stands before the first larger one. -/
theorem lookup_insertMember (key : String) (value : Json) (members : List (String × Json))
    (name : String) : (insertMember key value members).lookup name =
      if name = key then some value else members.lookup name := by
  have head (k : String) (v : Json) (rest : List (String × Json)) :
      ((k, v) :: rest).lookup name = if name = k then some v else rest.lookup name := by
    by_cases same : name = k
    · simp [same]
    · simp [List.lookup_cons, same, beq_eq_false_iff_ne.mpr same]
  induction members with
  | nil => simp [insertMember, head]
  | cons member rest ih =>
    obtain ⟨k, v⟩ := member
    unfold insertMember
    split
    · next same =>
      rw [head, head, same]
      split <;> rfl
    · split
      · simp [head]
      · next different _ =>
        rw [head, head, ih]
        by_cases named : name = key
        · rw [if_pos named, if_pos named, if_neg (named ▸ different)]
        · rw [if_neg named, if_neg named]

/-! ## The compact text -/

def escapeChar (c : Char) : List Char :=
  if c = '"' then ['\\', '"']
  else if c = '\\' then ['\\', '\\']
  else if c.toNat = 8 then ['\\', 'b']
  else if c.toNat = 9 then ['\\', 't']
  else if c.toNat = 10 then ['\\', 'n']
  else if c.toNat = 12 then ['\\', 'f']
  else if c.toNat = 13 then ['\\', 'r']
  else if c.toNat < 32 then
    ['\\', 'u', '0', '0', Nat.digitChar (c.toNat / 16), Nat.digitChar (c.toNat % 16)]
  else [c]

def renderString (value : String) : String :=
  "\"" ++ String.ofList (value.toList.flatMap escapeChar) ++ "\""

mutual

def render : Json → String
  | .null => "null"
  | .bool value => if value then "true" else "false"
  | .number literal => literal
  | .string value => renderString value
  | .array items => "[" ++ renderItems items ++ "]"
  | .object members => "\x7b" ++ renderMembers members ++ "\x7d"

def renderItems : List Json → String
  | [] => ""
  | [item] => render item
  | item :: rest => render item ++ "," ++ renderItems rest

def renderMembers : List (String × Json) → String
  | [] => ""
  | [(key, value)] => renderString key ++ ":" ++ render value
  | (key, value) :: rest => renderString key ++ ":" ++ render value ++ "," ++ renderMembers rest

end

example : (ofMembers [("name", .string "a\"b"), ("argumentsJson",
    .array [.null, .number "1"])]).render =
    "\x7b\"argumentsJson\":[null,1],\"name\":\"a\\\"b\"\x7d" := by
  decide +kernel

end Json

end RustyCrew.Protocol
