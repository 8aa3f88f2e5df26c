import GatewayOperator.Dict
import GatewayOperator.Json.Number

/-!
# JSON values

A JSON value is a tree. A text that is read gives objects whose members stand in the order of their
keys, which the operations of `Entries` keep; a record that is written lists its fields in the order of
their declaration. The compact text of a value has no blanks. In a string it escapes the
quote, the backslash and the control characters below U+0020, and nothing else.
-/

set_option autoImplicit false

namespace GatewayOperator

/-- A JSON value. -/
inductive Json where
  | null
  | bool (b : Bool)
  | number (n : Json.Number)
  | string (s : String)
  | array (items : List Json)
  | object (members : List (String × Json))
  deriving Repr

namespace Json

instance : Inhabited Json := ⟨.null⟩

/-- An integer as a JSON value. -/
def int (n : Int) : Json := .number (.int n)

/-- A natural number as a JSON value. -/
def nat (n : Nat) : Json := .number (.int n)

/-- A list of texts as a JSON value. -/
def strings (xs : List String) : Json := .array (xs.map .string)

/-- A dictionary of texts as a JSON value. -/
def ofDict (d : Dict String) : Json := .object (d.entries.map fun e => (e.1, .string e.2))

/-- An object whose members are given in any order. -/
def obj (members : List (String × Json)) : Json := .object (Entries.ofList members)

/-- A member that is left out when it has no value. -/
def member? (key : String) (value : Option Json) : List (String × Json) :=
  match value with
  | none => []
  | some v => [(key, v)]

/-- A value, or null in its absence. -/
def orNull (value : Option Json) : Json := value.getD .null

/-- The member of an object under a key. -/
def get? (key : String) : Json → Option Json
  | .object members => Entries.find? key members
  | _ => none

/-- The text of a string value. -/
def text? : Json → Option String
  | .string s => some s
  | _ => none

/-- The items of an array. -/
def items? : Json → Option (List Json)
  | .array xs => some xs
  | _ => none

/-- The value of an integer. -/
def int? : Json → Option Int
  | .number (.int n) => some n
  | _ => none

mutual
/-- Whether two values are equal. -/
def same : Json → Json → Bool
  | .null, .null => true
  | .bool a, .bool b => a == b
  | .number a, .number b => a.same b
  | .string a, .string b => a == b
  | .array xs, .array ys => sameItems xs ys
  | .object xs, .object ys => sameMembers xs ys
  | _, _ => false

/-- Whether two lists of values are equal. -/
def sameItems : List Json → List Json → Bool
  | [], [] => true
  | x :: xs, y :: ys => same x y && sameItems xs ys
  | _, _ => false

/-- Whether two lists of members are equal. -/
def sameMembers : List (String × Json) → List (String × Json) → Bool
  | [], [] => true
  | (k, x) :: xs, (l, y) :: ys => k == l && same x y && sameMembers xs ys
  | _, _ => false
end

/-- A character as it stands between quotes. -/
def escape (c : Char) : List Char :=
  if c = '"' then ['\\', '"']
  else if c = '\\' then ['\\', '\\']
  else if c.toNat = 8 then ['\\', 'b']
  else if c.toNat = 9 then ['\\', 't']
  else if c.toNat = 10 then ['\\', 'n']
  else if c.toNat = 12 then ['\\', 'f']
  else if c.toNat = 13 then ['\\', 'r']
  else if c.toNat < 32 then
    ['\\', 'u', '0', '0', Text.digitChar (c.toNat / 16), Text.digitChar (c.toNat % 16)]
  else [c]

/-- A text between quotes. -/
def quoted (cs : List Char) : List Char :=
  '"' :: (cs.flatMap escape ++ ['"'])

mutual
/-- The compact text of a value. -/
def chars : Json → List Char
  | .null => "null".toList
  | .bool b => if b then "true".toList else "false".toList
  | .number n => n.chars
  | .string s => quoted s.toList
  | .array [] => ['[', ']']
  | .array (x :: xs) => '[' :: (chars x ++ charsItems xs ++ [']'])
  | .object [] => ['{', '}']
  | .object ((k, x) :: ms) => '{' :: (quoted k.toList ++ ':' :: (chars x ++ charsMembers ms ++ ['}']))

/-- The items after the first, each with a comma before it. -/
def charsItems : List Json → List Char
  | [] => []
  | x :: xs => ',' :: (chars x ++ charsItems xs)

/-- The members after the first, each with a comma before it. -/
def charsMembers : List (String × Json) → List Char
  | [] => []
  | (k, x) :: ms => ',' :: (quoted k.toList ++ ':' :: (chars x ++ charsMembers ms))
end

/-- The compact text of a value. -/
def render (j : Json) : String := String.ofList (chars j)

end Json

end GatewayOperator
