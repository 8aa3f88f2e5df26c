import GatewayOperator.Json.Basic

/-!
# JSON values as YAML

A value as a YAML document in block style. A mapping is indented by two blanks under its key, a list
stands at the column of its key, and an empty collection is written in brackets. A text is plain where
YAML reads it back as the same text, and in single quotes elsewhere.
-/

set_option autoImplicit false

namespace GatewayOperator.Json.Yaml

/-- Words that YAML reads as something else than a text. -/
def reservedWords : List String :=
  ["null", "Null", "NULL", "~", "true", "True", "TRUE", "false", "False", "FALSE"]

/-- Characters that a plain text does not start with. -/
def indicators : List Char :=
  ['-', '?', ':', ',', '[', ']', '\x7b', '\x7d', '#', '&', '*', '!', '|', '>', '\'', '"', '%', '@', '\x60']

/-- Whether a colon or a number sign in the text would end it. -/
def breaksOff : List Char → Bool
  | ':' :: ' ' :: _ => true
  | ' ' :: '#' :: _ => true
  | [':'] => true
  | [] => false
  | _ :: rest => breaksOff rest

/-- Whether a text can be written without quotes. -/
def isPlain (s : String) : Bool :=
  match s.toList with
  | [] => false
  | c :: rest =>
    !(c ∈ indicators) && c ≠ ' ' && (c :: rest).getLast? ≠ some ' ' && !(s ∈ reservedWords) &&
      !(Text.isDigit c || c = '+' || c = '.' && rest.head?.any Text.isDigit) && !breaksOff (c :: rest) &&
      (c :: rest).all fun d => 0x20 ≤ d.toNat

/-- A text as a scalar. -/
def scalar (s : String) : String :=
  if isPlain s then s
  else "'" ++ String.ofList (s.toList.flatMap fun c => if c = '\'' then [c, c] else [c]) ++ "'"

/-- The text of a value that fits behind its key. -/
def inline? : Json → Option String
  | .array [] => some "[]"
  | .object [] => some "\x7b\x7d"
  | .array _ => none
  | .object _ => none
  | .string s => some (scalar s)
  | j => some j.render

/-- Lines as an item of a list: a dash in front of the first one, blanks in front of the others. -/
def itemLines : List String → List String
  | [] => []
  | first :: rest => ("- " ++ first) :: rest.map ("  " ++ ·)

/-- The lines of a value of a mapping, given its key, its text if that fits behind the key, and its own
lines otherwise. -/
def memberLines (key : String) (value : Json) (lines : List String) : List String :=
  match inline? value, value with
  | some t, _ => [scalar key ++ ": " ++ t]
  | none, .array _ => (scalar key ++ ":") :: lines
  | none, _ => (scalar key ++ ":") :: lines.map ("  " ++ ·)

mutual
/-- The lines of a value. -/
def lines : Json → List String
  | .array items => arrayLines items
  | .object members => objectLines members
  | j => [(inline? j).getD ""]

/-- The lines of the items of a list. -/
def arrayLines : List Json → List String
  | [] => []
  | x :: xs =>
    (match inline? x with
      | some t => ["- " ++ t]
      | none => itemLines (lines x)) ++ arrayLines xs

/-- The lines of the members of a mapping. -/
def objectLines : List (String × Json) → List String
  | [] => []
  | (k, x) :: ms => memberLines k x (lines x) ++ objectLines ms
end

/-- A value as a document. -/
def document (j : Json) : String :=
  match inline? j with
  | some t => t ++ "\n"
  | none => String.join ((lines j).map (· ++ "\n"))

end GatewayOperator.Json.Yaml
