import GatewayOperator.Text.Base64
import GatewayOperator.Text.Blank
import GatewayOperator.Text.Utf8

/-!
# PEM blocks

A PEM block is a header line with a label, lines of Base64 and an end line. Only the first block of a
text is read: lines before its header are skipped, the label of the end line is not compared, and what
follows the end line does not matter. Every line up to the end line has to be UTF-8.
-/

set_option autoImplicit false

namespace GatewayOperator.Tls

/-- A block: its label and its contents. -/
structure Pem where
  label : String
  contents : List UInt8
  deriving DecidableEq, Repr

namespace Pem

/-- The lines of a text, each without its line feed. A text that ends in a line feed has no further
line behind it. -/
def lines : List UInt8 → List (List UInt8)
  | [] => []
  | b :: rest =>
    if b = 0x0A then [] :: lines rest
    else
      match lines rest with
      | [] => [[b]]
      | line :: others => (b :: line) :: others

/-- The start of a header line. -/
def headerMark : List Char := "-----BEGIN ".toList

/-- The start of an end line. -/
def endMark : List Char := "-----END ".toList

/-- The dashes that close a label. -/
def dashes : List Char := "-----".toList

/-- Whether a text holds a word somewhere. -/
def holds (word : List Char) : List Char → Bool
  | [] => word = []
  | c :: rest => word.isPrefixOf (c :: rest) || holds word rest

/-- The label of a header line: what stands between the mark and the first dash, if five dashes close
it. -/
def label? (line : List Char) : Option String :=
  let rest := line.drop headerMark.length
  if holds dashes rest then some (String.ofList (rest.takeWhile (· ≠ '-'))) else none

/-- The Base64 text of a block, from the line behind its header on: the lines up to the end line,
without the blanks at their ends. -/
def body? : List (List UInt8) → Option String
  | [] => none
  | line :: rest =>
    match Text.Utf8.read? line with
    | none => none
    | some text =>
      if endMark.isPrefixOf text.toList then some ""
      else (body? rest).map fun more => Text.trimEnd text ++ more

/-- The first block of a list of lines. -/
def ofLines? : List (List UInt8) → Option Pem
  | [] => none
  | line :: rest =>
    match Text.Utf8.read? line with
    | none => none
    | some text =>
      if headerMark.isPrefixOf text.toList then
        match label? text.toList, (body? rest).bind fun body => Text.Base64.decode? (Text.utf8 body) with
        | some label, some contents => some ⟨label, contents⟩
        | _, _ => none
      else ofLines? rest

/-- The first block of a text. -/
def read? (bytes : List UInt8) : Option Pem :=
  ofLines? (lines bytes)

end Pem

end GatewayOperator.Tls
