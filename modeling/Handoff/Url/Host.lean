import Handoff.Text.Escape
import Handoff.Text.Parts
import Handoff.Url.Encoding
import Handoff.Url.Name.Basic

/-!
Hosts: names, and addresses of four or of eight numbers.
-/
namespace Handoff.Url

/-- Why a text is no absolute address. -/
inductive Failure where
  | relative
  | emptyHost
  | hostName
  | hostCharacter
  | portNumber
  | fourNumbers
  | eightNumbers
  deriving DecidableEq

def Failure.message : Failure → String
  | .relative => "relative URL without a base"
  | .emptyHost => "empty host"
  | .hostName => "invalid international domain name"
  | .hostCharacter => "invalid domain character"
  | .portNumber => "invalid port number"
  | .fourNumbers => "invalid IPv4 address"
  | .eightNumbers => "invalid IPv6 address"

inductive Host where
  | name (text : String)
  /-- Four bytes as one number. -/
  | four (address : Nat)
  /-- Eight numbers of two bytes. -/
  | eight (numbers : List Nat)
  deriving DecidableEq

/-! Four numbers -/

/-- A number as hosts write it: in base 16, 8 or 10, as its beginning tells. -/
def hostNumber? (chars : List Char) : Option Nat :=
  let read (base : Nat) (digits : List Char) : Option Nat :=
    digits.foldlM (fun n c => do
      let value ← Text.hexValue? c
      if value < base then some (n * base + value) else none) 0
  match chars with
  | [] => none
  | '0' :: 'x' :: digits => read 16 digits
  | '0' :: 'X' :: digits => read 16 digits
  | '0' :: digit :: digits => read 8 (digit :: digits)
  | digits => read 10 digits

/-- The parts of a name, without an empty last one. -/
def nameParts (name : List Char) : List (List Char) :=
  let parts := Text.split '.' name
  if parts.getLast? = some [] then parts.dropLast else parts

/-- Whether the last part of a name is a number, so that all of it must be. -/
def endsInNumber (name : List Char) : Bool :=
  match (nameParts name).getLast? with
  | some last => (!last.isEmpty && last.all Char.isDigit) || (hostNumber? last).isSome
  | none => false

/-- Numbers as an address: each but the last is one byte, and the last has the bytes that are
left. -/
def fourNumbers? (numbers : List Nat) : Option Nat :=
  match numbers.reverse with
  | [] => none
  | last :: others =>
    let leading := others.reverse
    if leading.length ≤ 3 ∧ last < 1 <<< (8 * (4 - leading.length)) ∧ leading.all (· < 256) then
      some (leading.zipIdx.foldl (fun sum (n, i) => sum + (n <<< (8 * (3 - i)))) last)
    else none

def four? (name : List Char) : Except Failure Host :=
  match ((nameParts name).mapM hostNumber?).bind fourNumbers? with
  | some address => .ok (.four address)
  | none => .error .fourNumbers

def fourText (address : Nat) : String :=
  String.intercalate "." ([3, 2, 1, 0].map fun i => toString ((address >>> (8 * i)) % 256))

/-! Eight numbers -/

/-- A decimal byte without needless zeros. -/
def decimalByte? (chars : List Char) : Option Nat :=
  if chars.isEmpty || !chars.all Char.isDigit || (chars.head? == some '0' && 1 < chars.length) then
    none
  else
    let value := chars.foldl (fun n c => n * 10 + (c.toNat - '0'.toNat)) 0
    if value < 256 then some value else none

def quad? (chars : List Char) : Option Nat :=
  if chars.isEmpty || 4 < chars.length then none else Text.hexNumber? chars

/-- The numbers of one part between colons: the last part may be four decimal bytes. -/
def partNumbers? (isLast : Bool) (part : List Char) : Option (List Nat) :=
  match quad? part with
  | some number => some [number]
  | none =>
    if isLast then
      match (Text.split '.' part).mapM decimalByte? with
      | some [a, b, c, d] => some [a * 256 + b, c * 256 + d]
      | _ => none
    else none

def partsNumbers? (mayEnd : Bool) : List (List Char) → Option (List Nat)
  | [] => some []
  | [part] => partNumbers? mayEnd part
  | part :: rest => do return (← partNumbers? false part) ++ (← partsNumbers? mayEnd rest)

/-- The numbers between colons; no text has none. -/
def numbers? (mayEnd : Bool) (chars : List Char) : Option (List Nat) :=
  if chars.isEmpty then some [] else partsNumbers? mayEnd (Text.split ':' chars)

/-- What stands before and after the first two colons in a row. -/
def atDoubleColon? : List Char → Option (List Char × List Char)
  | ':' :: ':' :: rest => some ([], rest)
  | c :: rest => (atDoubleColon? rest).map fun (before, after) => (c :: before, after)
  | [] => none

/-- Eight numbers; two colons in a row stand for one or more zeros. -/
def eightNumbers? (chars : List Char) : Option (List Nat) :=
  match atDoubleColon? chars with
  | none => do
    let numbers ← numbers? true chars
    if numbers.length = 8 then some numbers else none
  | some (before, after) => do
    let front ← numbers? false before
    let back ← numbers? true after
    if front.length + back.length ≤ 7 then
      some (front ++ List.replicate (8 - (front.length + back.length)) 0 ++ back)
    else none

def eight? (chars : List Char) : Except Failure Host :=
  match eightNumbers? chars with
  | some numbers => .ok (.eight numbers)
  | none => .error .eightNumbers

/-- How many zeros a list starts with. -/
def zeros (numbers : List Nat) : Nat := (numbers.takeWhile (· == 0)).length

def hexText (n : Nat) : String := String.ofList (Nat.toDigits 16 n)

/-- Numbers with colons between them. The first of the longest runs of zeros, if it has more than
one, is left out. -/
def eightText (numbers : List Nat) : String :=
  let runs := (List.range numbers.length).map fun i => (i, zeros (numbers.drop i))
  let longest := runs.foldl (fun best run => if best.2 < run.2 then run else best) (0, 1)
  let text (part : List Nat) := String.intercalate ":" (part.map hexText)
  if longest.2 ≤ 1 then text numbers
  else text (numbers.take longest.1) ++ "::" ++ text (numbers.drop (longest.1 + longest.2))

/-! Hosts of both sorts -/

/-- A host of an address of a known kind. -/
def specialHost (chars : List Char) : Except Failure Host :=
  match chars with
  | '[' :: rest => if rest.getLast? = some ']' then eight? rest.dropLast else .error .eightNumbers
  | _ =>
    match (String.fromUTF8? ⟨(percentDecode chars).toArray⟩).bind (Name.ascii? ·.toList) with
    | none => .error .hostName
    | some name =>
      if name.isEmpty then .error .emptyHost
      else if endsInNumber name then four? name
      else .ok (.name (String.ofList name))

/-- Characters that no host of another kind of address has. -/
def otherReserved : List Char :=
  ['\x00', '\t', '\n', '\r', ' ', '#', '/', ':', '<', '>', '?', '@', '[', '\\', ']', '^', '|']

def otherHost (chars : List Char) : Except Failure Host :=
  match chars with
  | '[' :: rest => if rest.getLast? = some ']' then eight? rest.dropLast else .error .eightNumbers
  | _ =>
    if chars.any otherReserved.contains then .error .hostCharacter
    else .ok (.name (String.ofList (percentEncode [] chars)))

def Host.text : Host → String
  | .name text => text
  | .four address => fourText address
  | .eight numbers => "[" ++ eightText numbers ++ "]"

end Handoff.Url
