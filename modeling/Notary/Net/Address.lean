import Notary.Text.Digit

namespace Notary.Net

/-!
# Socket addresses

An address is a host and a port. Four numbers between points and the groups of
the longer form are read here; any other host is a name that somebody has to
look up.
-/

/-- A host that is given by its number. -/
inductive Host where
  /-- Four bytes, the first of them highest. -/
  | short (bytes : List Nat)
  /-- Eight groups of sixteen bits. -/
  | long (groups : List Nat)
deriving Repr, DecidableEq

/-- A socket address. -/
structure Address where
  host : Host
  port : Nat
deriving Repr, DecidableEq

/-- Read the number that starts a text; it has at most `digits` digits and is below `limit`. -/
def readNumber? (base digits limit : Nat) (leadingZero : Bool) (text : List Char) :
    Option (Nat × List Char) :=
  let spelled := text.takeWhile fun c => (Text.digit? base c).isSome
  let value := Text.valueOfDigits base (spelled.filterMap (Text.digit? base))
  if spelled.isEmpty || digits < spelled.length || limit ≤ value then none
  else if !leadingZero && 1 < spelled.length && spelled.head? = some '0' then none
  else some (value, text.drop spelled.length)

/-- Read a character. -/
def readMark? (mark : Char) : List Char → Option (List Char)
  | c :: rest => if c == mark then some rest else none
  | [] => none

/-- Read four bytes between points. -/
def readShort? (text : List Char) : Option (List Nat × List Char) := do
  let (a, text) ← readNumber? 10 3 256 false text
  let text ← readMark? '.' text
  let (b, text) ← readNumber? 10 3 256 false text
  let text ← readMark? '.' text
  let (c, text) ← readNumber? 10 3 256 false text
  let text ← readMark? '.' text
  let (d, text) ← readNumber? 10 3 256 false text
  return ([a, b, c, d], text)

/-- The two groups that four bytes make. -/
def groupsOf : List Nat → List Nat
  | a :: b :: rest => (a * 256 + b) :: groupsOf rest
  | _ => []

/-- Read at most `room` groups between colons; the last two may be spelled as four bytes. -/
def readGroups (first : Bool) : (room : Nat) → List Char → List Nat × Bool × List Char
  | 0, text => ([], false, text)
  | room + 1, text =>
      let inner := if first then some text else readMark? ':' text
      let bytes := if room = 0 then none else inner.bind readShort?
      match bytes with
      | some (bytes, rest) => (groupsOf bytes, true, rest)
      | none =>
          match inner.bind (readNumber? 16 4 65536 true) with
          | some (group, rest) =>
              let (groups, short, rest) := readGroups false room rest
              (group :: groups, short, rest)
          | none => ([], false, text)

/-- Read eight groups, of which two colons may leave out zeros. -/
def readLong? (text : List Char) : Option (List Nat × List Char) := do
  let (head, short, rest) := readGroups true 8 text
  if head.length = 8 then return (head, rest)
  else if short then none
  else
    let rest ← readMark? ':' (← readMark? ':' rest)
    let (tail, _, rest) := readGroups true (7 - head.length) rest
    return (head ++ List.replicate (8 - head.length - tail.length) 0 ++ tail, rest)

/-- Read a port at the end of a text. -/
def readPort? (text : List Char) : Option Nat := do
  let (port, rest) ← readNumber? 10 text.length 65536 true text
  if rest.isEmpty then return port else none

namespace Address

/-- Read an address whose host is given by its number. -/
def parse? (text : String) : Option Address :=
  match readShort? text.toList with
  | some (bytes, ':' :: rest) => (readPort? rest).map fun port => ⟨.short bytes, port⟩
  | _ =>
      match text.toList with
      | '[' :: rest => do
          let (groups, rest) ← readLong? rest
          let rest :=
            match rest with
            | '%' :: scope => scope.dropWhile Char.isDigit
            | _ => rest
          let rest ← readMark? ':' (← readMark? ']' rest)
          return ⟨.long groups, ← readPort? rest⟩
      | _ => none

/-- The words for a text that is no address. -/
def unreadable : String := "invalid socket address syntax"

/-- Whether an address belongs to this machine, or stands for all that do. -/
def isLocal (a : Address) : Bool :=
  match a.host with
  | .short bytes => bytes.head? = some 127 || bytes.all (· = 0)
  | .long groups => groups.take 7 = List.replicate 7 0 && groups.all (· ≤ 1)

end Address

/-- Why there is nothing to listen at. -/
inductive ListenFault where
  | noPort
  | badPort
  | unknownHost
  | foreignHost
deriving Repr, DecidableEq

/-- The words for a fault. -/
def ListenFault.text : ListenFault → String
  | noPort => "invalid socket address"
  | badPort => "invalid port value"
  | unknownHost =>
      "failed to lookup address information: Temporary failure in name resolution"
  | foreignHost => "Cannot assign requested address (os error 99)"

/-- A port as it may be spelled: decimal digits after an optional plus sign. -/
def portText? (text : List Char) : Option Nat :=
  match text with
  | '+' :: rest => readPort? rest
  | _ => readPort? text

/--
The address to listen at; `lookup` gives the hosts of names, and `own` tells
which addresses are there.
-/
def listenAddress (lookup : String → Option Host) (own : Address → Bool) (text : String) :
    Except ListenFault Address :=
  let known : Except ListenFault Address :=
    match Address.parse? text with
    | some address => .ok address
    | none =>
        let port := (text.toList.reverse.takeWhile (· != ':')).reverse
        let name := text.toList.take (text.length - port.length - 1)
        if !text.toList.contains ':' then .error .noPort
        else
          match portText? port, lookup (String.ofList name) with
          | none, _ => .error .badPort
          | some _, none => .error .unknownHost
          | some port, some host => .ok ⟨host, port⟩
  match known with
  | .ok address => if own address then .ok address else .error .foreignHost
  | .error fault => .error fault

/-- The only name that needs nobody to look it up. -/
def localNames (name : String) : Option Host :=
  if name = "localhost" then some (.short [127, 0, 0, 1]) else none

end Notary.Net
