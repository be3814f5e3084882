import Notary.Net.Address

namespace Notary.Net

/-!
# Locations of gateways

A location names the host and the port of a gateway, and what its paths start
with.
-/

/-- A location. -/
structure Location where
  /-- The host and the port as they are spelled. -/
  authority : String
  /-- What stands in front of every path. -/
  base : String
deriving Repr, DecidableEq

namespace Location

/-- How locations start. -/
def scheme : String := "http://"

/-- The port of a location that names none. -/
def defaultPort : Nat := 80

/-- Read a location. -/
def parse? (url : String) : Option Location :=
  if url.startsWith scheme then
    let text := url.toList.drop scheme.length
    let authority := text.takeWhile fun c => c != '/' && c != '?' && c != '#'
    if authority.isEmpty then none
    else some ⟨String.ofList authority, String.ofList (text.drop authority.length)⟩
  else none

/-- The address of a location; `lookup` gives the hosts of names. -/
def address? (lookup : String → Option Host) (l : Location) : Option Address :=
  let withPort (text : String) : Option Address :=
    match Address.parse? text with
    | some address => some address
    | none =>
        let name := text.toList.takeWhile (· != ':')
        match text.toList.drop name.length with
        | ':' :: port => do return ⟨← lookup (String.ofList name), ← readPort? port⟩
        | _ => none
  (withPort l.authority).or (withPort (l.authority ++ ":" ++ toString defaultPort))

end Location

end Notary.Net
