import MetadataHarvest.Text.Bytes
import MetadataHarvest.Url.DomainName
import MetadataHarvest.Url.Ipv4
import MetadataHarvest.Url.Ipv6
import MetadataHarvest.Url.Percent

/-!
# Hosts

The host of an address is an address of 32 or 128 bits or a domain name; where the scheme
says nothing about hosts it may also be any text without certain characters.
-/

namespace MetadataHarvest.Url

open MetadataHarvest.Text

/-- Why a text is no address. -/
inductive Fault where
  | relative
  | emptyHost
  | port
  | ipv4
  | ipv6
  | domainName
  | hostCharacter
  deriving DecidableEq

def Fault.message : Fault → String
  | relative => "relative URL without a base"
  | emptyHost => "empty host"
  | port => "invalid port number"
  | ipv4 => "invalid IPv4 address"
  | ipv6 => "invalid IPv6 address"
  | domainName => "invalid international domain name"
  | hostCharacter => "invalid domain character"

inductive Host where
  | empty
  | domain (labels : List (List Char))
  | ipv4 (address : UInt32)
  | ipv6
  | plain (text : List Char)
  deriving DecidableEq

namespace Host

/-- The address of 128 bits between brackets, when the host starts with one. -/
def bracketed? (cs : List Char) : Option (Except Fault Host) :=
  match cs with
  | '[' :: rest =>
    some (if rest.getLast? == some ']' && Ipv6.isAddress rest.dropLast then .ok .ipv6
      else .error .ipv6)
  | _ => none

/-- A domain name, or the address of 32 bits that its labels denote. -/
def ofLabels (labels : List (List Char)) : Except Fault Host :=
  if labels.all (·.isEmpty) && labels.length = 1 then .error .emptyHost
  else if Ipv4.endsInNumber labels then
    match Ipv4.ofParts? labels with
    | some address => .ok (.ipv4 address)
    | none => .error .ipv4
  else .ok (.domain labels)

/-- The host of a scheme with domain names. -/
def ofDomain (cs : List Char) : Except Fault Host :=
  (bracketed? cs).getD <|
    match (ofUtf8? (percentDecode (utf8 cs))).bind fun s => DomainName.labels? s.toList with
    | some labels => ofLabels labels
    | none => .error .domainName

/-- The host of any other scheme. -/
def ofPlain (cs : List Char) : Except Fault Host :=
  (bracketed? cs).getD <|
    if cs.any fun c => "\x00\t\n\r #/:<>?@[\\]^|".toList.contains c then .error .hostCharacter
    else if cs.isEmpty then .ok .empty
    else .ok (.plain cs)

end Host

end MetadataHarvest.Url
