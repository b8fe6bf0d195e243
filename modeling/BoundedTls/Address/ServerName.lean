import BoundedTls.Address.Ip
import BoundedTls.Text.Quoted

/-!
# Server names

The name that a client verifies a server certificate against: an IP address or a DNS name. A DNS
name has at most 253 characters and consists of labels of one to 63 letters, digits, underscores
and hyphens with dots between them; a hyphen neither starts nor ends a label, the last label
holds something besides digits, and one dot may end the name.
-/

namespace BoundedTls.Address

open BoundedTls.Text

/-- A server name. -/
inductive ServerName where
  | dns (name : String)
  | ip (address : Ip)
deriving DecidableEq, Repr

namespace ServerName

/-- A character of a label. -/
def isLabelChar (c : Char) : Bool :=
  ('a' ≤ c && c ≤ 'z') || ('A' ≤ c && c ≤ 'Z') || ('0' ≤ c && c ≤ '9') || c == '_' || c == '-'

/-- A label by itself is well formed. -/
def isLabel (label : List Char) : Bool :=
  !label.isEmpty && label.length ≤ 63 && label.all isLabelChar
    && label.head? != some '-' && label.getLast? != some '-'

/-- A label that holds digits only. -/
def isNumeric (label : List Char) : Bool :=
  label.all Char.isDigit

/-- The parts of a text between its dots. -/
def labels : List Char → List (List Char)
  | [] => [[]]
  | c :: rest =>
    if c = '.' then [] :: labels rest
    else
      match labels rest with
      | first :: others => (c :: first) :: others
      | [] => [[c]]

/-- The labels of a name; an empty part after the last dot is not one. -/
def nameLabels (s : List Char) : List (List Char) :=
  let parts := labels s
  if 1 < parts.length && parts.getLast? == some [] then parts.dropLast else parts

/-- The text is a DNS name. -/
def isDnsName (s : List Char) : Bool :=
  let parts := nameLabels s
  s.length ≤ 253 && parts.all isLabel && !(parts.getLast?.map isNumeric).getD true

/-- The server name that a string denotes. -/
def parse? (s : String) : Option ServerName :=
  match Ip.ofText? s.toList with
  | some address => some (ip address)
  | none => if isDnsName s.toList then some (dns s) else none

/-- The name as it is written in a configuration. -/
def render : ServerName → String
  | dns name => name
  | ip address => address.render

/-- Numbers between brackets. -/
def byteList (bytes : List Nat) : String :=
  "[" ++ ", ".intercalate (bytes.map numeral) ++ "]"

/-- The name with its kind, for diagnostics. -/
def describe : ServerName → String
  | dns name => "DnsName(" ++ quoted name ++ ")"
  | ip (.v4 address) =>
    "IpAddress(V4(Ipv4Addr(" ++ byteList (address.octets.map UInt8.toNat) ++ ")))"
  | ip (.v6 address) => "IpAddress(V6(Ipv6Addr(" ++ byteList address.octets ++ ")))"

end ServerName

end BoundedTls.Address
