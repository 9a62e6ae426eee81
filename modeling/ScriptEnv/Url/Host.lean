import ScriptEnv.Url.Ipv4
import ScriptEnv.Url.Ipv6
import ScriptEnv.Url.Percent

namespace ScriptEnv.Url

inductive Fault
  | emptyHost
  | badInternationalName
  | badPort
  | badIpv4
  | badIpv6
  | badHostCharacter
  | relative
  deriving DecidableEq, Repr

def Fault.message : Fault → String
  | emptyHost => "empty host"
  | badInternationalName => "invalid international domain name"
  | badPort => "invalid port number"
  | badIpv4 => "invalid IPv4 address"
  | badIpv6 => "invalid IPv6 address"
  | badHostCharacter => "invalid domain character"
  | relative => "relative URL without a base"

def forbiddenInHost (c : Char) : Bool :=
  ['\x00', '\t', '\n', '\r', ' ', '#', '/', ':', '<', '>', '?', '@', '[', '\\', ']', '^', '|'].contains c

def forbiddenInDomain (c : Char) : Bool :=
  c.toNat ≤ 0x20 || c.toNat == 0x7F || c == '%' || forbiddenInHost c

def bracketedHost (s : List Char) : Except Fault (List Char) :=
  if s.getLast? = some ']' then
    match Ipv6.parse? s.dropLast with
    | some ps => .ok ('[' :: Ipv6.render ps ++ [']'])
    | none => .error .badIpv6
  else .error .badIpv6

def opaqueHost (s : List Char) : Except Fault (List Char) :=
  match s with
  | '[' :: r => bracketedHost r
  | _ => if s.any forbiddenInHost then .error .badHostCharacter else .ok (percentEncode controls s)

def domain (s : List Char) : Except Fault (List Char) :=
  match s with
  | '[' :: r => bracketedHost r
  | _ =>
    match percentText? s with
    | none => .error .badInternationalName
    | some name =>
      let name := name.toList.map Char.toLower
      if name.any forbiddenInDomain then .error .badInternationalName
      else if name = [] then .error .emptyHost
      else if Ipv4.endsInNumber name then
        match Ipv4.parse? name with
        | some n => .ok (Ipv4.render n)
        | none => .error .badIpv4
      else .ok name

end ScriptEnv.Url
