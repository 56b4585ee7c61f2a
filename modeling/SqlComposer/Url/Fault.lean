/-
  SqlComposer.Url.Fault — why a text is no URL.
-/

namespace SqlComposer.Url

inductive Fault where
  | noBase
  | emptyHost
  | badPort
  | badIpv4
  | badIpv6
  | badDomain
  | badDomainCharacter
  deriving DecidableEq, Repr

def Fault.text : Fault → String
  | .noBase => "relative URL without a base"
  | .emptyHost => "empty host"
  | .badPort => "invalid port number"
  | .badIpv4 => "invalid IPv4 address"
  | .badIpv6 => "invalid IPv6 address"
  | .badDomain => "invalid international domain name"
  | .badDomainCharacter => "invalid domain character"

end SqlComposer.Url
