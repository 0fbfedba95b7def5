/-!
# Why a text is no URL
-/

namespace Reconcile

/-- Why a text is no URL. -/
inductive UrlError where
  /-- A URL of a scheme that needs a host has none. -/
  | emptyHost
  /-- A host name that cannot be brought into its ASCII form, or not into an allowed one. -/
  | invalidDomainName
  /-- A port that is no number or is too large. -/
  | invalidPort
  /-- A host that ends in a number but is no address of four bytes. -/
  | invalidIpv4
  /-- A host in brackets that is no address of eight pieces. -/
  | invalidIpv6
  /-- A host with a character that no host may hold. -/
  | invalidDomainCharacter
  /-- No scheme in front. -/
  | relativeWithoutBase
  /-- A relative reference against a URL without a hierarchical path. -/
  | relativeToOpaque
  deriving DecidableEq, Repr

/-- The wording of a URL error. -/
def UrlError.message : UrlError → String
  | .emptyHost => "empty host"
  | .invalidDomainName => "invalid international domain name"
  | .invalidPort => "invalid port number"
  | .invalidIpv4 => "invalid IPv4 address"
  | .invalidIpv6 => "invalid IPv6 address"
  | .invalidDomainCharacter => "invalid domain character"
  | .relativeWithoutBase => "relative URL without a base"
  | .relativeToOpaque => "relative URL with a cannot-be-a-base base"

end Reconcile
