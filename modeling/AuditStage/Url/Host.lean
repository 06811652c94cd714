import AuditStage.Url.Address
import AuditStage.Url.Domain

/-! The host part of a URL: a domain, an address, or the name that another scheme gives it. -/

namespace AuditStage.Url

/-- Whether a character may not stand in a host, whatever the scheme. -/
def isForbidden (c : Char) : Bool :=
  "\x00\t\n\r #/:<>?@[\\]^|".toList.contains c

/-- Whether a character may not stand in a domain. -/
def isForbiddenInDomain (c : Char) : Bool :=
  isForbidden c || c == '%' || c.toNat < 0x20 || c.toNat = 0x7F

/-- Whether a character of a host is escaped where the scheme has no domains. -/
def escapedInHost (c : Char) : Bool :=
  c.toNat < 0x20 || 0x7E < c.toNat

/-- The domain or address that a host without brackets names, in its plain form. -/
def parseDomain (cs : List Char) : Option String := do
  let domain ← Domain.toAscii (Text.decodeUtf8Lossy (percentDecode cs))
  if domain.isEmpty || domain.any isForbiddenInDomain then none
  -- The plain form decides whether the host is an address.
  else if endsInNumber domain then parseFour domain
  else some (String.ofList domain)

/-- The host that a text names, in its plain form; special schemes do not take an empty one. -/
def parseHost (special : Bool) (cs : List Char) : Option String :=
  match cs with
  | '[' :: rest =>
    if rest.getLast? = some ']' then
      (parseGroups rest.dropLast).map fun groups => "[" ++ groupsText groups ++ "]"
    else none
  | _ =>
    if special then parseDomain cs
    else if cs.any isForbidden then none
    else some (String.ofList (percentEncode escapedInHost cs))

end AuditStage.Url
