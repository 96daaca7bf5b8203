import ReleaseListing.Url.Basic
import ReleaseListing.Url.Domain
import ReleaseListing.Url.Ipv4
import ReleaseListing.Url.Ipv6
import ReleaseListing.Url.Percent

/-!
# Hosts

A host is an IPv6 address in brackets, or, for the schemes that need one, an IPv4 address or a
domain name; for other schemes it is any text without the characters that end or part a URL.
-/

namespace ReleaseListing.Url

/-- The address between brackets, written anew. -/
def bracketed (text : List Char) : Except Error (List Char) :=
  if text.getLast? = some ']' then
    match ipv6? text.dropLast with
    | some pieces => .ok ('[' :: renderIpv6 pieces ++ [']'])
    | none => .error .invalidIpv6
  else .error .invalidIpv6

/-- The host of a scheme that needs one. -/
def specialHost (text : List Char) : Except Error (List Char) :=
  match text with
  | '[' :: inner => bracketed inner
  | _ =>
    match Domain.toAscii? (percentDecode text) with
    | none => .error .invalidDomainName
    | some [] => .error .emptyHost
    | some domain =>
      if endsInNumber domain then
        match ipv4? domain with
        | some n => .ok (renderIpv4 n)
        | none => .error .invalidIpv4
      else .ok domain

/-- Characters that no host may hold. -/
def isForbiddenInHost (c : Char) : Bool :=
  c == '\x00' || "\t\n\r #/:<>?@[\\]^|".toList.contains c

/-- The host of any other scheme. -/
def plainHost (text : List Char) : Except Error (List Char) :=
  match text with
  | '[' :: inner => bracketed inner
  | _ =>
    if text.any isForbiddenInHost then .error .invalidHostCharacter
    else .ok (percentEncode isControlOrBeyond text)

end ReleaseListing.Url
