import LiterateLinks.Url.Label

/-!
# Hosts

What may stand for a machine in a URL: an address of four numbers, an address of eight groups in
square brackets, or a domain name.  A host whose last label looks like a number must be an address.
-/

namespace LiterateLinks

namespace Url

/-- The value of a digit in any base up to 16. -/
def digitValue? (c : Char) : Option Nat :=
  if c.isDigit then some (c.toNat - '0'.toNat)
  else if 'a' ≤ c && c ≤ 'f' then some (c.toNat - 'a'.toNat + 10)
  else if 'A' ≤ c && c ≤ 'F' then some (c.toNat - 'A'.toNat + 10)
  else none

/-- Whether the character is a hexadecimal digit. -/
def isHexDigit (c : Char) : Bool :=
  (digitValue? c).isSome

/-! ### Addresses -/

/-- The value of digits in a base; `none` if one of them is none of the base's. -/
def ofDigits? (base : Nat) : Nat → List Char → Option Nat
  | n, [] => some n
  | n, c :: cs =>
    match digitValue? c with
    | some d => if d < base then ofDigits? base (n * base + d) cs else none
    | none => none

/-- The value of a number of an address: hexadecimal after `0x`, octal after `0`, decimal
otherwise. -/
def number? : List Char → Option Nat
  | [] => none
  | '0' :: 'x' :: digits => ofDigits? 16 0 digits
  | '0' :: 'X' :: digits => ofDigits? 16 0 digits
  | ['0'] => some 0
  | '0' :: digits => ofDigits? 8 0 digits
  | digits => ofDigits? 10 0 digits

/-- Whether numbers make an address of the given number of bytes: all but the last fill a byte each,
the last one the bytes that are left. -/
def areAddress : Nat → List Nat → Bool
  | _, [] => false
  | 0, _ => false
  | bytes, [n] => n < Nat.pow 256 bytes
  | bytes + 1, n :: ns => n < 256 && areAddress bytes ns

/-- The labels of a host without the empty one that a dot at the end makes. -/
def labels (host : List Char) : List (List Char) :=
  let parts := Text.pieces '.' host
  if parts.getLast? = some [] then parts.dropLast else parts

/-- Whether the last label looks like a number. -/
def endsInNumber (host : List Char) : Bool :=
  match (labels host).getLast? with
  | some label => (!label.isEmpty && label.all Char.isDigit) || (number? label).isSome
  | none => false

/-- Whether the host is an address of up to four numbers. -/
def isAddress (host : List Char) : Bool :=
  match (labels host).mapM number? with
  | some numbers => areAddress 4 numbers
  | none => false

/-- Whether the text is four decimal numbers below 256 without leading zeros. -/
def isDottedQuad (text : List Char) : Bool :=
  let parts := Text.pieces '.' text
  parts.length == 4 && parts.all fun part =>
    !part.isEmpty && part.all Char.isDigit && (part.head? != some '0' || part.length == 1) &&
      (ofDigits? 10 0 part).any (· < 256)

/-- Whether the groups from the `n`-th on complete an address of eight groups; one empty group may
stand for any number of zeros.  Every round reads a character, so the length of the text is fuel
enough. -/
def areGroups : Nat → Nat → Bool → List Char → Bool
  | _, n, shortened, [] => shortened || n == 8
  | 0, _, _, _ :: _ => false
  | fuel + 1, n, shortened, c :: cs =>
    if n == 8 then false
    else if c = ':' then !shortened && areGroups fuel (n + 1) true cs
    else
      let group := ((c :: cs).take 4).takeWhile isHexDigit
      match (c :: cs).drop group.length with
      | [] => shortened || n + 1 == 8
      | '.' :: _ =>
        !group.isEmpty && n ≤ 6 && isDottedQuad (c :: cs) && (shortened || n + 2 == 8)
      | ':' :: rest => !rest.isEmpty && areGroups fuel (n + 1) shortened rest
      | _ => false

/-- Whether the text between square brackets is an address. -/
def isGroupAddress (text : List Char) : Bool :=
  match text with
  | ':' :: ':' :: rest => areGroups rest.length 1 true rest
  | ':' :: _ => false
  | text => areGroups text.length 0 false text

/-- Whether the host is in brackets, and whether it is then an address. -/
def bracketed? (host : List Char) : Option Bool :=
  match host with
  | '[' :: rest =>
    some (rest.getLast? == some ']' && isGroupAddress rest.dropLast)
  | _ => none

/-! ### Domain names -/

/-- The bytes of a text in which `%` and two hexadecimal digits stand for a byte. -/
def percentDecode : List UInt8 → List UInt8
  | a :: b :: c :: rest =>
    match digitValue? (Char.ofNat b.toNat), digitValue? (Char.ofNat c.toNat) with
    | some hi, some lo =>
      if a = 0x25 then UInt8.ofNat (hi * 16 + lo) :: percentDecode rest
      else a :: percentDecode (b :: c :: rest)
    | _, _ => a :: percentDecode (b :: c :: rest)
  | bytes => bytes

/-- ASCII characters that no domain name holds. -/
def isForbidden (c : Char) : Bool :=
  c.toNat ≤ 0x20 || c.toNat == 0x7f || "%#/:<>?@[\\]^|".toList.contains c

/-- The domain name that a host spells, in normal form. -/
def domain? (host : List Char) : Option (List Char) := do
  let bytes := percentDecode (String.ofList host).toUTF8.toList
  let text ← String.fromUTF8? ⟨bytes.toArray⟩
  let name ← normal? text.toList
  if name.isEmpty || name.any isForbidden || !isName name then none else some name

/-- Whether a host of one of the common schemes is in order. -/
def isHost (host : List Char) : Bool :=
  match bracketed? host with
  | some good => good
  | none =>
    match domain? host with
    | some name => !endsInNumber name || isAddress name
    | none => false

/-- Whether a host of any other scheme is in order: it is text with few characters left out. -/
def isOpaqueHost (host : List Char) : Bool :=
  match bracketed? host with
  | some good => good
  | none => host.all fun c => !("\x00\t\n\r #/:<>?@[\\]^|".toList.contains c)

end Url

end LiterateLinks
