import MTConnect.Text.Digits
import MTConnect.Text.Split

namespace MTConnect

/-!
# Socket addresses

An address to listen on is an IP address with a port. Four decimal groups
make a version 4 address; none of them has a leading zero. Eight hexadecimal
groups make a version 6 address, which stands in brackets; one run of zero
groups may be left out, the last two groups may be written as a version 4
address, and a scope may follow. There are no host names.
-/

/-- An IP address with its port. -/
inductive SocketAddress where
  | v4 (octets : List Nat) (port : Nat)
  | v6 (groups : List Nat) (scope : Nat) (port : Nat)
  deriving Repr, DecidableEq, Inhabited

namespace SocketAddress

/-- The digits of a base at the front of a text, and what follows them. -/
def spanBase (base : Nat) (text : List Char) : List Char × List Char :=
  text.span fun character => (Text.digitValue? base character).isSome

/-- Read a number of any length that stays below a bound. -/
def readBelow? (bound : Nat) (text : List Char) : Option (Nat × List Char) := do
  let (digits, rest) := spanBase 10 text
  let value ← Text.decimalValue? digits
  if value < bound then pure (value, rest) else none

/-- Read a decimal group: one to three digits, no leading zero, a byte. -/
def readOctet? (text : List Char) : Option (Nat × List Char) := do
  let (digits, rest) := spanBase 10 text
  let value ← Text.decimalValue? digits
  if digits.length ≤ 3 ∧ value < 256 ∧ (digits.head? ≠ some '0' ∨ digits.length = 1) then
    pure (value, rest)
  else
    none

/-- Read a hexadecimal group: one to four digits. -/
def readGroup? (text : List Char) : Option (Nat × List Char) := do
  let (digits, rest) := spanBase 16 text
  if digits.isEmpty || 4 < digits.length then
    none
  else
    let value ← Text.valueOf? 16 digits
    pure (value, rest)

/-- Read a value that a separator comes before, unless it is the first one. -/
def afterSeparator?
    {α : Type}
    (separator : Char)
    (isFirst : Bool)
    (read? : List Char → Option (α × List Char))
    (text : List Char) :
    Option (α × List Char) :=
  if isFirst then
    read? text
  else
    (Text.dropLead? [separator] text).bind read?

/-- Read a number of decimal groups with points between them. -/
def readOctetsFrom? (isFirst : Bool) : Nat → List Char → Option (List Nat × List Char)
  | 0, text => some ([], text)
  | left + 1, text => do
      let (octet, rest) ← afterSeparator? '.' isFirst readOctet? text
      let (others, after) ← readOctetsFrom? false left rest
      pure (octet :: others, after)

/-- Read the four groups of a version 4 address. -/
def readOctets? (text : List Char) : Option (List Nat × List Char) :=
  readOctetsFrom? true 4 text

/-- The two version 6 groups that four bytes make. -/
def pairedOctets : List Nat → List Nat
  | high :: low :: rest => (high * 256 + low) :: pairedOctets rest
  | _ => []

/-- A run of version 6 groups at the front of a text. -/
structure GroupRun where
  groups : List Nat
  /-- Whether the last two groups were written as a version 4 address. -/
  endsInOctets : Bool
  rest : List Char
  deriving Repr, DecidableEq

/-- Read as many groups as there are, up to a limit. -/
def readGroups (isFirst : Bool) : Nat → List Char → GroupRun
  | 0, text => ⟨[], false, text⟩
  | left + 1, text =>
      let octets? :=
        if left = 0 then none
        else afterSeparator? ':' isFirst readOctets? text
      match octets? with
      | some (octets, rest) => ⟨pairedOctets octets, true, rest⟩
      | none =>
          match afterSeparator? ':' isFirst readGroup? text with
          | none => ⟨[], false, text⟩
          | some (group, rest) =>
              let others := readGroups false left rest
              { others with groups := group :: others.groups }

/-- Read a version 6 address: all groups, or two runs around a gap of zeros. -/
def readV6Groups? (text : List Char) : Option (List Nat × List Char) :=
  let head := readGroups true 8 text
  if head.groups.length = 8 then
    some (head.groups, head.rest)
  else if head.endsInOctets then
    none
  else do
    let afterGap ← Text.dropLead? [':', ':'] head.rest
    let tail := readGroups true (7 - head.groups.length) afterGap
    let gap := 8 - head.groups.length - tail.groups.length
    pure (head.groups ++ List.replicate gap 0 ++ tail.groups, tail.rest)

/-- Read a colon and a port. -/
def readPort? (text : List Char) : Option (Nat × List Char) :=
  (Text.dropLead? [':'] text).bind (readBelow? 0x10000)

/-- Read a scope; without one the scope is zero and nothing is read. -/
def readScope (text : List Char) : Nat × List Char :=
  ((Text.dropLead? ['%'] text).bind (readBelow? 0x100000000)).getD (0, text)

/-- Read a version 4 address and a port. -/
def readV4? (text : List Char) : Option (SocketAddress × List Char) := do
  let (octets, afterHost) ← readOctets? text
  let (port, rest) ← readPort? afterHost
  pure (.v4 octets port, rest)

/-- Read a version 6 address in brackets and a port. -/
def readV6? (text : List Char) : Option (SocketAddress × List Char) := do
  let inside ← Text.dropLead? ['['] text
  let (groups, afterGroups) ← readV6Groups? inside
  let (scope, afterScope) := readScope afterGroups
  let afterHost ← Text.dropLead? [']'] afterScope
  let (port, rest) ← readPort? afterHost
  pure (.v6 groups scope port, rest)

/-- Read an address that makes up a whole text. -/
def parse? (text : String) : Option SocketAddress := do
  let (address, rest) ← readV4? text.toList <|> readV6? text.toList
  if rest.isEmpty then pure address else none

end SocketAddress

end MTConnect
