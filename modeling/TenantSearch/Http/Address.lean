import TenantSearch.Text.Split

/-!
# `TenantSearch.Http.Address`: where a server listens

A host is an address of one of the two versions of the protocol or a name. Brackets may stand
around it. The only name that is known without asking anyone is `localhost`, and a server can
listen on the addresses of the machine itself: those of the loopback interface, and the one that
stands for all interfaces.
-/

set_option autoImplicit false

namespace TenantSearch.Http.Address

/-- The host without the brackets around it. -/
def bare (host : String) : String :=
  let inner := host.toList.dropWhile (· = '[')
  String.ofList (inner.reverse.dropWhile (· = ']')).reverse

/-- A number in decimal digits up to 255, without zeros in front. -/
def octet? (s : String) : Option Nat :=
  let cs := s.toList
  if cs.isEmpty || 3 < cs.length || !cs.all Char.isDigit || (cs.head? = some '0' && 1 < cs.length)
  then none
  else
    let n := cs.foldl (fun n c => n * 10 + (c.toNat - '0'.toNat)) 0
    if n < 256 then some n else none

/-- An address of four octets, as two groups of 16 bits. -/
def shortGroups? (s : String) : Option (List Nat) := do
  match ← (Text.split '.' s).mapM octet? with
  | [a, b, c, d] => some [a * 256 + b, c * 256 + d]
  | _ => none

/-- The value of a hexadecimal digit. -/
def hexDigit? (c : Char) : Option Nat :=
  if c.isDigit then some (c.toNat - '0'.toNat)
  else if 'a' ≤ c ∧ c ≤ 'f' then some (c.toNat - 'a'.toNat + 10)
  else if 'A' ≤ c ∧ c ≤ 'F' then some (c.toNat - 'A'.toNat + 10)
  else none

/-- A group of one to four hexadecimal digits. -/
def group? (s : String) : Option Nat := do
  let digits ← s.toList.mapM hexDigit?
  if digits.isEmpty || 4 < digits.length then none
  else some (digits.foldl (fun n d => n * 16 + d) 0)

/-- Groups with colons between them. The last one may be written as four octets, if `octets`
allows it. -/
def groups? (octets : Bool) (s : String) : Option (List Nat) :=
  if s.isEmpty then some []
  else
    let parts := Text.split ':' s
    match parts.reverse with
    | last :: front =>
      match if octets then shortGroups? last else none with
      | some low => (front.reverse.mapM group?).map (· ++ low)
      | none => parts.mapM group?
    | [] => none

/-- The text in front of the first double colon and the text behind it. -/
def splitDouble? : List Char → Option (List Char × List Char)
  | ':' :: ':' :: rest => some ([], rest)
  | c :: rest => (splitDouble? rest).map fun (front, behind) => (c :: front, behind)
  | [] => none

/-- An address of eight groups. A double colon stands for the zero groups that are missing. -/
def longGroups? (s : String) : Option (List Nat) :=
  match splitDouble? s.toList with
  | none => (groups? true s).filter (·.length = 8)
  | some (front, behind) => do
    let front ← groups? false (String.ofList front)
    let behind ← groups? true (String.ofList behind)
    let count := front.length + behind.length
    if count < 8 then some (front ++ List.replicate (8 - count) 0 ++ behind) else none

/-- Whether the groups are an address of four octets that a machine has itself. -/
def isOwnShort (groups : List Nat) : Bool :=
  groups = [0, 0] || groups.head?.any (· / 256 = 127)

/-- Whether the groups are an address that a machine has itself. -/
def isOwnLong (groups : List Nat) : Bool :=
  groups = [0, 0, 0, 0, 0, 0, 0, 0] || groups = [0, 0, 0, 0, 0, 0, 0, 1]
    || (groups.take 6 = [0, 0, 0, 0, 0, 0xffff] && isOwnShort (groups.drop 6))

/-- Why a server cannot listen there. -/
inductive Failure where
  | unknownName (host : String)
  /-- The address belongs to another machine. -/
  | foreign
deriving DecidableEq, Repr

/-- The failure in words. -/
def Failure.message : Failure → String
  | unknownName host => "Failed to resolve server host " ++ host
  | foreign => "Cannot assign requested address (os error 99)"

/-- Whether a server can listen at the host, and why not. -/
def failure? (host : String) : Option Failure :=
  let name := bare host
  match shortGroups? name, longGroups? name with
  | some groups, _ => if isOwnShort groups then none else some .foreign
  | none, some groups => if isOwnLong groups then none else some .foreign
  | none, none =>
    if name.map Char.toLower = "localhost" then none else some (.unknownName name)

end TenantSearch.Http.Address
