import TenantSearch.Text.Alphanumeric

/-!
# `TenantSearch.Tenant`: names of tenants

A tenant has a name of 1 to 64 bytes, made of letters and numbers of any script, dashes and
underscores.
-/

set_option autoImplicit false

namespace TenantSearch.Tenant

/-- How many bytes a name may have. -/
def maxBytes : Nat := 64

/-- Whether a name may hold the character. -/
def isNameChar (c : Char) : Bool :=
  Text.isAlphanumeric c || c = '-' || c = '_'

/-- Whether the text is the name of a tenant. -/
def isValid (name : String) : Bool :=
  !name.isEmpty && name.utf8ByteSize ≤ maxBytes && name.toList.all isNameChar

end TenantSearch.Tenant
