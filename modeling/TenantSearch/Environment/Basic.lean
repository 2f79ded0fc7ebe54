import TenantSearch.Json.Basic

/-!
# `TenantSearch.Environment`: variables that are set outside the program
-/

set_option autoImplicit false

namespace TenantSearch

/-- The variables that are set, with their values. -/
abbrev Environment := Members String

namespace Environment

/-- The home folder. -/
def home? (env : Environment) : Option String := (env.get? "HOME").filter (!·.isEmpty)

end Environment

end TenantSearch
