import ProxyDial.Text.Blank

set_option autoImplicit false

/-! The proxy that environment variables name. -/

namespace ProxyDial
open Text

/-- The values of named variables. -/
abbrev Environment := String → Option String

namespace Environment

/-- No variable is set. -/
def empty : Environment := fun _ => none

/-- The variables that may name a proxy, the first one first. -/
def proxyVariables : List String := ["HTTPS_PROXY", "HTTP_PROXY", "https_proxy", "http_proxy"]

/-- The first value of these that is not blank, trimmed. -/
def proxy? (environment : Environment) : Option String :=
  proxyVariables.findSome? fun name => nonBlank? (environment name)

end Environment

end ProxyDial
