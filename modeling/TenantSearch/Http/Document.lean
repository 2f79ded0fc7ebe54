import TenantSearch.Json.Basic

/-!
# `TenantSearch.Http.Document`: the description of the interface

The server describes its own interface: as a document for programs, and as a page that shows
the document.
-/

set_option autoImplicit false

namespace TenantSearch.Http.Document

/-- The version of the program. -/
def version : String := "0.1.0"

/-- One operation of the interface. -/
structure Operation where
  method : String
  path : String
  summary : String

/-- The operations of the interface, in order of their paths. -/
def operations : List Operation :=
  [⟨"get", "/api/v1/health", "Health check endpoint"⟩,
   ⟨"post", "/api/v1/tenants/\x7btenant\x7d/\x7bentity\x7d/compile",
    "Compile a filter/sort/page request into Cypher without running it"⟩,
   ⟨"post", "/api/v1/tenants/\x7btenant\x7d/\x7bentity\x7d/search",
    "Run a tenant-scoped search and return one page of nodes"⟩]

/-- The document. -/
def openApi : Json :=
  .object
    [("openapi", .string "3.1.0"),
     ("info", .object
       [("title", .string "crmgraph API"),
        ("description", .string "Tenant-scoped filter, sort and search over the CRM graph"),
        ("version", .string version)]),
     ("paths", .object (operations.map fun o =>
       (o.path, .object [(o.method, .object [("summary", .string o.summary)])])))]

/-- The page. -/
def page : String :=
  "\n".intercalate
  ["<!DOCTYPE html>",
   "<html lang=\"en\">",
   "<head>",
   "    <meta charset=\"UTF-8\">",
   "    <meta name=\"viewport\" content=\"width=device-width, initial-scale=1.0\">",
   "    <title>crmgraph API Documentation</title>",
   "    <link rel=\"stylesheet\" type=\"text/css\" href=\"https://unpkg.com/swagger-ui-dist@5/swagger-ui.css\">",
   "    <style>",
   "        html \x7b box-sizing: border-box; overflow-y: scroll; \x7d",
   "        *, *:before, *:after \x7b box-sizing: inherit; \x7d",
   "        body \x7b margin: 0; background: #fafafa; \x7d",
   "    </style>",
   "</head>",
   "<body>",
   "    <div id=\"swagger-ui\"></div>",
   "    <script src=\"https://unpkg.com/swagger-ui-dist@5/swagger-ui-bundle.js\"></script>",
   "    <script src=\"https://unpkg.com/swagger-ui-dist@5/swagger-ui-standalone-preset.js\"></script>",
   "    <script>",
   "        window.onload = () => \x7b",
   "            window.ui = SwaggerUIBundle(\x7b",
   "                url: \"/api/openapi.json\",",
   "                dom_id: '#swagger-ui',",
   "                presets: [",
   "                    SwaggerUIBundle.presets.apis,",
   "                    SwaggerUIStandalonePreset",
   "                ],",
   "                layout: \"StandaloneLayout\",",
   "                deepLinking: true,",
   "                showExtensions: true,",
   "                showCommonExtensions: true",
   "            \x7d);",
   "        \x7d;",
   "    </script>",
   "</body>",
   "</html>"]

end TenantSearch.Http.Document
