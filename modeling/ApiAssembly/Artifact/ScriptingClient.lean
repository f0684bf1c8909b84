import ApiAssembly.Artifact.PythonLiteral
import ApiAssembly.Component.Basic
import ApiAssembly.Identifier.Names
import ApiAssembly.Route
import ApiAssembly.Text.Whitespace
/-! The scripting client: a class with one method an operation, and the components of the
specification as a literal, one component a line. -/
namespace ApiAssembly.ScriptingClient
open Text

def introduction : List String := [
  "",
  "One method per operation. Path parameters are positional; operations that",
  "declare a request body take an optional ``payload`` that is sent as JSON.",
  "\"\"\"",
  "",
  "import json",
  "import urllib.error",
  "import urllib.request",
  "from urllib.parse import quote",
  "",
  "# Component capabilities: name -> \x7b\"category\", \"properties\"\x7d.",
  "# Categories are inferred from component names and are approximate."]

def support : List String := [
  "",
  "",
  "class ApiError(Exception):",
  "    def __init__(self, status, body):",
  "        super().__init__(\"HTTP %d: %s\" % (status, body))",
  "        self.status = status",
  "        self.body = body",
  "",
  "",
  "def _segment(value):",
  "    return quote(str(value), safe=\"\")",
  "",
  "",
  "def validate_component(name, properties):",
  "    \"\"\"Return a list of problems with ``properties`` for component ``name``.\"\"\"",
  "    spec = COMPONENTS.get(name)",
  "    if spec is None:",
  "        return [\"unknown component %r\" % name]",
  "    problems = []",
  "    known = spec[\"properties\"]",
  "    for key, value in properties.items():",
  "        prop = known.get(key)",
  "        if prop is None:",
  "            problems.append(\"unknown property %r\" % key)",
  "            continue",
  "        if \"enum\" in prop and value not in prop[\"enum\"]:",
  "            problems.append(\"%s: %r is not one of %r\" % (key, value, prop[\"enum\"]))",
  "        if isinstance(value, (int, float)) and not isinstance(value, bool):",
  "            if \"min\" in prop and value < prop[\"min\"]:",
  "                problems.append(\"%s: %r is below %r\" % (key, value, prop[\"min\"]))",
  "            if \"max\" in prop and value > prop[\"max\"]:",
  "                problems.append(\"%s: %r is above %r\" % (key, value, prop[\"max\"]))",
  "    return problems",
  "",
  "",
  "class ApiClient:",
  "    def __init__(self, base_url=\"http://localhost:8080\", timeout=30.0):",
  "        self.base_url = base_url.rstrip(\"/\")",
  "        self.timeout = timeout",
  "",
  "    def _request(self, method, path, payload=None):",
  "        data = None",
  "        headers = \x7b\"Accept\": \"application/json\"\x7d",
  "        if payload is not None:",
  "            data = json.dumps(payload).encode(\"utf-8\")",
  "            headers[\"Content-Type\"] = \"application/json\"",
  "        req = urllib.request.Request(self.base_url + path, data=data, headers=headers, method=method)",
  "        try:",
  "            with urllib.request.urlopen(req, timeout=self.timeout) as resp:",
  "                body = resp.read().decode(\"utf-8\")",
  "        except urllib.error.HTTPError as err:",
  "            raise ApiError(err.code, err.read().decode(\"utf-8\", \"replace\")) from err",
  "        return json.loads(body) if body else None"]

/-- One line that does not end the text it is put into. -/
def docText (text : String) : String :=
  String.ofList ((oneLine text).toList.flatMap fun c =>
    if c = '\\' then ['\\', '\\'] else if c = '"' then ['\''] else [c])

def propertyEntry (property : Property) : Json :=
  Json.ofFields ([("type", .str property.type)] ++
    Property.optionalField "default" property.initial ++
    Property.optionalField "min" (property.least.map Property.real) ++
    Property.optionalField "max" (property.greatest.map Property.real) ++
    Property.optionalField "enum" (property.choices.map .arr))

def componentEntry (component : Component) : Json :=
  Json.ofFields [("category", .str component.category),
    ("properties", .obj (component.properties.mapValues fun _ => propertyEntry).entries)]

/-- Components by name. Of those with one name the last is kept. -/
def components (spec : Specification) : Dict String Component :=
  Dict.ofList ((spec.components.values.filterMap Component.ofSchema?).map fun component =>
    (component.name, component))

def componentLine (entry : String × Component) : String :=
  "    " ++ String.ofList (Json.quote entry.1) ++ ": " ++
    PythonLiteral.text (componentEntry entry.2) ++ ","

def componentLines (spec : Specification) : List String :=
  let entries := (components spec).entries
  if entries.isEmpty then ["COMPONENTS = \x7b\x7d"]
  else ["COMPONENTS = \x7b"] ++ entries.map componentLine ++ ["\x7d"]

/-- Attributes of the client that no method may hide. -/
def attributeNames : List String := ["timeout"]

def methodName (operationId : String) : String :=
  let name := (Identifier.Names.ofOperation operationId).clientMethod
  if attributeNames.contains name then name ++ "_" else name

def arguments (route : Route) : List String :=
  route.pathParameters.map Identifier.clientArgument

def quoted (text : String) : String := String.ofList (Json.quote text)

def substitution (parameter : String) : String :=
  ".replace(" ++ quoted ("\x7b" ++ parameter ++ "\x7d") ++ ", _segment(" ++
    Identifier.clientArgument parameter ++ "))"

def signature (route : Route) : String :=
  String.join ("self" :: (arguments route).map fun name => ", " ++ name) ++
    if route.hasBody then ", payload=None" else ""

def doc (route : Route) : String :=
  let fallback := docText route.key.text
  match route.summary.map docText with
  | some text => if text.isEmpty then fallback else text
  | none => fallback

def method (route : Route) : List String := [
  "",
  "    def " ++ methodName route.operationId ++ "(" ++ signature route ++ "):",
  "        \"\"\"" ++ doc route ++ "\"\"\"",
  "        return self._request(" ++ quoted route.method.name ++ ", " ++ quoted route.path ++
    String.join (route.pathParameters.map substitution) ++
    (if route.hasBody then ", payload" else "") ++ ")"]

def lines (spec : Specification) (routes : List Route) : List String :=
  let title := docText spec.info.title
  let version := docText spec.info.version
  ["# " ++ notice title version, "\"\"\"Client for " ++ title ++ " " ++ version ++ "."] ++
    introduction ++ componentLines spec ++ support ++ routes.flatMap method

def render (spec : Specification) (routes : List Route) : String := unlines (lines spec routes)

end ApiAssembly.ScriptingClient
