import ApiAssembly.Identifier.Names
import ApiAssembly.Route
import ApiAssembly.Text.Quoted
import ApiAssembly.Text.Whitespace
/-! The router: a table with one row an operation, a placeholder function for each handler that is
missing, and a function that finds the row of a request. -/
namespace ApiAssembly.Router
open Text

def head : List String := [
  "//",
  "// One entry per operation, ordered by path then method.",
  "",
  "/// Implementation an entry dispatches to.",
  "#[derive(Debug, Clone, Copy)]",
  "pub enum HandlerRef \x7b",
  "    /// Declared handler binding resolved on disk",
  "    Bound \x7b",
  "        file: &'static str,",
  "        function: &'static str,",
  "    \x7d,",
  "    /// Declared handler binding missing on disk",
  "    Stub(fn() -> StubResponse),",
  "    /// Operation declares no handler binding",
  "    Unbound,",
  "\x7d",
  "",
  "#[derive(Debug, Clone, Copy, PartialEq, Eq)]",
  "pub struct StubResponse \x7b",
  "    pub status: u16,",
  "    pub operation_id: &'static str,",
  "\x7d",
  "",
  "#[derive(Debug, Clone, Copy)]",
  "pub struct Route \x7b",
  "    pub method: &'static str,",
  "    pub path: &'static str,",
  "    pub operation_id: &'static str,",
  "    pub handler: HandlerRef,",
  "\x7d",
  "",
  "pub static ROUTES: &[Route] = &["]

def tail : List String := [
  "",
  "/// Find the route for `method` and a concrete request `path`, returning the",
  "/// extracted path parameters in template order.",
  "pub fn match_route(method: &str, path: &str) -> Option<(&'static Route, Vec<(&'static str, String)>)> \x7b",
  "    let wanted: Vec<&str> = path.trim_matches('/').split('/').collect();",
  "    'routes: for route in ROUTES \x7b",
  "        if !route.method.eq_ignore_ascii_case(method) \x7b",
  "            continue;",
  "        \x7d",
  "        let pattern: Vec<&'static str> = route.path.trim_matches('/').split('/').collect();",
  "        if pattern.len() != wanted.len() \x7b",
  "            continue;",
  "        \x7d",
  "        let mut params = Vec::new();",
  "        for (p, w) in pattern.iter().copied().zip(wanted.iter().copied()) \x7b",
  "            match p.strip_prefix('\x7b').and_then(|p| p.strip_suffix('\x7d')) \x7b",
  "                Some(name) if !w.is_empty() => params.push((name, w.to_string())),",
  "                Some(_) => continue 'routes,",
  "                None if p == w => \x7b\x7d",
  "                None => continue 'routes,",
  "            \x7d",
  "        \x7d",
  "        return Some((route, params));",
  "    \x7d",
  "    None",
  "\x7d"]

/-- Backslashes in file names are written as slashes. -/
def fileText (file : FilePath) : String :=
  String.ofList (file.text.toList.map fun c => if c = '\\' then '/' else c)

def stubName (route : Route) : String := (Identifier.Names.ofOperation route.operationId).routerStub

def handlerText (route : Route) : String :=
  if route.stub then "HandlerRef::Stub(" ++ stubName route ++ ")"
  else
    match route.handler with
    | some binding =>
      "HandlerRef::Bound \x7b file: " ++ Quoted.quote (fileText binding.file) ++ ", function: " ++
        Quoted.quote binding.function ++ " \x7d"
    | none => "HandlerRef::Unbound"

def rowStart : String := "Route \x7b method: "

def row (route : Route) : String :=
  "    " ++ rowStart ++ Quoted.quote route.method.name ++ ", path: " ++ Quoted.quote route.path ++
    ", operation_id: " ++ Quoted.quote route.operationId ++ ", handler: " ++ handlerText route ++
    " \x7d,"

def stubFile (route : Route) : String :=
  match route.handler with
  | some binding => fileText binding.file
  | none => ""

def stub (route : Route) : List String := [
  "",
  "/// Placeholder for `" ++ route.method.name ++ " " ++ route.path ++ "` (" ++ stubFile route ++
    " not found).",
  "pub fn " ++ stubName route ++ "() -> StubResponse \x7b",
  "    StubResponse \x7b",
  "        status: 501,",
  "        operation_id: " ++ Quoted.quote route.operationId ++ ",",
  "    \x7d",
  "\x7d"]

def lines (info : Info) (routes : List Route) : List String :=
  ("// " ++ notice (oneLine info.title) (oneLine info.version)) :: head ++ routes.map row ++
    ["];"] ++ (routes.filter Route.stub).flatMap stub ++ tail

def render (spec : Specification) (routes : List Route) : String :=
  unlines (lines spec.info routes)

end ApiAssembly.Router
