import DocMapper.Query.Builders
/-!
# Queries by the names of their builders

`Query.ofCall` builds a query from the name of its builder and the arguments in order. The bindings
of `let` come as a list of pairs, the options of `paginate` as a dictionary.
-/

namespace DocMapper

/-- One page of a set, with the options in a dictionary, which may be left out. -/
def Query.pageOf (source options : Value) : Except Fault Query := do
  let members ← if options.isNull then pure [] else options.named
  let known : List Key := [.text "size", .text "after", .text "before"]
  if members.any fun (key, _) => known.all fun k => !k.same key then throw wrongKind
  return .page source (Value.lookup members "size") (Value.lookup members "after")
    (Value.lookup members "before")

/-- The names of the builders. -/
def Query.builders : List String :=
  ["let", "var", "if", "do", "abort", "lambda", "map", "select", "database", "collection", "index",
    "ref", "documents", "exists", "get", "match", "paginate", "count", "create", "update",
    "replace", "delete", "create_collection", "create_index"]

/-- Builds the query of a builder. -/
def Query.ofCall (name : String) (args : List Value) : Except Fault Query :=
  match name, args with
  | "let", [.list pairs, body] => do
    return .letIn (Dict.ofEntries (← pairs.mapM Value.toEntry)) body
  | "var", [x] => .ok (.var x)
  | "if", [condition, yes, no] => .ok (.ifElse condition yes no)
  | "do", items => Query.inOrder items
  | "abort", [message] => .ok (.abort message)
  | "lambda", [x, body] => .ok (.lambda x body)
  | "map", [source, f] => .ok (.map f source)
  | "select", [path, source] => .ok (Query.selecting path source none)
  | "select", [path, source, fallback] => .ok (Query.selecting path source (some fallback))
  | "database", [x] => .ok (.database x)
  | "collection", [x] => .ok (.collection x none)
  | "collection", [x, scope] => .ok (.collection x scope.given)
  | "index", [x] => .ok (.index x none)
  | "index", [x, scope] => .ok (.index x scope.given)
  | "ref", [source, id] => .ok (.ref source id)
  | "documents", [source] => .ok (.documents source)
  | "exists", [target] => .ok (.present target)
  | "get", [target] => .ok (.get target)
  | "match", source :: terms => .ok (Query.lookUp source terms)
  | "paginate", [source] => Query.pageOf source .null
  | "paginate", [source, options] => Query.pageOf source options
  | "count", [target] => .ok (.count target)
  | "create", [source, params] => Query.creating source params
  | "update", [target, params] => Query.updating target params
  | "replace", [target, params] => Query.replacing target params
  | "delete", [target] => .ok (.delete target)
  | "create_collection", [params] => Query.creatingCollection params
  | "create_index", [params] => Query.creatingIndex params
  | name, _ => .error (if Query.builders.contains name then wrongKind else noMember)

end DocMapper
