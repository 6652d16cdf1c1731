import Shapewright.Binding.Input
import Shapewright.Generated.Types

/-!
# Generated servers

For each service an interface is declared, a function that binds the input of each operation, and a
handler that routes requests to an implementation of the interface.

* `Operation` — an operation that can be served.
* `Operation.bindFunction` — the function that binds its input.
* `handler` — the function that makes a handler.
* `ServiceDecl` — what is declared for a service.
* `Registry.serviceDecls` — the declarations for all services; what cannot be served is left out and
  reported.
-/

set_option autoImplicit false

namespace Shapewright

open Code

/-- An operation that can be served. -/
structure Operation where
  name : String
  input : Input
  /-- The type of the output, if there is one. -/
  output : Option String
  method : String
  route : String
  /-- The status of a successful answer. -/
  code : Int

namespace Operation

/-- Whether the operation takes an input. -/
def hasInput (o : Operation) : Bool := o.input.shape.isSome

/-- The method of the interface. -/
def signature (o : Operation) : String :=
  o.name ++ "(ctx context.Context" ++ (if o.hasInput then ", input *" ++ o.input.typeName else "")
    ++ ")" ++ match o.output with
      | some type => " (*" ++ type ++ ", error)"
      | none => " error"

/-- The name of the function that binds the input. -/
def bindName (o : Operation) : String := "bind" ++ o.name ++ "Input"

/-- Binds an input that is the whole body. -/
def bindWholeBody (i : Input) : List Stmt :=
  [.define ["raw", "ok", "err"] [supportCall "BodyValue" [Binding.request, .str "body"]],
   .returnOnError [.nil],
   .branch none (.not (.ident "ok"))
     [.ret [.nil, supportCall "MissingField" [.str "body", support "OriginBody"]]] [],
   .define ["v", "err"] [.callOf (i.typeName ++ "FromJSON") [.str "body", .ident "raw"]],
   .returnOnError [.nil],
   .ret [.addr (.ident "v"), .nil]]

/-- Binds an input member by member and makes it. -/
def bindMembers (i : Input) : List Stmt :=
  i.statements [.nil] ++ [.ret [.callOf ("New" ++ i.typeName) i.arguments, .nil]]

/-- The function that binds the input. -/
def bindFunction (o : Operation) : Function :=
  { name := o.bindName, params := [⟨"r", "*http.Request"⟩]
    results := ["*" ++ o.input.typeName, "error"]
    body := if o.input.kind == .wholeBody then bindWholeBody o.input else bindMembers o.input }

/-- Reports an error and stops. -/
def reportError : Stmt :=
  .branch none (.binary (.ident "err") "!=" .nil)
    [.eval (supportCall "WriteError" [.ident "w", .ident "err"]), .ret []] []

/-- Calls the implementation. -/
def callStatement (o : Operation) : Stmt :=
  let args : List Expr := .callOf "r.Context" [] :: if o.hasInput then [.ident "input"] else []
  let call : Expr := .callOf ("impl." ++ o.name) args
  if o.output.isSome then .define ["output", "err"] [call]
  else if o.hasInput then .assign ["err"] [call]
  else .define ["err"] [call]

/-- Sends the answer. -/
def answerStatements (o : Operation) : List Stmt :=
  let send := fun (body : Expr) =>
    Stmt.eval (supportCall "WriteJSON" [.ident "w", .int o.code, body])
  if o.output.isSome then
    [.var "body" "interface\x7b\x7d" none,
     .branch none (.binary (.ident "output") "!=" .nil)
       [.assign ["body"] [.call (.sel (.ident "output") "ToJSON") [] []]] [],
     send (.ident "body")]
  else [send .nil]

/-- Registers the operation with the router. -/
def routeStatement (o : Operation) : Stmt :=
  .eval (.callOf "mux.HandleFunc" [.str (o.method ++ " " ++ o.route),
    .func [⟨"w", "http.ResponseWriter"⟩, ⟨"r", "*http.Request"⟩] []
      ((if o.hasInput then
        [.define ["input", "err"] [.callOf o.bindName [Binding.request]], reportError] else [])
        ++ [o.callStatement, reportError] ++ o.answerStatements)])

/-- Whether the names of the operation can be parsed. -/
def parses (o : Operation) : Bool :=
  isIdentifier o.name && (!o.hasInput || isTypeText o.input.typeName)
    && (o.output.map isTypeText).getD true
    && o.input.declarations.all fun d => isIdentifier d.var && isTypeText d.type

end Operation

/-- The function that makes the handler of a service. -/
def handler (service : String) (ops : List Operation) : Function :=
  { doc := "New" ++ service ++ "Handler routes requests to the operations of impl."
    name := "New" ++ service ++ "Handler", params := [⟨"impl", service⟩]
    results := ["http.Handler"]
    body := [.define ["mux"] [.callOf "http.NewServeMux" []]] ++ ops.map (·.routeStatement)
      ++ [.ret [.ident "mux"]] }

/-- What is declared for a service. -/
structure ServiceDecl where
  name : String
  doc : String
  operations : List Operation
  /-- The operations whose bind function is declared here and not with an earlier service. -/
  binds : List Operation

namespace ServiceDecl

/-- The functions that are declared for a service. -/
def functions (d : ServiceDecl) : List Function :=
  (d.binds.filter (·.hasInput)).map (·.bindFunction) ++ [handler d.name d.operations]

/-- The source of the declarations. -/
def text (d : ServiceDecl) : String :=
  docComment d.doc ++ "type " ++ d.name ++ " interface \x7b\n"
    ++ String.join (d.operations.map fun o => "\t" ++ o.signature ++ "\n") ++ "\x7d\n\n"
    ++ String.join (d.functions.map fun f => f.text ++ "\n")

/-- Whether the declarations can be parsed. -/
def parses (d : ServiceDecl) : Bool :=
  isIdentifier d.name && d.operations.all (·.parses)

end ServiceDecl

namespace Registry

/-- How an operation is reached: without a target it is posted to its own name. -/
def routeOf (i : Input) : Outcome (String × String × Int) :=
  match i.endpoint with
  | none => .ok ("POST", "/" ++ i.operation.id.name, 200)
  | some e => do
    let route ← e.uri.route.at_ (.operation i.operation.id.name)
    return (e.method, route, if e.code == 0 then 200 else e.code)

/-- The type of an operation's output, if it has one. -/
def outputOf (g : Registry) (op : Shape) : Outcome (Option String) :=
  if op.output.isEmpty || op.output == ShapeId.unit then .ok none
  else do
    let s ← (g.catalog.expect op.output).at_ (.outputOf op.id.name)
    return some (typeName s)

/-- An operation whose input is bound, ready to be served. -/
def serve (g : Registry) (i : Input) : Outcome Operation := do
  let (method, route, code) ← routeOf i
  let output ← g.outputOf i.operation
  return { name := Naming.exported i.operation.id.name, input := i, output, method, route, code }

/-- Those of some inputs that can be served, and why the others cannot. -/
def serveEach (g : Registry) : List Input → List Operation × List Failure
  | [] => ([], [])
  | i :: rest =>
    let (ops, failures) := serveEach g rest
    match g.serve i with
    | .ok op => (op :: ops, failures)
    | .error f => (ops, f :: failures)

/-- The operations of a service that can be served, and why the others cannot. -/
def serviceOperations (g : Registry) (service : Shape) : List Operation × List Failure :=
  match g.bindService service.id with
  | .error f => ([], Failure.collect [] f)
  | .ok (inputs, failure) =>
    let (ops, failures) := g.serveEach inputs
    (ops, (failure.map (Failure.collect [])).getD [] ++ failures)

/-- The declarations for services; `bound` lists the operations that have a bind function. -/
def serviceDeclsFrom (g : Registry) (bound : List String) :
    List Shape → List ServiceDecl × List Failure
  | [] => ([], [])
  | s :: rest =>
    let (operations, failures) := g.serviceOperations s
    let binds := (Text.firstBy (·.name) operations).filter fun o => !bound.contains o.name
    let (decls, more) := serviceDeclsFrom g (bound ++ operations.map (·.name)) rest
    ({ name := Naming.exported s.id.name, doc := s.documentation, operations, binds } :: decls,
      (match Failure.ofCollected failures with
        | some f => [.within (.service s.id.name) f]
        | none => []) ++ more)

/-- The declarations for all services, and what could not be declared. -/
def serviceDecls (g : Registry) : List ServiceDecl × List Failure :=
  g.serviceDeclsFrom [] g.catalog.services

/-- The packages that servers need. -/
def serverImports (g : Registry) (decls : List ServiceDecl) : List String :=
  let ops := decls.flatMap (·.operations)
  "net/http" :: (if ops.isEmpty then [] else ["context", g.options.package])
    ++ ops.flatMap fun o => o.input.declarations.flatMap (·.imports)

end Registry
end Shapewright
