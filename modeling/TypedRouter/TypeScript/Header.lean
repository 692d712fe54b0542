/-!
# The header of a router module

Every router module starts with the same lines: a note, the imports, and the types that router
types are built from.  The header is kept as a list of what it imports and declares, so that
its names can be told without reading its text.
-/

namespace TypedRouter.TypeScript

/-- A type that the header declares: its name, whether it is exported, and the lines that follow
the name. -/
structure Helper where
  exported : Bool
  name : String
  lines : List String
  deriving Repr, Inhabited

/-- The text of a declared type. -/
def Helper.text (h : Helper) : String :=
  (if h.exported then "export type " else "type ") ++ h.name ++ "\n".intercalate h.lines

namespace Header

/-- The types that the header imports. -/
def imports : List String :=
  ["AnyQueryProcedure", "AnyMutationProcedure", "AnyProcedure", "inferProcedureInput",
    "inferProcedureOutput", "DefaultErrorShape", "DefaultDataTransformer", "RootConfig",
    "CreateRouterInner", "BuildProcedure", "unsetMarker", "ProcedureRouterRecord", "AnyRouter"]

/-- Where the imported types come from. -/
def source : String := "@trpc/server"

/-- The parameters of every procedure, apart from its output. -/
def procedureParams : Helper where
  exported := false
  name := "ProcedureParams"
  lines := ["<TInput> = \x7b",
    "  _config: RootConfig<\x7b",
    "    ctx: object;",
    "    meta: object;",
    "    errorShape: DefaultErrorShape;",
    "    transformer: DefaultDataTransformer;",
    "  \x7d>;",
    "  _output_out: typeof unsetMarker;",
    "  _meta: unknown;",
    "  _ctx_out: unknown;",
    "  _input_in: TInput;",
    "  _input_out: unknown;",
    "  _output_in: unknown;",
    "\x7d;"]

/-- A procedure that reads. -/
def queryProcedure : Helper where
  exported := false
  name := "QueryProcedure"
  lines := ["<TInput, TOutput> = BuildProcedure<'query', ProcedureParams<TInput>, TOutput>;"]

/-- A procedure that changes state. -/
def mutationProcedure : Helper where
  exported := false
  name := "MutationProcedure"
  lines := ["<TInput, TOutput> = BuildProcedure<'mutation', ProcedureParams<TInput>, TOutput>;"]

/-- The configuration of every router. -/
def fakeConfig : Helper where
  exported := true
  name := "FakeConfig"
  lines := [" = RootConfig<\x7b",
    "  ctx: object;",
    "  meta: object;",
    "  errorShape: DefaultErrorShape;",
    "  transformer: DefaultDataTransformer;",
    "\x7d>;"]

/-- How a procedure is called. -/
def resolver : Helper where
  exported := false
  name := "Resolver"
  lines := ["<TProcedure extends AnyProcedure> = (",
    "  input: inferProcedureInput<TProcedure>,",
    ") => Promise<inferProcedureOutput<TProcedure>>;"]

/-- The methods that a client finds on a procedure. -/
def decorateProcedure : Helper where
  exported := true
  name := "DecorateProcedure"
  lines := ["<TProcedure extends AnyProcedure> =",
    "  TProcedure extends AnyQueryProcedure",
    "    ? \x7b query: Resolver<TProcedure> \x7d",
    "    : TProcedure extends AnyMutationProcedure",
    "      ? \x7b mutate: Resolver<TProcedure> \x7d",
    "      : never;"]

/-- The methods that a client finds on a router. -/
def decoratedRecord : Helper where
  exported := true
  name := "DecoratedProcedureRecord"
  lines := ["<TProcedures extends ProcedureRouterRecord> = \x7b",
    "  [TKey in keyof TProcedures]: TProcedures[TKey] extends AnyRouter",
    "    ? DecoratedProcedureRecord<TProcedures[TKey]['_def']['record']>",
    "    : TProcedures[TKey] extends AnyProcedure",
    "      ? DecorateProcedure<TProcedures[TKey]>",
    "      : never;",
    "\x7d;"]

/-- The types that the header declares, in groups; an empty line stands between groups. -/
def helpers : List (List Helper) :=
  [[procedureParams], [queryProcedure, mutationProcedure], [fakeConfig], [resolver],
    [decorateProcedure], [decoratedRecord]]

/-- The names that the header introduces. -/
def names : List String :=
  imports ++ (helpers.flatMap id).map Helper.name

/-- The note that the module starts with. -/
def note : String := "// Generated by trellis. Manual changes will be overwritten.\n"

/-- The import statement. -/
def importText : String :=
  "import type \x7b\n" ++ String.join (imports.map fun name => "  " ++ name ++ ",\n") ++
    "\x7d from '" ++ source ++ "';\n"

/-- A group of declared types. -/
def groupText (group : List Helper) : String :=
  "\n" ++ String.join (group.map fun h => h.text ++ "\n")

/-- The text of the header. -/
def text : String :=
  note ++ importText ++ String.join (helpers.map groupText)

end Header

end TypedRouter.TypeScript
