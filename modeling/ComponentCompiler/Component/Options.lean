import ComponentCompiler.Bytes.Basic

/-!
# Options

The options of a compilation. An empty field, or a hook list that is not given, stands
for the default.
-/

namespace ComponentCompiler.Component

/-- Where log lines go to; each starts with the label. -/
structure Logger where
  label : Bytes := []
  deriving DecidableEq, Repr, Inhabited

/-- Options of a compilation. -/
structure Options where
  /-- The import path of the runtime. -/
  runtime : Bytes := []
  /-- The tag that template blocks are normalised to. -/
  container : Bytes := []
  /-- The identifiers that become members of the component instance. -/
  hooks : Option (List Bytes) := none
  /-- Whether unsafe markup is rejected. -/
  sanitize : Bool := false
  /-- Whether warnings are logged. -/
  dev : Bool := false
  /-- Whether progress is logged. -/
  verbose : Bool := false
  /-- The extension of component sources. -/
  extension : Bytes := []
  /-- The extension of generated files. -/
  outExtension : Bytes := []
  /-- The output root; when empty, output is written next to its source. -/
  outDir : Bytes := []
  /-- How many components are compiled at a time; not positive means one per processor. -/
  workers : Int := 0
  logger : Option Logger := none
  deriving DecidableEq, Repr, Inhabited

/-- The default runtime. -/
def defaultRuntime : Bytes := Bytes.lit "../vdom.js"

/-- The default container. -/
def defaultContainer : Bytes := Bytes.lit "div"

/-- The default extension of component sources. -/
def defaultExtension : Bytes := Bytes.lit ".vc"

/-- The default extension of generated files. -/
def defaultOutExtension : Bytes := Bytes.lit ".js"

/-- The default hooks. -/
def defaultHooks : List Bytes := [Bytes.lit "useState", Bytes.lit "useEffect"]

/-- `value`, or `default` when it is empty. -/
def orDefault (value default : Bytes) : Bytes := if value = [] then default else value

namespace Options

/-- The hooks in force. -/
def activeHooks (o : Options) : List Bytes := o.hooks.getD defaultHooks

/-- The options with every empty field set to its default. -/
def withDefaults (o : Options) : Options :=
  { o with
    runtime := orDefault o.runtime defaultRuntime
    container := orDefault o.container defaultContainer
    hooks := some o.activeHooks
    extension := orDefault o.extension defaultExtension
    outExtension := orDefault o.outExtension defaultOutExtension }

end Options

end ComponentCompiler.Component
