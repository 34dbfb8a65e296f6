import ComponentCompiler.Render.Expr
import ComponentCompiler.Script.Constructor
import ComponentCompiler.Script.Hooks
import ComponentCompiler.Template.Registry

/-!
# Weaving templates into the behaviour script

The body of the constructor is wrapped in a component whose render function declares the factories
of the sub-components and returns the main expression. Hook references become members of the
component. Nothing of the script is removed: weaving only inserts.
-/

namespace ComponentCompiler.Component

open Script (Splice Constructor ConstructorFault)

/-- The text that opens the wrapper, right after the brace that opens the body. -/
def wrapperOpening : Bytes :=
  Bytes.lit "\n" ++ Render.indent ++ Bytes.lit "return new Component(props, el, function () " ++
    [Ascii.openBrace]

/-- The text that closes the wrapper, right before the brace that closes the body. -/
def wrapperClosing : Bytes :=
  Bytes.lit "\n" ++ Render.indent ++ [Ascii.closeBrace] ++ Bytes.lit ");\n"

/-- The line that binds a sub-component's factory. -/
def factoryLine (e : Template.Entry) : Bytes :=
  Render.indent ++ Bytes.lit "const " ++ e.key ++ Bytes.lit " = (props) => " ++ e.expr ++
    Bytes.lit ";\n"

/-- The line that returns the main expression. -/
def returnLine (main : Bytes) : Bytes :=
  Bytes.lit "\n" ++ Render.indent ++ Bytes.lit "return (" ++ main ++ Bytes.lit ");\n"

/-- The end of the render function, given the code in front of it, which it starts on
a fresh line. -/
def renderEnding (before main : Bytes) (registry : Template.Registry) : Bytes :=
  (if before.getLast? = some Ascii.newline then [] else [Ascii.newline]) ++
    registry.entries.flatMap factoryLine ++ returnLine main

/-- The splices that wrap the body of a constructor. -/
def wrapperSplices (code : Bytes) (c : Constructor) (main : Bytes) (registry : Template.Registry) :
    List Splice :=
  [⟨c.opening + 1, wrapperOpening⟩,
    ⟨c.closing, renderEnding (code.take c.closing) main registry⟩,
    ⟨c.closing, wrapperClosing⟩]

/-- A behaviour script woven with the main expression and the sub-components. -/
def weave (code main : Bytes) (registry : Template.Registry) (hooks : List Bytes) :
    Except ConstructorFault Bytes :=
  (Script.locate code).map fun c =>
    Script.applySplices code (wrapperSplices code c main registry ++ Script.hookSplices code hooks)

/-- The line that imports the runtime. -/
def importLine (runtime : Bytes) : Bytes :=
  Bytes.lit "import { h, Component } from " ++ Script.quote runtime ++ Bytes.lit ";\n"

/-- The script of a component that has none. -/
def emptyBehavior (name : Bytes) : Bytes :=
  Bytes.lit "export default function " ++ name ++ Bytes.lit "(props, el) " ++
    [Ascii.openBrace, Ascii.newline, Ascii.closeBrace, Ascii.newline]

end ComponentCompiler.Component
