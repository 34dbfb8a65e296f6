import ComponentCompiler.Component.Options
import ComponentCompiler.Path
import ComponentCompiler.Script.Identifier
import ComponentCompiler.Text.Utf8

/-!
# Names and output paths

A component is named after its source file, and its code is written next to the source or, below an
output root, at the same place as the source below its own root.
-/

namespace ComponentCompiler.Component

/-- A name whose first byte is in upper case. A first byte that is no ASCII byte becomes the
replacement character. -/
def upperFirst : Bytes → Bytes
  | [] => []
  | c :: rest =>
    if c < 0x80 then (if Ascii.isLower c then c - 0x20 else c) :: rest
    else Utf8.encodeCode 0xfffd ++ rest

/-- The file name of a path without its extension. -/
def stem (path : Bytes) : Bytes :=
  let base := Path.base path
  base.dropEnding (Path.extension base)

/-- The component name that a source path gives, if it is an identifier; otherwise the name
that is none. -/
def componentName (path : Bytes) : Except Bytes Bytes :=
  let name := upperFirst (stem path)
  if Script.isIdentifier name then .ok name else .error name

/-- Where the code of the component `name`, compiled from `path`, is written. `root` is the
directory under which the source was found. A source that is not below it goes to the
output root itself. -/
def outputPath (root path name : Bytes) (options : Options) : Bytes :=
  let opts := options.withDefaults
  let file := name ++ opts.outExtension
  if opts.outDir = [] then Path.join [Path.dir path, file]
  else
    let below :=
      match Path.relative? root (Path.dir path) with
      | some rel => if rel.startsWith Path.dotDot then Path.dot else rel
      | none => Path.dot
    Path.join [opts.outDir, below, file]

end ComponentCompiler.Component
