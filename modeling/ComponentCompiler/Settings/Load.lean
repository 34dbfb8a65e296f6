import ComponentCompiler.FileTree
import ComponentCompiler.Settings.Decode
import ComponentCompiler.Settings.Interpolation

/-!
# Loading settings

The settings file is the one asked for, else the one that the environment names, else the default
file in the working directory if it exists. Without a file the defaults hold. Relative directories
in a file are relative to the file's own directory.
-/

namespace ComponentCompiler.Settings

/-- The settings file that is looked for in the working directory. -/
def defaultFile : Bytes := Bytes.lit "vcc.yaml"

/-- The environment variable that names the settings file. -/
def fileVariable : Bytes := Bytes.lit "VCC_CONFIG"

/-- Why settings cannot be loaded. -/
inductive LoadFault where
  /-- The file asked for does not exist. -/
  | notFound (path : Bytes)
  /-- The file that the environment names does not exist. -/
  | variableNotFound (path : Bytes)
  /-- The file cannot be read. -/
  | unreadable (fault : PathFault)
  /-- The file is no well-formed document. -/
  | malformed
  /-- Values have the wrong type. -/
  | mistyped (faults : List TypeFault)
  /-- The settings are not valid. -/
  | invalid (faults : List Fault)
  deriving DecidableEq, Repr, Inhabited

/-- The message of a fault. -/
def LoadFault.message : LoadFault → Bytes
  | notFound path => Bytes.lit "config file not found: " ++ path
  | variableNotFound path => Bytes.lit "VCC_CONFIG file not found: " ++ path
  | unreadable fault => Bytes.lit "failed to read config: " ++ fault.message
  | malformed => Bytes.lit "failed to parse config: yaml: malformed document"
  | mistyped faults =>
    Bytes.lit "failed to parse config: yaml: unmarshal errors:\n  " ++
      (Bytes.lit "\n  ").intercalate (faults.map TypeFault.message)
  | invalid faults => faultsMessage faults

/-- The path of the settings file, if there is one. -/
def filePath (t : FileTree) (path : Bytes) (env : Environment) : Except LoadFault (Option Bytes) :=
  if path ≠ [] then
    if t.isPresent path then .ok (some path) else .error (.notFound path)
  else
    let named := env fileVariable
    if named ≠ [] then
      if t.isPresent named then .ok (some named) else .error (.variableNotFound named)
    else .ok (if t.isPresent defaultFile then some defaultFile else none)

/-- The settings that a text describes, over the defaults. -/
def ofText (data : Bytes) : Except LoadFault Settings :=
  match Yaml.Document.parse? data with
  | none => .error .malformed
  | some none => .ok {}
  | some (some doc) =>
    match (Decode.document doc (Nat.pow (data.length + 2) 3) {}).run [] with
    | none => .error .malformed
    | some (s, []) => .ok s
    | some (_, faults) => .error (.mistyped faults)

/-- A directory seen from the directory of the settings file. -/
def resolveDirectory (baseDir dir : Bytes) : Bytes :=
  if dir = [] || Path.isAbsolute dir then dir else Path.join [baseDir, dir]

/-- The settings of a file that lies in `baseDir`, with its directories resolved. -/
def inDirectory (s : Settings) (baseDir : Bytes) : Settings :=
  { s with
    baseDir
    srcDir := resolveDirectory baseDir s.srcDir
    outDir := resolveDirectory baseDir s.outDir }

/-- The settings, unless something is wrong with them. -/
def validate (s : Settings) : Except LoadFault Settings :=
  match s.faults with
  | [] => .ok s
  | fs => .error (.invalid fs)

/-- Loads the settings and gives the absolute path of their file, empty if there is none. -/
def load (t : FileTree) (path : Bytes) (env : Environment) :
    Except LoadFault (Settings × Bytes) := do
  match ← filePath t path env with
  | none => return ({}, [])
  | some path =>
    let absPath := Path.absolute t.cwd path
    let data ← (t.read path).mapError .unreadable
    let s ← ofText (interpolate env data)
    let s ← (s.inDirectory (Path.dir absPath)).validate
    return (s, absPath)

end ComponentCompiler.Settings
