import ComponentCompiler.Text.Quoted

/-!
# Command line flags

A flag is written with one or two dashes. A switch stands alone or has a truth value behind an
equals sign; any other flag has a value, behind an equals sign or as the next argument. Flags end at
the first argument that is none, or at two dashes.
-/

namespace ComponentCompiler.Cli

/-- The flags, in the order in which they are listed. -/
inductive Flag where
  | config
  | dev
  | help
  | name
  | out
  | quiet
  | runtime
  | sanitize
  | verbose
  | version
  | watch
  deriving DecidableEq, Repr, Inhabited

namespace Flag

/-- All flags. -/
def all : List Flag :=
  [config, dev, help, name, out, quiet, runtime, sanitize, verbose, version, watch]

/-- How a flag is written, without its dashes. -/
def spelling : Flag → Bytes
  | config => Bytes.lit "config"
  | dev => Bytes.lit "dev"
  | help => Bytes.lit "help"
  | name => Bytes.lit "name"
  | out => Bytes.lit "out"
  | quiet => Bytes.lit "q"
  | runtime => Bytes.lit "runtime"
  | sanitize => Bytes.lit "sanitize"
  | verbose => Bytes.lit "v"
  | version => Bytes.lit "version"
  | watch => Bytes.lit "watch"

/-- What a flag is for. -/
def purpose : Flag → Bytes
  | config => Bytes.lit "Path to config file"
  | dev => Bytes.lit "Development mode (warnings)"
  | help => Bytes.lit "Show help"
  | name => Bytes.lit "Component name, when compiling a single file"
  | out => Bytes.lit "Output directory (default: next to each source)"
  | quiet => Bytes.lit "Only print errors"
  | runtime => Bytes.lit "Import path of the vdom runtime"
  | sanitize => Bytes.lit "Reject unsafe markup in templates"
  | verbose => Bytes.lit "Print every compiled file"
  | version => Bytes.lit "Show version"
  | watch => Bytes.lit "Recompile when sources change"

/-- Whether a flag is a switch. -/
def isSwitch : Flag → Bool
  | config | name | out | runtime => false
  | _ => true

/-- The flag of a spelling. -/
def ofSpelling? (s : Bytes) : Option Flag := all.find? fun f => f.spelling == s

/-- A flag's line in the usage text, with its purpose. A switch of one letter has it on
the same line. -/
def usage (f : Flag) : Bytes :=
  let head := Bytes.lit "  -" ++ f.spelling ++ (if f.isSwitch then [] else Bytes.lit " string")
  head ++ (if head.length ≤ 4 then Bytes.lit "\t" else Bytes.lit "\n    \t") ++ f.purpose ++
    Bytes.lit "\n"

end Flag

/-- The usage text. -/
def usage : Bytes := Bytes.lit "Usage of vcc:\n" ++ Flag.all.flatMap Flag.usage

/-- What a command line asks for. -/
structure Arguments where
  config : Bytes := []
  out : Bytes := []
  runtime : Bytes := []
  name : Bytes := []
  dev : Bool := false
  sanitize : Bool := false
  watch : Bool := false
  verbose : Bool := false
  quiet : Bool := false
  version : Bool := false
  help : Bool := false
  /-- The arguments behind the flags. -/
  paths : List Bytes := []
  deriving DecidableEq, Repr, Inhabited

namespace Arguments

/-- Sets a flag that has a value. -/
def setValue (a : Arguments) (f : Flag) (value : Bytes) : Arguments :=
  match f with
  | .config => { a with config := value }
  | .out => { a with out := value }
  | .runtime => { a with runtime := value }
  | .name => { a with name := value }
  | _ => a

/-- Sets a switch. -/
def setSwitch (a : Arguments) (f : Flag) (on : Bool) : Arguments :=
  match f with
  | .dev => { a with dev := on }
  | .sanitize => { a with sanitize := on }
  | .watch => { a with watch := on }
  | .verbose => { a with verbose := on }
  | .quiet => { a with quiet := on }
  | .version => { a with version := on }
  | .help => { a with help := on }
  | _ => a

end Arguments

/-- What is wrong with a command line. -/
inductive FlagFault where
  | badSyntax (argument : Bytes)
  | undefined (name : Bytes)
  | needsArgument (name : Bytes)
  | badSwitch (value name : Bytes)
  /-- Only the usage was asked for. -/
  | helpRequested
  deriving DecidableEq, Repr, Inhabited

/-- The message of a fault. -/
def FlagFault.message : FlagFault → Bytes
  | badSyntax argument => Bytes.lit "bad flag syntax: " ++ argument
  | undefined name => Bytes.lit "flag provided but not defined: -" ++ name
  | needsArgument name => Bytes.lit "flag needs an argument: -" ++ name
  | badSwitch value name =>
    Bytes.lit "invalid boolean value " ++ Text.quoted value ++ Bytes.lit " for -" ++ name ++
      Bytes.lit ": parse error"
  | helpRequested => Bytes.lit "flag: help requested"

/-- What is printed about a fault: its message and the usage, or the usage alone when it
was asked for. -/
def FlagFault.report (f : FlagFault) : Bytes :=
  (if f = .helpRequested then [] else f.message ++ Bytes.lit "\n") ++ usage

/-- The truth value of a switch. -/
def switchValue? (s : Bytes) : Option Bool :=
  if (["1", "t", "T", "true", "TRUE", "True"].map Bytes.lit).contains s then some true
  else if (["0", "f", "F", "false", "FALSE", "False"].map Bytes.lit).contains s then some false
  else none

/-- An argument as it is read: the end of the flags, or a flag with the value behind
its equals sign. -/
inductive Word where
  /-- The first argument that is no flag. -/
  | path
  /-- The two dashes that end the flags. -/
  | terminator
  | flag (name : Bytes) (value : Option Bytes)
  | malformed
  deriving DecidableEq, Repr, Inhabited

/-- Reads an argument. -/
def Word.ofArgument (s : Bytes) : Word :=
  match s with
  | 0x2d :: c :: rest =>
    let body := if c = Ascii.dash then rest else c :: rest
    if c = Ascii.dash && rest.isEmpty then .terminator
    else
      match body with
      | [] => .malformed
      | d :: tail =>
        if d = Ascii.dash ∨ d = Ascii.equals then .malformed
        else
          let name := d :: tail.takeWhile (· != Ascii.equals)
          .flag name (body.drop name.length).tail?
  | _ => .path

/-- Reads a command line into what was read before. -/
def Arguments.parse : Arguments → List Bytes → Except FlagFault Arguments
  | a, [] => .ok a
  | a, arg :: rest =>
    match Word.ofArgument arg with
    | .path => .ok { a with paths := arg :: rest }
    | .terminator => .ok { a with paths := rest }
    | .malformed => .error (.badSyntax arg)
    | .flag name value =>
      match Flag.ofSpelling? name with
      | none =>
        .error (if name = Bytes.lit "h" then .helpRequested else .undefined name)
      | some f =>
        if f.isSwitch then
          match switchValue? (value.getD (Bytes.lit "true")) with
          | some on => parse (a.setSwitch f on) rest
          | none => .error (.badSwitch (value.getD []) name)
        else
          match value, rest with
          | some v, rest => parse (a.setValue f v) rest
          | none, v :: rest => parse (a.setValue f v) rest
          | none, [] => .error (.needsArgument name)

end ComponentCompiler.Cli
