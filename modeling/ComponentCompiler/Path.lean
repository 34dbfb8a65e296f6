import ComponentCompiler.Bytes.Basic

/-!
# Slash-separated paths

Paths are byte strings whose components are separated by slashes. Cleaning a path is lexical: it
drops empty components and `.`, and lets `..` cancel the component before it.
-/

namespace ComponentCompiler.Path

/-- The component that stands for the directory itself. -/
def dot : Bytes := [Ascii.dot]

/-- The component that stands for the parent directory. -/
def dotDot : Bytes := [Ascii.dot, Ascii.dot]

/-- Whether a path starts at the root. -/
def isAbsolute (p : Bytes) : Bool := p.head? == some Ascii.slash

/-- The components of a path that are neither empty nor `.`. -/
def components (p : Bytes) : List Bytes :=
  (p.splitOn Ascii.slash).filter fun c => c != [] && c != dot

/-- Components with every `..` cancelled as far as possible. `acc` holds those already kept, last
first; at the root a `..` has no effect. -/
def cancel (absolute : Bool) (acc : List Bytes) : List Bytes → List Bytes
  | [] => acc.reverse
  | c :: cs =>
    if c = dotDot then
      match acc with
      | [] => cancel absolute (if absolute then [] else [dotDot]) cs
      | a :: as => if a = dotDot then cancel absolute (dotDot :: acc) cs else cancel absolute as cs
    else cancel absolute (c :: acc) cs

/-- The path with the given components. -/
def ofComponents (absolute : Bool) (cs : List Bytes) : Bytes :=
  let path := [Ascii.slash].intercalate cs
  if absolute then Ascii.slash :: path else if cs.isEmpty then dot else path

/-- The components of the cleaned form of a path. -/
def cleanComponents (p : Bytes) : List Bytes := cancel (isAbsolute p) [] (components p)

/-- The shortest lexical form of a path. -/
def clean (p : Bytes) : Bytes := ofComponents (isAbsolute p) (cleanComponents p)

/-- Elements joined by slashes and cleaned; leading empty elements are ignored. -/
def join (elements : List Bytes) : Bytes :=
  match elements.dropWhile (·.isEmpty) with
  | [] => []
  | es => clean ([Ascii.slash].intercalate es)

/-- The part of a byte string after its last slash. -/
def afterLastSlash (p : Bytes) : Bytes := (p.reverse.takeWhile (· != Ascii.slash)).reverse

/-- The directory of a path: what comes before its last slash, cleaned. -/
def dir (p : Bytes) : Bytes := clean (p.take (p.length - (afterLastSlash p).length))

/-- The last component of a path. -/
def base (p : Bytes) : Bytes :=
  match p.reverse.dropWhile (· == Ascii.slash) with
  | [] => if p.isEmpty then dot else [Ascii.slash]
  | rev => (rev.takeWhile (· != Ascii.slash)).reverse

/-- The extension of a path: its last component from the last dot on. -/
def extension (p : Bytes) : Bytes :=
  let name := (afterLastSlash p).reverse
  if name.contains Ascii.dot then (name.takeWhile (· != Ascii.dot)).reverse.cons Ascii.dot else []

/-- Two lists without their common beginning. -/
def dropCommon : List Bytes → List Bytes → List Bytes × List Bytes
  | a :: as, b :: bs => if a = b then dropCommon as bs else (a :: as, b :: bs)
  | as, bs => (as, bs)

/-- The components of a cleaned path as a target: the directory itself is the component `.`. -/
def targetComponents (p : Bytes) : List Bytes :=
  let cs := cleanComponents p
  if cs.isEmpty && !isAbsolute p then [dot] else cs

/-- The path from `base` to `target`, if it follows from the two paths alone. -/
def relative? (base target : Bytes) : Option Bytes :=
  if clean base = clean target then some dot
  else if isAbsolute (clean base) != isAbsolute (clean target) then none
  else
    match dropCommon (cleanComponents base) (targetComponents target) with
    | ([], down) => some ([Ascii.slash].intercalate down)
    | (up :: ups, down) =>
      if up = dotDot ∧ down ≠ [] then none
      else some ([Ascii.slash].intercalate ((up :: ups).map (fun _ => dotDot) ++ down))

/-- The absolute form of a path, seen from the directory `cwd`. -/
def absolute (cwd p : Bytes) : Bytes := if isAbsolute p then clean p else join [cwd, p]

end ComponentCompiler.Path
