import ComponentCompiler.Settings.Interpolation
import Mathlib

/-!
# Texts made of segments

A text of literals and references is interpolated segment by segment. A reference begins at its
dollar sign and ends at the first closing brace behind it, so its name and its default may hold
further dollar signs and opening braces, and neighbours do not have to be set apart. What stands in
for a reference is never read again: the variables that count are those that the references name.
-/

namespace ComponentCompiler.Settings

/-- A reference as it may be written: a name that is not empty and has no byte that ends it, and
perhaps a default that has no closing brace. -/
structure Reference where
  name : Bytes
  fallback : Option Bytes
  name_ne_nil : name ≠ []
  name_closeBrace : Ascii.closeBrace ∉ name
  name_colon : Ascii.colon ∉ name
  fallback_closeBrace : ∀ d ∈ fallback, Ascii.closeBrace ∉ d

namespace Reference

/-- What is written between the name and the closing brace. -/
def suffix (r : Reference) : Bytes :=
  match r.fallback with
  | none => []
  | some d => Ascii.colon :: Ascii.dash :: d

/-- A reference as it is written, from behind its dollar sign on. -/
def braced (r : Reference) : Bytes := Ascii.openBrace :: (r.name ++ r.suffix ++ [Ascii.closeBrace])

/-- The value of the variable, or the default when that is empty. -/
def value (env : Environment) (r : Reference) : Bytes :=
  match r.fallback with
  | none => env r.name
  | some d => if env r.name = [] then d else env r.name

theorem takeWhile_name (r : Reference) {c : UInt8} (hc : isEnvNameByte c = false) (rest : Bytes) :
    (r.name ++ c :: rest).takeWhile isEnvNameByte = r.name := by
  refine Bytes.takeWhile_append_cons (fun b hb => ?_) hc rest
  have hclose : b ≠ Ascii.closeBrace := fun h => r.name_closeBrace (h ▸ hb)
  have hcolon : b ≠ Ascii.colon := fun h => r.name_colon (h ▸ hb)
  simp [isEnvNameByte, hclose, hcolon]

/-- A reference is read up to its own closing brace, whatever follows. -/
theorem envReference?_braced (r : Reference) (rest : Bytes) :
    envReference? (r.braced ++ rest) = some ⟨r.name, r.fallback.getD [], r.braced.length⟩ := by
  cases hfallback : r.fallback with
  | none =>
      -- the name ends at the closing brace
      have htext : r.braced ++ rest = Ascii.openBrace :: (r.name ++ Ascii.closeBrace :: rest) := by
        simp [braced, suffix, hfallback]
      have hlength : r.braced.length = r.name.length + 2 := by simp [braced, suffix, hfallback]
      have hends : isEnvNameByte Ascii.closeBrace = false := by decide
      rw [htext, envReference?]
      simp only [if_true, r.takeWhile_name hends, List.drop_left, r.name_ne_nil, if_false, hlength,
        Option.getD_none]
  | some d =>
      -- the name ends at the colon, which it cannot hold, and the default at the closing brace
      have hclose : Ascii.closeBrace ∉ d := r.fallback_closeBrace d (by simp [hfallback])
      have htext : r.braced ++ rest = Ascii.openBrace ::
          (r.name ++ Ascii.colon :: Ascii.dash :: (d ++ Ascii.closeBrace :: rest)) := by
        simp [braced, suffix, hfallback]
      have hlength : r.braced.length = r.name.length + d.length + 4 := by
        simp [braced, suffix, hfallback]
        omega
      have hdefault := Bytes.takeWhile_ne_append_cons hclose rest
      have hends : isEnvNameByte Ascii.colon = false := by decide
      have hcolon : Ascii.colon ≠ Ascii.closeBrace := by decide
      rw [htext, envReference?]
      simp only [if_true, r.takeWhile_name hends, List.drop_left, r.name_ne_nil, if_false, hcolon,
        List.head?_cons, List.tail_cons, hdefault, List.isEmpty_cons, Bool.false_eq_true, hlength,
        Option.getD_some]

theorem envReference_value (env : Environment) (r : Reference) (size : Nat) :
    EnvReference.value env ⟨r.name, r.fallback.getD [], size⟩ = r.value env := by
  rw [EnvReference.value, value]
  cases r.fallback with
  | none =>
      simp only [Option.getD_none]
      split
      · rename_i hempty
        exact hempty.symm
      · rfl
  | some d => rfl

end Reference

/-- A stretch of a settings text: a literal without a dollar sign, or a reference. -/
inductive Segment where
  | literal (text : Bytes) (h : Ascii.dollar ∉ text)
  | reference (r : Reference)

namespace Segment

def source : Segment → Bytes
  | literal text _ => text
  | reference r => Ascii.dollar :: r.braced

def value (env : Environment) : Segment → Bytes
  | literal text _ => text
  | reference r => r.value env

/-- The variable that a segment names. -/
def names : Segment → List Bytes
  | literal .. => []
  | reference r => [r.name]

theorem value_congr {env env' : Environment} {s : Segment} (h : ∀ x ∈ s.names, env' x = env x) :
    s.value env' = s.value env := by
  cases s with
  | literal text _ => rfl
  | reference r => rw [value, value, Reference.value, Reference.value, h r.name List.mem_cons_self]

/-! ## Interpolating segments -/

theorem interpolate_literal_append (env : Environment) {text : Bytes} (h : Ascii.dollar ∉ text)
    (rest : Bytes) :
    interpolate env (text ++ rest) = text ++ interpolate env rest := by
  induction text with
  | nil => rfl
  | cons c text ih =>
      obtain ⟨hc, htext⟩ := not_or.mp (mt List.mem_cons.mpr h)
      rw [List.cons_append, interpolate, if_neg (Ne.symm hc), ih htext, List.cons_append]

/-- The matched text of a reference is read as that reference once more. -/
theorem replacement_braced (env : Environment) (r : Reference) :
    replacement env (Ascii.dollar :: r.braced) = r.value env := by
  have hfound := r.envReference?_braced []
  rw [List.append_nil] at hfound
  rw [replacement, findReference?, if_pos rfl, hfound, Option.some_or]
  exact r.envReference_value env _

theorem interpolate_reference_append (env : Environment) (r : Reference) (rest : Bytes) :
    interpolate env (Ascii.dollar :: (r.braced ++ rest)) = r.value env ++ interpolate env rest := by
  rw [interpolate, if_pos rfl, r.envReference?_braced]
  simp only [List.take_left, List.drop_left, replacement_braced]

/-- A segment is replaced on its own, whatever follows. -/
theorem interpolate_source_append (env : Environment) (s : Segment) (rest : Bytes) :
    interpolate env (s.source ++ rest) = s.value env ++ interpolate env rest := by
  cases s with
  | literal text h => exact interpolate_literal_append env h rest
  | reference r => exact interpolate_reference_append env r rest

theorem interpolate_flatMap_source (env : Environment) (segments : List Segment) :
    interpolate env (segments.flatMap source) = segments.flatMap (value env) := by
  induction segments with
  | nil => rw [List.flatMap_nil, List.flatMap_nil, interpolate]
  | cons s segments ih => rw [List.flatMap_cons, interpolate_source_append, ih, List.flatMap_cons]

end Segment

/-- A text of segments is interpolated by putting the literals, and for each reference the value of
its variable or else its default, one after another. Nothing that is put in is looked at again: the
result depends on the environment only through the variables that the references name. -/
theorem interpolate_segments (env : Environment) (segments : List Segment) :
    interpolate env (segments.flatMap Segment.source) = segments.flatMap (Segment.value env) ∧
    ∀ env' : Environment, (∀ s ∈ segments, ∀ x ∈ s.names, env' x = env x) →
      interpolate env' (segments.flatMap Segment.source) =
        interpolate env (segments.flatMap Segment.source) := by
  refine ⟨Segment.interpolate_flatMap_source env segments, fun env' h => ?_⟩
  rw [Segment.interpolate_flatMap_source, Segment.interpolate_flatMap_source]
  exact List.flatMap_congr fun s hs => Segment.value_congr (h s hs)

/-- The signs that open a reference. -/
def opened : Bytes := [Ascii.dollar, Ascii.openBrace]

/-- A literal, a reference whose name holds the signs of another one, and a reference with a default
that holds some. -/
def nestedSegments : List Segment :=
  [.literal (Bytes.lit "a: ") (by decide),
    .reference ⟨opened ++ Bytes.lit "A", none, by decide, by decide, by decide, by simp⟩,
    .reference ⟨Bytes.lit "B", some (opened ++ Bytes.lit "A:-"), by decide, by decide, by decide,
      by simpa using by decide⟩]

/-- The first variable holds a reference to itself, the variable of the other signs has the value
`a`, and all others are empty. -/
def nestedEnvironment (a : Bytes) : Environment := fun name =>
  if name = opened ++ Bytes.lit "A" then opened ++ Bytes.lit "${A}"
  else if name = Bytes.lit "A" then a
  else []

theorem interpolate_nestedSegments :
    nestedSegments.flatMap Segment.source =
      Bytes.lit "a: " ++ opened ++ Bytes.lit "${A}" ++ opened ++ Bytes.lit "B:-${A:-}" ∧
    interpolate (nestedEnvironment []) (nestedSegments.flatMap Segment.source) =
      Bytes.lit "a: " ++ opened ++ Bytes.lit "${A}" ++ opened ++ Bytes.lit "A:-" ∧
    interpolate (nestedEnvironment (Bytes.lit "x")) (nestedSegments.flatMap Segment.source) =
      Bytes.lit "a: " ++ opened ++ Bytes.lit "${A}" ++ opened ++ Bytes.lit "A:-" := by
  obtain ⟨hvalue, hcongr⟩ := interpolate_segments (nestedEnvironment []) nestedSegments
  have hresult : interpolate (nestedEnvironment []) (nestedSegments.flatMap Segment.source) =
      Bytes.lit "a: " ++ opened ++ Bytes.lit "${A}" ++ opened ++ Bytes.lit "A:-" :=
        hvalue.trans (by decide)
  exact ⟨by decide, hresult, (hcongr _ (by decide)).trans hresult⟩

end ComponentCompiler.Settings
