import ComponentCompiler.Proofs.OutputPath
import ComponentCompiler.Proofs.SourceListing
import Mathlib

/-!
# The tree of outputs

With an output directory, the output of a source lies below that directory on the way on which the
source lies below its root. A way that leads up, or none, is replaced by the output directory
itself, so no root and no path brings an output out of it.
-/

namespace ComponentCompiler.Component

open ComponentCompiler.Path (IsProper IsClean)

variable {t : FileTree} {rs cs : List Bytes} {root p name ext : Bytes} {opts : Options}
  {sources : List Bytes}

/-- The way down to the directory of `p`, or the directory itself where the way leads up or
is not known. -/
def wayDown (root p : Bytes) : Bytes :=
  match Path.relative? root (Path.dir p) with
  | some rel => if rel.startsWith Path.dotDot then Path.dot else rel
  | none => Path.dot

theorem isProper_wayDown (root p : Bytes) : ∀ c ∈ Path.components (wayDown root p), IsProper c := by
  have hdot : ∀ c ∈ Path.components Path.dot, IsProper c := List.forall_mem_nil _
  unfold wayDown
  split
  · rename_i rel hrel
    split
    · exact hdot
    · rename_i hdown
      exact Path.isProper_of_relative? hrel (by simpa using hdown)
  · exact hdot

/-- The way down is put below the output directory name by name. -/
theorem outputPath_eq_join (hout : opts.outDir ≠ []) (root p name : Bytes) :
    outputPath root p name opts = Path.join
      (opts.outDir ::
        (Path.components (wayDown root p) ++ [name ++ opts.withDefaults.outExtension])) := by
  have houtput : outputPath root p name opts =
      Path.join [opts.outDir, wayDown root p, name ++ opts.withDefaults.outExtension] := if_neg hout
  rw [houtput, Path.join_cons hout, Path.join_cons hout, List.flatMap_append,
    Path.flatMap_components_of_isProper (isProper_wayDown root p)]
  simp

theorem slash_not_mem_outExtension (h : Ascii.slash ∉ opts.outExtension) :
    Ascii.slash ∉ opts.withDefaults.outExtension := by
  unfold Options.withDefaults orDefault
  dsimp only
  split
  · decide
  · exact h

/-- An absolute clean path by its components, and what lies below it by names. -/
theorem exists_ofComponents_of_isAbsolute (habsolute : Path.isAbsolute root)
    (hclean : Path.clean root = root) :
    ∃ rs, IsClean true rs ∧ root = Path.ofComponents true rs ∧
      ∀ cs, (∀ c ∈ cs, IsProper c) → Path.join (root :: cs) =
        Path.ofComponents true (rs ++ cs) := by
  have hroot : root = Path.ofComponents true (Path.cleanComponents root) := by
    rw [← habsolute]
    exact hclean.symm
  have hne : root ≠ [] := by
    rintro rfl
    cases habsolute
  refine ⟨Path.cleanComponents root, habsolute ▸ Path.isClean_cleanComponents root, hroot,
    fun cs hcs => ?_⟩
  rw [Path.join_of_isProper hne hcs, habsolute]

section

variable (ht : t.WellFormed) (hrs : IsClean true rs)
  (h : discover t (Path.ofComponents true rs) ext = .ok sources) (hp : p ∈ sources)

include ht hrs h hp

theorem exists_dir_eq (hroot : t.root.isDirectoryAt rs) :
    ∃ cs, (∀ c ∈ cs, IsProper c) ∧ (Path.ofComponents false cs).startsWith Path.dotDot = false ∧
      Path.dir p = Path.ofComponents true (rs ++ cs) := by
  obtain ⟨_, hsources⟩ := discover_of_isDirectoryAt ht hrs hroot h
  obtain ⟨ds, base, hsource, _⟩ := hsources p hp
  have hds : ∀ d ∈ ds, IsProper d := fun d hd => hsource.clean.isProper d (by simp [hd])
  exact ⟨ds, hds, hsource.liesBelow.down, hsource.liesBelow.dir_eq⟩

/-- The way down to a source that a search finds is known and does not look like one up. -/
theorem relative?_of_mem_discover (hcs : ∀ c ∈ cs, IsProper c)
    (hdir : Path.dir p = Path.ofComponents true (rs ++ cs)) :
    Path.relative? (Path.ofComponents true rs) (Path.dir p) = some (Path.ofComponents false cs) ∧
      (Path.ofComponents false cs).startsWith Path.dotDot = false := by
  have hbelow : IsClean true (rs ++ cs) := hrs.append hcs
  refine ⟨by rw [hdir, Path.relative?_append hrs hcs], ?_⟩
  by_cases hroot : t.root.isDirectoryAt rs = true
  · obtain ⟨ds, hds, hdown, hds'⟩ := exists_dir_eq ht hrs h hp hroot
    rw [hds'] at hdir
    rwa [← List.append_cancel_left (Path.ofComponents_inj (hrs.append hds) hbelow hdir)]
  · -- a root that is the source itself does not lie below its own path
    rcases discover_of_not_isDirectoryAt ht hrs hroot h with rfl | ⟨rfl, _, _⟩
    · cases hp
    · obtain rfl := List.mem_singleton.mp hp
      rcases List.eq_nil_or_concat rs with rfl | ⟨front, base, rfl⟩
      · obtain rfl : [] = cs := Path.ofComponents_inj hrs hbelow hdir
        decide
      · rw [List.concat_eq_append] at hdir hbelow hrs
        have hfront : IsClean true front := hrs.front (List.prefix_append _ _)
        rw [Path.dir_ofComponents hfront (hrs.isProper base (by simp)).slash] at hdir
        have hlength := congrArg List.length (Path.ofComponents_inj hfront hbelow hdir)
        simp at hlength

end

theorem components_wayDown (hcs : ∀ c ∈ cs, IsProper c)
    (hrel : Path.relative? root (Path.dir p) = some (Path.ofComponents false cs))
    (hdown : (Path.ofComponents false cs).startsWith Path.dotDot = false) :
    Path.components (wayDown root p) = cs := by
  rw [wayDown, hrel]
  dsimp only
  rw [hdown, if_neg (by decide), Path.components_ofComponents fun c hc => .inr (hcs c hc)]

/-- An output lies on the way down below the output directory, and nowhere above it. -/
theorem cleanComponents_outputPath (hout : opts.outDir ≠ [])
    (hfile : IsProper (name ++ opts.withDefaults.outExtension)) (root p : Bytes) :
    Path.isAbsolute (outputPath root p name opts) = Path.isAbsolute opts.outDir ∧
      Path.cleanComponents (outputPath root p name opts) = Path.cleanComponents opts.outDir ++
        (Path.components (wayDown root p) ++ [name ++ opts.withDefaults.outExtension]) := by
  have hall :
      ∀ c ∈ Path.components (wayDown root p) ++
        [name ++ opts.withDefaults.outExtension], IsProper c := by
    intro c hc
    rcases List.mem_append.mp hc with hc | hc
    · exact isProper_wayDown root p c hc
    · rwa [List.mem_singleton.mp hc]
  have hclean := (Path.isClean_cleanComponents opts.outDir).append hall
  rw [outputPath_eq_join hout, Path.join_of_isProper hout hall]
  exact ⟨Path.isAbsolute_ofComponents_of_isClean hclean, Path.cleanComponents_ofComponents hclean⟩

/-- Outputs mirror the sources and stay inside the output directory. Below a root that is a
directory every source that a search finds has a way down by names, and its output lies on the same
way below the output directory: the way is known and does not look like one up. Whatever the root
and the path are, with an extension that holds no slash the output lies some names below the output
directory. -/
theorem outputPath_mirrors_sources (hout : opts.outDir ≠ []) (hname : Script.isIdentifier name) :
    (∀ t root ext sources p, FileTree.WellFormed t → Path.isAbsolute root → Path.clean root = root →
      discover t root ext = .ok sources → p ∈ sources →
        (t.root.isDirectoryAt (Path.components root) →
          ∃ cs, (∀ c ∈ cs, IsProper c) ∧ Path.dir p = Path.join (root :: cs)) ∧
        ∀ cs, (∀ c ∈ cs, IsProper c) → Path.dir p = Path.join (root :: cs) →
          outputPath root p name opts =
              Path.join (opts.outDir :: (cs ++ [name ++ opts.withDefaults.outExtension])) ∧
            ∃ rel, Path.relative? root (Path.dir p) = some rel ∧
              rel.startsWith Path.dotDot = false) ∧
    (Ascii.slash ∉ opts.outExtension → ∀ root p, ∃ es, (∀ e ∈ es, IsProper e) ∧
      outputPath root p name opts =
        Path.join (opts.outDir :: (es ++ [name ++ opts.withDefaults.outExtension])) ∧
      Path.isAbsolute (outputPath root p name opts) = Path.isAbsolute opts.outDir ∧
      Path.cleanComponents (outputPath root p name opts) =
        Path.cleanComponents opts.outDir ++ (es ++ [name ++ opts.withDefaults.outExtension])) := by
  constructor
  · intro t root ext sources p ht habsolute hclean h hp
    obtain ⟨rs, hrs, rfl, hjoin⟩ := exists_ofComponents_of_isAbsolute habsolute hclean
    constructor
    · intro hdir
      rw [Path.components_ofComponents fun _ hc => hrs.eq_dotDot_or_isProper hc] at hdir
      obtain ⟨cs, hcs, _, hbelow⟩ := exists_dir_eq ht hrs h hp hdir
      exact ⟨cs, hcs, hbelow.trans (hjoin cs hcs).symm⟩
    · intro cs hcs hdir
      obtain ⟨hrel, hdown⟩ := relative?_of_mem_discover ht hrs h hp hcs (hdir.trans (hjoin cs hcs))
      exact ⟨by rw [outputPath_eq_join hout, components_wayDown hcs hrel hdown], _, hrel, hdown⟩
  · intro hext root p
    have hfile := isProper_outputName hname (slash_not_mem_outExtension hext)
    exact ⟨_, isProper_wayDown root p, outputPath_eq_join hout root p name,
      cleanComponents_outputPath hout hfile root p⟩

def distOptions : Options := { outDir := Bytes.lit "../dist/./" }

theorem outputPath_mirrors_sources_dist :
    distOptions.outDir ≠ [] ∧ Script.isIdentifier (Bytes.lit "Card") ∧
      outputPath (Bytes.lit "/w/node_modules") (Bytes.lit "/w/node_modules/a.vc/z.vc")
        (Bytes.lit "Card") distOptions =
        Bytes.lit "../dist/a.vc/Card.js" ∧
      ∃ es, (∀ e ∈ es, IsProper e) ∧
        Path.cleanComponents
            (outputPath (Bytes.lit "a/..") (Bytes.lit "..//../b/c.vc")
              (Bytes.lit "Card") distOptions) =
          [Bytes.lit "..", Bytes.lit "dist"] ++ (es ++ [Bytes.lit "Card.js"]) := by
  have hout : distOptions.outDir ≠ [] := by decide
  have hname : Script.isIdentifier (Bytes.lit "Card") := by decide +kernel
  obtain ⟨hmirror, hinside⟩ := outputPath_mirrors_sources hout hname
  have hlisted : discover dependencyTree (Bytes.lit "/w/node_modules") (Bytes.lit ".vc") =
      .ok [Bytes.lit "/w/node_modules/.b.vc", Bytes.lit "/w/node_modules/a/a.vc",
        Bytes.lit "/w/node_modules/a.vc/z.vc"] := by
    decide +kernel
  obtain ⟨_, hway⟩ := hmirror dependencyTree _ _ _ (Bytes.lit "/w/node_modules/a.vc/z.vc")
    ordered_dependencyTree.wellFormed (by decide) (by decide) hlisted (by simp)
  obtain ⟨houtput, _⟩ := hway [Bytes.lit "a.vc"] (by decide) (by decide)
  obtain ⟨es, hes, _, _, hbelow⟩ :=
    hinside (by decide) (Bytes.lit "a/..") (Bytes.lit "..//../b/c.vc")
  exact ⟨hout, hname, houtput.trans (by decide), es, hes, hbelow.trans (by rfl)⟩

end ComponentCompiler.Component
