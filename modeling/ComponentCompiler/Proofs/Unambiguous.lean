import ComponentCompiler.Proofs.Quoting
import ComponentCompiler.Render.Expr
import Mathlib

/-!
# Printed expressions can be read one way only

A static expression has no embedded code: its literals and property values are quoted texts. Such an
expression is found again in front of any text (`print_append_inj`), because each of its parts is:
quoted texts and names are, and a list of parts ends at a byte with which no further part can begin.
-/

namespace ComponentCompiler.Bytes

theorem exists_intercalate_append_eq (sep piece : Bytes) (pieces : List Bytes) (r : Bytes) :
    ∃ u, sep.intercalate (piece :: pieces) ++ r = piece ++ u :=
  ⟨pieces.flatMap (sep ++ ·) ++ r, by rw [intercalate_cons, List.append_assoc]⟩

/-- A joined list is found again in front of the byte `stop` if its pieces are and the separator
begins with another byte. -/
theorem intercalate_append_inj {α : Type} {print : α → Bytes} {sep : Bytes} {stop : UInt8}
    (hsep : ∀ t, (sep ++ t).head? ≠ some stop) {xs ys : List α} (hnil : xs = [] ↔ ys = [])
    (hprint : ∀ x ∈ xs, ∀ y ∈ ys, ∀ r s, print x ++ r = print y ++ s → x = y ∧ r = s) {r s : Bytes}
    (h : sep.intercalate (xs.map print) ++ stop :: r =
      sep.intercalate (ys.map print) ++ stop :: s) :
    xs = ys ∧ r = s := by
  have hstop : ∀ t u : Bytes, stop :: t ≠ sep ++ u := by
    intro t u heq
    apply hsep u
    rw [← heq, List.head?_cons]
  induction xs generalizing ys with
  | nil =>
      obtain rfl : ys = [] := hnil.mp rfl
      exact ⟨rfl, (List.cons.inj h).2⟩
  | cons x xs ih =>
      cases ys with
      | nil => exact absurd (hnil.mpr rfl) (List.cons_ne_nil x xs)
      | cons y ys =>
          have hfirst := hprint x List.mem_cons_self y List.mem_cons_self
          cases xs with
          | nil =>
              cases ys with
              | nil =>
                  rw [List.map_singleton, List.map_singleton, List.intercalate_singleton,
                    List.intercalate_singleton] at h
                  obtain ⟨rfl, hrest⟩ := hfirst _ _ h
                  exact ⟨rfl, (List.cons.inj hrest).2⟩
              | cons y' ys =>
                  simp only [List.map_cons, List.map_nil, List.intercalate_singleton,
                    List.intercalate_cons_cons, List.append_assoc] at h
                  exact absurd (hfirst _ _ h).2 (hstop _ _)
          | cons x' xs =>
              cases ys with
              | nil =>
                  simp only [List.map_cons, List.map_nil, List.intercalate_singleton,
                    List.intercalate_cons_cons, List.append_assoc] at h
                  exact absurd (hfirst _ _ h).2.symm (hstop _ _)
              | cons y' ys =>
                  simp only [List.map_cons, List.intercalate_cons_cons, List.append_assoc] at h
                  obtain ⟨rfl, hrest⟩ := hfirst _ _ h
                  have hothers : ∀ z ∈ x' :: xs, ∀ w ∈ y' :: ys, ∀ r s,
                      print z ++ r = print w ++ s → z = w ∧ r = s := by
                    intro z hz w hw
                    exact hprint z (List.mem_cons_of_mem x hz) w (List.mem_cons_of_mem x hw)
                  obtain ⟨htail, hr⟩ := ih (by simp) hothers (List.append_cancel_left hrest)
                  exact ⟨by rw [htail], hr⟩

end ComponentCompiler.Bytes

namespace ComponentCompiler.Script

theorem head?_quote (s r : Bytes) : (quote s ++ r).head? = some Ascii.quote := by
  obtain ⟨tl, htl, _⟩ := exists_quote_eq s
  rw [htl]
  rfl

theorem exists_head_of_isName {s : Bytes} (h : isName s) (r : Bytes) :
    ∃ b, (s ++ r).head? = some b ∧ isIdentByte b := by
  cases s with
  | nil => cases h
  | cons b tl => exact ⟨b, rfl, isIdentByte_of_isName h b List.mem_cons_self⟩

/-- A quoted text does not begin like a name. -/
theorem quote_append_ne {s t r r' : Bytes} (ht : isName t) : quote s ++ r ≠ t ++ r' := by
  intro h
  obtain ⟨b, hhead, hb⟩ := exists_head_of_isName ht r'
  rw [← h, head?_quote, Option.some.injEq] at hhead
  rw [← hhead] at hb
  exact absurd hb (by decide)

/-- A key is found again in front of its colon. -/
theorem propertyKey_append_inj {k l r s : Bytes} (hk : Utf8.isValid k) (hl : Utf8.isValid l)
    (h : propertyKey k ++ Ascii.colon :: r = propertyKey l ++ Ascii.colon :: s) :
    k = l ∧ r = s := by
  have hcolon : isIdentByte Ascii.colon = false := by decide
  unfold propertyKey at h
  by_cases hkname : isIdentifier k = true
  · rw [if_pos hkname] at h
    by_cases hlname : isIdentifier l = true
    · rw [if_pos hlname] at h
      obtain ⟨hkl, hrest⟩ := append_inj_of_isName (isName_of_isIdentifier hkname)
        (isName_of_isIdentifier hlname) hcolon hcolon h
      exact ⟨hkl, (List.cons.inj hrest).2⟩
    · rw [if_neg hlname] at h
      exact absurd h.symm (quote_append_ne (isName_of_isIdentifier hkname))
  · rw [if_neg hkname] at h
    by_cases hlname : isIdentifier l = true
    · rw [if_pos hlname] at h
      exact absurd h (quote_append_ne (isName_of_isIdentifier hlname))
    · rw [if_neg hlname] at h
      obtain ⟨hquote, hrest⟩ := quote_append_inj h
      exact ⟨quote_inj hk hl hquote, (List.cons.inj hrest).2⟩

end ComponentCompiler.Script

namespace ComponentCompiler.Render

/-! ## Static expressions -/

/-- A property whose value is a quoted text. -/
structure Property.IsStatic (p : Property) : Prop where
  key : Utf8.isValid p.key
  value : ∃ text, Utf8.isValid text ∧ p.value = Script.quote text

/-- An expression of calls, factories and literals in which every value is a quoted text. -/
inductive Expr.IsStatic : Expr → Prop
  | call {tag : Bytes} {props : List Property} {children : List Expr} (htag : Utf8.isValid tag)
      (hprops : ∀ p ∈ props, p.IsStatic) (hchildren : ∀ e ∈ children, IsStatic e) :
      IsStatic (.call tag props children)
  | factory {name : Bytes} {props : List Property} (hname : Script.isIdentifier name)
      (hprops : ∀ p ∈ props, p.IsStatic) : IsStatic (.factory name props)
  | literal {text : Bytes} (htext : Utf8.isValid text) : IsStatic (.literal (Script.quote text))

/-! ## Properties -/

theorem Property.print_append (p : Property) (r : Bytes) :
    p.print ++ r = Script.propertyKey p.key ++ Ascii.colon :: Ascii.space :: (p.value ++ r) := by
  have hcolon : Bytes.lit ": " = [Ascii.colon, Ascii.space] := by decide
  simp [Property.print, hcolon]

theorem Property.print_append_inj {p q : Property} (hp : p.IsStatic) (hq : q.IsStatic) {r s : Bytes}
    (h : p.print ++ r = q.print ++ s) : p = q ∧ r = s := by
  obtain ⟨v, _, hv⟩ := hp.value
  obtain ⟨w, _, hw⟩ := hq.value
  rw [print_append, print_append] at h
  obtain ⟨hkey, hrest⟩ := Script.propertyKey_append_inj hp.key hq.key h
  have hvalues : p.value ++ r = q.value ++ s := (List.cons.inj hrest).2
  rw [hv, hw] at hvalues
  obtain ⟨hvalue, hr⟩ := Script.quote_append_inj hvalues
  refine ⟨?_, hr⟩
  cases p with
  | mk pkey pvalue =>
      cases q with
      | mk qkey qvalue =>
          rw [Property.mk.injEq]
          exact ⟨hkey, hv.trans (hvalue.trans hw.symm)⟩

/-- No property begins with the brace that ends a properties object. -/
theorem Property.head?_print_ne (p : Property) (r : Bytes) :
    (p.print ++ r).head? ≠ some Ascii.closeBrace := by
  rw [print_append]
  unfold Script.propertyKey
  split
  · rename_i hname
    obtain ⟨b, hhead, hb⟩ := Script.exists_head_of_isName (Script.isName_of_isIdentifier hname) _
    rw [hhead]
    rintro ⟨⟩
    exact absurd hb (by decide)
  · rw [Script.head?_quote]
    decide

theorem printProps_append (props : List Property) (r : Bytes) :
    printProps props ++ r = Ascii.openBrace ::
      ((Bytes.lit ", ").intercalate (props.map Property.print) ++ Ascii.closeBrace :: r) := by
  simp [printProps]

theorem head?_intercalate_ne (p : Property) (props : List Property) (r : Bytes) :
    ((Bytes.lit ", ").intercalate ((p :: props).map Property.print) ++ r).head? ≠
      some Ascii.closeBrace := by
  obtain ⟨u, hu⟩ :=
    Bytes.exists_intercalate_append_eq (Bytes.lit ", ") p.print (props.map Property.print) r
  rw [List.map_cons, hu]
  exact p.head?_print_ne u

theorem printProps_append_inj {ps qs : List Property} (hps : ∀ p ∈ ps, p.IsStatic)
    (hqs : ∀ q ∈ qs, q.IsStatic) {r s : Bytes} (h : printProps ps ++ r = printProps qs ++ s) :
    ps = qs ∧ r = s := by
  rw [printProps_append, printProps_append] at h
  have hbody := (List.cons.inj h).2
  have hnil : ps = [] ↔ qs = [] := by
    cases ps with
    | nil =>
        cases qs with
        | nil => simp
        | cons q qs =>
            have hhead := head?_intercalate_ne q qs (Ascii.closeBrace :: s)
            rw [← hbody] at hhead
            exact absurd rfl hhead
    | cons p ps =>
        cases qs with
        | nil =>
            have hhead := head?_intercalate_ne p ps (Ascii.closeBrace :: r)
            rw [hbody] at hhead
            exact absurd rfl hhead
        | cons q qs => simp
  refine Bytes.intercalate_append_inj ?_ hnil ?_ hbody
  · intro t
    have hcomma : Bytes.lit ", " = [Ascii.comma, Ascii.space] := by decide
    rw [hcomma, List.cons_append, List.head?_cons]
    decide
  · intro p hp q hq r s
    exact Property.print_append_inj (hps p hp) (hqs q hq)

/-! ## Trees -/

namespace Expr

theorem printAll_eq_map (es : List Expr) (depth : Nat) :
    printAll es depth = es.map (print · depth) := by
  induction es with
  | nil => rfl
  | cons e es ih => rw [printAll, ih, List.map_cons]

theorem print_call_append (tag : Bytes) (props : List Property) (children : List Expr) (depth : Nat)
    (r : Bytes) :
    (call tag props children).print depth ++ r = constructorName ++ Ascii.openParen ::
      (Script.quote tag ++ Ascii.comma :: Ascii.space :: (printProps props ++
        Ascii.comma :: Ascii.space :: (printChildren depth (children.map (print · (depth + 1))) ++
          Ascii.closeParen :: r))) := by
  have hopen : Bytes.lit "(" = [Ascii.openParen] := by decide
  have hcomma : Bytes.lit ", " = [Ascii.comma, Ascii.space] := by decide
  have hclose : Bytes.lit ")" = [Ascii.closeParen] := by decide
  simp [print, printAll_eq_map, hopen, hcomma, hclose]

theorem print_factory_append (name : Bytes) (props : List Property) (depth : Nat) (r : Bytes) :
    (factory name props).print depth ++ r =
      name ++ Ascii.openParen :: (printProps props ++ Ascii.closeParen :: r) := by
  have hopen : Bytes.lit "(" = [Ascii.openParen] := by decide
  have hclose : Bytes.lit ")" = [Ascii.closeParen] := by decide
  simp [print, hopen, hclose]

theorem printChildren_cons_append (depth : Nat) (e : Expr) (es : List Expr) (r : Bytes) :
    printChildren depth ((e :: es).map (print · (depth + 1))) ++ r = Ascii.openBracket ::
      ([Ascii.comma].intercalate
        ((e :: es).map fun e => lineBreak (depth + 1) ++ e.print (depth + 1)) ++
        Ascii.newline :: (Bytes.times depth indent ++ Ascii.closeBracket :: r)) := by
  simp [printChildren, lineBreak, Function.comp_def]

theorem printChildren_append_inj {depth : Nat} {es fs : List Expr}
    (hprint : ∀ e ∈ es, ∀ f ∈ fs, ∀ r s,
      e.print (depth + 1) ++ r = f.print (depth + 1) ++ s → e = f ∧ r = s) {r s : Bytes}
    (h : printChildren depth (es.map (print · (depth + 1))) ++ r =
      printChildren depth (fs.map (print · (depth + 1))) ++ s) : es = fs ∧ r = s := by
  have hempty :
      ∀ t, printChildren depth [] ++ t = Ascii.openBracket :: Ascii.closeBracket :: t := by
    intro t
    rw [printChildren, show Bytes.lit "[]" = [Ascii.openBracket, Ascii.closeBracket] by decide]
    rfl
  -- the first item of a list stands on a line of its own
  have hline : ∀ e es t u, printChildren depth ((e :: es).map (print · (depth + 1))) ++ t ≠
      Ascii.openBracket :: Ascii.closeBracket :: u := by
    intro e es t u heq
    obtain ⟨v, hv⟩ := Bytes.exists_intercalate_append_eq [Ascii.comma]
      (lineBreak (depth + 1) ++ e.print (depth + 1))
      (es.map fun e => lineBreak (depth + 1) ++ e.print (depth + 1))
      (Ascii.newline :: (Bytes.times depth indent ++ Ascii.closeBracket :: t))
    rw [printChildren_cons_append, List.map_cons, hv] at heq
    have hhead : Ascii.newline = Ascii.closeBracket := (List.cons.inj (List.cons.inj heq).2).1
    exact absurd hhead (by decide)
  cases es with
  | nil =>
      rw [List.map_nil, hempty] at h
      cases fs with
      | nil =>
          rw [List.map_nil, hempty] at h
          exact ⟨rfl, (List.cons.inj (List.cons.inj h).2).2⟩
      | cons f fs => exact absurd h.symm (hline f fs s r)
  | cons e es =>
      cases fs with
      | nil =>
          rw [List.map_nil, hempty] at h
          exact absurd h (hline e es r s)
      | cons f fs =>
          rw [printChildren_cons_append, printChildren_cons_append] at h
          have hitems : ∀ a ∈ e :: es, ∀ b ∈ f :: fs, ∀ r s,
              lineBreak (depth + 1) ++ a.print (depth + 1) ++ r =
                lineBreak (depth + 1) ++ b.print (depth + 1) ++ s → a = b ∧ r = s := by
            intro a ha b hb r s heq
            rw [List.append_assoc, List.append_assoc] at heq
            exact hprint a ha b hb r s (List.append_cancel_left heq)
          have hcomma : ∀ t, ([Ascii.comma] ++ t).head? ≠ some Ascii.newline := by
            intro t
            rw [List.singleton_append, List.head?_cons]
            decide
          obtain ⟨hes, hrest⟩ :=
            Bytes.intercalate_append_inj hcomma (by simp) hitems (List.cons.inj h).2
          exact ⟨hes, (List.cons.inj (List.append_cancel_left hrest)).2⟩

/-- A static expression is found again in front of any text. -/
theorem print_append_inj {a b : Expr} (ha : a.IsStatic) (hb : b.IsStatic) {depth : Nat}
    {r s : Bytes} (h : a.print depth ++ r = b.print depth ++ s) :
    a = b ∧ r = s := by
  have hparen : Script.isIdentByte Ascii.openParen = false := by decide
  have hconstructor : Script.isName constructorName := by decide
  -- a call and a factory of the same name differ behind the parenthesis
  have hmixed : ∀ {tag : Bytes} {qs : List Property} {t u : Bytes},
      Script.quote tag ++ t ≠ printProps qs ++ u := by
    intro tag qs t u heq
    have hhead := congrArg List.head? heq
    rw [Script.head?_quote, printProps_append, List.head?_cons] at hhead
    exact absurd hhead (by decide)
  induction ha generalizing b depth r s with
  | @call tag props children htag hprops _ ih =>
      rw [print_call_append] at h
      cases hb with
      | @call tag' props' children' htag' hprops' hchildren' =>
          rw [print_call_append] at h
          obtain ⟨_, hinner⟩ := List.cons.inj (List.append_cancel_left h)
          obtain ⟨hquote, hbehindTag⟩ := Script.quote_append_inj hinner
          obtain rfl : tag = tag' := Script.quote_inj htag htag' hquote
          obtain ⟨rfl, hbehindProps⟩ := printProps_append_inj hprops hprops'
            (List.cons.inj (List.cons.inj hbehindTag).2).2
          have hitems : ∀ e ∈ children, ∀ f ∈ children', ∀ r s,
              e.print (depth + 1) ++ r = f.print (depth + 1) ++ s → e = f ∧ r = s := by
            intro e he f hf r s
            exact ih e he (hchildren' f hf)
          obtain ⟨rfl, hend⟩ := printChildren_append_inj hitems
            (List.cons.inj (List.cons.inj hbehindProps).2).2
          exact ⟨rfl, (List.cons.inj hend).2⟩
      | factory hname _ =>
          rw [print_factory_append] at h
          obtain ⟨_, hinner⟩ :=
            Script.append_inj_of_isName hconstructor (Script.isName_of_isIdentifier hname)
            hparen hparen h
          exact absurd (List.cons.inj hinner).2 hmixed
      | literal _ => exact absurd h.symm (Script.quote_append_ne hconstructor)
  | @factory name props hname hprops =>
      rw [print_factory_append] at h
      cases hb with
      | call _ _ _ =>
          rw [print_call_append] at h
          obtain ⟨_, hinner⟩ :=
            Script.append_inj_of_isName (Script.isName_of_isIdentifier hname) hconstructor
            hparen hparen h
          exact absurd (List.cons.inj hinner).2.symm hmixed
      | factory hname' hprops' =>
          rw [print_factory_append] at h
          obtain ⟨rfl, hinner⟩ := Script.append_inj_of_isName (Script.isName_of_isIdentifier hname)
            (Script.isName_of_isIdentifier hname') hparen hparen h
          obtain ⟨rfl, hend⟩ := printProps_append_inj hprops hprops' (List.cons.inj hinner).2
          exact ⟨rfl, (List.cons.inj hend).2⟩
      | literal _ =>
          exact absurd h.symm (Script.quote_append_ne (Script.isName_of_isIdentifier hname))
  | @literal text htext =>
      cases hb with
      | call _ _ _ =>
          rw [print_call_append] at h
          exact absurd h (Script.quote_append_ne hconstructor)
      | factory hname' _ =>
          rw [print_factory_append] at h
          exact absurd h (Script.quote_append_ne (Script.isName_of_isIdentifier hname'))
      | literal _ =>
          obtain ⟨hquote, hrest⟩ := Script.quote_append_inj h
          exact ⟨by rw [hquote], hrest⟩

/-- Static expressions that print alike at some depth are equal, and so their printed form can be
read back. -/
theorem print_injOn_isStatic (depth : Nat) :
    Set.InjOn (print · depth) {e | e.IsStatic} ∧
      ∃ read : Bytes → Expr, ∀ e, e.IsStatic → read (e.print depth) = e := by
  have hinj : Set.InjOn (print · depth) {e | e.IsStatic} := by
    intro a ha b hb h
    have happend : a.print depth ++ [] = b.print depth ++ [] := by
      rw [List.append_nil, List.append_nil]
      exact h
    exact (print_append_inj ha hb happend).1
  refine ⟨hinj, Function.invFunOn (print · depth) {e | e.IsStatic}, ?_⟩
  intro e he
  exact hinj.leftInvOn_invFunOn he

/-- A call with two literals. -/
def sampleTwo : Expr :=
  .call (Bytes.lit "p") [⟨Bytes.lit "data-id", Script.quote (Bytes.lit "1, " ++ [Ascii.openBrace])⟩]
    [.literal (Script.quote (Bytes.lit "x")), .literal (Script.quote (Bytes.lit "y"))]

/-- A call with one literal, whose text is how the two literals of the other call are written. -/
def sampleOne : Expr :=
  .call (Bytes.lit "p") [⟨Bytes.lit "data-id", Script.quote (Bytes.lit "1, " ++ [Ascii.openBrace])⟩]
    [.literal (Script.quote (Bytes.lit "x\",\n    \"y"))]

theorem print_sampleTwo_ne_sampleOne :
    sampleTwo.IsStatic ∧ sampleOne.IsStatic ∧ sampleTwo.print 0 ≠ sampleOne.print 0 := by
  have hprops :
      ∀ p ∈ [Property.mk (Bytes.lit "data-id")
        (Script.quote (Bytes.lit "1, " ++ [Ascii.openBrace]))],
      p.IsStatic := by
    intro p hp
    rw [List.mem_singleton.mp hp]
    exact ⟨by decide +kernel, Bytes.lit "1, " ++ [Ascii.openBrace], by decide +kernel, rfl⟩
  have htwo : sampleTwo.IsStatic := by
    refine .call (by decide +kernel) hprops ?_
    intro e he
    rcases List.mem_cons.mp he with rfl | he
    · exact .literal (by decide +kernel)
    · rw [List.mem_singleton.mp he]
      exact .literal (by decide +kernel)
  have hone : sampleOne.IsStatic := by
    refine .call (by decide +kernel) hprops ?_
    intro e he
    rw [List.mem_singleton.mp he]
    exact .literal (by decide +kernel)
  refine ⟨htwo, hone, ?_⟩
  intro h
  have heq : sampleTwo = sampleOne := (print_injOn_isStatic 0).1 htwo hone h
  simp [sampleTwo, sampleOne] at heq

end Expr

end ComponentCompiler.Render
