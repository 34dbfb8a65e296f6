import ComponentCompiler.Component.Notice

/-!
# Reports

A report is a result, or the error that prevented it, together with the notices given until then.
-/

namespace ComponentCompiler.Component

/-- A result or an error, with the notices given on the way. -/
structure Report (ε α : Type) where
  notices : List Notice
  result : Except ε α

namespace Report

variable {ε α β : Type}

/-- A result without notices. -/
def pure (a : α) : Report ε α := ⟨[], .ok a⟩

/-- An error without notices. -/
def fail (e : ε) : Report ε α := ⟨[], .error e⟩

/-- A result or an error without notices. -/
def ofExcept (x : Except ε α) : Report ε α := ⟨[], x⟩

/-- Notices without a result. -/
def notes (ns : List Notice) : Report ε Unit := ⟨ns, .ok ()⟩

/-- Goes on with the result, keeping the notices given before. -/
def bind (x : Report ε α) (f : α → Report ε β) : Report ε β :=
  match x.result with
  | .ok a => let y := f a; ⟨x.notices ++ y.notices, y.result⟩
  | .error e => ⟨x.notices, .error e⟩

instance : Monad (Report ε) where
  pure := Report.pure
  bind := Report.bind

instance : LawfulMonad (Report ε) := LawfulMonad.mk' (Report ε)
  (fun ⟨notices, result⟩ => by cases result <;> simp [Functor.map, Report.bind, Report.pure])
  (fun a f => by simp [Bind.bind, Pure.pure, Report.bind, Report.pure])
  (fun ⟨notices, result⟩ f g => by
    cases result with
    | error e => rfl
    | ok a => cases hresult : (f a).result <;> simp [Bind.bind, Report.bind, hresult])

/-- The report with its error changed. -/
def mapError {δ : Type} (f : ε → δ) (x : Report ε α) : Report δ α :=
  ⟨x.notices, x.result.mapError f⟩

@[simp] theorem result_pure (a : α) : (Pure.pure a : Report ε α).result = .ok a := rfl

@[simp] theorem result_ofExcept (x : Except ε α) : (ofExcept x).result = x := rfl

@[simp] theorem result_notes (ns : List Notice) : (notes ns : Report ε Unit).result = .ok () := rfl

theorem result_bind (x : Report ε α) (f : α → Report ε β) :
    (x >>= f).result = x.result.bind fun a => (f a).result := by
  change (Report.bind x f).result = _
  unfold Report.bind
  cases x.result <;> rfl

theorem bind_eq_ok {x : Report ε α} {f : α → Report ε β} {b : β} :
    (x >>= f).result = .ok b ↔ ∃ a, x.result = .ok a ∧ (f a).result = .ok b := by
  rw [result_bind]
  cases x.result <;> simp [Except.bind]

end Report

theorem exists_eq_ok {ε α : Type} {x : Except ε α} (h : x.toOption.isSome) : ∃ a, x = .ok a := by
  cases x with
  | ok a => exact ⟨a, rfl⟩
  | error fault => cases h

theorem mapError_eq_ok {ε δ α : Type} {x : Except ε α} {f : ε → δ} {a : α} :
    x.mapError f = .ok a ↔ x = .ok a := by
  cases x with
  | error fault => exact iff_of_false nofun nofun
  | ok value =>
      constructor
      · intro h
        rw [Except.ok.inj h]
      · intro h
        rw [Except.ok.inj h]
        rfl

end ComponentCompiler.Component
