import HartKernel.Notice

/-!
# Traced computations

A step of the kernel writes notices and either gives a result or stops with a
panic.  The notices written before a panic are kept.

Main definitions:

- `Traced` is such a computation and `Traced.note` writes one notice.

Main results:

- `Traced.result_bind` and the lemmas beside it: the result of a computation
  does not depend on what is written on the way.
-/

namespace HartKernel

/-- A computation that writes notices and may stop with a panic. -/
@[ext]
structure Traced (α : Type) where
  /-- The notices written, oldest first. -/
  notices : List Notice
  /-- What the computation ends with. -/
  result : Except Panic α

namespace Traced

/-- Run one computation after another. -/
def andThen {α β : Type} (x : Traced α) (f : α → Traced β) : Traced β :=
  match x.result with
  | .ok a => ⟨x.notices ++ (f a).notices, (f a).result⟩
  | .error p => ⟨x.notices, .error p⟩

instance : Monad Traced where
  pure a := ⟨[], .ok a⟩
  bind := andThen

/-- A check either passes without a notice or stops the computation. -/
instance : MonadLift (Except Panic) Traced where
  monadLift x := ⟨[], x⟩

/-- Write one notice. -/
def note (n : Notice) : Traced Unit := ⟨[n], .ok ()⟩

/-- Stop with a panic. -/
def panic {α : Type} (p : Panic) : Traced α := ⟨[], .error p⟩

/-! ## Results do not depend on notices -/

@[simp] theorem result_pure {α : Type} (a : α) : (pure a : Traced α).result = .ok a := rfl

@[simp] theorem result_bind {α β : Type} (x : Traced α) (f : α → Traced β) :
    (x >>= f).result = x.result >>= fun a => (f a).result := by
  change (andThen x f).result = _
  unfold andThen
  cases x.result <;> rfl

@[simp] theorem result_map {α β : Type} (f : α → β) (x : Traced α) :
    (f <$> x).result = f <$> x.result := by
  change (andThen x fun a => pure (f a)).result = _
  unfold andThen
  cases x.result <;> rfl

@[simp] theorem result_lift {α : Type} (x : Except Panic α) :
    (monadLift x : Traced α).result = x := rfl

@[simp] theorem result_note (n : Notice) : (note n).result = .ok () := rfl

@[simp] theorem result_panic {α : Type} (p : Panic) : (panic p : Traced α).result = .error p :=
  rfl

@[simp] theorem notices_pure {α : Type} (a : α) : (pure a : Traced α).notices = [] := rfl

@[simp] theorem notices_lift {α : Type} (x : Except Panic α) :
    (monadLift x : Traced α).notices = [] := rfl

theorem id_andThen {α : Type} (x : Traced α) : andThen x pure = x := by
  unfold andThen
  cases h : x.result <;> ext1 <;> simp [h]

theorem pure_andThen {α β : Type} (a : α) (f : α → Traced β) :
    andThen ⟨[], .ok a⟩ f = f a := by
  simp [andThen]

theorem andThen_assoc {α β γ : Type} (x : Traced α) (f : α → Traced β) (g : β → Traced γ) :
    andThen (andThen x f) g = andThen x fun a => andThen (f a) g := by
  unfold andThen
  cases x.result with
  | error p => rfl
  | ok a =>
    simp only
    cases (f a).result <;> simp

instance : LawfulMonad Traced :=
  LawfulMonad.mk' Traced id_andThen pure_andThen andThen_assoc

end Traced

end HartKernel
