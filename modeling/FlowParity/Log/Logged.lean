import FlowParity.Log.Event
/-!
# Computations that log

A computation that may fail, together with the events it reports on its way. The
events up to a failure are kept. What a computation results in does not depend on
what it reports (`result_bind`, `result_tell`).
-/

namespace FlowParity.Log

/-- The events of a computation and its result. -/
structure Logged (ε α : Type) where
  /-- The events, in order. -/
  events : List Event
  /-- The result. -/
  result : Except ε α

namespace Logged

variable {ε ε' α β : Type}

/-- The computation that only gives a result. -/
def ofExcept (result : Except ε α) : Logged ε α := ⟨[], result⟩

/-- The computation that only reports an event. -/
def tell (e : Event) : Logged ε Unit := ⟨[e], .ok ()⟩

/-- One computation after another. The second one does not happen if the first one fails. -/
def andThen (x : Logged ε α) (f : α → Logged ε β) : Logged ε β :=
  match x.result with
  | .ok a => ⟨x.events ++ (f a).events, (f a).result⟩
  | .error fault => ⟨x.events, .error fault⟩

instance : Monad (Logged ε) where
  pure a := ofExcept (.ok a)
  bind := andThen

/-- The computation with its failure seen as another one. -/
def mapError (f : ε → ε') (x : Logged ε α) : Logged ε' α :=
  ⟨x.events, x.result.mapError f⟩

@[simp] theorem result_pure (a : α) : (pure a : Logged ε α).result = .ok a := rfl

@[simp] theorem result_ofExcept (r : Except ε α) : (ofExcept r).result = r := rfl

@[simp] theorem result_tell (e : Event) : (tell e : Logged ε Unit).result = .ok () := rfl

@[simp] theorem result_bind (x : Logged ε α) (f : α → Logged ε β) :
    (x >>= f).result = x.result >>= fun a => (f a).result := by
  show (andThen x f).result = _
  unfold andThen
  cases x.result <;> rfl

@[simp] theorem result_mapError (f : ε → ε') (x : Logged ε α) :
    (x.mapError f).result = x.result.mapError f := rfl

end Logged

end FlowParity.Log
