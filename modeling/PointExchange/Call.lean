/-!
# Calls to collaborators

A run talks to collaborators that it does not control: a chain node, a ledger, a store of indices
and a lock. Whatever they are, they live in an environment `E`, and a call is a function that gives
a result or an error and a new environment. A statement about all such functions covers every
behaviour of the collaborators, including a failure at any call.
-/

namespace PointExchange

/-- A call in an environment, which may fail. -/
abbrev Call (E ε α : Type) := ExceptT ε (StateM E) α

namespace Call

variable {E S ε δ α β : Type}

/-- The result of a call and the environment after it. -/
def perform (c : Call E ε α) (e : E) : Except ε α × E := c.run.run e

/-- A call from its two results. -/
def of (f : E → Except ε α × E) : Call E ε α := ExceptT.mk fun e => f e

/-- A call that asks without changing the environment. -/
def ask (f : E → Except ε α) : Call E ε α := of fun e => (f e, e)

/-- A call whose error is told in other words. -/
def orElse (c : Call E ε α) (f : ε → δ) : Call E δ α := of fun e =>
  match c.perform e with
  | (.ok a, e) => (.ok a, e)
  | (.error x, e) => (.error (f x), e)

/-- A call whose error is a result. -/
def attempt (c : Call E ε α) : Call E δ (Except ε α) := of fun e =>
  let (r, e) := c.perform e
  (.ok r, e)

/-- A call in a part of the environment. -/
def inside (read : S → E) (write : E → S → S) (c : Call E ε α) : Call S ε α := of fun s =>
  let (r, e) := c.perform (read s)
  (r, write e s)

@[simp] theorem perform_of (f : E → Except ε α × E) (e : E) : (of f).perform e = f e := rfl

@[simp] theorem perform_ask (f : E → Except ε α) (e : E) : (ask f).perform e = (f e, e) := rfl

@[simp] theorem perform_attempt (c : Call E ε α) (e : E) :
    (c.attempt : Call E δ (Except ε α)).perform e = (.ok (c.perform e).1, (c.perform e).2) := rfl

theorem perform_orElse (c : Call E ε α) (f : ε → δ) (e : E) :
    (c.orElse f).perform e =
      match c.perform e with
      | (.ok a, e) => (.ok a, e)
      | (.error x, e) => (.error (f x), e) := rfl

@[simp] theorem perform_inside (read : S → E) (write : E → S → S) (c : Call E ε α) (s : S) :
    (c.inside read write).perform s =
      ((c.perform (read s)).1, write (c.perform (read s)).2 s) := rfl

@[simp] theorem perform_pure (a : α) (e : E) :
    (pure a : Call E ε α).perform e = (.ok a, e) := rfl

@[simp] theorem perform_throw (x : ε) (e : E) :
    (throw x : Call E ε α).perform e = (.error x, e) := rfl

@[simp] theorem perform_get (e : E) : (get : Call E ε E).perform e = (.ok e, e) := rfl

@[simp] theorem perform_modify (f : E → E) (e : E) :
    (modify f : Call E ε PUnit).perform e = (.ok ⟨⟩, f e) := rfl

/-- After a call that succeeds the next one goes on in the new environment; one that fails ends
the sequence, and what it did to the environment stays done. -/
theorem perform_bind (c : Call E ε α) (k : α → Call E ε β) (e : E) :
    (c >>= k).perform e =
      match c.perform e with
      | (.ok a, e') => (k a).perform e'
      | (.error x, e') => (.error x, e') := by
  have h : (c >>= k).perform e = ExceptT.bindCont k (c.perform e).1 (c.perform e).2 := rfl
  rw [h]
  rcases c.perform e with ⟨r | r, e'⟩ <;> rfl

theorem perform_bind_ok {c : Call E ε α} {e e' : E} {a : α} (h : c.perform e = (.ok a, e'))
    (k : α → Call E ε β) : (c >>= k).perform e = (k a).perform e' := by
  rw [perform_bind, h]

theorem perform_bind_error {c : Call E ε α} {e e' : E} {x : ε} (h : c.perform e = (.error x, e'))
    (k : α → Call E ε β) : (c >>= k).perform e = (.error x, e') := by
  rw [perform_bind, h]

end Call
end PointExchange
