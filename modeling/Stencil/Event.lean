/-!
What a compilation reports while it runs, and runs that report: a list of events beside a result.
The events of a run that fails are those before the failure.
-/

namespace Stencil

inductive Event where
  | documentCompiled (name : String) (fields : List String) (minified : Bool)
  | scopeEntered (path : String) (scope : Option String)
  | entrySkipped (path : String)
  | directoryAssembled (path : String) (types scopes : Nat)
  | sourceEmitted (types lines : Nat) (validated : Bool)
deriving DecidableEq, Repr

/-- A result with the events reported on the way to it. -/
structure Run (ε α : Type) where
  events : List Event
  result : Except ε α

namespace Run

variable {ε α β : Type}

def ofExcept (result : Except ε α) : Run ε α := ⟨[], result⟩

def report (event : Event) : Run ε Unit := ⟨[event], .ok ()⟩

def fail (error : ε) : Run ε α := ⟨[], .error error⟩

protected def pure (value : α) : Run ε α := ⟨[], .ok value⟩

protected def bind (first : Run ε α) (next : α → Run ε β) : Run ε β :=
  match first.result with
  | .error error => ⟨first.events, .error error⟩
  | .ok value => ⟨first.events ++ (next value).events, (next value).result⟩

instance : Monad (Run ε) where
  pure := Run.pure
  bind := Run.bind

@[simp] theorem pure_events (value : α) : (pure value : Run ε α).events = [] := rfl

@[simp] theorem pure_result (value : α) : (pure value : Run ε α).result = .ok value := rfl

theorem bind_of_ok {first : Run ε α} {value : α} (ok : first.result = .ok value)
    (next : α → Run ε β) :
    first >>= next = ⟨first.events ++ (next value).events, (next value).result⟩ := by
  show Run.bind first next = _
  simp [Run.bind, ok]

theorem bind_of_error {first : Run ε α} {error : ε} (failed : first.result = .error error)
    (next : α → Run ε β) : first >>= next = ⟨first.events, .error error⟩ := by
  show Run.bind first next = _
  simp [Run.bind, failed]

end Run

end Stencil
