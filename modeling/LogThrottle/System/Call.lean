import LogThrottle.System.State

/-! Computations on a system, and what executing them does. A fault ends a computation and leaves
done what was done before; catching it goes on from there. -/
namespace LogThrottle

abbrev Call := ExceptT Fault (StateM System)

namespace Call
variable {α β : Type}

/-- The answer of a computation, and the system it leaves. -/
def exec (c : Call α) (s : System) : Except Fault α × System := c.run.run s

@[simp] theorem exec_pure (a : α) (s : System) : exec (pure a) s = (.ok a, s) := rfl

theorem exec_bind (c : Call α) (k : α → Call β) (s : System) :
    exec (c >>= k) s = match exec c s with
      | (.ok a, s') => exec (k a) s'
      | (.error f, s') => (.error f, s') := by
  simp only [exec, bind, ExceptT.bind, ExceptT.run, ExceptT.mk, StateT.bind, StateT.run]
  rcases c s with ⟨_ | _, _⟩ <;> rfl

@[simp] theorem exec_map (f : α → β) (c : Call α) (s : System) :
    exec (f <$> c) s = ((exec c s).1.map f, (exec c s).2) := by
  simp only [exec, Functor.map, ExceptT.map, ExceptT.run, ExceptT.mk, StateT.bind, StateT.run, bind]
  rcases c s with ⟨_ | _, _⟩ <;> rfl

@[simp] theorem exec_discard (c : Call α) (s : System) :
    exec (discard c) s = ((exec c s).1.map fun _ => (), (exec c s).2) :=
  exec_map (fun _ => ()) c s

@[simp] theorem exec_get (s : System) : exec get s = (.ok s, s) := rfl

@[simp] theorem exec_modify (f : System → System) (s : System) :
    exec (modify f) s = (.ok (), f s) := rfl

@[simp] theorem exec_modifyGet (f : System → α × System) (s : System) :
    exec (modifyGet f) s = (.ok (f s).1, (f s).2) := rfl

@[simp] theorem exec_throw (f : Fault) (s : System) :
    exec (throw f : Call α) s = (.error f, s) := rfl

@[simp] theorem exec_ofExcept (e : Except Fault α) (s : System) :
    exec (ofExcept e) s = (e, s) := by cases e <;> rfl

theorem exec_tryCatch (c : Call α) (handle : Fault → Call α) (s : System) :
    exec (tryCatch c handle) s = match exec c s with
      | (.ok a, s') => (.ok a, s')
      | (.error f, s') => exec (handle f) s' := by
  simp only [exec, tryCatch, tryCatchThe, MonadExceptOf.tryCatch, ExceptT.tryCatch, ExceptT.run,
    ExceptT.mk, StateT.bind, StateT.run, bind]
  rcases c s with ⟨_ | _, _⟩ <;> rfl

end Call
end LogThrottle
