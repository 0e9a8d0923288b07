/-!
# `Traced` — a result together with what was recorded on the way

Some computations leave a record besides their result: the lines they log, the variables they look
up. `Traced ω α` keeps both, in order, so that the record is an ordinary value that laws can speak
about. Running one computation after another concatenates their records.
-/

namespace MethodSig

/-- A value and the record left while computing it, oldest entry first. -/
structure Traced (ω α : Type) where
  /-- The result. -/
  value : α
  /-- What was recorded, oldest first. -/
  trace : List ω

namespace Traced

variable {ω α β : Type}

/-- A result without a record. -/
def ret (a : α) : Traced ω α := ⟨a, []⟩

/-- One computation after another; the records follow each other. -/
def andThen (x : Traced ω α) (f : α → Traced ω β) : Traced ω β :=
  ⟨(f x.value).value, x.trace ++ (f x.value).trace⟩

/-- Records one entry. -/
def record (w : ω) : Traced ω Unit := ⟨(), [w]⟩

instance : Monad (Traced ω) where
  pure := ret
  bind := andThen

@[simp] theorem value_pure (a : α) : (pure a : Traced ω α).value = a := rfl

@[simp] theorem trace_pure (a : α) : (pure a : Traced ω α).trace = [] := rfl

@[simp] theorem value_bind (x : Traced ω α) (f : α → Traced ω β) :
    (x >>= f).value = (f x.value).value := rfl

@[simp] theorem trace_bind (x : Traced ω α) (f : α → Traced ω β) :
    (x >>= f).trace = x.trace ++ (f x.value).trace := rfl

@[simp] theorem value_record (w : ω) : (record w).value = () := rfl

@[simp] theorem trace_record (w : ω) : (record w).trace = [w] := rfl

end Traced

end MethodSig
