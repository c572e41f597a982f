import GrammarWorkbench.Diagnostic.Message

/-!
# Values computed beside a list of defects

Reading and compiling a grammar go on after a defect, so that all of them are reported at once.
A `Checked` value is what was computed together with the defects found on the way, in order.
-/

set_option autoImplicit false

namespace GrammarWorkbench.Diagnostic

structure Checked (α : Type) where
  value : α
  defects : List Defect

namespace Checked

variable {α β : Type}

def clean (a : α) : Checked α := ⟨a, []⟩

def andThen (c : Checked α) (f : α → Checked β) : Checked β :=
  let d := f c.value
  ⟨d.value, c.defects ++ d.defects⟩

instance : Monad Checked where
  pure := clean
  bind := andThen

def report (d : Defect) : Checked Unit := ⟨(), [d]⟩

def missing (d : Defect) : Checked (Option α) := ⟨none, [d]⟩

def each (f : α → Checked β) : List α → Checked (List β)
  | [] => clean []
  | a :: as => do
    let b ← f a
    let bs ← each f as
    return b :: bs

def eachSome (f : α → Checked (Option β)) (as : List α) : Checked (List β) := do
  let bs ← each f as
  return bs.filterMap id

@[simp] theorem value_pure (a : α) : (pure a : Checked α).value = a := rfl

@[simp] theorem defects_pure (a : α) : (pure a : Checked α).defects = [] := rfl

@[simp] theorem value_bind (c : Checked α) (f : α → Checked β) :
    (c >>= f).value = (f c.value).value := rfl

@[simp] theorem defects_bind (c : Checked α) (f : α → Checked β) :
    (c >>= f).defects = c.defects ++ (f c.value).defects := rfl

theorem value_each (f : α → Checked β) (as : List α) :
    (each f as).value = as.map fun a => (f a).value := by
  induction as with
  | nil => rfl
  | cons a as ih => simp [each, ih]

theorem value_eachSome (f : α → Checked (Option β)) (as : List α) :
    (eachSome f as).value = as.filterMap fun a => (f a).value := by
  simp [eachSome, value_each, List.filterMap_map]

end Checked

end GrammarWorkbench.Diagnostic
