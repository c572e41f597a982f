import GrammarWorkbench.Run.Interpret

/-!
# Remembering interpretations

Interpretations are remembered by the exact texts of grammar and input. Only the most recently
used ones are kept: beside the results stands a queue of their keys in the order of use. Every
interpretation that is made gets the next serial number, which tells a remembered result from one
made anew.
-/

set_option autoImplicit false

namespace GrammarWorkbench.Run

structure CacheKey where
  grammar : List Char
  input : List Char
  deriving DecidableEq, Repr

structure CacheEntry where
  serial : Nat
  result : Interpretation

/-- Remembered results by their keys, and the keys, the least recently used first. `made` counts
the results made so far. -/
structure Cache where
  settings : Settings
  capacity : Nat
  cells : List (CacheKey × CacheEntry)
  recency : List CacheKey
  made : Nat

namespace Cache

def defaultCapacity : Nat := 32

def new (settings : Settings) (capacity : Nat) : Cache := ⟨settings, max capacity 1, [], [], 0⟩

def size (c : Cache) : Nat := c.cells.length

def evict (capacity : Nat) :
    List CacheKey → List (CacheKey × CacheEntry) → List CacheKey × List (CacheKey × CacheEntry)
  | [], cells => ([], cells)
  | key :: keys, cells =>
    if capacity < (key :: keys).length then evict capacity keys (cells.filter (·.1 != key))
    else (key :: keys, cells)

def use (c : Cache) (key : CacheKey) (cells : List (CacheKey × CacheEntry)) : Cache :=
  let (recency, cells) := evict c.capacity (c.recency.erase key ++ [key]) cells
  { c with cells := cells, recency := recency }

def interpret (c : Cache) (grammar input : List Char) : CacheEntry × Cache :=
  let key : CacheKey := ⟨grammar, input⟩
  match c.cells.lookup key with
  | some entry => (entry, c.use key c.cells)
  | none =>
    let entry : CacheEntry := ⟨c.made, Run.interpret c.settings grammar input false⟩
    (entry, { c with made := c.made + 1 }.use key (c.cells ++ [(key, entry)]))

def clear (c : Cache) : Cache := { c with cells := [], recency := [] }

end Cache

end GrammarWorkbench.Run
