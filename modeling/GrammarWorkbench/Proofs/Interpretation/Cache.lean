import GrammarWorkbench.Run.Cache
import Mathlib.Data.Finset.Card
import Mathlib.Data.List.DropRight
import Mathlib.Data.List.Lattice

/-!
# A cache of interpretations

A cache answers as if every result were made anew, and keeps the results of the keys used last.
What it holds is told by the operations on it alone: the keys since it was last cleared, each at
its last use, and of these the last ones there is room for. The queue and the cells have the same
keys behind every operation.
-/

set_option autoImplicit false

namespace GrammarWorkbench.Run

inductive CacheOp where
  | interpret (key : CacheKey)
  | clear
  deriving DecidableEq

namespace CacheOp

def key? : CacheOp → Option CacheKey
  | interpret key => some key
  | clear => none

def keys (ops : List CacheOp) : List CacheKey := ops.filterMap key?

def sinceClear (ops : List CacheOp) : List CacheOp := ops.rtakeWhile (· ≠ clear)

/-- The keys used since the cache was last cleared, each once, in the order of their last use. -/
def lastUsed (ops : List CacheOp) : List CacheKey := (keys (sinceClear ops)).dedup

end CacheOp

namespace Cache

def after (c : Cache) : CacheOp → Cache
  | .interpret key => (c.interpret key.grammar key.input).2
  | .clear => c.clear

def behind (settings : Settings) (capacity : Nat) (ops : List CacheOp) : Cache :=
  ops.foldl after (new settings capacity)

/-- What a cache gives for a key behind operations on it. -/
def answer (settings : Settings) (capacity : Nat) (ops : List CacheOp) (key : CacheKey) :
    CacheEntry :=
  ((behind settings capacity ops).interpret key.grammar key.input).1

section Queue

variable {α : Type} [DecidableEq α]

theorem dedup_concat (l : List α) (a : α) : (l ++ [a]).dedup = l.dedup.erase a ++ [a] := by
  induction l with
  | nil => rfl
  | cons b l ih =>
    rw [List.cons_append]
    by_cases hb : b ∈ l
    · rw [List.dedup_cons_of_mem (by simp [hb]), List.dedup_cons_of_mem hb, ih]
    · rw [List.dedup_cons_of_notMem hb]
      by_cases heq : b = a
      · subst heq
        have herase : l.dedup.erase b = l.dedup := List.erase_of_not_mem (by simpa using hb)
        rw [List.dedup_cons_of_mem (by simp), ih, herase, List.erase_cons_head]
      · rw [List.dedup_cons_of_notMem (by simp [hb, heq]), ih,
          List.erase_cons_tail (by simpa using heq), List.cons_append]

omit [DecidableEq α] in
theorem rtake_rtake (l : List α) (n : Nat) : (l.rtake n).rtake n = l.rtake n := by
  have hlength : (l.rtake n).length ≤ n := by
    simp only [List.rtake, List.length_drop]
    omega
  simp [List.rtake.eq_1 (l.rtake n), Nat.sub_eq_zero_of_le hlength]

theorem erase_concat {a b : α} (l : List α) (h : b ≠ a) :
    (l ++ [b]).erase a = l.erase a ++ [b] := by
  by_cases ha : a ∈ l
  · exact List.erase_append_left _ ha
  · rw [List.erase_append_right _ ha, List.erase_of_not_mem ha,
      List.erase_cons_tail (by simpa using h), List.erase_nil]

/-- Of the last members one less is left when one of all members is taken away. -/
theorem rtake_erase_rtake {l : List α} (hl : l.Nodup) (n : Nat) (a : α) :
    ((l.rtake (n + 1)).erase a).rtake n = (l.erase a).rtake n := by
  induction l using List.reverseRecOn generalizing n with
  | nil => simp [List.rtake]
  | append_singleton l b ih =>
    have hparts := List.nodup_append.mp hl
    have hb : b ∉ l := fun hmem => hparts.2.2 b hmem b (by simp) rfl
    rw [List.rtake_concat_succ]
    by_cases heq : b = a
    · subst heq
      have hb' : b ∉ l.rtake n := fun hmem => hb (List.mem_of_mem_drop hmem)
      rw [List.erase_append_right _ hb', List.erase_append_right _ hb, List.erase_cons_head,
        List.append_nil, List.append_nil, rtake_rtake]
    · rw [erase_concat _ heq, erase_concat _ heq]
      cases n with
      | zero => simp
      | succ n => rw [List.rtake_concat_succ, List.rtake_concat_succ, ih hparts.1]

omit [DecidableEq α] in
/-- A member is among the last ones if few enough stand behind it. -/
theorem mem_rtake_append {l m : List α} {a : α} (h : (l ++ a :: m).Nodup) (n : Nat) :
    a ∈ (l ++ a :: m).rtake n ↔ m.length < n := by
  obtain ⟨-, htail, hapart⟩ := List.nodup_append.mp h
  have hl : a ∉ l := fun hmem => hapart a hmem a (by simp) rfl
  have hm : a ∉ m := (List.nodup_cons.mp htail).1
  rw [List.rtake, List.drop_append, List.mem_append]
  have hfront : a ∉ l.drop ((l ++ a :: m).length - n) := fun hmem => hl (List.mem_of_mem_drop hmem)
  by_cases hlt : m.length < n
  · have hzero : (l ++ a :: m).length - n - l.length = 0 := by
      simp only [List.length_append, List.length_cons]
      omega
    rw [hzero, List.drop_zero]
    simp [hlt]
  · obtain ⟨k, hk⟩ : ∃ k, (l ++ a :: m).length - n - l.length = k + 1 := by
      refine ⟨m.length - n, ?_⟩
      simp only [List.length_append, List.length_cons]
      omega
    have hback : a ∉ m.drop k := fun hmem => hm (List.mem_of_mem_drop hmem)
    rw [hk, List.drop_succ_cons]
    exact iff_of_false (not_or.mpr ⟨hfront, hback⟩) hlt

end Queue

section Operations

open CacheOp

variable {ops between : List CacheOp} {key : CacheKey}

theorem keys_append (ops ops' : List CacheOp) : keys (ops ++ ops') = keys ops ++ keys ops' :=
  List.filterMap_append

theorem mem_keys : key ∈ keys ops ↔ .interpret key ∈ ops := by
  simp only [keys, List.mem_filterMap]
  constructor
  · rintro ⟨op, hop, hkey⟩
    cases op with
    | interpret k =>
      cases hkey
      exact hop
    | clear => cases hkey
  · intro h
    exact ⟨_, h, rfl⟩

theorem sinceClear_interpret (ops : List CacheOp) (key : CacheKey) :
    sinceClear (ops ++ [.interpret key]) = sinceClear ops ++ [.interpret key] :=
  List.rtakeWhile_concat_pos _ _ _ (by simp)

theorem sinceClear_clear (ops : List CacheOp) : sinceClear (ops ++ [.clear]) = [] :=
  List.rtakeWhile_concat_neg _ _ _ (by simp)

theorem lastUsed_interpret (ops : List CacheOp) (key : CacheKey) :
    lastUsed (ops ++ [.interpret key]) = (lastUsed ops).erase key ++ [key] := by
  rw [lastUsed, sinceClear_interpret, keys_append]
  exact dedup_concat _ key

theorem lastUsed_clear (ops : List CacheOp) : lastUsed (ops ++ [.clear]) = [] := by
  rw [lastUsed, sinceClear_clear]
  rfl

theorem sinceClear_append (h : .clear ∉ between) :
    sinceClear (ops ++ between) = sinceClear ops ++ between := by
  induction between using List.reverseRecOn with
  | nil => simp
  | append_singleton between op ih =>
    rw [← List.append_assoc]
    cases op with
    | interpret key =>
      rw [sinceClear_interpret, ih (fun hmem => h (by simp [hmem])), List.append_assoc]
    | clear => simp at h

theorem sinceClear_append_of_clear (ops : List CacheOp) (h : .clear ∈ between) :
    sinceClear (ops ++ between) = sinceClear between := by
  induction between using List.reverseRecOn with
  | nil => simp at h
  | append_singleton between op ih =>
    rw [← List.append_assoc]
    cases op with
    | interpret key => rw [sinceClear_interpret, sinceClear_interpret, ih (by simpa using h)]
    | clear => rw [sinceClear_clear, sinceClear_clear]

/-- Behind its last use a key is kept until the cache is cleared or enough others are used. -/
theorem mem_lastUsed (ops : List CacheOp) (hlast : .interpret key ∉ between) (n : Nat) :
    key ∈ (lastUsed (ops ++ .interpret key :: between)).rtake n ↔
      .clear ∉ between ∧ (keys between).toFinset.card < n := by
  have hkey : key ∉ keys between := fun h => hlast (mem_keys.mp h)
  by_cases hclear : .clear ∈ between
  · have hsince : sinceClear (ops ++ .interpret key :: between) = sinceClear between := by
      have h := sinceClear_append_of_clear (ops ++ [.interpret key]) hclear
      simpa using h
    have hnot : key ∉ lastUsed (ops ++ .interpret key :: between) := by
      rw [lastUsed, hsince, List.mem_dedup, mem_keys]
      exact fun h => hlast ((List.rtakeWhile_suffix _ _).mem h)
    simp only [hclear, not_true_eq_false, false_and, iff_false]
    exact fun h => hnot (List.mem_of_mem_drop h)
  · have hsince : keys (sinceClear (ops ++ .interpret key :: between)) =
        keys (sinceClear ops) ++ key :: keys between := by
      rw [sinceClear_append (by simpa using hclear), keys_append]
      rfl
    have hdedup : (key :: keys between).dedup = key :: (keys between).dedup :=
      List.dedup_cons_of_notMem hkey
    obtain ⟨front, hfront⟩ : ∃ front,
        front ++ key :: (keys between).dedup = lastUsed (ops ++ .interpret key :: between) := by
      rw [lastUsed, hsince, List.dedup_append, hdedup]
      exact List.suffix_union_right _ _
    have hnodup : (front ++ key :: (keys between).dedup).Nodup := by
      rw [hfront]
      exact List.nodup_dedup _
    rw [← hfront, mem_rtake_append hnodup, List.card_toFinset]
    simp [hclear]

end Operations

section Evict

variable {capacity : Nat} {queue : List CacheKey} {cells : List (CacheKey × CacheEntry)}

/-- The keys at the end of the queue stay, and the cells of the others go. -/
theorem evict_eq (capacity : Nat) (queue : List CacheKey) (cells : List (CacheKey × CacheEntry)) :
    evict capacity queue cells =
      (queue.rtake capacity,
        cells.filter fun cell => cell.1 ∉ queue.take (queue.length - capacity)) := by
  induction queue generalizing cells with
  | nil => simp [evict, List.rtake]
  | cons key queue ih =>
    rw [evict]
    split
    · rename_i hlt
      obtain ⟨n, hn⟩ : ∃ n, (key :: queue).length - capacity = n + 1 :=
        ⟨queue.length - capacity, by simp only [List.length_cons] at hlt ⊢; omega⟩
      have hn' : queue.length - capacity = n := by
        simp only [List.length_cons] at hn
        omega
      rw [ih]
      simp only [List.rtake, hn, hn', List.drop_succ_cons, List.take_succ_cons, List.filter_filter]
      congr 2
      funext cell
      by_cases heq : cell.1 = key <;> simp [heq]
    · rename_i hge
      have hzero : (key :: queue).length - capacity = 0 := by omega
      rw [List.rtake, hzero, List.drop_zero, List.take_zero]
      simp

theorem mem_of_mem_evict {cell : CacheKey × CacheEntry}
    (h : cell ∈ (evict capacity queue cells).2) : cell ∈ cells := by
  rw [evict_eq] at h
  exact List.mem_of_mem_filter h

/-- Cells with the keys of the queue have the keys of what is left of it. -/
theorem mem_keys_evict (hqueue : queue.Nodup)
    (h : ∀ key, key ∈ cells.map (·.1) ↔ key ∈ queue) (key : CacheKey) :
    key ∈ (evict capacity queue cells).2.map (·.1) ↔ key ∈ (evict capacity queue cells).1 := by
  have hsplit := List.take_append_drop (queue.length - capacity) queue
  have hapart := (List.nodup_append.mp (hsplit ▸ hqueue)).2.2
  have hmem : key ∈ queue ↔ key ∈ queue.take (queue.length - capacity) ∨
      key ∈ queue.rtake capacity := by
    rw [List.rtake, ← List.mem_append, hsplit]
  have hcells : key ∈ (evict capacity queue cells).2.map (·.1) ↔
      key ∈ cells.map (·.1) ∧ key ∉ queue.take (queue.length - capacity) := by
    simp only [evict_eq, List.mem_map, List.mem_filter, decide_eq_true_eq]
    constructor
    · rintro ⟨cell, ⟨hcell, hnot⟩, rfl⟩
      exact ⟨⟨cell, hcell, rfl⟩, hnot⟩
    · rintro ⟨⟨cell, hcell, rfl⟩, hnot⟩
      exact ⟨cell, ⟨hcell, hnot⟩, rfl⟩
  rw [hcells, h, hmem, evict_eq]
  constructor
  · rintro ⟨hfront | hback, hnot⟩
    · exact absurd hfront hnot
    · exact hback
  · intro hback
    exact ⟨.inr hback, fun hfront => hapart key hfront key hback rfl⟩

end Evict

section Cells

variable {cells : List (CacheKey × CacheEntry)} {key : CacheKey} {entry : CacheEntry}

theorem mem_of_lookup (h : cells.lookup key = some entry) : (key, entry) ∈ cells := by
  obtain ⟨front, back, rfl, -⟩ := List.lookup_eq_some_iff.mp h
  simp

theorem lookup_of_mem (hnodup : (cells.map (·.1)).Nodup) (h : (key, entry) ∈ cells) :
    cells.lookup key = some entry := by
  obtain ⟨front, back, rfl⟩ := List.append_of_mem h
  rw [List.lookup_eq_some_iff]
  refine ⟨front, back, rfl, ?_⟩
  intro cell hcell
  rw [List.map_append, List.nodup_append] at hnodup
  have hne := hnodup.2.2 cell.1 (List.mem_map_of_mem hcell) key (by simp)
  simpa using hne.symm

theorem lookup_eq_none : cells.lookup key = none ↔ key ∉ cells.map (·.1) := by
  rw [List.lookup_eq_none_iff]
  constructor
  · intro h hmem
    obtain ⟨cell, hcell, rfl⟩ := List.mem_map.mp hmem
    simpa using h cell hcell
  · intro h cell hcell
    have hne : cell.1 ≠ key := fun heq => h (heq ▸ List.mem_map_of_mem hcell)
    simpa using hne.symm

end Cells

section Run

variable {settings : Settings} {capacity : Nat} {ops between : List CacheOp} {c : Cache}
variable {key other : CacheKey} {entry : CacheEntry}

/-- What a cache is behind operations on a new one: the queue holds the keys used last, the cells
have the keys of the queue, and every result is the one of its key. -/
structure Remembers (settings : Settings) (capacity : Nat) (ops : List CacheOp) (c : Cache) :
    Prop where
  settings_eq : c.settings = settings
  capacity_eq : c.capacity = max capacity 1
  recency_eq : c.recency = (CacheOp.lastUsed ops).rtake (max capacity 1)
  nodup_cells : (c.cells.map (·.1)).Nodup
  mem_cells (key : CacheKey) : key ∈ c.cells.map (·.1) ↔ key ∈ c.recency
  result (key : CacheKey) (entry : CacheEntry) : (key, entry) ∈ c.cells →
    entry.result = Run.interpret settings key.grammar key.input false
  serial (key : CacheKey) (entry : CacheEntry) : (key, entry) ∈ c.cells → entry.serial < c.made

theorem Remembers.nodup_recency (h : Remembers settings capacity ops c) : c.recency.Nodup := by
  rw [h.recency_eq]
  exact (List.nodup_dedup _).sublist (List.drop_sublist _ _)

theorem Remembers.size_eq (h : Remembers settings capacity ops c) :
    c.size = min (max capacity 1) (CacheOp.keys (CacheOp.sinceClear ops)).toFinset.card := by
  have hperm : (c.cells.map (·.1)).Perm c.recency :=
    (List.perm_ext_iff_of_nodup h.nodup_cells h.nodup_recency).mpr h.mem_cells
  have hlength := hperm.length_eq
  rw [List.length_map, h.recency_eq] at hlength
  rw [size, hlength, List.card_toFinset, List.rtake, List.length_drop]
  change (CacheOp.lastUsed ops).length - _ = min _ (CacheOp.lastUsed ops).length
  omega

/-- A key is looked up, its result is made if there is none, and it becomes the one used last. -/
theorem interpret_cases (c : Cache) (key : CacheKey) :
    (∃ entry, c.cells.lookup key = some entry ∧
      c.interpret key.grammar key.input = (entry, c.use key c.cells)) ∨
    (∃ entry, c.cells.lookup key = none ∧ entry.serial = c.made ∧
      entry.result = Run.interpret c.settings key.grammar key.input false ∧
      c.interpret key.grammar key.input =
        (entry, { c with made := c.made + 1 }.use key (c.cells ++ [(key, entry)]))) := by
  obtain ⟨grammar, input⟩ := key
  rw [interpret]
  dsimp only
  -- what the result is does not matter here
  generalize Run.interpret c.settings grammar input false = result
  cases hlookup : c.cells.lookup ⟨grammar, input⟩ with
  | some entry => exact .inl ⟨entry, rfl, rfl⟩
  | none => exact .inr ⟨⟨c.made, result⟩, rfl, rfl, rfl, rfl⟩

/-- To use a key of cells that belong to the queue with it keeps queue and cells together. -/
theorem Remembers.use (h : Remembers settings capacity ops c) (made : Nat)
    {cells : List (CacheKey × CacheEntry)} (hnodup : (cells.map (·.1)).Nodup)
    (hkeys : ∀ other, other ∈ cells.map (·.1) ↔ other ∈ c.cells.map (·.1) ∨ other = key)
    (hresult : ∀ other entry, (other, entry) ∈ cells →
      entry.result = Run.interpret settings other.grammar other.input false ∧
        entry.serial < made) :
    Remembers settings capacity (ops ++ [.interpret key])
      ({ c with made := made }.use key cells) := by
  have hlast : (CacheOp.lastUsed ops).Nodup := List.nodup_dedup _
  have hrecency := h.nodup_recency
  have hqueue : (c.recency.erase key ++ [key]).Nodup := by
    rw [List.nodup_append]
    refine ⟨hrecency.erase key, by simp, ?_⟩
    rintro other hother _ hkey rfl
    rw [List.mem_singleton.mp hkey] at hother
    exact hrecency.not_mem_erase hother
  have hsame (other : CacheKey) :
      other ∈ cells.map (·.1) ↔ other ∈ c.recency.erase key ++ [key] := by
    rw [hkeys, h.mem_cells, List.mem_append, List.mem_singleton]
    by_cases heq : other = key
    · simp [heq]
    · simp [heq, List.mem_erase_of_ne heq]
  refine ⟨h.settings_eq, h.capacity_eq, ?_, ?_, mem_keys_evict hqueue hsame, ?_, ?_⟩
  · obtain ⟨n, hn⟩ : ∃ n, max capacity 1 = n + 1 := ⟨max capacity 1 - 1, by omega⟩
    change (evict c.capacity (c.recency.erase key ++ [key]) cells).1 = _
    rw [evict_eq, h.capacity_eq, h.recency_eq, lastUsed_interpret, hn, List.rtake_concat_succ,
      List.rtake_concat_succ, rtake_erase_rtake hlast]
  · change ((evict c.capacity (c.recency.erase key ++ [key]) cells).2.map (·.1)).Nodup
    rw [evict_eq]
    exact hnodup.sublist (List.filter_sublist.map _)
  · exact fun other entry hmem => (hresult other entry (mem_of_mem_evict hmem)).1
  · exact fun other entry hmem => (hresult other entry (mem_of_mem_evict hmem)).2

theorem Remembers.after (h : Remembers settings capacity ops c) (op : CacheOp) :
    Remembers settings capacity (ops ++ [op]) (c.after op) := by
  cases op with
  | clear =>
    exact ⟨h.settings_eq, h.capacity_eq, by simp [Cache.after, clear, lastUsed_clear, List.rtake],
      by simp [Cache.after, clear], by simp [Cache.after, clear], by simp [Cache.after, clear],
      by simp [Cache.after, clear]⟩
  | interpret key =>
    have hold (other : CacheKey) (entry : CacheEntry) (hmem : (other, entry) ∈ c.cells) :=
      And.intro (h.result other entry hmem) (h.serial other entry hmem)
    rw [Cache.after]
    obtain ⟨entry, hlookup, hrun⟩ | ⟨entry, hlookup, hserial, hnew, hrun⟩ :=
      interpret_cases c key
    · rw [hrun]
      have hmem := List.mem_map_of_mem (f := (·.1)) (mem_of_lookup hlookup)
      refine h.use c.made h.nodup_cells ?_ hold
      intro other
      constructor
      · exact .inl
      · rintro (hother | rfl)
        · exact hother
        · exact hmem
    · rw [hrun]
      have hnot := lookup_eq_none.mp hlookup
      refine h.use (c.made + 1) ?_ ?_ ?_
      · rw [List.map_append, List.nodup_append]
        refine ⟨h.nodup_cells, by simp, ?_⟩
        rintro other hother _ hkey rfl
        rw [List.map_singleton, List.mem_singleton] at hkey
        subst hkey
        exact hnot hother
      · intro other
        simp
      · intro other found hmem
        rcases List.mem_append.mp hmem with hmem | hmem
        · obtain ⟨hresult, hlt⟩ := hold other found hmem
          exact ⟨hresult, by omega⟩
        · cases List.mem_singleton.mp hmem
          rw [h.settings_eq] at hnew
          exact ⟨hnew, by omega⟩

theorem behind_concat (settings : Settings) (capacity : Nat) (ops : List CacheOp) (op : CacheOp) :
    behind settings capacity (ops ++ [op]) = (behind settings capacity ops).after op := by
  simp [behind]

theorem behind_remembers (settings : Settings) (capacity : Nat) (ops : List CacheOp) :
    Remembers settings capacity ops (behind settings capacity ops) := by
  induction ops using List.reverseRecOn with
  | nil =>
    exact ⟨rfl, rfl,
      by simp [behind, new, CacheOp.lastUsed, CacheOp.sinceClear, CacheOp.keys, List.rtake],
      by simp [behind, new], by simp [behind, new], by simp [behind, new], by simp [behind, new]⟩
  | append_singleton ops op ih =>
    rw [behind_concat]
    exact ih.after op

/-- The only cell that an operation can add is the one it answers with. -/
theorem mem_of_mem_after {op : CacheOp} (h : (other, entry) ∈ (c.after op).cells) :
    (other, entry) ∈ c.cells ∨
      op = .interpret other ∧ entry = (c.interpret other.grammar other.input).1 := by
  cases op with
  | clear => simp [Cache.after, clear] at h
  | interpret key =>
    rw [Cache.after] at h
    rcases interpret_cases c key with ⟨found, -, hrun⟩ | ⟨found, -, -, -, hrun⟩
    · rw [hrun] at h
      exact .inl (mem_of_mem_evict h)
    · rw [hrun] at h
      rcases List.mem_append.mp (mem_of_mem_evict h) with hmem | hmem
      · exact .inl hmem
      · cases List.mem_singleton.mp hmem
        exact .inr ⟨rfl, by rw [hrun]⟩

theorem Remembers.answer_of_mem (h : Remembers settings capacity ops c)
    (hmem : (key, entry) ∈ c.cells) : (c.interpret key.grammar key.input).1 = entry := by
  have hlookup := lookup_of_mem h.nodup_cells hmem
  rcases interpret_cases c key with ⟨found, hfound, hrun⟩ | ⟨found, hnone, -⟩
  · rw [hlookup] at hfound
    cases hfound
    rw [hrun]
  · rw [hlookup] at hnone
    cases hnone

/-- A result that is not remembered gets the next serial number. -/
theorem Remembers.serial_of_not_mem (h : Remembers settings capacity ops c)
    (hkey : key ∉ c.recency) : (c.interpret key.grammar key.input).1.serial = c.made := by
  have hnone := lookup_eq_none.mpr (fun hmem => hkey ((h.mem_cells key).mp hmem))
  rcases interpret_cases c key with ⟨found, hfound, -⟩ | ⟨found, -, hserial, -, hrun⟩
  · rw [hnone] at hfound
    cases hfound
  · rw [hrun, hserial]

theorem Remembers.answer_result (h : Remembers settings capacity ops c) (key : CacheKey) :
    (c.interpret key.grammar key.input).1.result =
      Run.interpret settings key.grammar key.input false := by
  rcases interpret_cases c key with ⟨found, hfound, hrun⟩ | ⟨found, -, -, hresult, hrun⟩
  · rw [hrun]
    exact h.result key found (mem_of_lookup hfound)
  · rw [hrun, hresult, h.settings_eq]

/-- What is still remembered behind the last use of a key is the answer given there. -/
theorem kept_eq_answer (hlast : .interpret key ∉ between)
    (hmem : (key, entry) ∈ (behind settings capacity (ops ++ .interpret key :: between)).cells) :
    entry = answer settings capacity ops key := by
  induction between using List.reverseRecOn with
  | nil =>
    rw [behind_concat] at hmem
    rcases mem_of_mem_after hmem with hold | ⟨-, hnew⟩
    · exact ((behind_remembers settings capacity ops).answer_of_mem hold).symm
    · exact hnew
  | append_singleton between op ih =>
    rw [← List.cons_append, ← List.append_assoc, behind_concat] at hmem
    rcases mem_of_mem_after hmem with hold | ⟨rfl, -⟩
    · exact ih (fun h => hlast (by simp [h])) hold
    · exact absurd (by simp) hlast

theorem made_le_after (c : Cache) (op : CacheOp) : c.made ≤ (c.after op).made := by
  cases op with
  | clear => exact Nat.le_refl _
  | interpret key =>
    rw [Cache.after]
    rcases interpret_cases c key with ⟨found, -, hrun⟩ | ⟨found, -, -, -, hrun⟩
    · rw [hrun]
      exact Nat.le_refl _
    · rw [hrun]
      exact Nat.le_succ _

/-- Behind an answer more results are made than its serial number says. -/
theorem serial_lt_made (settings : Settings) (capacity : Nat) (before rest : List CacheOp)
    (key : CacheKey) :
    (answer settings capacity before key).serial <
      (behind settings capacity (before ++ .interpret key :: rest)).made := by
  induction rest using List.reverseRecOn with
  | nil =>
    have h := behind_remembers settings capacity before
    rw [behind_concat, answer, Cache.after]
    rcases interpret_cases (behind settings capacity before) key with
      ⟨found, hfound, hrun⟩ | ⟨found, -, hserial, -, hrun⟩
    · rw [hrun]
      exact h.serial key found (mem_of_lookup hfound)
    · rw [hrun, hserial]
      exact Nat.lt_succ_self _
  | append_singleton rest op ih =>
    rw [← List.cons_append, ← List.append_assoc, behind_concat]
    exact Nat.lt_of_lt_of_le ih (made_le_after _ op)

/-- Whether a cache still has the result it gave at the last use of a key. -/
theorem answer_kept (hlast : .interpret key ∉ between)
    (hkept : .clear ∉ between ∧ (CacheOp.keys between).toFinset.card < max capacity 1) :
    answer settings capacity (ops ++ .interpret key :: between) key =
      answer settings capacity ops key := by
  have h := behind_remembers settings capacity (ops ++ .interpret key :: between)
  have hkey := (mem_lastUsed ops hlast (max capacity 1)).mpr hkept
  rw [← h.recency_eq, ← h.mem_cells] at hkey
  obtain ⟨⟨_, entry⟩, hmem, rfl⟩ := List.mem_map.mp hkey
  rw [answer, h.answer_of_mem hmem]
  exact kept_eq_answer hlast hmem

/-- A result that is not remembered is none of those given before. -/
theorem answer_new (hkey : key ∉ (CacheOp.lastUsed ops).rtake (max capacity 1))
    {before rest : List CacheOp} (hops : ops = before ++ .interpret other :: rest) :
    (answer settings capacity ops key).serial ≠ (answer settings capacity before other).serial := by
  have h := behind_remembers settings capacity ops
  rw [← h.recency_eq] at hkey
  have hnew : (answer settings capacity ops key).serial = (behind settings capacity ops).made :=
    h.serial_of_not_mem hkey
  have hlt := serial_lt_made settings capacity before rest other
  rw [← hops] at hlt
  omega

theorem exists_last_use (h : .interpret key ∈ ops) :
    ∃ before between, ops = before ++ .interpret key :: between ∧ .interpret key ∉ between := by
  obtain ⟨between, before, hsplit, hnot⟩ :=
    List.eq_append_cons_of_mem (List.mem_reverse.mpr h)
  refine ⟨before.reverse, between.reverse, ?_, by simpa using hnot⟩
  rw [← List.reverse_reverse ops, hsplit]
  simp

/-- Behind any operations a cache holds the keys used last, as many as there is room for, each
once, in its queue and in its cells. Its answers are those of interpretations made anew. It gives
the very result of the last use of a key if and only if it was not cleared since and fewer other
keys were used than there is room for, and else one that it never gave before. -/
theorem answers_as_made_anew (settings : Settings) (capacity : Nat) (ops : List CacheOp) :
    let c := behind settings capacity ops
    let kept := max capacity 1
    (c.recency = (CacheOp.lastUsed ops).rtake kept ∧ c.recency.Nodup ∧
      (c.cells.map (·.1)).Nodup ∧ (∀ key, key ∈ c.cells.map (·.1) ↔ key ∈ c.recency) ∧
      c.size = min kept (CacheOp.keys (CacheOp.sinceClear ops)).toFinset.card) ∧
    ∀ key,
      (answer settings capacity ops key).result =
        Run.interpret settings key.grammar key.input false ∧
      (∀ before between, ops = before ++ .interpret key :: between → .interpret key ∉ between →
        ((answer settings capacity ops key).serial = (answer settings capacity before key).serial ↔
          .clear ∉ between ∧ (CacheOp.keys between).toFinset.card < kept)) ∧
      ((∃ before between, ops = before ++ .interpret key :: between ∧ .interpret key ∉ between ∧
          .clear ∉ between ∧ (CacheOp.keys between).toFinset.card < kept ∧
          answer settings capacity ops key = answer settings capacity before key) ∨
        ∀ before other rest, ops = before ++ .interpret other :: rest →
          (answer settings capacity ops key).serial ≠
            (answer settings capacity before other).serial) := by
  intro c kept
  have h : Remembers settings capacity ops c := behind_remembers settings capacity ops
  have hnodup : c.recency.Nodup := h.nodup_recency
  refine ⟨⟨h.recency_eq, hnodup, h.nodup_cells, h.mem_cells, h.size_eq⟩, ?_⟩
  intro key
  refine ⟨h.answer_result key, ?_, ?_⟩
  · rintro before between rfl hlast
    constructor
    · intro hserial
      apply Decidable.byContradiction
      intro hnot
      rw [← mem_lastUsed before hlast] at hnot
      exact answer_new hnot rfl hserial
    · intro hkept
      rw [answer_kept hlast hkept]
  · by_cases hkey : key ∈ (CacheOp.lastUsed ops).rtake kept
    · left
      have hused : key ∈ CacheOp.keys (CacheOp.sinceClear ops) :=
        List.mem_dedup.mp (List.mem_of_mem_drop hkey)
      obtain ⟨before, between, rfl, hlast⟩ :=
        exists_last_use ((List.rtakeWhile_suffix _ _).mem (mem_keys.mp hused))
      have hkept := (mem_lastUsed before hlast kept).mp hkey
      exact ⟨before, between, rfl, hlast, hkept.1, hkept.2, answer_kept hlast hkept⟩
    · right
      intro before other rest hops
      exact answer_new hkey hops

end Run

end Cache

end GrammarWorkbench.Run
