import GrammarWorkbench.Proofs.Parsing.Complete

/-!
# Grouping by operators

An expression is a primary and then operators, each with a primary behind it. Its grouping applies
the loosest operator last: of those declared latest, the rightmost one if they group to the left,
and the leftmost one if they group to the right. A call of a rule that reads primaries and operators
with their precedences makes the tree of this grouping, and no other tree has it.
-/

set_option autoImplicit false

namespace GrammarWorkbench.Run

open GrammarWorkbench.Model

/-- An alternative of a rule for expressions: a token, or one of some tokens between two
expressions. -/
inductive Form where
  | primary (type : Nat)
  | binary (types : List Nat) (rightAssoc : Bool)
  deriving DecidableEq

def Form.operators : Form → List Nat
  | .primary _ => []
  | .binary types _ => types

def IsPrimary (forms : List Form) (type : Nat) : Prop := .primary type ∈ forms

def IsOperator (forms : List Form) (k : Nat) (rightAssoc : Bool) (type : Nat) : Prop :=
  ∃ types, forms[k]? = some (.binary types rightAssoc) ∧ type ∈ types

def SomeOperator (forms : List Form) (type : Nat) : Prop := ∃ f ∈ forms, type ∈ f.operators

def OperatorsApart (forms : List Form) : Prop :=
  forms.Pairwise fun f g => ∀ type ∈ f.operators, type ∉ g.operators

abbrev Tail := List (Token × Token)

def tailTokens (es : Tail) : List Token := es.flatMap fun e => [e.1, e.2]

def IsTail (forms : List Form) (es : Tail) : Prop :=
  ∀ e ∈ es, SomeOperator forms e.1.type ∧ IsPrimary forms e.2.type

instance (forms : List Form) (type : Nat) : Decidable (IsPrimary forms type) :=
  inferInstanceAs (Decidable (_ ∈ forms))

instance (forms : List Form) (type : Nat) : Decidable (SomeOperator forms type) :=
  inferInstanceAs (Decidable (∃ f ∈ forms, type ∈ f.operators))

instance (forms : List Form) : Decidable (OperatorsApart forms) :=
  inferInstanceAs (Decidable (forms.Pairwise _))

instance (forms : List Form) (es : Tail) : Decidable (IsTail forms es) :=
  inferInstanceAs (Decidable (∀ e ∈ es, _ ∧ _))

/-- The operator that is applied last: none is looser, and its like are on the side to which they
group. -/
structure IsRoot (forms : List Form) (k : Nat) (rightAssoc : Bool) (left : Tail) (o : Token)
    (right : Tail) : Prop where
  operator : IsOperator forms k rightAssoc o.type
  loosest : ∀ e ∈ left ++ right, ∀ k' r', IsOperator forms k' r' e.1.type → k' ≤ k
  side : ∀ e ∈ if rightAssoc then left else right, ¬ IsOperator forms k rightAssoc e.1.type

inductive Grouped (forms : List Form) (index : Nat) : Token → Tail → Tree → Prop
  | primary (x : Token) : Grouped forms index x [] (.rule index [.token x])
  | binary {x o y : Token} {left right : Tail} {l r : Tree} {k : Nat} {rightAssoc : Bool}
      (hroot : IsRoot forms k rightAssoc left o right) (hl : Grouped forms index x left l)
      (hr : Grouped forms index y right r) :
      Grouped forms index x (left ++ (o, y) :: right) (.rule index [l, .token o, r])

section Unique

variable {forms : List Form}

theorem someOperator_iff {t : Nat} :
    SomeOperator forms t ↔ ∃ k r, IsOperator forms k r t := by
  constructor
  · rintro ⟨f, hf, ht⟩
    obtain ⟨k, hk⟩ := List.mem_iff_getElem?.mp hf
    cases f with
    | primary => cases ht
    | binary types r => exact ⟨k, r, types, hk, ht⟩
  · rintro ⟨k, r, types, hk, ht⟩
    exact ⟨_, List.mem_of_getElem? hk, ht⟩

theorem OperatorsApart.index_eq (h : OperatorsApart forms) {k l : Nat} {r r' : Bool} {t : Nat}
    (hk : IsOperator forms k r t) (hl : IsOperator forms l r' t) : k = l := by
  obtain ⟨types, hk, ht⟩ := hk
  obtain ⟨types', hl, ht'⟩ := hl
  obtain ⟨hkl, hkget⟩ := List.getElem?_eq_some_iff.mp hk
  obtain ⟨hll, hlget⟩ := List.getElem?_eq_some_iff.mp hl
  have hpairs := List.pairwise_iff_getElem.mp h
  by_contra hne
  rcases Nat.lt_or_gt_of_ne hne with hlt | hlt
  · have := hpairs k l hkl hll hlt t
    simp [hkget, hlget, Form.operators, ht, ht'] at this
  · have := hpairs l k hll hkl hlt t
    simp [hkget, hlget, Form.operators, ht, ht'] at this

theorem IsOperator.right_eq {k : Nat} {r r' : Bool} {t t' : Nat} (h : IsOperator forms k r t)
    (h' : IsOperator forms k r' t') : r = r' := by
  obtain ⟨types, hk, -⟩ := h
  obtain ⟨types', hk', -⟩ := h'
  rw [hk] at hk'
  cases hk'
  rfl

theorem IsOperator.lt {k : Nat} {r : Bool} {t : Nat} (h : IsOperator forms k r t) :
    k < forms.length := by
  obtain ⟨types, hk, -⟩ := h
  exact (List.getElem?_eq_some_iff.mp hk).1

/-- Of two operators of which each is applied last, none is to the right of the other. -/
theorem IsRoot.not_before {k k' : Nat} {r r' : Bool} {left mid right : Tail} {o o' y y' : Token}
    (h : IsRoot forms k r left o (mid ++ (o', y') :: right))
    (h' : IsRoot forms k' r' (left ++ (o, y) :: mid) o' right) : False := by
  have hle := h.loosest (o', y') (by simp) k' r' h'.operator
  have hge := h'.loosest (o, y) (by simp) k r h.operator
  obtain rfl : k = k' := by omega
  obtain rfl := h.operator.right_eq h'.operator
  cases r with
  | true => exact h'.side (o, y) (by simp) h.operator
  | false => exact h.side (o', y') (by simp) h'.operator

theorem IsRoot.unique {k k' : Nat} {r r' : Bool} {left left' right right' : Tail}
    {o o' y y' : Token} (h : IsRoot forms k r left o right)
    (h' : IsRoot forms k' r' left' o' right')
    (heq : left ++ (o, y) :: right = left' ++ (o', y') :: right') :
    left = left' ∧ (o, y) = (o', y') ∧ right = right' := by
  rcases List.append_eq_append_iff.mp heq with ⟨mid, rfl, hmid⟩ | ⟨mid, rfl, hmid⟩
  · cases mid with
    | nil => simpa using hmid
    | cons e mid =>
      obtain ⟨rfl, rfl⟩ := List.cons.inj hmid
      exact (h.not_before h').elim
  · cases mid with
    | nil => simpa [eq_comm] using hmid
    | cons e mid =>
      obtain ⟨rfl, rfl⟩ := List.cons.inj hmid
      exact (h'.not_before h).elim

theorem Grouped.inv {index : Nat} {x : Token} {es : Tail} {t : Tree}
    (h : Grouped forms index x es t) :
    (es = [] ∧ t = .rule index [.token x]) ∨
      ∃ left o y right l r k rightAssoc, es = left ++ (o, y) :: right ∧
        t = .rule index [l, .token o, r] ∧ IsRoot forms k rightAssoc left o right ∧
        Grouped forms index x left l ∧ Grouped forms index y right r := by
  cases h with
  | primary => exact .inl ⟨rfl, rfl⟩
  | binary hroot hl hr => exact .inr ⟨_, _, _, _, _, _, _, _, rfl, rfl, hroot, hl, hr⟩

theorem Grouped.unique {index : Nat} {x : Token} {es : Tail} {t t' : Tree}
    (h : Grouped forms index x es t) (h' : Grouped forms index x es t') : t = t' := by
  induction h generalizing t' with
  | primary x =>
    rcases h'.inv with ⟨-, rfl⟩ | ⟨left, o, y, right, _, _, _, _, heq, -⟩
    · rfl
    · simp at heq
  | @binary x o y left right l r k rightAssoc hroot hl hr ihl ihr =>
    rcases h'.inv with ⟨hnil, -⟩ |
      ⟨left', o', y', right', l', r', k', r₂, heq, rfl, hroot', hl', hr'⟩
    · simp at hnil
    · obtain ⟨rfl, hop, rfl⟩ := hroot.unique hroot' heq
      obtain ⟨rfl, rfl⟩ := Prod.mk.inj hop
      rw [ihl hl', ihr hr']

end Unique

def level (forms : List Form) (k : Nat) : Nat := forms.length - k

def operandLevel (forms : List Form) (k : Nat) (rightAssoc : Bool) : Nat :=
  if rightAssoc then level forms k else level forms k + 1

structure Climbs (p : ParserConfig) (index : Nat) (forms : List Form)
    (rule : ParserRule Lookahead) : Prop where
  running : p.isCancelled = false
  rule_eq : p.rules[index]? = some rule
  primary (call : Nat → Nat → Parse Tree) (x : Token) (ts : List Token) :
    IsPrimary forms x.type → parseBlock p call rule.block (x :: ts) = .ok ⟨[.token x], [], ts⟩
  unsplit : rule.operators = none → ∀ k r t, ¬ IsOperator forms k r t
  stops {ops : Operators Lookahead} {t q : Nat} : rule.operators = some ops →
    (∀ k r, IsOperator forms k r t → level forms k < q) → ops.predict t q = none
  goes {ops : Operators Lookahead} {k : Nat} {r : Bool} {t q : Nat} : rule.operators = some ops →
    IsOperator forms k r t → q ≤ level forms k →
    ∃ j, ops.predict t q = some j ∧ ∀ call (o : Token) ts c rest, o.type = t →
      call index (operandLevel forms k r) ts = .ok ⟨c, [], rest⟩ →
      parseAlternative p call ops.block.alternatives j (o :: ts) = .ok ⟨[.token o, c], [], rest⟩

def Tighter (forms : List Form) (q : Nat) (e : Token × Token) : Prop :=
  ∀ k r, IsOperator forms k r e.1.type → q ≤ level forms k

def Looser (forms : List Form) (q : Nat) (e : Token × Token) : Prop :=
  ∀ k r, IsOperator forms k r e.1.type → level forms k < q

section Climb

variable {p : ParserConfig} {index : Nat} {forms : List Form} {rule : ParserRule Lookahead}

def CallsGroup (p : ParserConfig) (index : Nat) (forms : List Form) (room : Nat) : Prop :=
  ∀ q x es rest, IsPrimary forms x.type → IsTail forms (es ++ rest) → es.length < room →
    (∀ e ∈ es, Tighter forms q e) → (∀ e ∈ rest.head?, Looser forms q e) →
    ∃ t, callRule p room index q (x :: tailTokens (es ++ rest)) = .ok ⟨t, [], tailTokens rest⟩ ∧
      Grouped forms index x es t

theorem looser_of_not_tighter (hapart : OperatorsApart forms) {q : Nat} {e : Token × Token}
    (h : ¬ Tighter forms q e) : Looser forms q e := by
  unfold Tighter at h
  push Not at h
  obtain ⟨k, r, hop, hlt⟩ := h
  intro k' r' hop'
  rwa [hapart.index_eq hop' hop]

theorem exists_cut (hapart : OperatorsApart forms) (q : Nat) (es : Tail) :
    ∃ sub rem, es = sub ++ rem ∧ (∀ e ∈ sub, Tighter forms q e) ∧
      ∀ e ∈ rem.head?, Looser forms q e := by
  induction es with
  | nil => exact ⟨[], [], rfl, by simp, by simp⟩
  | cons e es ih =>
    by_cases he : Tighter forms q e
    · obtain ⟨sub, rem, rfl, hsub, hrem⟩ := ih
      exact ⟨e :: sub, rem, rfl, List.forall_mem_cons.mpr ⟨he, hsub⟩, hrem⟩
    · refine ⟨[], e :: es, rfl, by simp, ?_⟩
      intro e' he'
      obtain rfl : e = e' := by simpa using he'
      exact looser_of_not_tighter hapart he

/-- The operators that have been applied are no looser than the next one, and those of its own
alternative group to the left. -/
def Applied (forms : List Form) (done : Tail) (e : Token × Token) : Prop :=
  ∀ k r, IsOperator forms k r e.1.type → ∀ d ∈ done, ∀ k' r', IsOperator forms k' r' d.1.type →
    k' ≤ k ∧ (k' = k → r = false)

/-- The next operator is applied to what has been read and to its right operand. -/
theorem isRoot_of_applied {done sub : Tail} {o y : Token} {k : Nat} {r : Bool}
    (hop : IsOperator forms k r o.type) (hdone : Applied forms done (o, y))
    (hsub : ∀ e ∈ sub, Tighter forms (operandLevel forms k r) e) : IsRoot forms k r done o sub := by
  have hk := hop.lt
  refine ⟨hop, ?_, ?_⟩
  · intro e he k' r' hop'
    rcases List.mem_append.mp he with he | he
    · exact (hdone k r hop e he k' r' hop').1
    · have hle := hsub e he k' r' hop'
      have hk' := hop'.lt
      unfold operandLevel level at hle
      split at hle <;> omega
  · intro e he hop'
    cases r with
    | true => exact absurd ((hdone k true hop e he k true hop').2 rfl) (by simp)
    | false =>
      have hle := hsub e he k false hop'
      simp [operandLevel] at hle

/-- After that the operator behind the right operand comes next. -/
theorem applied_next {done sub : Tail} {o y : Token} {e : Token × Token} {k : Nat} {r : Bool}
    (hroot : IsRoot forms k r done o sub) (he : Looser forms (operandLevel forms k r) e)
    (hapart : OperatorsApart forms) : Applied forms (done ++ (o, y) :: sub) e := by
  intro k₂ r₂ hop₂ d hd k' r' hop'
  have hk := hroot.operator.lt
  have hk₂ := hop₂.lt
  have hlt := he k₂ r₂ hop₂
  have hle : k' ≤ k := by
    have hmem : d ∈ done ++ sub ∨ d = (o, y) := by
      simp only [List.mem_append, List.mem_cons] at hd ⊢
      tauto
    rcases hmem with hmem | rfl
    · exact hroot.loosest d hmem k' r' hop'
    · exact Nat.le_of_eq (hapart.index_eq hop' hroot.operator)
  cases r with
  | true =>
    simp only [operandLevel, level, if_true] at hlt
    constructor
    · omega
    · intro heq
      omega
  | false =>
    simp only [operandLevel, level, Bool.false_eq_true, if_false] at hlt
    constructor
    · omega
    · intro heq
      obtain rfl : k₂ = k := by omega
      exact hop₂.right_eq hroot.operator

theorem Climbs.predict_stop (h : Climbs p index forms rule) {ops : Operators Lookahead}
    (hops : rule.operators = some ops) (hend : ¬ SomeOperator forms endType) {q : Nat}
    {rest : Tail} (hrest : ∀ e ∈ rest.head?, Looser forms q e) :
    ops.predict (nextType (tailTokens rest)) q = none := by
  apply h.stops hops
  cases rest with
  | nil => exact fun k r hop => absurd (someOperator_iff.mpr ⟨k, r, hop⟩) hend
  | cons e rest => exact hrest e rfl

theorem extendOperand_round {ops : Operators Lookahead} {q j n : Nat} {o : Token}
    {ts rest : List Token} {run : Nat → Parse (List Tree)} {left c : Tree} {r : Parsed Tree}
    (hpredict : ops.predict o.type q = some j)
    (hrun : run j (o :: ts) = .ok ⟨[.token o, c], [], rest⟩) (hlt : rest.length < (o :: ts).length)
    (hmore : extendOperand index ops q run n (.rule index [left, .token o, c]) rest = .ok r) :
    extendOperand index ops q run (n + 1) left (o :: ts) = .ok r := by
  have hnext : nextType (o :: ts) = o.type := rfl
  simp only [extendOperand, hnext, hpredict]
  refine Parse.bind_ok.mpr ⟨_, r, hrun, ?_, by simp⟩
  simp only [hlt, if_true, hmore]

/-- The loop over operators. What has been read so far is grouped already, and what has been applied
is tighter than what comes next; every round appends an operator and its right operand. -/
theorem Climbs.extendOperand_groups (h : Climbs p index forms rule) {ops : Operators Lookahead}
    (hops : rule.operators = some ops) (hapart : OperatorsApart forms)
    (hend : ¬ SomeOperator forms endType) {room : Nat}
    (hcalls : CallsGroup p index forms room) {q : Nat} {x : Token} (n : Nat) :
    ∀ (done todo rest : Tail) (left : Tree), (tailTokens (todo ++ rest)).length < n →
      todo.length ≤ room → IsTail forms (todo ++ rest) → (∀ e ∈ todo, Tighter forms q e) →
      (∀ e ∈ rest.head?, Looser forms q e) → (∀ e ∈ todo.head?, Applied forms done e) →
      Grouped forms index x done left →
      ∃ t, extendOperand index ops q
          (parseAlternative p (callRule p room) ops.block.alternatives) n left
          (tailTokens (todo ++ rest)) = .ok ⟨t, [], tailTokens rest⟩ ∧
        Grouped forms index x (done ++ todo) t := by
  induction n with
  | zero => exact fun _ _ _ _ hlen => absurd hlen (Nat.not_lt_zero _)
  | succ n ih =>
    intro done todo rest left hlen hroom htail htight hloose happlied hleft
    cases todo with
    | nil =>
      refine ⟨left, ?_, by simpa using hleft⟩
      simp only [List.nil_append, extendOperand, h.predict_stop hops hend hloose]
      rfl
    | cons e todo =>
      obtain ⟨o, y⟩ := e
      obtain ⟨hsome, hy⟩ := htail (o, y) (by simp)
      obtain ⟨k, r, hop⟩ := someOperator_iff.mp hsome
      obtain ⟨j, hpredict, hrun⟩ := h.goes hops hop (htight (o, y) (by simp) k r hop)
      -- The right operand takes the operators that bind more tightly than this one.
      obtain ⟨sub, rem, rfl, hsub, hrem⟩ := exists_cut hapart (operandLevel forms k r) todo
      have hnext : ∀ e ∈ (rem ++ rest).head?, Looser forms (operandLevel forms k r) e := by
        cases rem with
        | cons e rem => simpa using hrem
        | nil =>
          intro e he k' r' hop'
          have hlt := hloose e he k' r' hop'
          have hle := htight (o, y) (by simp) k r hop
          unfold operandLevel
          split <;> omega
      have htail' : IsTail forms (sub ++ (rem ++ rest)) := fun e he => htail e (by
        simp only [List.cons_append, List.append_assoc, List.mem_cons]
        exact .inr he)
      obtain ⟨c, hcall, hright⟩ := hcalls (operandLevel forms k r) y sub (rem ++ rest) hy htail'
        (by simp at hroom; omega) hsub hnext
      have hroot := isRoot_of_applied hop (happlied (o, y) rfl) hsub
      have htokens : tailTokens ((o, y) :: (sub ++ rem) ++ rest) =
          o :: y :: tailTokens (sub ++ (rem ++ rest)) := by simp [tailTokens]
      have hshort : (tailTokens (rem ++ rest)).length <
          (o :: y :: tailTokens (sub ++ (rem ++ rest))).length := by
        simp [tailTokens]
        omega
      rw [htokens] at hlen ⊢
      obtain ⟨t, hmore, hgrouped⟩ := ih (done ++ (o, y) :: sub) rem rest
        (.rule index [left, .token o, c]) (by omega) (by simp at hroom; omega)
        (fun e he => htail' e (List.mem_append_right _ he))
        (fun e he => htight e (by simp [he])) hloose
        (fun e he => applied_next hroot (hrem e he) hapart) (.binary hroot hleft hright)
      refine ⟨t, ?_, by simpa using hgrouped⟩
      exact extendOperand_round hpredict (hrun _ o _ c _ rfl hcall) hshort hmore

/-- A call groups the operators of at least its precedence. The induction is on the room for calls:
a right operand is read with one call less and has one operator less. -/
theorem Climbs.callsGroup (h : Climbs p index forms rule) (hapart : OperatorsApart forms)
    (hend : ¬ SomeOperator forms endType) (room : Nat) :
    CallsGroup p index forms room := by
  induction room with
  | zero => exact fun q x es rest _ _ hroom => absurd hroom (Nat.not_lt_zero _)
  | succ room ih =>
    intro q x es rest hx htail hroom htight hloose
    have hblock := h.primary (callRule p room) x (tailTokens (es ++ rest)) hx
    cases hops : rule.operators with
    | none =>
      have hnil : es ++ rest = [] := by
        refine List.eq_nil_iff_forall_not_mem.mpr fun e he => ?_
        obtain ⟨k, r, hop⟩ := someOperator_iff.mp (htail e he).1
        exact h.unsplit hops k r _ hop
      obtain ⟨rfl, rfl⟩ := List.append_eq_nil_iff.mp hnil
      exact ⟨_, callRule_eq h.running h.rule_eq hops hblock, .primary x⟩
    | some ops =>
      obtain ⟨t, hextend, hgrouped⟩ := h.extendOperand_groups hops hapart hend ih (x := x)
        ((tailTokens (es ++ rest)).length + 1) [] es rest (.rule index [.token x])
        (Nat.lt_succ_self _) (by omega) htail htight hloose
        (fun _ _ _ _ _ d hd => absurd hd (by simp)) (.primary x)
      refine ⟨t, ?_, by simpa using hgrouped⟩
      simp only [callRule, h.running, h.rule_eq, Bool.false_eq_true, if_false]
      refine Parse.bind_ok.mpr ⟨_, ⟨t, [], tailTokens rest⟩, hblock, ?_, rfl⟩
      simp only [hops, hextend]

end Climb

end GrammarWorkbench.Run
