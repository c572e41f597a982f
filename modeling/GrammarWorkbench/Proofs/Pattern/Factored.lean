import GrammarWorkbench.Pattern.Preferred

/-!
# The empty text and the factored form

The factored form of a pattern matches the empty text exactly if the pattern does. A sequence
matches it if all its parts do, and a choice if one of its branches does; each step of the
factoring keeps this.
-/

set_option autoImplicit false

namespace GrammarWorkbench.Pattern

open GrammarWorkbench.Text GrammarWorkbench.Declaration

@[simp] theorem matchesEmpty_ofParts (ps : List Pattern) :
    (ofParts ps).matchesEmpty = ps.all matchesEmpty := by
  induction ps with
  | nil => rfl
  | cons p ps ih =>
    cases ps with
    | nil => simp [ofParts]
    | cons q qs => simp [ofParts, matchesEmpty, ih]

@[simp] theorem all_matchesEmpty_parts (p : Pattern) :
    (parts p).all matchesEmpty = p.matchesEmpty := by
  induction p with
  | seq p q _ ihq => simp [parts, matchesEmpty, ihq]
  | nothing => rfl
  | _ => simp [parts]

@[simp] theorem all_matchesEmpty_prependPart (p : Pattern) (ps : List Pattern) :
    (prependPart p ps).all matchesEmpty = (p.matchesEmpty && ps.all matchesEmpty) := by
  fun_cases prependPart p ps with
  | case1 s t ps => cases s <;> simp [matchesEmpty]
  | case2 => simp

@[simp] theorem all_matchesEmpty_inSequence (ps qs : List Pattern) :
    (inSequence ps qs).all matchesEmpty = (ps.all matchesEmpty && qs.all matchesEmpty) := by
  induction ps with
  | nil => simp [inSequence]
  | cons p ps ih =>
    have hps : (ps.foldr prependPart qs).all matchesEmpty =
        (ps.all matchesEmpty && qs.all matchesEmpty) := ih
    simp [inSequence, hps, Bool.and_assoc]

def anyEmpty (bs : List (List Pattern)) : Bool := bs.any fun ps => ps.all matchesEmpty

@[simp] theorem anyEmpty_nil : anyEmpty [] = false := rfl

@[simp] theorem anyEmpty_cons (ps : List Pattern) (bs : List (List Pattern)) :
    anyEmpty (ps :: bs) = (ps.all matchesEmpty || anyEmpty bs) := rfl

@[simp] theorem anyEmpty_append (bs cs : List (List Pattern)) :
    anyEmpty (bs ++ cs) = (anyEmpty bs || anyEmpty cs) := List.any_append

@[simp] theorem anyEmpty_branches (p : Pattern) : anyEmpty (branches p) = p.matchesEmpty := by
  induction p with
  | alt p q _ ihq => simp [branches, matchesEmpty, ihq]
  | _ => simp [branches]

@[simp] theorem anyEmpty_flatBranches (ps : List Pattern) :
    anyEmpty (flatBranches ps) = ps.all matchesEmpty := by
  fun_cases flatBranches ps with
  | case1 p q => simp
  | case2 => simp

theorem anyEmpty_flatMap (bs : List (List Pattern)) :
    anyEmpty (bs.flatMap flatBranches) = anyEmpty bs := by
  induction bs with
  | nil => rfl
  | cons ps bs ih => simp [ih]

theorem matchesEmpty_choice {bs : List (List Pattern)} (hne : bs ≠ []) :
    (choice (bs.map ofParts)).matchesEmpty = anyEmpty bs := by
  induction bs with
  | nil => exact absurd rfl hne
  | cons ps bs ih =>
    cases bs with
    | nil => simp [choice]
    | cons qs bs =>
      have hrest := ih (by simp)
      simp only [List.map_cons] at hrest ⊢
      rw [choice, matchesEmpty, hrest, matchesEmpty_ofParts, anyEmpty_cons ps]
      simp

@[simp] theorem matchesEmpty_ofCodes (codes : CodeRanges) :
    (ofCodes codes).matchesEmpty = false := by
  unfold ofCodes
  split
  · split <;> simp [matchesEmpty]
  · simp [matchesEmpty]

theorem anyEmpty_of_unionOf {bs : List (List Pattern)} {codes : CodeRanges}
    (h : unionOf? bs = some codes) : anyEmpty bs = false := by
  have htaken : ∀ ps ∈ bs, ps.all matchesEmpty = false := by
    intro ps hps
    have hsome {f : List Pattern → Option CodeRanges} {css : List CodeRanges}
        (h : bs.mapM f = some css) : ∃ c, f ps = some c := by
      have hmem : f ps ∈ css.map some := mapM_eq_some_iff.mp h ▸ List.mem_map_of_mem hps
      obtain ⟨c, -, hc⟩ := List.mem_map.mp hmem
      exact ⟨c, hc.symm⟩
    simp only [unionOf?, Option.map_eq_some_iff, Option.or_eq_some_iff] at h
    obtain ⟨css, hcss | ⟨-, hcss⟩, -⟩ := h
    · obtain ⟨c, hc⟩ := hsome hcss
      unfold charOf? at hc
      split at hc
      · simp [matchesEmpty]
      · cases hc
    · obtain ⟨c, hc⟩ := hsome hcss
      unfold setOf? at hc
      split at hc
      · simp [matchesEmpty]
      · cases hc
  simpa [anyEmpty] using htaken

theorem ne_nil_of_unionOf {bs : List (List Pattern)} (h : unionOf? bs = none) : bs ≠ [] := by
  rintro rfl
  cases h

theorem commonParts_isPrefix (ps qs : List Pattern) :
    commonParts ps qs <+: ps ∧ commonParts ps qs <+: qs := by
  fun_induction commonParts ps qs with
  | case1 p ps qs ih => exact ⟨by simpa using ih.1, by simpa using ih.2⟩
  | case2 => simp
  | case3 => simp

theorem foldl_commonParts_isPrefix (ps : List Pattern) (pss : List (List Pattern)) :
    ∀ qs ∈ ps :: pss, pss.foldl commonParts ps <+: qs := by
  induction pss generalizing ps with
  | nil => simp
  | cons qs pss ih =>
    intro rs hrs
    rw [List.foldl_cons]
    have hcommon := commonParts_isPrefix ps qs
    have hfirst := ih (commonParts ps qs) (commonParts ps qs) List.mem_cons_self
    rcases List.mem_cons.mp hrs with rfl | hrs
    · exact hfirst.trans hcommon.1
    · rcases List.mem_cons.mp hrs with rfl | hrs
      · exact hfirst.trans hcommon.2
      · exact ih _ rs (List.mem_cons_of_mem _ hrs)

theorem sharedParts_isPrefix {bs : List (List Pattern)} {ps : List Pattern} (h : ps ∈ bs) :
    sharedParts bs <+: ps := by
  cases bs with
  | nil => simp at h
  | cons qs bs =>
    rw [sharedParts]
    split
    · exact foldl_commonParts_isPrefix qs bs ps h
    · exact List.nil_prefix

theorem anyEmpty_drop {shared : List Pattern} {bs : List (List Pattern)}
    (h : ∀ ps ∈ bs, shared <+: ps) :
    (shared.all matchesEmpty && anyEmpty (bs.map (·.drop shared.length))) = anyEmpty bs := by
  induction bs with
  | nil => simp
  | cons ps bs ih =>
    have hbs := ih fun qs hqs => h qs (List.mem_cons_of_mem _ hqs)
    obtain ⟨rest, rfl⟩ := h ps List.mem_cons_self
    rw [List.map_cons, anyEmpty_cons, anyEmpty_cons, List.drop_left, List.all_append,
      Bool.and_or_distrib_left, hbs]

theorem all_matchesEmpty_factor (room : Nat) (bs : List (List Pattern)) :
    (factor room bs).all matchesEmpty = anyEmpty bs := by
  fun_induction factor room bs with
  | case1 room bs flat codes hunion =>
    rw [← anyEmpty_flatMap, anyEmpty_of_unionOf hunion]
    simp
  | case2 bs flat hunion =>
    rw [← anyEmpty_flatMap, ← matchesEmpty_choice (ne_nil_of_unionOf hunion)]
    simp [flat]
  | case3 bs flat room hunion hshared =>
    rw [← anyEmpty_flatMap, ← matchesEmpty_choice (ne_nil_of_unionOf hunion)]
    simp [flat]
  | case4 bs flat room hunion hshared ih =>
    rw [all_matchesEmpty_inSequence, ih, ← anyEmpty_flatMap bs]
    exact anyEmpty_drop fun ps hps => sharedParts_isPrefix hps

@[simp] theorem all_matchesEmpty_choose (bs : List (List Pattern)) :
    (choose bs).all matchesEmpty = anyEmpty bs := by
  fun_cases choose bs with
  | case1 ps => simp
  | case2 => exact all_matchesEmpty_factor _ _

@[simp] theorem all_matchesEmpty_repeated (kind : RepeatKind) (greedy : Bool)
    (body : List Pattern) : (repeated kind greedy body).all matchesEmpty =
      (loop kind greedy (ofParts body)).matchesEmpty := by
  unfold repeated
  cases kind <;> split <;> simp [matchesEmpty]

theorem anyEmpty_factoredBranches (p : Pattern) :
    anyEmpty (factoredBranches p) = p.matchesEmpty := by
  induction p with
  | nothing => rfl
  | literal text => cases text <;> simp [factoredBranches, matchesEmpty]
  | one set => simp [factoredBranches, matchesEmpty]
  | anyChar => simp [factoredBranches, matchesEmpty]
  | seq p q ihp ihq => simp [factoredBranches, matchesEmpty, ihp, ihq]
  | alt p q ihp ihq => simp [factoredBranches, matchesEmpty, ihp, ihq]
  | group p ih => simp [factoredBranches, matchesEmpty, ih]
  | loop kind greedy p ih => cases kind <;> simp [factoredBranches, matchesEmpty, ih]

theorem matchesEmpty_factored (p : Pattern) : p.factored.matchesEmpty = p.matchesEmpty := by
  rw [factored, matchesEmpty_ofParts, all_matchesEmpty_choose, anyEmpty_factoredBranches]

end GrammarWorkbench.Pattern
