import GrammarWorkbench.Proofs.Lookahead.Exact
import GrammarWorkbench.Proofs.Parsing.Reads
import GrammarWorkbench.Proofs.Parsing.Sound
import GrammarWorkbench.Proofs.Recursion.Search
import GrammarWorkbench.Proofs.Recursion.Trace

/-!
# Calls before a token is read

While no token is read and nothing is reported, the parser skips only what can be empty. So the
calls that the block of a rule makes until then are among its calls from the left, and operators
make calls only behind a block that can be empty. At the end of the input this need not be so,
since there the end itself can be matched any number of times.
-/

set_option autoImplicit false

namespace GrammarWorkbench.Run

open GrammarWorkbench.Diagnostic GrammarWorkbench.Model GrammarWorkbench.Analysis
open GrammarWorkbench.Derivation
open scoped Computability

/-- An operator of a rule can call another rule before a token is read. This needs an operand that
can be empty. -/
def OperatorCalls (g : Grammar) (i j : Nat) : Prop :=
  ∃ r o, g.parserRules[i]? = some r ∧ r.operators = some o ∧
    (blockLook g.vocabulary (table g.vocabulary g.parserRules) r.block).nullable ∧
    (blockCalls g.vocabulary (table g.vocabulary g.parserRules) o.block).contains j

def CallsFirst (g : Grammar) (i j : Nat) : Prop :=
  j ∈ leftEdges g.vocabulary g.parserRules (table g.vocabulary g.parserRules) i ∨
    OperatorCalls g i j

def suffixRun (p : ParserConfig) : RunInvariant p where
  holds _ ts r := r.rest <:+ ts
  mono _ h := h
  done ts := List.suffix_refl ts
  andThen hr hs := hs.trans hr
  terminal := by
    intro m ts r hr
    unfold parseTerminal at hr
    dsimp only at hr
    split_ifs at hr <;> obtain rfl := Except.ok.inj hr
    · exact List.tail_suffix ts
    · exact List.suffix_refl ts
    · exact (List.tail_suffix _).trans (List.tail_suffix ts)
    · exact List.tail_suffix ts
  nothing := by
    intro l ts r hr
    unfold parseNothing at hr
    dsimp only at hr
    split_ifs at hr <;> obtain rfl := Except.ok.inj hr
    · exact List.suffix_refl ts
    · exact List.tail_suffix ts

def emptyRun (p : ParserConfig) (hend : p.endToken.isEnd) : RunInvariant p :=
  cleanRun p (fun c => c.leafTokens = [] → Yields p.rules c) hend fun t ht => by
    simp [Tree.leafTokens] at ht

section Calls

variable {p : ParserConfig}

theorem callRule_suffix (room : Nat) (words : Nat → Nat → Language Tree) :
    (suffixRun p).Calls (callRule p room) words := by
  apply RunInvariant.callRule_holds
  · intro i r q ts c _ hc
    exact hc
  · intro i r q start left ds ts c _ hleft hc
    exact hc.trans hleft

theorem leafTokens_eq_nil {w : List Tree} (h : Tree.allLeafTokens w = []) :
    ∀ c ∈ w, c.leafTokens = [] := by
  induction w with
  | nil => simp
  | cons c w ih =>
    obtain ⟨hc, hw⟩ := List.append_eq_nil_iff.mp h
    intro c' hc'
    rcases List.mem_cons.mp hc' with rfl | hc'
    · exact hc
    · exact ih hw c' hc'

theorem leafTypes_eq_nil {w : List Tree} (h : Tree.allLeafTokens w = []) : leafTypes w = [] := by
  rw [leafTypes, h, List.map_nil]

theorem yields_of_nil {i : Nat} {children : List Tree} (hnil : Tree.allLeafTokens children = [])
    (h : ∀ q, [] ∈ compiledWords p.rules i q) : Yields p.rules (.rule i children) := by
  rintro j cs hnode q
  obtain ⟨rfl, rfl⟩ := Tree.rule.inj hnode
  rw [leafTypes_eq_nil (by simpa [Tree.allLeafTokens, Tree.leafTokens] using hnil)]
  exact h q

theorem nil_mem_of_read {l : Language Tree} {m : Language Nat}
    (hmap : ∀ w ∈ l, (∀ c ∈ w, Yields p.rules c) → leafTypes w ∈ m) {w : List Tree} (hw : w ∈ l)
    (hgood : ∀ c ∈ w, c.leafTokens = [] → Yields p.rules c) (hnil : Tree.allLeafTokens w = []) :
    [] ∈ m := by
  have hword := hmap w hw fun c hc => hgood c hc (leafTokens_eq_nil hnil c hc)
  rwa [leafTypes_eq_nil hnil] at hword

theorem callRule_empty (hend : p.endToken.isEnd) (room : Nat) :
    (emptyRun p hend).Calls (callRule p room) fun i _ => nodeWords i := by
  apply RunInvariant.callRule_holds
  · intro i rule q ts c hrule hc hclean
    obtain ⟨hw, hgood, hcovers⟩ := hc hclean
    refine ⟨⟨c.value, rfl⟩, ?_, ?_⟩
    · intro node hnode hnil
      obtain rfl := List.mem_singleton.mp hnode
      refine yields_of_nil hnil fun q => ?_
      rw [compiledWords_some hrule, ruleWords]
      have hblock := (leafTypesMap p.rules).mem_blockWords rule.block
      exact nil_mem_mul.mpr ⟨nil_mem_of_read hblock hw hgood hnil, Language.nil_mem_kstar _⟩
    · simpa [Tree.allLeafTokens, Tree.leafTokens] using hcovers
  · intro i rule q start left ds ts c hrule hleft hc hclean
    obtain ⟨hds, hcs⟩ := List.append_eq_nil_iff.mp hclean
    obtain ⟨⟨children, hnode⟩, hleftgood, hleftc⟩ := hleft hds
    obtain ⟨hw, hgood, hcovers⟩ := hc hcs
    refine ⟨⟨left :: c.value, rfl⟩, ?_, ?_⟩
    · intro node hnode' hnil
      obtain rfl := List.mem_singleton.mp hnode'
      obtain rfl : left = .rule i children := by simpa using hnode
      have hleftnil := leafTokens_eq_nil hnil _ List.mem_cons_self
      refine yields_of_nil hnil fun q => ?_
      have hleftword := hleftgood _ List.mem_cons_self hleftnil i children rfl q
      rwa [leafTypes_eq_nil (by simpa [Tree.allLeafTokens] using hleftnil)] at hleftword
    · simpa [Tree.allLeafTokens, Tree.leafTokens] using hleftc.trans hcovers

/-- What used up no token and reported nothing derives the empty word, unless at the end. -/
theorem nil_mem_of_unread {hend : p.endToken.isEnd} {l : Language Tree} {m : Language Nat}
    (hmap : ∀ w ∈ l, (∀ c ∈ w, Yields p.rules c) → leafTypes w ∈ m) {ts : List Token}
    {r : Parsed (List Tree)} (h : (emptyRun p hend).holds l ts r) (hrest : r.rest = ts)
    (hclean : r.defects = []) (hnext : nextType ts ≠ endType) : [] ∈ m := by
  obtain ⟨hw, hgood, hcovers⟩ := h hclean
  refine nil_mem_of_read hmap hw hgood ?_
  by_contra hne
  rcases hcovers.length_lt hne with hlt | ⟨rfl, -⟩
  · rw [hrest] at hlt
    exact lt_irrefl _ hlt
  · exact hnext rfl

end Calls

/-- The calls of a step begin at what is left of its tokens, and what is said of calls holds of
those before which nothing was read or reported, unless at the end. -/
structure FromLeft (allowed : Call → Prop) (ts : List Token) (calls : List Call) : Prop where
  suffix (c : Call) : c ∈ calls → c.rest <:+ ts
  left (c : Call) : c ∈ calls → c.rest = ts → c.defects = [] → nextType ts ≠ endType → allowed c

namespace FromLeft

variable {allowed allowed' : Call → Prop} {ts : List Token}

theorem none : FromLeft allowed ts [] where
  suffix c h := by cases h
  left c h := by cases h

theorem one {i q : Nat} (h : allowed ⟨i, q, ts, [], false⟩) :
    FromLeft allowed ts [⟨i, q, ts, [], false⟩] where
  suffix c hc := by
    obtain rfl := List.mem_singleton.mp hc
    exact List.suffix_refl ts
  left c hc _ _ _ := by
    obtain rfl := List.mem_singleton.mp hc
    exact h

theorem mono {calls : List Call} (h : FromLeft allowed ts calls)
    (hallow : ∀ c, allowed c → allowed' c) : FromLeft allowed' ts calls where
  suffix := h.suffix
  left c hc hrest hclean hnext := hallow c (h.left c hc hrest hclean hnext)

theorem mark {calls : List Call} (h : FromLeft allowed ts calls)
    (hallow : ∀ c, allowed c → allowed' c.inOperator) :
    FromLeft allowed' ts (calls.map Call.inOperator) where
  suffix c hmem := by
    obtain ⟨c, hc, rfl⟩ := List.mem_map.mp hmem
    exact h.suffix c hc
  left c hmem hrest hclean hnext := by
    obtain ⟨c, hc, rfl⟩ := List.mem_map.mp hmem
    exact hallow c (h.left c hc hrest hclean hnext)

theorem andThen {α : Type} {step : Parse α} {first next : Trace}
    (h : FromLeft allowed ts (first ts)) (hsuffix : ∀ r, step ts = .ok r → r.rest <:+ ts)
    (hnext : ∀ r, step ts = .ok r →
      FromLeft (fun c => r.rest = ts → r.defects = [] → nextType ts ≠ endType → allowed c) r.rest
        (next r.rest)) :
    FromLeft allowed ts (traceThen step first next ts) where
  suffix c hmem := by
    rcases mem_traceThen.mp hmem with hc | ⟨r, hr, c, hc, rfl⟩
    · exact h.suffix c hc
    · exact ((hnext r hr).suffix c hc).trans (hsuffix r hr)
  left c hmem hrest hclean hend := by
    rcases mem_traceThen.mp hmem with hc | ⟨r, hr, c, hc, rfl⟩
    · exact h.left c hc hrest hclean hend
    · -- the second step begins where the first one does
      have hback : ts <:+ r.rest := hrest ▸ (hnext r hr).suffix c hc
      have hsame : r.rest = ts := (hsuffix r hr).eq_of_length_le hback.length_le
      obtain ⟨hr0, hc0⟩ := List.append_eq_nil_iff.mp hclean
      have hleft := (hnext r hr).left c hc (hrest.trans hsame.symm) hc0 (by rwa [hsame])
      rw [hr0]
      exact hleft hsame hr0 hend

end FromLeft

section Parts

variable {allowed : Call → Prop}

theorem repeatTrace_left {enters : Nat → Bool} {body : Parse (List Tree)} {trace : Trace}
    (hbody : ∀ ts r, body ts = .ok r → r.rest <:+ ts)
    (htrace : ∀ ts, FromLeft allowed ts (trace ts)) (n : Nat) (ts : List Token) :
    FromLeft allowed ts (repeatTrace enters body trace n ts) := by
  induction n generalizing ts with
  | zero => exact .none
  | succ n ih =>
    simp only [repeatTrace]
    split
    · refine (htrace ts).andThen (hbody ts) fun r _ => ?_
      split
      · exact (ih r.rest).mono fun c hc _ _ _ => hc
      · exact .none
    · exact .none

theorem operatorTrace_left {operators : Operators Lookahead} {precedence : Nat}
    {run : Nat → Parse (List Tree)} {trace : Nat → Trace}
    (hrun : ∀ type i, operators.predict type precedence = some i →
      ∀ ts r, run i ts = .ok r → r.rest <:+ ts)
    (htrace : ∀ i ts, FromLeft allowed ts (trace i ts)) (n : Nat) (ts : List Token) :
    FromLeft allowed ts (operatorTrace operators precedence run trace n ts) := by
  induction n generalizing ts with
  | zero => exact .none
  | succ n ih =>
    simp only [operatorTrace]
    cases hi : operators.predict (nextType ts) precedence with
    | none => exact .none
    | some i =>
      refine (htrace i ts).andThen (hrun _ i hi ts) fun r _ => ?_
      split
      · exact (ih r.rest).mono fun c hc _ _ _ => hc
      · exact .none

variable {p : ParserConfig} {hend : p.endToken.isEnd} {call : Nat → Nat → Parse Tree}

mutual

theorem elementTrace_left (hsuffix : (suffixRun p).Calls call fun i _ => nodeWords i)
    (hempty : (emptyRun p hend).Calls call fun i _ => nodeWords i) (ts : List Token) :
    ∀ e : Element Lookahead,
      FromLeft (fun c => (elementCalls p.vocabulary p.table e).contains c.index) ts
        (elementTrace p call e ts)
  | .token _ => by
    simp only [elementTrace]
    exact .none
  | .rule i => by
    simp only [elementTrace, elementCalls]
    exact .one (TokenSet.contains_single.mpr rfl)
  | .operand i q => by
    simp only [elementTrace, elementCalls]
    exact .one (TokenSet.contains_single.mpr rfl)
  | .block body => by
    simp only [elementTrace, elementCalls]
    exact blockTrace_left hsuffix hempty ts body
  | .loop kind greedy exit ⟨note, alternatives⟩ => by
    have htrace (ts : List Token) := blockTrace_left hsuffix hempty ts ⟨note, alternatives⟩
    have hbody := RunInvariant.block_step hsuffix ⟨note, alternatives⟩
    cases kind with
    | optional =>
      simp only [elementTrace, elementCalls]
      split
      · exact htrace ts
      · exact .none
    | zeroOrMore =>
      simp only [elementTrace, elementCalls]
      exact repeatTrace_left hbody htrace _ ts
    | oneOrMore =>
      simp only [elementTrace, elementCalls]
      refine (htrace ts).andThen (hbody ts) fun r _ => ?_
      exact (repeatTrace_left hbody htrace _ r.rest).mono fun c hc _ _ _ => hc

theorem sequenceTrace_left (hsuffix : (suffixRun p).Calls call fun i _ => nodeWords i)
    (hempty : (emptyRun p hend).Calls call fun i _ => nodeWords i) (ts : List Token) :
    ∀ es : Sequence Lookahead,
      FromLeft (fun c => (sequenceCalls p.vocabulary p.table es).contains c.index) ts
        (sequenceTrace p call es ts)
  | [] => by
    simp only [sequenceTrace]
    exact .none
  | e :: es => by
    simp only [sequenceTrace]
    refine .andThen ((elementTrace_left hsuffix hempty ts e).mono fun c hc => ?_)
      (RunInvariant.element_step hsuffix e ts) fun r hr => ?_
    · rw [sequenceCalls]
      split
      · exact TokenSet.contains_union.mpr (Or.inl hc)
      · exact hc
    · -- an element that read nothing can be empty
      refine (sequenceTrace_left hsuffix hempty r.rest es).mono fun c hc hrest hclean hnext => ?_
      have hnil := nil_mem_of_unread ((leafTypesMap p.rules).mem_elementWords e)
        (RunInvariant.element_step hempty e ts r hr) hrest hclean hnext
      rw [sequenceCalls, if_pos ((element_nullable_iff e).mpr hnil)]
      exact TokenSet.contains_union.mpr (Or.inr hc)

theorem alternativeTrace_left (hsuffix : (suffixRun p).Calls call fun i _ => nodeWords i)
    (hempty : (emptyRun p hend).Calls call fun i _ => nodeWords i) (ts : List Token) :
    ∀ (as : List (RuleAlternative Lookahead)) (i : Nat),
      FromLeft (fun c => (choiceCalls p.vocabulary p.table as).contains c.index) ts
        (alternativeTrace p call as i ts)
  | [], _ => by
    simp only [alternativeTrace]
    exact .none
  | ⟨_, _, es⟩ :: as, 0 => by
    simp only [alternativeTrace, choiceCalls]
    exact (sequenceTrace_left hsuffix hempty ts es).mono fun c hc =>
      TokenSet.contains_union.mpr (Or.inl hc)
  | ⟨_, _, _⟩ :: as, i + 1 => by
    simp only [alternativeTrace, choiceCalls]
    exact (alternativeTrace_left hsuffix hempty ts as i).mono fun c hc =>
      TokenSet.contains_union.mpr (Or.inr hc)

theorem blockTrace_left (hsuffix : (suffixRun p).Calls call fun i _ => nodeWords i)
    (hempty : (emptyRun p hend).Calls call fun i _ => nodeWords i) (ts : List Token) :
    ∀ b : RuleBlock Lookahead,
      FromLeft (fun c => (blockCalls p.vocabulary p.table b).contains c.index) ts
        (blockTrace p call b ts)
  | ⟨note, alternatives⟩ => by
    simp only [blockTrace, blockCalls]
    cases chooseAlternative ⟨note, alternatives⟩ (nextType ts) with
    | none => exact .none
    | some i => exact alternativeTrace_left hsuffix hempty ts alternatives i

end

/-- The calls of operators before which nothing was read or reported. -/
theorem operators_left (hsuffix : (suffixRun p).Calls call fun i _ => nodeWords i)
    (hempty : (emptyRun p hend).Calls call fun i _ => nodeWords i) (o : Operators Lookahead)
    (precedence n : Nat) (ts : List Token) :
    FromLeft (fun c => (blockCalls p.vocabulary p.table o.block).contains c.index) ts
      (operatorTrace o precedence (parseAlternative p call o.block.alternatives)
        (alternativeTrace p call o.block.alternatives) n ts) := by
  obtain ⟨⟨note, alternatives⟩, levels⟩ := o
  rw [blockCalls]
  refine operatorTrace_left ?_ (fun i ts => alternativeTrace_left hsuffix hempty ts _ i) n ts
  intro type i hi
  obtain ⟨a, level, ha, -, -⟩ := operators_predict_some hi
  exact RunInvariant.alternative_step hsuffix _ i a ha

/-- The calls of a rule before which nothing was read or reported: its block calls from the left,
and its operators do so behind an empty operand. -/
theorem ruleTrace_left (hsuffix : (suffixRun p).Calls call fun i _ => nodeWords i)
    (hempty : (emptyRun p hend).Calls call fun i _ => nodeWords i) (index precedence : Nat)
    (ts : List Token) :
    FromLeft (fun c => c.index ∈ leftEdges p.vocabulary p.rules p.table index ∨
        (c.byOperator ∧ OperatorCalls p.grammar index c.index)) ts
      (ruleTrace p call index precedence ts) := by
  unfold ruleTrace
  split
  · exact .none
  cases hrule : p.grammar.parserRules[index]? with
  | none => exact .none
  | some rule =>
    dsimp only
    refine .andThen ((blockTrace_left hsuffix hempty ts rule.block).mono fun c hc =>
      Or.inl ((mem_leftEdges hrule).mpr hc)) (RunInvariant.block_step hsuffix rule.block ts) ?_
    intro r hr
    cases ho : rule.operators with
    | none => exact .none
    | some o =>
      -- if no token is read when the operators are tried, the block can be empty
      refine (operators_left hsuffix hempty o precedence _ r.rest).mark
        fun c hc hrest hclean hnext => Or.inr ⟨rfl, ?_⟩
      have hnil := nil_mem_of_unread ((leafTypesMap p.rules).mem_blockWords rule.block)
        (RunInvariant.block_step hempty rule.block ts r hr) hrest hclean hnext
      exact ⟨rule, o, hrule, ho, (block_nullable_iff _).mpr hnil, hc⟩

end Parts

end GrammarWorkbench.Run
