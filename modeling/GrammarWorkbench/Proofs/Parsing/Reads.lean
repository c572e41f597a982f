import GrammarWorkbench.Proofs.Parsing.Invariant
import GrammarWorkbench.Proofs.Parsing.Leaves
import GrammarWorkbench.Proofs.Parsing.Predictive

/-!
# Reading the parts of predictive rules

Where one token is enough to choose, the parser follows the alternative of a derivation at every
block, and every loop runs for as many rounds as the derivation has. What must hold on the way is
that the next token can follow what is being read.
-/

set_option autoImplicit false

namespace GrammarWorkbench.Run

open GrammarWorkbench.Declaration GrammarWorkbench.Model GrammarWorkbench.Analysis
open GrammarWorkbench.Derivation
open scoped Computability

namespace ParserConfig

variable (p : ParserConfig)

abbrev vocabulary : Vocabulary := p.grammar.vocabulary

abbrev rules : List (ParserRule Lookahead) := p.grammar.parserRules

abbrev table : Table := Analysis.table p.vocabulary p.rules

end ParserConfig

/-- A step reads the leaves of a word without defects and makes the word of them, if the token
behind them can follow. -/
def Reads (p : ParserConfig) (follow : Nat → Prop) (step : Parse (List Tree)) (w : List Tree) :
    Prop :=
  ∀ ts rest, (∀ t ∈ ts, t.type < p.vocabulary.size) →
    Covers p.endToken ts (Tree.allLeafTokens w) rest → follow (nextType rest) →
    step ts = .ok ⟨w, [], rest⟩

structure Readable (p : ParserConfig) (start : Nat) (call : Nat → Nat → Parse Tree) (c : Tree) :
    Prop where
  yields : Yields p.rules c
  reads (i : Nat) (children : List Tree) : c = .rule i children → Reachable p.rules start i →
    ∀ q, Reads p (Follow p.rules start i) (do return [← call i q]) [c]

section Steps

variable {p : ParserConfig} {follow follow' : Nat → Prop}

theorem Reads.weaken {step : Parse (List Tree)} {w : List Tree} (h : Reads p follow step w)
    (hf : ∀ t, follow' t → follow t) : Reads p follow' step w :=
  fun ts rest hts hc hn => h ts rest hts hc (hf _ hn)

/-- One step and then another, where the first leaf of the second can follow the first. -/
theorem Reads.append {step step' : Parse (List Tree)} {w w' : List Tree}
    (h : Reads p follow step w) (h' : Reads p follow' step' w')
    (hmid : ∀ ts rest, Covers p.endToken ts (Tree.allLeafTokens w') rest →
      follow' (nextType rest) → follow (nextType ts)) :
    Reads p follow' (do let first ← step; return first ++ (← step')) (w ++ w') := by
  intro ts rest hts hc hn
  rw [allLeafTokens_append] at hc
  obtain ⟨mid, hfirst, hsecond⟩ := hc.split
  have hmids : ∀ t ∈ mid, t.type < p.vocabulary.size := fun t ht =>
    hts t (hfirst.mem_of_mem_rest ht)
  have hone := h ts mid hts hfirst (hmid mid rest hsecond hn)
  have htwo := h' mid rest hmids hsecond hn
  refine Parse.bind_ok.mpr ⟨_, ⟨w ++ w', [], rest⟩, hone, ?_, rfl⟩
  exact Parse.bind_ok.mpr ⟨_, _, htwo, Parse.pure_ok.mpr rfl, rfl⟩

theorem repeatWhile_stop {enters : Nat → Bool} {body : Parse (List Tree)} {n : Nat}
    {ts : List Token} (h : enters (nextType ts) = false) :
    repeatWhile enters body (n + 1) ts = .ok ⟨[], [], ts⟩ := by
  simp only [repeatWhile, h, Bool.false_eq_true, if_false]
  rfl

theorem repeatWhile_round {enters : Nat → Bool} {body : Parse (List Tree)} {n : Nat}
    {ts mid rest : List Token} {w w' : List Tree} (h : enters (nextType ts))
    (hbody : body ts = .ok ⟨w, [], mid⟩) (hlt : mid.length < ts.length)
    (hmore : repeatWhile enters body n mid = .ok ⟨w', [], rest⟩) :
    repeatWhile enters body (n + 1) ts = .ok ⟨w ++ w', [], rest⟩ := by
  simp only [repeatWhile, h, if_true]
  refine Parse.bind_ok.mpr ⟨_, ⟨w ++ w', [], rest⟩, hbody, ?_, rfl⟩
  refine Parse.bind_ok.mpr ⟨⟨w', [], rest⟩, _, ?_, Parse.pure_ok.mpr rfl, rfl⟩
  simp only [hlt, if_true, hmore]

theorem terminal_reads (hend : p.endToken.isEnd) {m : TokenMatch} {t : Token}
    (hm : m.accepts t.type) : Reads p follow (parseTerminal p m) [.token t] := by
  intro ts rest _ hc _
  have hcurrent : currentToken p ts = t ∧ ts.tail = rest := by
    obtain ⟨used, n, rfl, hleaves, hn⟩ := hc
    cases used with
    | nil =>
      cases n with
      | zero => cases hleaves
      | succ n =>
        obtain rfl := hn (by omega)
        exact ⟨(List.cons.inj hleaves).1.symm, rfl⟩
    | cons u used =>
      obtain ⟨rfl, hnil⟩ := List.cons.inj hleaves
      obtain ⟨rfl, -⟩ := List.append_eq_nil_iff.mp hnil.symm
      exact ⟨rfl, rfl⟩
  have hnext : m.accepts (nextType ts) := by rwa [nextType_eq hend, hcurrent.1]
  rw [parseTerminal, if_pos hnext, readToken, hcurrent.1, hcurrent.2]

theorem nextType_lt (hsize : 0 < p.vocabulary.size) {ts : List Token}
    (hts : ∀ t ∈ ts, t.type < p.vocabulary.size) :
    nextType ts < p.vocabulary.size := by
  cases ts with
  | nil => exact hsize
  | cons t ts => exact hts t List.mem_cons_self

end Steps

section Parts

variable {p : ParserConfig} {start j : Nat}
variable {call : Nat → Nat → Parse Tree}

/-- The next token, if what is read next is a word of a sequence and what follows that can follow
there. -/
theorem followAt_append (hend : p.endToken.isEnd) {es k : Sequence Lookahead} {w : List Tree}
    (hw : leafTypes w ∈ sequenceWords typeWords (compiledWords p.rules) es) {ts rest : List Token}
    (hc : Covers p.endToken ts (Tree.allLeafTokens w) rest)
    (hn : FollowAt p.rules start j k (nextType rest)) :
    FollowAt p.rules start j (es ++ k) (nextType ts) := by
  rcases hc.nextType_cases hend with ⟨hnil, rfl⟩ | ⟨l, ls, hcons, hnext⟩
  · rw [leafTypes, hnil] at hw
    rcases hn with hk | ⟨hk, hn⟩
    · exact Or.inl (hk.append_right hw)
    · refine Or.inr ⟨?_, hn⟩
      rw [sequenceWords_append]
      exact nil_mem_mul.mpr ⟨hw, hk⟩
  · rw [leafTypes, hcons] at hw
    rw [hnext]
    exact Or.inl ((sequenceWords_starts hw).append_left k)

theorem leafTypes_sequence {es : Sequence Lookahead} {w : List Tree}
    (hw : w ∈ sequenceWords leafWords (fun i _ => nodeWords i) es)
    (hgood : ∀ c ∈ w, Readable p start call c) :
    leafTypes w ∈ sequenceWords typeWords (compiledWords p.rules) es :=
  (leafTypesMap p.rules).mem_sequenceWords es w hw fun c hc => (hgood c hc).yields

theorem leafTypes_block {b : RuleBlock Lookahead} {w : List Tree}
    (hw : w ∈ blockWords leafWords (fun i _ => nodeWords i) b)
    (hgood : ∀ c ∈ w, Readable p start call c) :
    leafTypes w ∈ blockWords typeWords (compiledWords p.rules) b :=
  (leafTypesMap p.rules).mem_blockWords b w hw fun c hc => (hgood c hc).yields

theorem call_reads (hj : Reachable p.rules start j) {r : ParserRule Lookahead}
    (hr : p.rules[j]? = some r) {e : Element Lookahead} {k : Sequence Lookahead}
    (he : ElementAt r.block e k) {i : Nat} (hi : callee? e = some i) {w : List Tree}
    (hw : w ∈ nodeWords i) (hgood : ∀ c ∈ w, Readable p start call c) (q : Nat) :
    Reads p (FollowAt p.rules start j k) (do return [← call i q]) w := by
  obtain ⟨children, rfl⟩ := hw
  have hreads := (hgood _ List.mem_cons_self).reads i children rfl (.call hj hr he hi) q
  apply hreads.weaken
  rintro t (hs | ⟨hempty, hfollow⟩)
  · exact .next hj hr he hi hs
  · exact .last hr he hi hempty hfollow

/-- The rounds of a loop. Every round uses up a token: it is not empty, and it cannot start with
the end of the input, which would follow the loop as well. -/
theorem rounds_read (hend : p.endToken.isEnd) (hsize : 0 < p.vocabulary.size)
    {greedy : Bool} {exit : Lookahead} {b : RuleBlock Lookahead}
    {behind k : Sequence Lookahead} {body : Parse (List Tree)}
    (hll : PredictiveLoop p.vocabulary p.rules (FollowAt p.rules start j (behind ++ k)) b)
    (hbody : ∀ w ∈ blockWords leafWords (fun i _ => nodeWords i) b,
      (∀ c ∈ w, Readable p start call c) →
      Reads p (FollowAt p.rules start j ([.loop .zeroOrMore greedy exit b] ++ (behind ++ k)))
        body w)
    (ws : List (List Tree)) :
    ∀ n ts rest, ts.length < n → (∀ t ∈ ts, t.type < p.vocabulary.size) →
      (∀ w ∈ ws, w ∈ blockWords leafWords (fun i _ => nodeWords i) b) →
      (∀ w ∈ ws, ∀ c ∈ w, Readable p start call c) →
      Covers p.endToken ts (Tree.allLeafTokens ws.flatten) rest →
      FollowAt p.rules start j (behind ++ k) (nextType rest) →
      repeatWhile (entersLoop greedy
          (sequenceLook p.vocabulary p.table behind)
          (blockLook p.vocabulary p.table b)) body n ts =
        .ok ⟨ws.flatten, [], rest⟩ := by
  induction ws with
  | nil =>
    intro n ts rest hlen hts _ _ hc hn
    obtain ⟨n, rfl⟩ := Nat.exists_eq_succ_of_ne_zero (by omega : n ≠ 0)
    obtain ⟨-, rfl⟩ | ⟨l, ls, hcons, -⟩ := hc.nextType_cases hend
    · exact repeatWhile_stop (entersLoop_of_follow hll greedy _ (nextType_lt hsize hts) hn)
    · cases hcons
  | cons w ws ih =>
    intro n ts rest hlen hts hwords hgood hc hn
    obtain ⟨n, rfl⟩ := Nat.exists_eq_succ_of_ne_zero (by omega : n ≠ 0)
    rw [List.flatten_cons, allLeafTokens_append] at hc
    obtain ⟨mid, hfirst, hmore⟩ := hc.split
    have hw := hwords w List.mem_cons_self
    have hgw := hgood w List.mem_cons_self
    have htypes := leafTypes_block hw hgw
    have hne : Tree.allLeafTokens w ≠ [] := by
      intro hnil
      rw [leafTypes, hnil] at htypes
      exact hll.empty htypes
    obtain ⟨l, ls, hcons, hnext⟩ := (hfirst.nextType_cases hend).resolve_left (hne ·.1)
    rw [leafTypes, hcons, List.map_cons, ← hnext] at htypes
    obtain ⟨a, ha, hs⟩ := blockWords_starts htypes
    have hlt := nextType_lt hsize hts
    have hmids : ∀ t ∈ mid, t.type < p.vocabulary.size := fun t ht =>
      hts t (hfirst.mem_of_mem_rest ht)
    have hshorter : mid.length < ts.length := by
      rcases hfirst.length_lt hne with h | ⟨rfl, rfl⟩
      · exact h
      · obtain ⟨used, -, hnil, -⟩ := hmore
        obtain ⟨-, rfl⟩ := List.append_eq_nil_iff.mp hnil.symm
        exact absurd hn (hll.apart ha _ hlt hs)
    have hwords' : ∀ u ∈ ws, u ∈ blockWords leafWords (fun i _ => nodeWords i) b := fun u hu =>
      hwords u (List.mem_cons_of_mem _ hu)
    have hgood' : ∀ u ∈ ws, ∀ c ∈ u, Readable p start call c := fun u hu =>
      hgood u (List.mem_cons_of_mem _ hu)
    have hstar : ws.flatten ∈ sequenceWords leafWords (fun i _ => nodeWords i)
        [.loop .zeroOrMore greedy exit b] := by
      simp only [sequenceWords, elementWords, repetition, mul_one]
      exact Language.join_mem_kstar hwords'
    have hflat : ∀ c ∈ ws.flatten, Readable p start call c := by
      intro c hc
      obtain ⟨u, hu, hcu⟩ := List.mem_flatten.mp hc
      exact hgood' u hu c hcu
    have hread := hbody w hw hgw ts mid hts hfirst
      (followAt_append hend (leafTypes_sequence hstar hflat) hmore hn)
    exact repeatWhile_round (entersLoop_of_starts hll greedy hlt ha hs) hread hshorter
      (ih n mid rest (by omega) hmids hwords' hgood' hmore hn)

theorem star_reads (hend : p.endToken.isEnd) (hsize : 0 < p.vocabulary.size)
    {greedy : Bool} {exit : Lookahead} {b : RuleBlock Lookahead}
    {behind k : Sequence Lookahead} {body : Parse (List Tree)}
    (hll : PredictiveLoop p.vocabulary p.rules (FollowAt p.rules start j (behind ++ k)) b)
    (hbody : ∀ w ∈ blockWords leafWords (fun i _ => nodeWords i) b,
      (∀ c ∈ w, Readable p start call c) →
      Reads p (FollowAt p.rules start j ([.loop .zeroOrMore greedy exit b] ++ (behind ++ k)))
        body w)
    {w : List Tree} (hw : w ∈ (blockWords leafWords (fun i _ => nodeWords i) b)∗)
    (hgood : ∀ c ∈ w, Readable p start call c) :
    Reads p (FollowAt p.rules start j (behind ++ k)) (fun ts => repeatWhile
      (entersLoop greedy (sequenceLook p.vocabulary p.table behind)
        (blockLook p.vocabulary p.table b)) body (ts.length + 1) ts) w := by
  obtain ⟨ws, rfl, hws⟩ := hw
  intro ts rest hts hc hn
  refine rounds_read hend hsize hll hbody ws _ ts rest (by omega) hts hws ?_ hc hn
  exact fun u hu c hcu => hgood c (List.mem_flatten.mpr ⟨u, hu, hcu⟩)

theorem optional_reads (hend : p.endToken.isEnd) (hsize : 0 < p.vocabulary.size)
    (greedy : Bool) {b : RuleBlock Lookahead} {behind k : Sequence Lookahead}
    {body : Parse (List Tree)}
    (hll : PredictiveLoop p.vocabulary p.rules (FollowAt p.rules start j (behind ++ k)) b)
    (hbody : ∀ w ∈ blockWords leafWords (fun i _ => nodeWords i) b,
      (∀ c ∈ w, Readable p start call c) →
      Reads p (FollowAt p.rules start j (behind ++ k)) body w)
    {w : List Tree} (hw : w ∈ 1 + blockWords leafWords (fun i _ => nodeWords i) b)
    (hgood : ∀ c ∈ w, Readable p start call c) :
    Reads p (FollowAt p.rules start j (behind ++ k)) (fun ts =>
      if entersLoop greedy (sequenceLook p.vocabulary p.table behind)
        (blockLook p.vocabulary p.table b) (nextType ts) then body ts
      else Parse.value [] ts) w := by
  intro ts rest hts hc hn
  have hlt := nextType_lt hsize hts
  rcases hw with rfl | hw
  · obtain ⟨-, rfl⟩ | ⟨l, ls, hcons, -⟩ := hc.nextType_cases hend
    · simp only [entersLoop_of_follow hll greedy _ hlt hn, Bool.false_eq_true, if_false]
      rfl
    · cases hcons
  · have htypes := leafTypes_block hw hgood
    obtain ⟨hnil, -⟩ | ⟨l, ls, hcons, hnext⟩ := hc.nextType_cases hend
    · rw [leafTypes, hnil] at htypes
      exact absurd htypes hll.empty
    · rw [leafTypes, hcons, List.map_cons, ← hnext] at htypes
      obtain ⟨a, ha, hs⟩ := blockWords_starts htypes
      simp only [entersLoop_of_starts hll greedy hlt ha hs, if_true]
      exact hbody w hw hgood ts rest hts hc hn

theorem loop_reads (hend : p.endToken.isEnd) (hsize : 0 < p.vocabulary.size)
    {kind : RepeatKind} {greedy : Bool} {exit : Lookahead} {b : RuleBlock Lookahead}
    {behind k : Sequence Lookahead}
    (hll : PredictiveLoop p.vocabulary p.rules (FollowAt p.rules start j (behind ++ k)) b)
    (hbody : ∀ w ∈ blockWords leafWords (fun i _ => nodeWords i) b,
      (∀ c ∈ w, Readable p start call c) →
      Reads p (FollowAt p.rules start j (roundsBehind kind greedy exit b ++ (behind ++ k)))
        (parseBlock p call (annotateBlock p.vocabulary p.table b)) w)
    {w : List Tree} (hw : w ∈ repetition (blockWords leafWords (fun i _ => nodeWords i) b) kind)
    (hgood : ∀ c ∈ w, Readable p start call c) :
    Reads p (FollowAt p.rules start j (behind ++ k)) (parseElement p call
      (annotateElement p.vocabulary p.table (sequenceLook p.vocabulary p.table behind)
        (.loop kind greedy exit b))) w := by
  cases kind with
  | optional =>
    have h := optional_reads hend hsize greedy hll hbody hw hgood
    obtain ⟨note, alternatives⟩ := b
    simpa only [annotateElement, annotateBlock, parseElement] using h
  | zeroOrMore =>
    have h := star_reads hend hsize hll hbody hw hgood
    obtain ⟨note, alternatives⟩ := b
    simpa only [annotateElement, annotateBlock, parseElement] using h
  | oneOrMore =>
    obtain ⟨u, hu, v, hv, rfl⟩ := Language.mem_mul.mp hw
    have hgu : ∀ c ∈ u, Readable p start call c := fun c hc => hgood c (List.mem_append_left _ hc)
    have hgv : ∀ c ∈ v, Readable p start call c := fun c hc => hgood c (List.mem_append_right _ hc)
    have hmore := star_reads hend hsize hll hbody hv hgv
    have h := (hbody u hu hgu).append hmore ?_
    · obtain ⟨note, alternatives⟩ := b
      simpa only [annotateElement, annotateBlock, parseElement] using h
    · intro ts rest hc hn
      refine followAt_append hend (leafTypes_sequence ?_ hgv) hc hn
      simpa only [roundsBehind, sequenceWords, elementWords, repetition, mul_one] using hv

section Rule

variable {r : ParserRule Lookahead}

/-- What is known while a rule is read: it is one of the start rule's derivations, one token is
enough to choose in it, and all its blocks have alternatives. -/
structure Reading (p : ParserConfig) (start j : Nat) (r : ParserRule Lookahead) : Prop where
  isEnd : p.endToken.isEnd
  size_pos : 0 < p.vocabulary.size
  isLL1 : IsLL1 p.vocabulary p.rules start
  reachable : Reachable p.rules start j
  rule : p.rules[j]? = some r
  filled {b : RuleBlock Lookahead} {k : Sequence Lookahead} :
    BlockAt r.block b k → b.alternatives ≠ []

theorem parseAlternative_eq {as : List (RuleAlternative Lookahead)} {m : Nat}
    {a : RuleAlternative Lookahead} (h : as[m]? = some a) :
    parseAlternative p call as m = parseSequence p call a.elements := by
  induction as generalizing m with
  | nil => cases h
  | cons c as ih =>
    cases m with
    | zero => obtain rfl : c = a := by simpa using h
              rw [parseAlternative]
    | succ m => rw [parseAlternative]; exact ih (by simpa using h)

mutual

theorem element_reads (hr : Reading p start j r) : ∀ (e : Element Lookahead)
    {behind k : Sequence Lookahead} {w : List Tree}, ElementAt r.block e (behind ++ k) →
    w ∈ elementWords leafWords (fun i _ => nodeWords i) e →
    (∀ c ∈ w, Readable p start call c) →
    Reads p (FollowAt p.rules start j (behind ++ k)) (parseElement p call
      (annotateElement p.vocabulary p.table (sequenceLook p.vocabulary p.table behind) e)) w
  | .token m, _, _, w, _, hw, _ => by
    rw [elementWords] at hw
    obtain ⟨t, ht, rfl⟩ := hw
    rw [annotateElement, parseElement]
    exact terminal_reads hr.isEnd ht
  | .rule i, _, _, w, hat, hw, hgood => by
    rw [elementWords] at hw
    rw [annotateElement, parseElement]
    exact call_reads hr.reachable hr.rule hat rfl hw hgood 0
  | .operand i q, _, _, w, hat, hw, hgood => by
    rw [elementWords] at hw
    rw [annotateElement, parseElement]
    exact call_reads hr.reachable hr.rule hat rfl hw hgood q
  | .block body, _, _, w, hat, hw, hgood => by
    rw [elementWords] at hw
    rw [annotateElement, parseElement]
    exact block_reads hr body (.block hat) hw hgood
  | .loop kind greedy exit body, _, _, w, hat, hw, hgood => by
    rw [elementWords] at hw
    exact loop_reads hr.isEnd hr.size_pos (hr.isLL1.loop hr.rule hat)
      (fun u hu hgu => block_reads hr body (.loop hat) hu hgu) hw hgood

theorem sequence_reads (hr : Reading p start j r) : ∀ (es : Sequence Lookahead)
    {b : RuleBlock Lookahead} {k : Sequence Lookahead} {a : RuleAlternative Lookahead}
    {before : Sequence Lookahead} {w : List Tree}, BlockAt r.block b k → a ∈ b.alternatives →
    a.elements = before ++ es → w ∈ sequenceWords leafWords (fun i _ => nodeWords i) es →
    (∀ c ∈ w, Readable p start call c) →
    Reads p (FollowAt p.rules start j k)
      (parseSequence p call (annotateSequence p.vocabulary p.table es)) w
  | [], _, _, _, _, w, _, _, _, hw, _ => by
    rw [sequenceWords] at hw
    obtain rfl : w = [] := hw
    intro ts rest _ hc _
    rw [annotateSequence, parseSequence]
    obtain ⟨-, rfl⟩ | ⟨l, ls, hcons, -⟩ := hc.nextType_cases hr.isEnd
    · rfl
    · cases hcons
  | e :: es, b, k, a, before, w, hb, ha, hes, hw, hgood => by
    rw [sequenceWords] at hw
    obtain ⟨u, hu, v, hv, rfl⟩ := Language.mem_mul.mp hw
    have hgu : ∀ c ∈ u, Readable p start call c := fun c hc => hgood c (List.mem_append_left _ hc)
    have hgv : ∀ c ∈ v, Readable p start call c := fun c hc => hgood c (List.mem_append_right _ hc)
    have hes' : a.elements = (before ++ [e]) ++ es := by rw [hes]; simp
    rw [annotateSequence, parseSequence]
    have hes_reads := sequence_reads hr es hb ha hes' hv hgv
    apply (element_reads hr e (.mk hb ha hes) hu hgu).append hes_reads
    intro ts rest hc hn
    exact followAt_append hr.isEnd (leafTypes_sequence hv hgv) hc hn

theorem choice_reads (hr : Reading p start j r) : ∀ (as : List (RuleAlternative Lookahead))
    {b : RuleBlock Lookahead} {k : Sequence Lookahead} {a : RuleAlternative Lookahead}
    {w : List Tree}, BlockAt r.block b k → a ∈ b.alternatives → a ∈ as →
    w ∈ sequenceWords leafWords (fun i _ => nodeWords i) a.elements →
    (∀ c ∈ w, Readable p start call c) →
    Reads p (FollowAt p.rules start j k)
      (parseSequence p call (annotateSequence p.vocabulary p.table a.elements)) w
  | [], _, _, _, _, _, _, has, _, _ => by cases has
  | ⟨label, note, es⟩ :: as, b, k, a, w, hb, ha, has, hw, hgood => by
    rcases List.mem_cons.mp has with rfl | has
    · exact sequence_reads hr es hb ha (List.nil_append es).symm hw hgood
    · exact choice_reads hr as hb ha has hw hgood

theorem block_reads (hr : Reading p start j r) : ∀ (b : RuleBlock Lookahead)
    {k : Sequence Lookahead} {w : List Tree}, BlockAt r.block b k →
    w ∈ blockWords leafWords (fun i _ => nodeWords i) b →
    (∀ c ∈ w, Readable p start call c) →
    Reads p (FollowAt p.rules start j k)
      (parseBlock p call (annotateBlock p.vocabulary p.table b)) w
  | ⟨note, as⟩, k, w, hb, hw, hgood => by
    obtain ⟨a, ha, hw⟩ := (mem_blockWords_iff (hr.filled hb)).mp hw
    obtain ⟨m, hm⟩ := List.mem_iff_getElem?.mp ha
    have hreads := choice_reads hr as hb ha ha hw hgood
    intro ts rest hts hc hn
    have hchoose : chooseAlternative (annotateBlock p.vocabulary p.table ⟨note, as⟩)
        (nextType ts) = some m := by
      apply chooseAlternative_eq (hr.isLL1.block hr.rule hb) hm (nextType_lt hr.size_pos hts)
      have htypes := leafTypes_sequence hw hgood
      rcases hc.nextType_cases hr.isEnd with ⟨hnil, rfl⟩ | ⟨l, ls, hcons, hnext⟩
      · rw [leafTypes, hnil] at htypes
        exact Or.inr ⟨htypes, hn⟩
      · rw [leafTypes, hcons, List.map_cons, ← hnext] at htypes
        exact Or.inl (sequenceWords_starts htypes)
    have halt : (annotateChoice p.vocabulary p.table as)[m]? = some ⟨a.label,
        sequenceLook p.vocabulary p.table a.elements,
        annotateSequence p.vocabulary p.table a.elements⟩ := by
      rw [annotateChoice_eq_map, List.getElem?_map, hm]
      rfl
    rw [annotateBlock] at hchoose ⊢
    simp only [parseBlock, hchoose, parseAlternative_eq halt]
    exact hreads ts rest hts hc hn

end

end Rule

end Parts

end GrammarWorkbench.Run
