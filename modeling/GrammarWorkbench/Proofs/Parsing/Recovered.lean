import GrammarWorkbench.Proofs.Parsing.Sound

/-!
# Recovery keeps the tokens

Whatever a parse has to recover from, its leaves are the tokens that were read, each once and in
order, as themselves or as errors. A leaf that stands for no token is an end of the input or a
token made up there, so no token is left when the first of them is added.
-/

set_option autoImplicit false

namespace GrammarWorkbench.Run

open GrammarWorkbench.Model GrammarWorkbench.Derivation GrammarWorkbench.Compile

namespace Tree

mutual

def leaves : Tree → List Tree
  | rule _ cs => allLeaves cs
  | token t => [token t]
  | error text s => [error text s]

def allLeaves : List Tree → List Tree
  | [] => []
  | t :: ts => leaves t ++ allLeaves ts

end

/-- Whether a leaf takes no room in the input: an end of the input, or a token that was made up. -/
def isZeroWidth : Tree → Bool
  | rule _ _ => false
  | token t => t.isEnd
  | error _ s => s.length == 0

def StandsFor (leaf : Tree) (t : Token) : Prop := leaf = .token t ∨ leaf = .error t.text t.span

theorem allLeaves_append (ss ts : List Tree) :
    allLeaves (ss ++ ts) = allLeaves ss ++ allLeaves ts := by
  induction ss with
  | nil => rfl
  | cons s ss ih => simp [allLeaves, ih]

theorem StandsFor.not_zeroWidth {leaf : Tree} {t : Token} (h : leaf.StandsFor t)
    (hspan : t.span.length ≠ 0) (hend : ¬ t.isEnd) : ¬ leaf.isZeroWidth := by
  rcases h with rfl | rfl
  · exact hend
  · simpa [isZeroWidth] using hspan

end Tree

/-- Some leaves stand for the tokens in front of `rest`, and behind them come leaves without a
token if nothing is left. -/
def Keeps (ts : List Token) (leaves : List Tree) (rest : List Token) : Prop :=
  ∃ used standing added, ts = used ++ rest ∧ leaves = standing ++ added ∧
    List.Forall₂ Tree.StandsFor standing used ∧ (∀ l ∈ added, l.isZeroWidth) ∧
    (added ≠ [] → rest = [])

namespace Keeps

variable {ts rest : List Token} {leaves : List Tree}

theorem refl (ts : List Token) : Keeps ts [] ts :=
  ⟨[], [], [], rfl, rfl, .nil, by simp, fun h => absurd rfl h⟩

theorem trans {mid : List Token} {more : List Tree} (h : Keeps ts leaves mid)
    (h' : Keeps mid more rest) : Keeps ts (leaves ++ more) rest := by
  obtain ⟨used, standing, added, rfl, rfl, hstands, hadded, hnone⟩ := h
  obtain ⟨used', standing', added', rfl, rfl, hstands', hadded', hnone'⟩ := h'
  by_cases hempty : added = []
  · subst hempty
    exact ⟨used ++ used', standing ++ standing', added', by simp, by simp,
      List.rel_append hstands hstands', hadded', hnone'⟩
  · -- nothing was left behind the first leaves, so the others stand for no token either
    obtain ⟨rfl, rfl⟩ := List.append_eq_nil_iff.mp (hnone hempty)
    obtain rfl := List.forall₂_nil_right_iff.mp hstands'
    refine ⟨used, standing, added ++ added', by simp, by simp, hstands, ?_, fun _ => rfl⟩
    intro l hl
    exact (List.mem_append.mp hl).elim (hadded l) (hadded' l)

theorem mem_of_mem_rest (h : Keeps ts leaves rest) {t : Token} (ht : t ∈ rest) : t ∈ ts := by
  obtain ⟨used, standing, added, rfl, -⟩ := h
  exact List.mem_append_right used ht

theorem one {t : Token} {leaf : Tree} (h : leaf.StandsFor t) (ts : List Token) :
    Keeps (t :: ts) [leaf] ts :=
  ⟨[t], [leaf], [], rfl, rfl, .cons h .nil, by simp, fun h => absurd rfl h⟩

theorem added {leaf : Tree} (h : leaf.isZeroWidth) : Keeps [] [leaf] [] :=
  ⟨[], [], [leaf], rfl, rfl, .nil, by simpa using h, fun _ => rfl⟩

end Keeps

section Steps

variable {p : ParserConfig}

theorem keeps_readToken (hend : p.endToken.isEnd) (ts : List Token) :
    Keeps ts [(readToken p ts).1] (readToken p ts).2 := by
  cases ts with
  | nil => exact .added hend
  | cons t ts => exact .one (Or.inl rfl) ts

theorem keeps_readError (t : Token) (ts : List Token) :
    Keeps (t :: ts) [(readError p (t :: ts)).1] (readError p (t :: ts)).2 :=
  .one (Or.inr rfl) ts

/-- Reading a terminal keeps the tokens, whether it is there, missing, or behind another one. -/
theorem parseTerminal_keeps (hend : p.endToken.isEnd) {m : TokenMatch} {ts : List Token}
    (hts : ∀ t ∈ ts, ¬ t.isEnd) {r : Parsed (List Tree)} (h : parseTerminal p m ts = .ok r) :
    Keeps ts (Tree.allLeaves r.value) r.rest := by
  unfold parseTerminal at h
  by_cases hm : m.accepts (nextType ts)
  · rw [if_pos hm] at h
    obtain rfl := Except.ok.inj h
    exact keeps_readToken hend ts
  · rw [if_neg hm] at h
    dsimp only at h
    cases ts with
    | nil =>
      rw [if_pos (show (currentToken p []).isEnd from hend)] at h
      obtain rfl := Except.ok.inj h
      exact .added (by simp [Tree.isZeroWidth, Text.Span.empty, Text.Span.length])
    | cons t ts =>
      rw [if_neg (show ¬ (currentToken p (t :: ts)).isEnd from hts t List.mem_cons_self)] at h
      have hskip := keeps_readError (p := p) t ts
      split at h
      · obtain rfl := Except.ok.inj h
        exact hskip.trans (keeps_readToken hend ts)
      · obtain rfl := Except.ok.inj h
        exact hskip

theorem parseNothing_keeps (hend : p.endToken.isEnd) {ts : List Token}
    (hts : ∀ t ∈ ts, ¬ t.isEnd) {r : Parsed (List Tree)} (h : parseNothing p ts = .ok r) :
    Keeps ts (Tree.allLeaves r.value) r.rest := by
  unfold parseNothing at h
  dsimp only at h
  cases ts with
  | nil =>
    rw [if_pos (show (currentToken p []).isEnd from hend)] at h
    obtain rfl := Except.ok.inj h
    exact .refl []
  | cons t ts =>
    rw [if_neg (show ¬ (currentToken p (t :: ts)).isEnd from hts t List.mem_cons_self)] at h
    obtain rfl := Except.ok.inj h
    exact keeps_readError t ts

/-- A run keeps the tokens, none of which is an end of the input. What the words are does not
matter. -/
def keptRun (p : ParserConfig) (hend : p.endToken.isEnd) : RunInvariant p where
  holds _ ts r := (∀ t ∈ ts, ¬ t.isEnd) → Keeps ts (Tree.allLeaves r.value) r.rest
  mono _ h := h
  done ts _ := .refl ts
  andThen := by
    intro l m ts r s hr hs hts
    have hfirst := hr hts
    have hsecond := hs fun t ht => hts t (hfirst.mem_of_mem_rest ht)
    rw [Tree.allLeaves_append]
    exact hfirst.trans hsecond
  terminal hr hts := parseTerminal_keeps hend hts hr
  nothing hr hts := parseNothing_keeps hend hts hr

theorem callRule_keeps (hend : p.endToken.isEnd) (room : Nat) :
    (keptRun p hend).Calls (callRule p room) fun _ _ => 0 := by
  apply RunInvariant.callRule_holds
  · intro i rule q ts c hrule hc hts
    simpa [Tree.allLeaves, Tree.leaves] using hc hts
  · -- an operator takes the tree so far as its first child, which leaves the leaves in order
    intro i rule q start left ds ts c hrule hleft hc hts
    have hoperand := hleft hts
    have hchildren := hc fun t ht => hts t (hoperand.mem_of_mem_rest ht)
    simpa [Tree.allLeaves, Tree.leaves] using hoperand.trans hchildren

end Steps

section Leaves

variable {ts rest : List Token} {leaves : List Tree}

theorem standing_wide {standing : List Tree} {used : List Token}
    (hused : ∀ t ∈ used, t.span.length ≠ 0 ∧ ¬ t.isEnd)
    (hstands : List.Forall₂ Tree.StandsFor standing used) : ∀ l ∈ standing, ¬ l.isZeroWidth := by
  induction hstands with
  | nil => simp
  | @cons leaf t standing used hleaf _ ih =>
    have ht := hused t List.mem_cons_self
    intro l hl
    rcases List.mem_cons.mp hl with rfl | hl
    · exact hleaf.not_zeroWidth ht.1 ht.2
    · exact ih (fun u hu => hused u (List.mem_cons_of_mem _ hu)) l hl

/-- The leaves that take room stand for the tokens that were read. -/
theorem Keeps.wide_leaves (h : Keeps ts leaves rest)
    (hts : ∀ t ∈ ts, t.span.length ≠ 0 ∧ ¬ t.isEnd) :
    ∃ used, ts = used ++ rest ∧
      List.Forall₂ Tree.StandsFor (leaves.filter (!·.isZeroWidth)) used := by
  obtain ⟨used, standing, added, rfl, rfl, hstands, hadded, -⟩ := h
  have hwide := standing_wide (fun t ht => hts t (List.mem_append_left _ ht)) hstands
  have hstanding : standing.filter (!·.isZeroWidth) = standing := by
    rw [List.filter_eq_self]
    intro l hl
    simpa using hwide l hl
  have hothers : added.filter (!·.isZeroWidth) = [] := by
    rw [List.filter_eq_nil_iff]
    intro l hl
    simpa using hadded l hl
  refine ⟨used, rfl, ?_⟩
  rw [List.filter_append, hstanding, hothers, List.append_nil]
  exact hstands

/-- Behind a leaf that takes no room all leaves are such, and no token is left. -/
theorem Keeps.behind_zeroWidth (h : Keeps ts leaves rest)
    (hts : ∀ t ∈ ts, t.span.length ≠ 0 ∧ ¬ t.isEnd) {before behind : List Tree} {leaf : Tree}
    (hleaves : leaves = before ++ leaf :: behind) (hleaf : leaf.isZeroWidth) :
    rest = [] ∧ ∀ l ∈ behind, l.isZeroWidth := by
  obtain ⟨used, standing, added, rfl, rfl, hstands, hadded, hnone⟩ := h
  have hwide := standing_wide (fun t ht => hts t (List.mem_append_left _ ht)) hstands
  have hsplit : ∃ more, added = more ++ leaf :: behind := by
    rcases List.append_eq_append_iff.mp hleaves with ⟨more, -, hmore⟩ | ⟨more, hstanding, hmore⟩
    · exact ⟨more, hmore⟩
    · cases more with
      | nil => exact ⟨[], by simpa using hmore.symm⟩
      | cons l more =>
        -- the leaf would be one of those that stand for tokens
        obtain ⟨rfl, -⟩ := List.cons.inj hmore
        exact absurd hleaf (hwide leaf (by simp [hstanding]))
  obtain ⟨more, rfl⟩ := hsplit
  constructor
  · exact hnone (by simp)
  · intro l hl
    exact hadded l (by simp [hl])

end Leaves

/-- The leaves of a tree that take room stand for the first tokens, each for one and in order. If
there is a leaf that takes none, all tokens have been read before it, and the leaves behind it
take none either. -/
theorem parse_keeps_tokens {g : Grammar} {input : List Char} {tokens : List Token}
    {limit start : Nat} {cancelled : Bool} {tree : Tree} {ds : List Diagnostic.Defect}
    (htokens : ∀ t ∈ visibleTokens tokens, t.span.length ≠ 0 ∧ ¬ t.isEnd)
    (hparse : parse g input tokens limit cancelled start = .ok (tree, ds)) :
    ∃ used rest, visibleTokens tokens = used ++ rest ∧
      List.Forall₂ Tree.StandsFor (tree.leaves.filter (!·.isZeroWidth)) used ∧
      ∀ before leaf behind, tree.leaves = before ++ leaf :: behind → leaf.isZeroWidth →
        rest = [] ∧ ∀ l ∈ behind, l.isZeroWidth := by
  obtain ⟨r, hr, rfl, -⟩ := parse_ok.mp hparse
  have hkeeps : Keeps (visibleTokens tokens) r.value.leaves r.rest := by
    have hcall := callRule_keeps (p := ⟨g, input, .atEnd input, limit, cancelled⟩) rfl limit
      start 0 _ r hr fun t ht => (htokens t ht).2
    simpa [Tree.allLeaves] using hcall
  obtain ⟨used, hused, hstands⟩ := hkeeps.wide_leaves htokens
  refine ⟨used, r.rest, hused, hstands, ?_⟩
  intro before leaf behind hleaves hleaf
  exact hkeeps.behind_zeroWidth htokens hleaves hleaf

def swappedTokens : List Token :=
  [⟨"'b'", 2, ['b'], ⟨0, 1⟩, ⟨1, 1⟩, 0⟩, ⟨"'a'", 1, ['a'], ⟨1, 2⟩, ⟨1, 2⟩, 0⟩]

theorem swappedTokens_parsed : ∃ g tree ds, compile "s:'a' 'b' EOF;".toList none = .ok g ∧
    parse g "ba".toList swappedTokens 1 false 0 = .ok (tree, ds) ∧ ds.length = 2 ∧
      tree.leaves.map (·.isZeroWidth) = [false, false, true, true] := by
  have h : ∃ g ∈ (compile "s:'a' 'b' EOF;".toList none).toOption,
      ∃ r ∈ (parse g "ba".toList swappedTokens 1 false 0).toOption, r.2.length = 2 ∧
        r.1.leaves.map (·.isZeroWidth) = [false, false, true, true] := by decide +kernel
  obtain ⟨g, hg, ⟨tree, ds⟩, hr, hds, hleaves⟩ := h
  exact ⟨g, tree, ds, toOption_eq_some.mp hg, toOption_eq_some.mp hr, hds, hleaves⟩

theorem parse_keeps_swappedTokens : ∃ g tree ds used rest,
    compile "s:'a' 'b' EOF;".toList none = .ok g ∧
      parse g "ba".toList swappedTokens 1 false 0 = .ok (tree, ds) ∧ ds.length = 2 ∧
      tree.leaves.map (·.isZeroWidth) = [false, false, true, true] ∧
      visibleTokens swappedTokens = used ++ rest ∧
      List.Forall₂ Tree.StandsFor (tree.leaves.filter (!·.isZeroWidth)) used ∧
      ∀ before leaf behind, tree.leaves = before ++ leaf :: behind → leaf.isZeroWidth →
        rest = [] ∧ ∀ l ∈ behind, l.isZeroWidth := by
  obtain ⟨g, tree, ds, hg, hparse, hds, hleaves⟩ := swappedTokens_parsed
  obtain ⟨used, rest, hkept⟩ := parse_keeps_tokens (by decide) hparse
  exact ⟨g, tree, ds, used, rest, hg, hparse, hds, hleaves, hkept⟩

end GrammarWorkbench.Run
