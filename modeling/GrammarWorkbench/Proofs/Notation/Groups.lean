import GrammarWorkbench.Proofs.Notation.Alternatives

/-!
# Groups read back

A group is read back if the atoms inside it are, and so is every atom, by induction on its depth.
The bound on the calls of rules grows with the words: a group has two words more than the
alternatives in it, and its atoms are five calls deeper than it.
-/

set_option autoImplicit false

namespace GrammarWorkbench.Declaration

open GrammarWorkbench.Text GrammarWorkbench.Recognizer GrammarWorkbench.Diagnostic
open GrammarWorkbench.Declaration.Phrase

/-- What holds of a group if it holds of the atoms of its elements holds of every atom. -/
theorem Atom.induct {P : Atom → Prop} (hleaf : ∀ a : Atom, (∀ as, a ≠ .group as) → P a)
    (hgroup : ∀ as : List AltDecl, (∀ a ∈ as, ∀ e ∈ a.elements, P e.atom) → P (.group as))
    (a : Atom) : P a :=
  match a with
  | .group as => hgroup as fun a ha e he => Atom.induct hleaf hgroup e.atom
  | .ref _ | .literal _ | .range _ _ | .set _ | .wildcard | .not _ => hleaf _ (by simp)
termination_by sizeOf a
decreasing_by
  have halternative := List.sizeOf_lt_of_mem ha
  have helement := List.sizeOf_lt_of_mem he
  obtain ⟨elements, label, commands, rightAssoc, span⟩ := a
  obtain ⟨atom, suffix, span⟩ := e
  simp only [AltOf.mk.sizeOf_spec, ElementOf.mk.sizeOf_spec, Atom.group.sizeOf_spec] at *
  omega

def AtomReads (a : Atom) : Prop :=
  ∀ d vs, 5 * a.words.length + 8 ≤ d → Avoids atomStops vs →
    Reads d (.rule .atom) a.words vs (AtomRead a)

section Groups

variable {d : Nat} {vs : List Word}

theorem length_le_joined {sep : String} {parts : List (List Word)} {part : List Word}
    (h : part ∈ parts) : part.length ≤ (joined sep parts).length := by
  cases parts with
  | nil => cases h
  | cons first parts =>
    rw [joined, List.length_append]
    rcases List.mem_cons.mp h with rfl | h
    · omega
    · have hpart := List.Sublist.length_le (List.sublist_flatten_of_mem
        (List.mem_map_of_mem (f := fun p => sep.toList :: p) h))
      rw [← List.flatMap_def, List.length_cons] at hpart
      omega

theorem AltOf.length_le {a : AltDecl} {e : ElementDecl} (he : e ∈ a.elements) :
    e.atom.words.length ≤ a.words.length := by
  have helement := List.Sublist.length_le (List.sublist_flatten_of_mem
    (List.mem_map_of_mem (f := ElementOf.words) he))
  rw [← List.flatMap_def, ElementOf.words, List.length_append] at helement
  simp only [AltOf.words, framed, List.length_append]
  omega

/-- The alternatives of a rule or a group are read back, if their atoms are. -/
theorem reads_choice {as : List AltDecl} (hne : as ≠ []) (hproper : ∀ a ∈ as, a.Proper)
    (hatoms : ∀ a ∈ as, ∀ e ∈ a.elements, e.atom.Proper ∧ AtomReads e.atom)
    (hd : 5 * (joined "|" (as.map AltOf.words)).length + 11 ≤ d)
    (hvs : StartsWith [";", ")"] vs) :
    Reads d (.rule .alternatives) (joined "|" (as.map AltOf.words)) vs
      (OfPhrase .alternatives (Each AltRead as)) := by
  refine reads_alternatives hne (by omega) hvs fun a ha us hus => ?_
  refine reads_alternative (hproper a ha) (fun e he => (hatoms a ha e he).1) (by omega) hus ?_
  intro e he us' hus'
  refine reads_element (hatoms a ha e he).1 (by omega) hus' fun us'' hus'' => ?_
  refine (hatoms a ha e he).2 _ _ ?_ hus''
  have halternative : a.words.length ≤ (joined "|" (as.map AltOf.words)).length :=
    length_le_joined (List.mem_map_of_mem ha)
  have helement := AltOf.length_le he
  omega

theorem readGroup_read {as : List AltDecl} {kids : List PhraseNode} (h : Each AltRead as kids)
    (source : List Char) (span : Span) (text : List Char) (behind : List PhraseNode) :
    ReadAs AltOf.bare (readGroup source (.mk .alternatives span text kids :: behind)) as := by
  rw [readGroup, if_pos (beq_self_eq_true _), readAlternatives_eq]
  exact h.readAs source

theorem refuses_optionsSpec {ws : List Word} (h : Unlabelled ws) (hd : 3 ≤ d) :
    Refuses d (.rule .optionsSpec) ws := by
  rcases h with ⟨w, us, rfl, hw, hus⟩ | h
  · have hbrace : Refuses (d - 1) (Expr.lit "\x7b") us := hus.refuses (by decide) (by decide)
    exact .rule (by decide) (refuses_seq_keyword rfl rfl (by decide) (by omega) hw
      fun _ => .seq_left hbrace)
  · refine .of_starts 3 ?_ rfl
    change (some 'o' == firstChar ws) = false
    rw [beq_eq_false_iff_ne]
    intro hfirst
    exact absurd (h 'o' hfirst.symm) (by decide)

theorem joined_unlabelled {as : List AltDecl} (hne : as ≠ [])
    (hatoms : ∀ a ∈ as, ∀ e ∈ a.elements, e.atom.Proper) (hvs : StartsWith closings vs) :
    Unlabelled (joined "|" (as.map AltOf.words) ++ vs) := by
  obtain ⟨a, as, rfl⟩ := List.exists_cons_of_ne_nil hne
  have hnext : StartsWith closings ((as.map AltOf.words).flatMap ("|".toList :: ·) ++ vs) :=
    follows_flatMap (fun _ _ us => ⟨"|", by decide, _, rfl⟩) hvs
  rw [List.map_cons, joined, List.append_assoc]
  exact AltOf.unlabelled (hatoms a List.mem_cons_self) hnext

theorem reads_group {as : List AltDecl} (hne : as ≠ []) (hproper : ∀ a ∈ as, a.Proper)
    (hatoms : ∀ a ∈ as, ∀ e ∈ a.elements, e.atom.Proper ∧ AtomReads e.atom) :
    AtomReads (.group as) := by
  intro d vs hd hvs
  have hwords : (Atom.group as).words =
      ["(".toList] ++ ([] ++ (joined "|" (as.map AltOf.words) ++ [")".toList])) := by
    simp [Atom.words, wordsOfAlternatives_eq]
  rw [hwords] at hd ⊢
  simp only [List.length_append, List.length_cons, List.length_nil] at hd
  have hclosing : StartsWith [";", ")"] ([")".toList] ++ vs) := ⟨")", by decide, vs, rfl⟩
  have hoptions : Refuses (d - 2) (.seq (.rule .optionsSpec) (Expr.lit ":"))
      (joined "|" (as.map AltOf.words) ++ [")".toList] ++ vs) := by
    rw [List.append_assoc]
    exact .seq_left (refuses_optionsSpec (joined_unlabelled hne
      (fun a ha e he => (hatoms a ha e he).1) (hclosing.mono (by decide))) (by omega))
  have hbody := Reads.seq (.lit "(") (Reads.seq (.optional_missing hoptions)
    (Reads.seq (reads_choice hne hproper hatoms (by omega) hclosing) (.lit ")")))
  have hother : ∀ {r : Phrase} {g : Char}, guard r = some g → g ≠ '(' → Refuses (d - 1) (.rule r)
      (["(".toList] ++ ([] ++ (joined "|" (as.map AltOf.words) ++ [")".toList])) ++ vs) := by
    intro r g hg hne
    exact refuses_guard hg (by simpa [firstChar] using Ne.symm hne)
  have hgroup : Reads (d - 1) (.rule .group)
      (["(".toList] ++ ([] ++ (joined "|" (as.map AltOf.words) ++ [")".toList]))) vs
      (AtomRead (.group as)) := by
    refine (Reads.plain rfl (by omega) hbody).imp ?_
    rintro nodes ⟨span, text, _, rfl, _, _, rfl, rfl, _, _, rfl, rfl, _, _, rfl,
      ⟨span', text', kids, rfl, hkids⟩, rfl⟩
    refine ⟨_, rfl, by simp, fun source => ?_⟩
    obtain ⟨hdefects, hvalue⟩ := readGroup_read hkids source span' text' []
    simp [readAtom, ReadAs, Atom.bare, bareAlternatives_eq, hdefects, hvalue]
  exact .silent rfl (by omega) (.choice_right (hother rfl (by decide))
    (.choice_right (hother rfl (by decide)) (.choice_right (hother rfl (by decide))
      (.choice_right (hother rfl (by decide)) (.choice_right (hother rfl (by decide))
        (.choice_left hgroup))))))

theorem Atom.mem_inside (a : Atom) : a ∈ a.inside := by
  cases a <;> simp [Atom.inside]

theorem atom_reads (a : Atom) (h : ∀ b ∈ a.inside, b.Proper ∧ b.Complete) : AtomReads a := by
  induction a using Atom.induct with
  | hleaf a hleaf =>
    obtain ⟨hproper, hcomplete⟩ := h a a.mem_inside
    exact fun d vs hd hvs => reads_leaf hproper hcomplete hleaf (by omega) hvs
  | hgroup as ih =>
    obtain ⟨hproper, hcomplete⟩ := h _ (Atom.mem_inside _)
    refine reads_group hcomplete hproper fun a ha e he => ?_
    have hinside : ∀ b ∈ e.atom.inside, b.Proper ∧ b.Complete := by
      intro b hb
      refine h b ?_
      rw [Atom.inside]
      exact List.mem_cons_of_mem _ (mem_insideAlternatives ha he hb)
    exact ⟨(hinside _ e.atom.mem_inside).1, ih a ha e he hinside⟩

end Groups

end GrammarWorkbench.Declaration
