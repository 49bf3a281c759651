import Clearinghouse.Proofs.License.Grammar
import Clearinghouse.Proofs.License.Scanning

/-!
# How deep parentheses nest

`nesting s` is the deepest level that the parentheses of the text reach. Main statement: what is
derived at some depth nests no deeper than that (`Derives.within`).

The parentheses of a derived expression are balanced: whatever level they begin on and whatever
follows, they reach a fixed number of levels further and return. Scanning keeps the parentheses
(`parens_tokensOf`), so the nesting of a text is that of its tokens.
-/

namespace Clearinghouse.License

open Token

inductive Paren
  | opening
  | closing
  deriving DecidableEq, Repr

namespace Paren

def ofChar? (c : Char) : Option Paren :=
  if c = '(' then some opening else if c = ')' then some closing else none

def ofToken? : Token → Option Paren
  | .opening => some opening
  | .closing => some closing
  | _ => none

end Paren

/-! ## Levels -/

/-- The deepest level on the way, from `level` on. -/
def deepest (level : Nat) : List Paren → Nat
  | [] => level
  | .opening :: ps => deepest (level + 1) ps
  | .closing :: ps => max level (deepest (level - 1) ps)

theorem le_deepest (level : Nat) (ps : List Paren) : level ≤ deepest level ps := by
  induction ps generalizing level with
  | nil => exact Nat.le_refl level
  | cons p ps ih =>
    cases p with
    | opening => exact Nat.le_of_succ_le (ih (level + 1))
    | closing => exact Nat.le_max_left _ _

/-- How deep the parentheses of a text nest. -/
def nesting (s : String) : Nat := deepest 0 (s.toList.filterMap Paren.ofChar?)

/-- From any level the parentheses reach `n` levels further and return to it. -/
def Balanced (n : Nat) (ps : List Paren) : Prop :=
  ∀ level rest, deepest level (ps ++ rest) = max (level + n) (deepest level rest)

namespace Balanced

theorem nil : Balanced 0 [] := by
  intro level rest
  exact (Nat.max_eq_right (le_deepest level rest)).symm

theorem append {m n : Nat} {ps qs : List Paren} (h : Balanced m ps) (h' : Balanced n qs) :
    Balanced (max m n) (ps ++ qs) := by
  intro level rest
  rw [List.append_assoc, h, h']
  omega

theorem enclose {n : Nat} {ps : List Paren} (h : Balanced n ps) :
    Balanced (n + 1) (.opening :: (ps ++ [.closing])) := by
  intro level rest
  have hclose : deepest (level + 1) (.closing :: rest) = max (level + 1) (deepest level rest) := rfl
  rw [List.cons_append, List.append_assoc, List.singleton_append, deepest, h, hclose]
  omega

theorem deepest_eq {n : Nat} {ps : List Paren} (h : Balanced n ps) : deepest 0 ps = n := by
  have := h 0 []
  rw [List.append_nil] at this
  simpa [deepest] using this

end Balanced

/-! ## Texts and tokens -/

/-- The parentheses among the tokens. -/
def parens (tokens : List Token) : List Paren := tokens.filterMap Paren.ofToken?

@[simp] theorem parens_nil : parens [] = [] := rfl

@[simp] theorem parens_append (as bs : List Token) : parens (as ++ bs) = parens as ++ parens bs :=
  List.filterMap_append

@[simp] theorem parens_opening (tokens : List Token) :
    parens (.opening :: tokens) = .opening :: parens tokens := rfl

@[simp] theorem parens_closing (tokens : List Token) :
    parens (.closing :: tokens) = .closing :: parens tokens := rfl

@[simp] theorem parens_phrase (words : List String) : parens (phrase words) = [] := by
  simp [parens, phrase, Paren.ofToken?]

theorem parens_cons_of_none {token : Token} (h : Paren.ofToken? token = none)
    (tokens : List Token) : parens (token :: tokens) = parens tokens :=
  List.filterMap_cons_none h

theorem ofToken?_ofWord {chars : List Char} (h : ∀ c ∈ chars, isParen c = false) :
    Paren.ofToken? (ofWord (.ofList chars)) = none := by
  have hopen : String.ofList chars ≠ "(" := by
    rw [Ne, ← String.toList_inj, String.toList_ofList]
    rintro rfl
    exact absurd (h '(' (by decide)) (by decide)
  have hclose : String.ofList chars ≠ ")" := by
    rw [Ne, ← String.toList_inj, String.toList_ofList]
    rintro rfl
    exact absurd (h ')' (by decide)) (by decide)
  unfold ofWord
  simp only [beq_iff_eq, hopen, hclose, if_false]
  split_ifs <;> rfl

theorem ofChar?_eq_none {c : Char} (h : isParen c = false) : Paren.ofChar? c = none := by
  have h' := mt isParen_iff.2 (Bool.eq_false_iff.1 h)
  rw [not_or] at h'
  rw [Paren.ofChar?, if_neg h'.1, if_neg h'.2]

theorem parens_of_clear {cs : List Char} (h : ∀ c ∈ cs, isParen c = false) :
    parens (tokensOf cs) = [] ∧ cs.filterMap Paren.ofChar? = [] := by
  constructor
  · rw [tokensOf_of_forall h, parens, List.filterMap_eq_nil_iff]
    intro token ht
    obtain ⟨chars, hc, rfl⟩ := List.mem_map.1 ht
    exact ofToken?_ofWord fun c hm => h c (Text.mem_of_mem_wordsOf hc hm)
  · exact List.filterMap_eq_nil_iff.2 fun c hc => ofChar?_eq_none (h c hc)

/-- Scanning keeps the parentheses. -/
theorem parens_tokensOf (cs : List Char) :
    parens (tokensOf cs) = cs.filterMap Paren.ofChar? := by
  induction cs using paren_induction with
  | clear cs h => rw [(parens_of_clear h).1, (parens_of_clear h).2]
  | paren xs c ys hxs hc ih =>
    rw [tokensOf_append_paren xs hc, parens_append, List.filterMap_append, (parens_of_clear hxs).1,
      (parens_of_clear hxs).2, List.nil_append, List.nil_append]
    rcases isParen_iff.1 hc with rfl | rfl
    · exact congrArg (List.cons Paren.opening) ih
    · exact congrArg (List.cons Paren.closing) ih

theorem nesting_eq (s : String) : nesting s = deepest 0 (parens (scan s)) := by
  rw [nesting, scan_eq, parens_tokensOf]

/-! ## Derivations -/

/-- The parentheses are balanced and nest at most `d` deep. -/
def Within (d : Nat) (tokens : List Token) : Prop := ∃ n ≤ d, Balanced n (parens tokens)

theorem Within.append {d : Nat} {as bs : List Token} (h : Within d as) (h' : Within d bs) :
    Within d (as ++ bs) := by
  obtain ⟨m, hm, h⟩ := h
  obtain ⟨n, hn, h'⟩ := h'
  exact ⟨max m n, Nat.max_le.2 ⟨hm, hn⟩, by rw [parens_append]; exact h.append h'⟩

theorem Sequence.within {α : Type} {separator : Token} {item : List Token → α → Prop}
    (hs : Paren.ofToken? separator = none) {d : Nat}
    (h : ∀ tokens a, item tokens a → Within d tokens) {tokens : List Token} {as : List α}
    (hseq : Sequence separator item tokens as) :
    Within d tokens := by
  induction hseq with
  | one ha => exact h _ _ ha
  | more ha _ ih =>
    refine (h _ _ ha).append ?_
    obtain ⟨n, hn, ih⟩ := ih
    exact ⟨n, hn, by rwa [parens_cons_of_none hs]⟩

theorem Run.within {separator : Token} {op : Junction} {operand : List Token → LicenseTree → Prop}
    (hs : Paren.ofToken? separator = none) {d : Nat}
    (h : ∀ tokens t, operand tokens t → Within d tokens) {tokens : List Token} {t : LicenseTree}
    (hrun : Run separator op operand tokens t) : Within d tokens := by
  obtain ⟨ts, hseq, -⟩ := run_iff_sequence.1 hrun
  exact hseq.within hs h

/-- Only parentheses of an atom's own lie around its inside. -/
theorem Atom.within {inside : List Token → LicenseTree → Prop} {d : Nat}
    (h : ∀ tokens t, inside tokens t → ∃ n < d, Balanced n (parens tokens)) {tokens : List Token}
    {t : LicenseTree} (hatom : Atom inside tokens t) : Within d tokens := by
  have enclosed {inner : List Token} {t : LicenseTree} (hi : inside inner t) :
      Within d (.opening :: (inner ++ [.closing])) := by
    obtain ⟨n, hn, hb⟩ := h _ _ hi
    refine ⟨n + 1, hn, ?_⟩
    rw [parens_opening, parens_append]
    exact hb.enclose
  cases hatom with
  | id _ => exact ⟨0, Nat.zero_le d, by rw [parens_phrase]; exact .nil⟩
  | exception _ _ =>
    refine ⟨0, Nat.zero_le d, ?_⟩
    rw [parens_append, parens_cons_of_none rfl, parens_phrase, parens_phrase]
    exact .nil
  | wrapped hi => exact enclosed hi
  | enclosed hi => exact enclosed hi

theorem Alternatives.within {inside : List Token → LicenseTree → Prop} {d : Nat}
    (h : ∀ tokens t, inside tokens t → ∃ n < d, Balanced n (parens tokens)) {tokens : List Token}
    {t : LicenseTree} (halt : Alternatives inside tokens t) : Within d tokens :=
  Run.within rfl (fun _ _ hrun => hrun.within rfl fun _ _ hatom => hatom.within h) halt

/-- What is derived at some depth nests no deeper than that. -/
theorem Derives.within {d : Nat} {tokens : List Token} {t : LicenseTree}
    (h : Derives d tokens t) : Within d tokens := by
  induction d generalizing tokens t with
  | zero => exact Alternatives.within (fun _ _ hi => hi.elim) h
  | succ d ih =>
    refine Alternatives.within (fun inner t hi => ?_) h
    obtain ⟨n, hn, hb⟩ := ih hi
    exact ⟨n, Nat.lt_succ_of_le hn, hb⟩

end Clearinghouse.License
