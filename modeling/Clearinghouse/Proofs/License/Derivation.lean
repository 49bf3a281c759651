import Clearinghouse.Proofs.License.Reparse

/-!
# Derivations of license expressions

The grammar is `E → A (OR A)*`, `A → T (AND T)*` and `T → ( E )`, `T → W+` or `T → W+ WITH W+`,
where `W` is a word. A derivation of it has tokens, a nesting and a tree. Main statement: a text
is read exactly if it has no tokens or its tokens have a derivation that nests no deeper than is
allowed, and then as the tree of the derivation (`parse_eq_ok_iff_derivation`).

1. Alternatives are a run of conjunctions and conjunctions are a run of atoms, so both are one
   kind of derivation with the operator as a parameter.
2. The relations of the grammar in stages hold of the tokens and the tree of every derivation
   that fits into the stage (`Derivation.related`) and of nothing else (`gives_of_derives`).
3. What is related is what a reader reads, and a reader gives one tree, so the grammar is
   unambiguous (`Derivation.tree_eq_of_tokens_eq`).
-/

namespace Clearinghouse.License

open Text

/-- What is derived: an atom, or operands with an operator between them. -/
inductive Category
  | atom
  | run (op : Junction)

/-- Conjunctions are made of atoms, alternatives of conjunctions. -/
def operandOf : Junction → Category
  | .and => .atom
  | .or => .run .and

/-- The rules that are applied to derive something, outermost first. -/
inductive Derivation : Category → Type
  | id (words : List String) (h : words ≠ []) : Derivation .atom
  | exception (words others : List String) (h : words ≠ []) (h' : others ≠ []) : Derivation .atom
  | enclosed (inside : Derivation (.run .or)) : Derivation .atom
  | last {op : Junction} (operand : Derivation (operandOf op)) : Derivation (.run op)
  | more {op : Junction} (operand : Derivation (operandOf op)) (others : Derivation (.run op)) :
    Derivation (.run op)

namespace Derivation

/-- The tokens that are derived. -/
def tokens : {c : Category} → Derivation c → List Token
  | _, id words _ => phrase words
  | _, exception words others _ _ => phrase words ++ .exception :: phrase others
  | _, enclosed inside => .opening :: (inside.tokens ++ [.closing])
  | _, last operand => operand.tokens
  | .run op, more operand others => operand.tokens ++ token op :: others.tokens

/-- How deep the parentheses nest. -/
def depth : {c : Category} → Derivation c → Nat
  | _, id _ _ => 0
  | _, exception _ _ _ _ => 0
  | _, enclosed inside => inside.depth + 1
  | _, last operand => operand.depth
  | _, more operand others => max operand.depth others.depth

mutual

/-- The tree that the derivation stands for. A single operand stands for itself; several are a
statement. Parentheses matter only around a single license. -/
def tree : {c : Category} → Derivation c → LicenseTree
  | _, id words _ => .license (known (join " " words))
  | _, exception words others _ _ =>
    .license (known (join " " words ++ " WITH " ++ join " " others))
  | _, enclosed inside =>
    match inside.tree with
    | .license l => .statement [.license l] (some .and)
    | .statement children op => .statement children op
  | _, last operand => operand.tree
  | .run op, more operand others => .statement (operand.tree :: others.operands) (some op)

/-- The trees of the operands of a run. -/
def operands : {c : Category} → Derivation c → List LicenseTree
  | _, last operand => [operand.tree]
  | _, more operand others => operand.tree :: others.operands
  | _, _ => []

end

end Derivation

/-- A derivation of this kind has the tokens, nests at most `d` deep and stands for `t`. -/
def Gives (d : Nat) (c : Category) (input : List Token) (t : LicenseTree) : Prop :=
  ∃ e : Derivation c, e.tokens = input ∧ e.depth ≤ d ∧ e.tree = t

/-! ## From derivations to the grammar in stages -/

/-- What relates the tokens of a derivation to its tree. -/
def Related (inside : List Token → LicenseTree → Prop) :
    Category → List Token → LicenseTree → Prop
  | .atom => Atom inside
  | .run .and => Run .and .and (Atom inside)
  | .run .or => Alternatives inside

theorem related_run (inside : List Token → LicenseTree → Prop) (op : Junction) :
    Related inside (.run op) = Run (token op) op (Related inside (operandOf op)) := by
  cases op <;> rfl

/-- What relates the tokens of a run to its operands. -/
def OperandsRelated (inside : List Token → LicenseTree → Prop) :
    Category → List Token → List LicenseTree → Prop
  | .atom => fun _ _ => True
  | .run op => Sequence (token op) (Related inside (operandOf op))

/-- A derivation fits into every stage that it does not nest deeper than. -/
theorem Derivation.related {c : Category} (e : Derivation c) {d : Nat} (h : e.depth ≤ d) :
    Related (Inside d) c e.tokens e.tree ∧ OperandsRelated (Inside d) c e.tokens e.operands := by
  induction e generalizing d with
  | id words hw => exact ⟨.id hw, trivial⟩
  | exception words others hw ho => exact ⟨.exception hw ho, trivial⟩
  | enclosed inside ih =>
    obtain ⟨d, rfl⟩ := Nat.exists_eq_add_of_le' (Nat.lt_of_lt_of_le inside.depth.succ_pos h)
    have hinside : Derives d inside.tokens inside.tree := by
      rw [derives_eq]
      exact (ih (Nat.le_of_succ_le_succ h)).1
    refine ⟨?_, trivial⟩
    show Atom (Derives d) _ _
    rw [Derivation.tokens, Derivation.tree]
    cases ht : inside.tree with
    | license l => exact .wrapped (ht ▸ hinside)
    | statement children op => exact .enclosed (ht ▸ hinside)
  | last operand ih =>
    have hoperand := (ih h).1
    rw [related_run]
    exact ⟨.one hoperand, .one hoperand⟩
  | @more op operand others ih ihs =>
    have hoperand := (ih (Nat.le_trans (Nat.le_max_left _ _) h)).1
    have hothers : Sequence (token op) (Related (Inside d) (operandOf op)) others.tokens
        others.operands := (ihs (Nat.le_trans (Nat.le_max_right _ _) h)).2
    obtain ⟨u, ts, hu⟩ := List.exists_cons_of_ne_nil hothers.ne_nil
    have hall := Sequence.more hoperand hothers
    rw [related_run]
    refine ⟨?_, hall⟩
    rw [Derivation.tree, hu]
    rw [hu] at hall
    exact .several hall

/-! ## From the grammar in stages to derivations -/

section

variable {d : Nat}

theorem exists_of_sequence {op : Junction} {item : List Token → LicenseTree → Prop}
    (h : ∀ input t, item input t → Gives d (operandOf op) input t) {input : List Token}
    {ts : List LicenseTree} (hs : Sequence (token op) item input ts) :
    ∃ e : Derivation (.run op), e.tokens = input ∧ e.depth ≤ d ∧ e.operands = ts := by
  induction hs with
  | one ht =>
    obtain ⟨e, rfl, hd, rfl⟩ := h _ _ ht
    exact ⟨.last e, rfl, hd, rfl⟩
  | more ht _ ih =>
    obtain ⟨e, rfl, hd, rfl⟩ := h _ _ ht
    obtain ⟨es, rfl, hds, rfl⟩ := ih
    exact ⟨.more e es, rfl, Nat.max_le.2 ⟨hd, hds⟩, rfl⟩

theorem gives_of_run {op : Junction} {operand : List Token → LicenseTree → Prop}
    (h : ∀ input t, operand input t → Gives d (operandOf op) input t) {input : List Token}
    {t : LicenseTree} (hr : Run (token op) op operand input t) : Gives d (.run op) input t := by
  cases hr with
  | one ht =>
    obtain ⟨e, rfl, hd, rfl⟩ := h _ _ ht
    exact ⟨.last e, rfl, hd, rfl⟩
  | several hs =>
    obtain ⟨e, rfl, hd, ho⟩ := exists_of_sequence h hs
    cases e with
    | last e => cases ho
    | more e es => exact ⟨.more e es, rfl, hd, congrArg (LicenseTree.statement · (some op)) ho⟩

/-- An atom nests once deeper than what it has in parentheses. -/
theorem gives_of_atom {inside : List Token → LicenseTree → Prop}
    (h : ∀ input t, inside input t → ∃ n < d, Gives n (.run .or) input t) {input : List Token}
    {t : LicenseTree} (ha : Atom inside input t) : Gives d .atom input t := by
  cases ha with
  | id hw => exact ⟨.id _ hw, rfl, Nat.zero_le d, rfl⟩
  | exception hw ho => exact ⟨.exception _ _ hw ho, rfl, Nat.zero_le d, rfl⟩
  | wrapped hi =>
    obtain ⟨n, hn, e, rfl, hd, ht⟩ := h _ _ hi
    exact ⟨.enclosed e, rfl, Nat.lt_of_le_of_lt hd hn, by rw [Derivation.tree, ht]⟩
  | enclosed hi =>
    obtain ⟨n, hn, e, rfl, hd, ht⟩ := h _ _ hi
    exact ⟨.enclosed e, rfl, Nat.lt_of_le_of_lt hd hn, by rw [Derivation.tree, ht]⟩

theorem gives_of_alternatives {inside : List Token → LicenseTree → Prop}
    (h : ∀ input t, inside input t → ∃ n < d, Gives n (.run .or) input t) {input : List Token}
    {t : LicenseTree} (ha : Alternatives inside input t) : Gives d (.run .or) input t := by
  have hconjunction : ∀ input t, Run .and .and (Atom inside) input t →
      Gives d (.run .and) input t :=
    fun _ _ hc => @gives_of_run d .and _ (fun _ _ => gives_of_atom h) _ _ hc
  exact @gives_of_run d .or _ hconjunction _ _ ha

end

/-- What a stage relates has a derivation that fits into the stage. -/
theorem gives_of_derives {d : Nat} {input : List Token} {t : LicenseTree}
    (h : Derives d input t) : Gives d (.run .or) input t := by
  induction d generalizing input t with
  | zero => exact gives_of_alternatives (fun _ _ hi => hi.elim) h
  | succ d ih => exact gives_of_alternatives (fun _ _ hi => ⟨d, Nat.lt_succ_self d, ih hi⟩) h

theorem derives_iff_gives {d : Nat} {input : List Token} {t : LicenseTree} :
    Derives d input t ↔ Gives d (.run .or) input t := by
  constructor
  · exact gives_of_derives
  · rintro ⟨e, rfl, hd, rfl⟩
    rw [derives_eq]
    exact (e.related hd).1

/-- The grammar is unambiguous: all derivations of the same tokens stand for the same tree. -/
theorem Derivation.tree_eq_of_tokens_eq {e e' : Derivation (.run .or)}
    (h : e.tokens = e'.tokens) : e.tree = e'.tree := by
  have hread (f : Derivation (.run .or)) {d : Nat} (hd : f.depth ≤ d) :
      Reads (expression d) (f.tokens ++ []) f.tree [] :=
    complete_expression d _ _ [] (derives_iff_gives.2 ⟨f, rfl, hd, rfl⟩) endsExpression_nil
  -- both are read by one reader, of a depth into which both fit
  have hleft := hread e (Nat.le_max_left e.depth e'.depth)
  have hright := hread e' (Nat.le_max_right e.depth e'.depth)
  rw [h] at hleft
  obtain ⟨_, hleft⟩ := hleft
  obtain ⟨_, hright⟩ := hright
  exact congrArg Taken.value (Except.ok.inj (hleft.symm.trans hright))

/-- A text is read if it has no tokens, or if its tokens have a derivation that nests no deeper
than is allowed; it is read as the tree of the derivation. -/
theorem parse_eq_ok_iff_derivation (s : String) (t : LicenseTree) :
    LicenseTree.parse s = .ok t ↔
      Token.scan s = [] ∧ t = .empty ∨
        ∃ e : Derivation (.run .or),
          e.tokens = Token.scan s ∧ e.depth ≤ maxDepth ∧ e.tree = t := by
  rw [LicenseTree.parse_eq_ok_iff, derives_iff_gives]
  rfl

end Clearinghouse.License
