import Clearinghouse.Proofs.License.Rendering

/-!
# Reading what was printed

A tree that has been read prints an expression that is read as the same tree, as long as the
parentheses nest no deeper than is allowed (`reparses_iff_nesting_le`). Printing adds
parentheses around every statement, so an expression can be read whose tree prints too deep:
`ladder n` nests `n` deep and prints `2 * n` deep.
-/

namespace Clearinghouse.LicenseTree

open Text License License.Token

theorem parse_eq_ok_iff {s : String} {t : LicenseTree} :
    parse s = .ok t ↔ scan s = [] ∧ t = .empty ∨ Derives maxDepth (scan s) t := by
  rw [← ofTokens_eq_ok_iff, parse]
  cases ofTokens (scan s) <;> simp

/-- Only what nests no deeper than is allowed is read. -/
theorem nesting_le_of_parse {s : String} {t : LicenseTree} (h : parse s = .ok t) :
    nesting s ≤ maxDepth := by
  rw [nesting_eq]
  rcases parse_eq_ok_iff.1 h with ⟨hnil, -⟩ | h
  · rw [hnil]
    exact Nat.zero_le _
  · obtain ⟨n, hn, hb⟩ := h.within
    rw [hb.deepest_eq]
    exact hn

/-- What is read is settled, unless it says nothing. -/
theorem settled_of_parse {s : String} {t : LicenseTree} (h : parse s = .ok t) :
    t = .empty ∨ Settled t := by
  rcases parse_eq_ok_iff.1 h with ⟨-, h⟩ | h
  · exact .inl h
  · exact .inr (settles_derives maxDepth _ _ (fun w hw => isWord_of_mem_scan hw) h)

/-- A printed tree with plain ids is read as `reread` says if it nests no deeper than is
allowed. -/
theorem parse_evaluate_eq_reread {t : LicenseTree} (hp : Plain t) (hne : t.isEmpty = false)
    (hn : nesting t.evaluate ≤ maxDepth) : parse t.evaluate = .ok t.reread := by
  obtain ⟨n, hb, hatom⟩ := rereads hp hne
  rw [nesting_eq, hb.deepest_eq] at hn
  refine parse_eq_ok_iff.2 (.inr ?_)
  rw [derives_eq]
  exact .one (.one (hatom maxDepth hn))

theorem parse_evaluate_of_settled {t : LicenseTree} (h : Settled t)
    (hn : nesting t.evaluate ≤ maxDepth) : parse t.evaluate = .ok t := by
  rw [parse_evaluate_eq_reread h.plain h.tells hn, h.reread_eq]

theorem parse_evaluate_empty : parse empty.evaluate = .ok empty := rfl

/-- What is read is printed so that it is read as the same tree exactly if the parentheses nest
no deeper than is allowed. -/
theorem reparses_iff_nesting_le {s : String} {t : LicenseTree} (h : parse s = .ok t) :
    (∃ u, parse t.evaluate = .ok u ∧ (u == t) = true) ↔ nesting t.evaluate ≤ maxDepth := by
  constructor
  · rintro ⟨u, hu, -⟩
    exact nesting_le_of_parse hu
  · intro hn
    refine ⟨t, ?_, beq_self_eq_true t⟩
    rcases settled_of_parse h with rfl | hs
    · exact parse_evaluate_empty
    · exact parse_evaluate_of_settled hs hn

/-- Redundant parentheses, blanks and a lower case operator leave no trace. -/
theorem reparses_in_parentheses :
    let t := statement [license (known "A"), license (known "B C")] (some .and)
    parse "(( A and B  C ))" = .ok t ∧
      ((∃ u, parse t.evaluate = .ok u ∧ (u == t) = true) ↔ nesting t.evaluate ≤ maxDepth) := by
  have hscan : scan "(( A and B  C ))" =
      .opening :: ((.opening :: ((phrase ["A"] ++ .and :: phrase ["B", "C"]) ++ [.closing])) ++
        [.closing]) := by
    decide +kernel
  have hsequence : Sequence .and (Atom (Derives 61)) (phrase ["A"] ++ .and :: phrase ["B", "C"])
      [license (known "A"), license (known "B C")] :=
    .more (.id (by simp)) (.one (.id (by simp)))
  have hinner : Derives 63 (.opening :: ((phrase ["A"] ++ .and :: phrase ["B", "C"]) ++ [.closing]))
      (statement [license (known "A"), license (known "B C")] (some .and)) :=
    .one (.one (.enclosed (.one (.several hsequence))))
  have hparse : parse "(( A and B  C ))" =
      .ok (statement [license (known "A"), license (known "B C")] (some .and)) := by
    refine parse_eq_ok_iff.2 (.inr ?_)
    rw [hscan]
    exact .one (.one (.enclosed hinner))
  exact ⟨hparse, reparses_iff_nesting_le hparse⟩

/-! ## Ladders -/

/-- An expression in which an alternative of a conjunction is put in parentheses again and
again. -/
def ladder : Nat → String
  | 0 => "A"
  | n + 1 => enclose (some .or) [join " AND " [ladder n, "A"], "A"]

def ladderTree : Nat → LicenseTree
  | 0 => license (known "A")
  | n + 1 =>
    statement [statement [ladderTree n, license (known "A")] (some .and), license (known "A")]
      (some .or)

theorem plainId_A : PlainId "A" := .ofWord (by decide +kernel)

theorem scan_enclose_pair (op : Junction) (a b : String) :
    scan (enclose (some op) [a, b]) =
      .opening :: ((scan a ++ token op :: scan b) ++ [.closing]) := by
  have hjoin := tokensOf_join_cons_cons op a b []
  rw [join_singleton] at hjoin
  rw [scan_enclose]
  exact congrArg (fun tokens => Token.opening :: (tokens ++ [Token.closing])) hjoin

theorem scan_ladder_succ (n : Nat) :
    scan (ladder (n + 1)) =
      .opening :: (((scan (ladder n) ++ .and :: scan "A") ++ .or :: scan "A") ++ [.closing]) := by
  have hand : scan (join " AND " [ladder n, "A"]) = scan (ladder n) ++ .and :: scan "A" :=
    tokensOf_join_cons_cons .and (ladder n) "A" []
  rw [ladder, scan_enclose_pair, hand]
  rfl

/-- A ladder nests once for each rung. -/
theorem atom_ladder {n depth : Nat} (h : n ≤ depth) :
    Atom (Inside depth) (scan (ladder n)) (ladderTree n) := by
  induction n generalizing depth with
  | zero => exact plainId_A.atom _
  | succ n ih =>
    obtain ⟨depth, rfl⟩ := Nat.exists_eq_add_of_le' (Nat.lt_of_lt_of_le n.succ_pos h)
    have hone := plainId_A.atom (Inside depth)
    rw [scan_ladder_succ]
    refine .enclosed ?_
    show Derives depth _ _
    rw [derives_eq]
    exact .several (.more (.several (.more (ih (Nat.le_of_succ_le_succ h)) (.one hone)))
      (.one (.one hone)))

theorem parse_ladder {n : Nat} (h : n ≤ maxDepth) : parse (ladder n) = .ok (ladderTree n) := by
  refine parse_eq_ok_iff.2 (.inr ?_)
  rw [derives_eq]
  exact .one (.one (atom_ladder h))

theorem isEmpty_pair (op : Option Junction) (t : LicenseTree) {u : LicenseTree}
    (h : u.isEmpty = false) : (statement [t, u] op).isEmpty = false := by
  simp [isEmpty, allEmpty, h]

theorem isEmpty_ladderTree (n : Nat) : (ladderTree n).isEmpty = false := by
  have hlast : (license (known "A")).isEmpty = false := plainId_A.isEmpty_eq_false
  cases n with
  | zero => exact hlast
  | succ n => exact isEmpty_pair _ _ hlast

theorem evaluate_pair {op : Junction} {t u : LicenseTree} (ht : t.isEmpty = false)
    (hu : u.isEmpty = false) :
    (statement [t, u] (some op)).evaluate = enclose (some op) [t.evaluate, u.evaluate] := by
  have htell : telling [t, u] = [t, u] := by simp [telling, ht, hu]
  rw [evaluate_statement (by rw [htell]; simp), htell]
  rfl

theorem balanced_enclose_pair (op : Junction) {a b : String} {m n : Nat}
    (h : Balanced m (parens (scan a))) (h' : Balanced n (parens (scan b))) :
    Balanced (max m n + 1) (parens (scan (enclose (some op) [a, b]))) := by
  rw [scan_enclose_pair, parens_opening, parens_append, parens_append,
    parens_cons_of_none (ofToken?_token op)]
  exact (h.append h').enclose

/-- The tree of a ladder prints two parentheses for each rung. -/
theorem balanced_ladderTree (n : Nat) :
    Balanced (2 * n) (parens (scan (ladderTree n).evaluate)) := by
  have hone : Balanced 0 (parens (scan "A")) := by
    rw [show parens (scan "A") = [] by decide +kernel]
    exact .nil
  have hlast : (license (known "A")).isEmpty = false := plainId_A.isEmpty_eq_false
  induction n with
  | zero => exact hone
  | succ n ih =>
    have hand := isEmpty_pair (some .and) (ladderTree n) hlast
    have hb := balanced_enclose_pair .or (balanced_enclose_pair .and ih hone) hone
    rw [Nat.max_zero, Nat.max_zero] at hb
    rw [ladderTree, evaluate_pair hand hlast, evaluate_pair (isEmpty_ladderTree n) hlast]
    exact hb

/-- A ladder of more than half as many rungs as are allowed is read, and what it prints is not. -/
theorem not_reparses_ladder {n : Nat} (h : n ≤ maxDepth) (hn : maxDepth < 2 * n) :
    parse (ladder n) = .ok (ladderTree n) ∧
      ∀ u, parse (ladderTree n).evaluate ≠ .ok u := by
  refine ⟨parse_ladder h, fun u hu => ?_⟩
  have hle := nesting_le_of_parse hu
  rw [nesting_eq, (balanced_ladderTree n).deepest_eq] at hle
  omega

/-- A ladder of 33 rungs is read, and what it prints is not. -/
theorem ladder_not_reparses :
    ∃ t, parse (ladder 33) = .ok t ∧
      ¬ ∃ u, parse t.evaluate = .ok u ∧ (u == t) = true := by
  obtain ⟨hparse, hnot⟩ := not_reparses_ladder (n := 33) (by decide) (by decide)
  exact ⟨ladderTree 33, hparse, fun ⟨u, hu, _⟩ => hnot u hu⟩

end Clearinghouse.LicenseTree
