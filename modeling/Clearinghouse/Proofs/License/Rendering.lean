import Clearinghouse.Proofs.License.Nesting
import Clearinghouse.Proofs.License.Tree

/-!
# What a printed tree is read as

`reread t` is the tree that is read from what `t` prints. Main statements: a tree that says
something prints an atom, which stands for `reread t` at every depth that its parentheses fit
into (`rereads`), and a tree that has been read is read as itself (`settles_derives`).

1. An id that can be read is one or two groups of words (`PlainId`), and scans to its words.
2. A printed statement scans to its printed children with the operator between them, in
   parentheses, so the tree and the derivation have the same shape.
3. A derivation gives plain ids, children that say something and at least two of them; such a
   tree is left alone by `reread`.
-/

namespace Clearinghouse

open Text License License.Token

namespace LicenseTree

/-! ## Reading once more -/

mutual

/-- The tree that is read from what the tree prints: children that say nothing are gone, an
operator is given, and a statement with one child is what parentheses make of the child. -/
def reread : LicenseTree → LicenseTree
  | license l => if l.isEmpty then empty else license (known l.id)
  | statement children op =>
    if allEmpty children then empty
    else parenthesize (collapse (op.getD .and) (rereadAll children))

def rereadAll : List LicenseTree → List LicenseTree
  | [] => []
  | t :: ts => if t.isEmpty then rereadAll ts else t.reread :: rereadAll ts

end

theorem rereadAll_eq_map (ts : List LicenseTree) : rereadAll ts = (telling ts).map reread := by
  induction ts with
  | nil => rfl
  | cons t ts ih => by_cases h : t.isEmpty <;> simp [rereadAll, telling, h, ih]

theorem reread_license {l : License} (h : l.isEmpty = false) :
    reread (license l) = license (known l.id) := by
  simp [reread, h]

theorem reread_statement {children : List LicenseTree} {op : Option Junction}
    (h : telling children ≠ []) :
    reread (statement children op) =
      parenthesize (collapse (op.getD .and) ((telling children).map reread)) := by
  rw [reread, if_neg (mt telling_eq_nil_iff.2 h), rereadAll_eq_map]

end LicenseTree

namespace License

/-! ## Ids -/

/-- Words of an id: at least one. -/
def Group (words : List String) : Prop := words ≠ [] ∧ ∀ w ∈ words, IsWord w

instance (words : List String) : Decidable (Group words) := inferInstanceAs (Decidable (_ ∧ _))

/-- An id that is read as it is printed: a group of words, or two with an exception between. -/
def PlainId (id : String) : Prop :=
  (∃ words, Group words ∧ id = join " " words) ∨
    ∃ words more, Group words ∧ Group more ∧ id = join " " words ++ " WITH " ++ join " " more

theorem PlainId.ofWord {w : String} (h : IsWord w) : PlainId w :=
  .inl ⟨[w], ⟨List.cons_ne_nil w [], by simpa using h⟩, (join_singleton " " w).symm⟩

/-- A group scans to its words. -/
theorem tokensOf_group {words : List String} (h : Group words) :
    tokensOf (join " " words).toList = phrase words := by
  obtain ⟨hne, hall⟩ := h
  induction words with
  | nil => exact absurd rfl hne
  | cons word words ih =>
    have hword := tokensOf_word (hall word List.mem_cons_self)
    cases words with
    | nil => rw [join_singleton, hword]; rfl
    | cons next words =>
      have htail := ih (by simp) fun w hw => hall w (List.mem_cons_of_mem word hw)
      rw [toList_join_cons_cons]
      show tokensOf (word.toList ++ ' ' :: (join " " (next :: words)).toList) = _
      rw [tokensOf_append_blank _ (by decide), hword, htail]
      rfl

/-- What stands between two blanks and scans to one token is between the tokens. -/
theorem tokensOf_between {mark : String} {token : Token} (h : tokensOf mark.toList = [token])
    (xs ys : List Char) :
    tokensOf (xs ++ ' ' :: (mark.toList ++ ' ' :: ys)) =
      tokensOf xs ++ token :: tokensOf ys := by
  rw [tokensOf_append_blank _ (by decide), tokensOf_append_blank _ (by decide), h]
  rfl

/-- A plain id is an atom, whatever may stand in parentheses. -/
theorem PlainId.atom {id : String} (h : PlainId id) (inside : List Token → LicenseTree → Prop) :
    Atom inside (scan id) (.license (known id)) := by
  rw [scan_eq]
  rcases h with ⟨words, h, rfl⟩ | ⟨words, more, h, h', rfl⟩
  · rw [tokensOf_group h]
    exact .id h.1
  · have hmark : tokensOf "WITH".toList = [.exception] := by decide +kernel
    have hscan : tokensOf (join " " words ++ " WITH " ++ join " " more).toList =
        phrase words ++ .exception :: phrase more := by
      rw [String.toList_append, String.toList_append, List.append_assoc]
      show tokensOf ((join " " words).toList ++
        ' ' :: ("WITH".toList ++ ' ' :: (join " " more).toList)) = _
      rw [tokensOf_between hmark, tokensOf_group h, tokensOf_group h']
    rw [hscan]
    exact .exception h.1 h'.1

theorem Group.first {words : List String} (h : Group words) :
    ∃ c cs, (join " " words).toList = c :: cs ∧ isBlank c = false := by
  obtain ⟨hne, hall⟩ := h
  cases words with
  | nil => exact absurd rfl hne
  | cons word words =>
    have hw := hall word List.mem_cons_self
    obtain ⟨c, cs, hc⟩ := List.exists_cons_of_ne_nil (by simpa using hw.ne_empty : word.toList ≠ [])
    have hb : isBlank c = false := hw.solid c (by rw [hc]; exact List.mem_cons_self)
    cases words with
    | nil => exact ⟨c, cs, by rw [join_singleton, hc], hb⟩
    | cons next words => exact ⟨c, _, by rw [toList_join_cons_cons, hc, List.cons_append], hb⟩

theorem PlainId.isEmpty_eq_false {id : String} (h : PlainId id) : (known id).isEmpty = false := by
  show isAllBlank id = false
  rw [isAllBlank_eq_false_iff]
  rcases h with ⟨words, h, rfl⟩ | ⟨words, more, h, -, rfl⟩
  · obtain ⟨c, cs, hc, hb⟩ := h.first
    exact ⟨c, by rw [hc]; exact List.mem_cons_self, hb⟩
  · obtain ⟨c, cs, hc, hb⟩ := h.first
    exact ⟨c, by simp [hc], hb⟩

/-! ## Statements -/

/-- The token that an operator prints. -/
def token : Junction → Token
  | .and => .and
  | .or => .or

theorem tokensOf_word_junction (op : Junction) : tokensOf op.word.toList = [token op] := by
  cases op <;> decide +kernel

theorem ofToken?_token (op : Junction) : Paren.ofToken? (token op) = none := by
  cases op <;> rfl

/-- The tokens of printed children: those of the first, the operator, those of the others. -/
theorem tokensOf_join_cons_cons (op : Junction) (first second : String) (parts : List String) :
    tokensOf (join s!" {op.word} " (first :: second :: parts)).toList =
      tokensOf first.toList ++
        token op :: tokensOf (join s!" {op.word} " (second :: parts)).toList := by
  have hsep : (s!" {op.word} " : String).toList = ' ' :: (op.word.toList ++ [' ']) := by
    cases op <;> decide
  rw [toList_join_cons_cons, hsep, List.cons_append, List.append_assoc, List.singleton_append,
    tokensOf_between (tokensOf_word_junction op)]

theorem scan_enclose (op : Option Junction) (parts : List String) :
    scan (LicenseTree.enclose op parts) =
      .opening :: (tokensOf (join s!" {(op.getD .and).word} " parts).toList ++ [.closing]) := by
  have hchars : (LicenseTree.enclose op parts).toList =
      [] ++ '(' :: ([] ++ ' ' :: ((join s!" {(op.getD .and).word} " parts).toList ++
        ' ' :: ([] ++ ')' :: []))) := by
    rw [LicenseTree.enclose, String.toList_append, String.toList_append, List.append_assoc]
    rfl
  rw [scan_eq, hchars, tokensOf_append_paren _ (by decide), tokensOf_append_blank _ (by decide),
    tokensOf_append_blank _ (by decide), tokensOf_append_paren _ (by decide)]
  rfl

theorem Sequence.mono {α : Type} {separator : Token} {item item' : List Token → α → Prop}
    (h : ∀ tokens a, item tokens a → item' tokens a) {tokens : List Token} {as : List α}
    (hs : Sequence separator item tokens as) : Sequence separator item' tokens as := by
  induction hs with
  | one ha => exact .one (h _ _ ha)
  | more ha _ ih => exact .more (h _ _ ha) ih

/-- Atoms under either operator are alternatives. -/
theorem Sequence.alternatives {inside : List Token → LicenseTree → Prop} {op : Junction}
    {tokens : List Token} {ts : List LicenseTree}
    (h : Sequence (token op) (Atom inside) tokens ts) :
    Alternatives inside tokens (collapse op ts) := by
  cases op with
  | and => exact .one (run_iff_sequence.2 ⟨ts, h, rfl⟩)
  | or => exact run_iff_sequence.2 ⟨ts, h.mono fun _ _ ha => .one ha, rfl⟩

theorem Atom.parenthesize {inside : List Token → LicenseTree → Prop} {tokens : List Token}
    {t : LicenseTree} (h : inside tokens t) :
    Atom inside (.opening :: (tokens ++ [.closing])) (parenthesize t) := by
  cases t with
  | license l => exact .wrapped h
  | statement children op => exact .enclosed h

/-- What is derived inside of parentheses that nest at most `depth` deep. -/
def Inside : (depth : Nat) → List Token → LicenseTree → Prop
  | 0 => fun _ _ => False
  | depth + 1 => Derives depth

theorem derives_eq (depth : Nat) : Derives depth = Alternatives (Inside depth) := by
  cases depth <;> rfl

end License

namespace LicenseTree

/-- Every leaf that says something has a plain id. -/
inductive Plain : LicenseTree → Prop
  | license {l : License} (h : l.isEmpty = false → PlainId l.id) : Plain (.license l)
  | statement {children : List LicenseTree} {op : Option Junction}
      (h : ∀ t ∈ children, Plain t) : Plain (.statement children op)

/-- What the tree prints is an atom of some nesting, which stands for `reread t` wherever it
fits. -/
def Rereads (t : LicenseTree) : Prop :=
  ∃ n, Balanced n (parens (scan t.evaluate)) ∧
    ∀ depth ≥ n, Atom (Inside depth) (scan t.evaluate) t.reread

/-- Printed children with an operator between them are a sequence of atoms. -/
theorem rereads_children (op : Junction) {ts : List LicenseTree} (hne : ts ≠ [])
    (h : ∀ t ∈ ts, Rereads t) :
    ∃ n, Balanced n (parens (tokensOf (join s!" {op.word} " (ts.map evaluate)).toList)) ∧
      ∀ depth ≥ n, Sequence (token op) (Atom (Inside depth))
        (tokensOf (join s!" {op.word} " (ts.map evaluate)).toList) (ts.map reread) := by
  induction ts with
  | nil => exact absurd rfl hne
  | cons t ts ih =>
    obtain ⟨n, hb, ha⟩ := h t List.mem_cons_self
    cases ts with
    | nil =>
      rw [List.map_singleton, List.map_singleton, join_singleton]
      exact ⟨n, hb, fun depth hd => .one (ha depth hd)⟩
    | cons u us =>
      obtain ⟨m, hb', hs⟩ := ih (by simp) fun t ht => h t (List.mem_cons_of_mem _ ht)
      rw [List.map_cons, List.map_cons, tokensOf_join_cons_cons]
      refine ⟨max n m, ?_, fun depth hd => ?_⟩
      · rw [parens_append, parens_cons_of_none (ofToken?_token op)]
        exact hb.append hb'
      · exact .more (ha depth (Nat.le_trans (Nat.le_max_left n m) hd))
          (hs depth (Nat.le_trans (Nat.le_max_right n m) hd))

/-- A tree with plain ids that says something is read once more. -/
theorem rereads {t : LicenseTree} (hp : Plain t) (hne : t.isEmpty = false) : Rereads t := by
  induction t using LicenseTree.induction with
  | license l =>
    cases hp with
    | license h =>
      have hatom := (h hne).atom
      obtain ⟨n, hn, hb⟩ := (hatom fun _ _ => False).within (d := 0) fun _ _ hi => hi.elim
      refine ⟨n, hb, fun depth _ => ?_⟩
      rw [evaluate_license, reread_license hne]
      exact hatom (Inside depth)
  | statement children op ih =>
    cases hp with
    | statement hp =>
      have htell : telling children ≠ [] := by
        rw [Ne, telling_eq_nil_iff]
        exact Bool.eq_false_iff.1 hne
      have hch : ∀ t ∈ telling children, Rereads t := fun t ht =>
        have hmem := mem_telling.1 ht
        ih t hmem.1 (hp t hmem.1) hmem.2
      obtain ⟨n, hb, hs⟩ := rereads_children (op.getD .and) htell hch
      unfold Rereads
      rw [evaluate_statement htell, reread_statement htell, scan_enclose]
      refine ⟨n + 1, ?_, fun depth hd => ?_⟩
      · rw [parens_opening, parens_append]
        exact hb.enclose
      · obtain ⟨depth, rfl⟩ := Nat.exists_eq_add_of_le' (Nat.lt_of_lt_of_le n.succ_pos hd)
        refine Atom.parenthesize ?_
        show Derives depth _ _
        rw [derives_eq]
        exact (hs depth (Nat.le_of_succ_le_succ hd)).alternatives

/-! ## Trimmed expressions -/

theorem trimmed_group {words : List String} (h : Group words) :
    Trimmed (join " " words) ∧ join " " words ≠ "" :=
  trimmed_join " " h.1 fun w hw =>
    ⟨trimmed_of_ends (fun c hc => (h.2 w hw).solid c (List.mem_of_head? hc))
      (fun c hc => (h.2 w hw).solid c (List.mem_of_getLast? hc)), (h.2 w hw).ne_empty⟩

theorem trimmed_plainId {id : String} (h : PlainId id) : Trimmed id ∧ id ≠ "" := by
  rcases h with ⟨words, h, rfl⟩ | ⟨words, more, h, h', rfl⟩
  · exact trimmed_group h
  · refine trimmed_of_affixes (trimmed_group h) (trimmed_group h') ?_ ?_
    · rw [String.toList_append, String.toList_append, List.append_assoc]
      exact List.prefix_append _ _
    · rw [String.toList_append]
      exact List.suffix_append _ _

theorem trimmed_enclose (op : Option Junction) (parts : List String) :
    Trimmed (enclose op parts) ∧ enclose op parts ≠ "" := by
  have hopen : Trimmed "(" ∧ "(" ≠ "" := ⟨by decide +kernel, by decide⟩
  have hclose : Trimmed ")" ∧ ")" ≠ "" := ⟨by decide +kernel, by decide⟩
  refine trimmed_of_affixes hopen hclose ?_ ?_
  · rw [enclose, String.toList_append, String.toList_append, List.append_assoc]
    exact List.prefix_append ['('] _
  · rw [enclose, String.toList_append]
    exact (List.suffix_append [' '] [')']).trans (List.suffix_append _ _)

/-- A tree with plain ids that says something prints a trimmed text. -/
theorem trimmed_evaluate {t : LicenseTree} (hp : Plain t) (hne : t.isEmpty = false) :
    Trimmed t.evaluate ∧ t.evaluate ≠ "" := by
  cases hp with
  | license h => exact trimmed_plainId (h hne)
  | statement h =>
    rw [evaluate_statement (by rw [Ne, telling_eq_nil_iff]; exact Bool.eq_false_iff.1 hne)]
    exact trimmed_enclose _ _

/-! ## Trees that have been read -/

/-- The tree says something, has plain ids, and reading it once more changes nothing. -/
structure Settled (t : LicenseTree) : Prop where
  tells : t.isEmpty = false
  plain : Plain t
  reread_eq : t.reread = t

theorem settled_plainId {id : String} (h : PlainId id) : Settled (license (known id)) where
  tells := h.isEmpty_eq_false
  plain := .license fun _ => h
  reread_eq := reread_license h.isEmpty_eq_false

section Statements

variable {ts : List LicenseTree} (h : ∀ t ∈ ts, Settled t)
include h

theorem telling_of_settled : telling ts = ts :=
  List.filter_eq_self.2 fun t ht => by simp [(h t ht).tells]

theorem map_reread_of_settled : ts.map reread = ts := by
  rw [List.map_congr_left fun t ht => (h t ht).reread_eq, List.map_id']

/-- A statement of settled trees is settled if parentheses leave it alone. -/
theorem settled_statement {op : Junction} (hne : ts ≠ [])
    (hop : parenthesize (collapse op ts) = statement ts (some op)) :
    Settled (statement ts (some op)) where
  tells := by
    show allEmpty ts = false
    rw [← Bool.not_eq_true, ← telling_eq_nil_iff, telling_of_settled h]
    exact hne
  plain := .statement fun t ht => (h t ht).plain
  reread_eq := by
    have htell := telling_of_settled h
    rw [reread_statement (by rwa [htell]), htell, map_reread_of_settled h]
    exact hop

end Statements

end LicenseTree

namespace License

open LicenseTree

/-- A word among the tokens is a word of an id. -/
def Spelled (tokens : List Token) : Prop := ∀ w, .word w ∈ tokens → IsWord w

theorem Spelled.append_left {as bs : List Token} (h : Spelled (as ++ bs)) : Spelled as :=
  fun w hw => h w (List.mem_append_left bs hw)

theorem Spelled.append_right {as bs : List Token} (h : Spelled (as ++ bs)) : Spelled bs :=
  fun w hw => h w (List.mem_append_right as hw)

theorem Spelled.tail {token : Token} {tokens : List Token} (h : Spelled (token :: tokens)) :
    Spelled tokens :=
  fun w hw => h w (List.mem_cons_of_mem token hw)

theorem Spelled.group {words : List String} (hne : words ≠ []) (h : Spelled (phrase words)) :
    Group words :=
  ⟨hne, fun w hw => h w (List.mem_map_of_mem hw)⟩

/-- Whatever is related to spelled tokens is settled. -/
def Settles (related : List Token → LicenseTree → Prop) : Prop :=
  ∀ tokens t, Spelled tokens → related tokens t → Settled t

theorem Settles.sequence {separator : Token} {operand : List Token → LicenseTree → Prop}
    (h : Settles operand) {tokens : List Token} {ts : List LicenseTree} (hs : Spelled tokens)
    (hseq : Sequence separator operand tokens ts) : ∀ t ∈ ts, Settled t := by
  induction hseq with
  | one ht => simpa using h _ _ hs ht
  | more ht _ ih =>
    have hfirst := h _ _ hs.append_left ht
    have hothers := ih hs.append_right.tail
    simpa using ⟨hfirst, hothers⟩

theorem Settles.run {separator : Token} {op : Junction} {operand : List Token → LicenseTree → Prop}
    (h : Settles operand) : Settles (Run separator op operand) := by
  intro tokens t hs hrun
  cases hrun with
  | one ht => exact h _ _ hs ht
  | several hseq => exact settled_statement (h.sequence hs hseq) (by simp) rfl

theorem Settles.atom {inside : List Token → LicenseTree → Prop} (h : Settles inside) :
    Settles (Atom inside) := by
  intro tokens t hs hatom
  cases hatom with
  | id hne => exact settled_plainId (.inl ⟨_, hs.group hne, rfl⟩)
  | exception hne hne' =>
    exact settled_plainId
      (.inr ⟨_, _, hs.append_left.group hne, hs.append_right.tail.group hne', rfl⟩)
  | wrapped hi =>
    have hl := h _ _ hs.tail.append_left hi
    exact settled_statement (by simpa using hl) (by simp) rfl
  | enclosed hi => exact h _ _ hs.tail.append_left hi

/-- What is derived from the tokens of a text is settled. -/
theorem settles_derives (depth : Nat) : Settles (Derives depth) := by
  induction depth with
  | zero => exact Settles.run (Settles.run (Settles.atom fun _ _ _ hi => hi.elim))
  | succ depth ih => exact Settles.run (Settles.run ih.atom)

end License

end Clearinghouse
