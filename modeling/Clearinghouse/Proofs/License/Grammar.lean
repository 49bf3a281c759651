import Clearinghouse.License.Expression

/-!
# The grammar of license expressions

`Derives d tokens t`: the tokens are an expression whose parentheses nest at most `d` deep, and
`t` is the tree that the expression stands for. Main statement: the reader of tokens finds
exactly the derivations (`ofTokens_eq_ok_iff`).

1. A reader is *sound* for a relation if all it takes is related to what it makes of it, and
   *complete* after some rests if it takes everything related when such a rest follows.
2. Both go from the items to a sequence of items (`Sequence`), from operands to a run of them
   (`Run`), and from the inside of parentheses to an atom (`Atom`).
3. The reader of expressions and the grammar are built from these in the same number of stages,
   so the two statements follow by induction on the depth.
-/

namespace Clearinghouse.License

open Text

/-! ## The grammar -/

/-- Items with a separator between them: at least one. -/
inductive Sequence {α : Type} (separator : Token) (item : List Token → α → Prop) :
    List Token → List α → Prop
  | one {tokens : List Token} {a : α} (h : item tokens a) : Sequence separator item tokens [a]
  | more {tokens rest : List Token} {a : α} {as : List α} (h : item tokens a)
      (hs : Sequence separator item rest as) :
      Sequence separator item (tokens ++ separator :: rest) (a :: as)

/-- One operand stands for itself; several are a statement. -/
inductive Run (separator : Token) (op : Junction) (operand : List Token → LicenseTree → Prop) :
    List Token → LicenseTree → Prop
  | one {tokens : List Token} {t : LicenseTree} (h : operand tokens t) :
      Run separator op operand tokens t
  | several {tokens : List Token} {t u : LicenseTree} {ts : List LicenseTree}
      (h : Sequence separator operand tokens (t :: u :: ts)) :
      Run separator op operand tokens (.statement (t :: u :: ts) (some op))

/-- The tokens of an id of several words. -/
def phrase (words : List String) : List Token := words.map .word

/-- An id, an id with an exception, or an expression in parentheses. A single license in
parentheses becomes a statement. -/
inductive Atom (inside : List Token → LicenseTree → Prop) : List Token → LicenseTree → Prop
  | id {words : List String} (h : words ≠ []) :
      Atom inside (phrase words) (.license (known (join " " words)))
  | exception {words more : List String} (h : words ≠ []) (h' : more ≠ []) :
      Atom inside (phrase words ++ .exception :: phrase more)
        (.license (known (join " " words ++ " WITH " ++ join " " more)))
  | wrapped {tokens : List Token} {l : License} (h : inside tokens (.license l)) :
      Atom inside (.opening :: (tokens ++ [.closing])) (.statement [.license l] (some .and))
  | enclosed {tokens : List Token} {children : List LicenseTree} {op : Option Junction}
      (h : inside tokens (.statement children op)) :
      Atom inside (.opening :: (tokens ++ [.closing])) (.statement children op)

/-- Alternatives of conjunctions of atoms. -/
def Alternatives (inside : List Token → LicenseTree → Prop) : List Token → LicenseTree → Prop :=
  Run .or .or (Run .and .and (Atom inside))

/-- An expression whose parentheses nest at most `depth` deep. -/
def Derives : (depth : Nat) → List Token → LicenseTree → Prop
  | 0 => Alternatives fun _ _ => False
  | depth + 1 => Alternatives (Derives depth)

/-! ## Readers and relations -/

/-- The reader takes `value` from the front of `input` and leaves `rest`. -/
def Reads {α : Type} (r : Reader α) (input : List Token) (value : α) (rest : List Token) : Prop :=
  ∃ h, r input = .ok ⟨value, rest, h⟩

/-- All that is taken is related to its value. -/
def Sound {α : Type} (r : Reader α) (related : List Token → α → Prop) : Prop :=
  ∀ input value rest, Reads r input value rest →
    ∃ tokens, input = tokens ++ rest ∧ related tokens value

/-- All that is related is taken if a rest of a certain kind follows. -/
def Complete {α : Type} (r : Reader α) (related : List Token → α → Prop)
    (stops : List Token → Prop) : Prop :=
  ∀ tokens value rest, related tokens value → stops rest → Reads r (tokens ++ rest) value rest

theorem Complete.mono {α : Type} {r : Reader α} {related : List Token → α → Prop}
    {stops stops' : List Token → Prop} (h : Complete r related stops)
    (hs : ∀ rest, stops' rest → stops rest) : Complete r related stops' :=
  fun tokens value rest hr hrest => h tokens value rest hr (hs rest hrest)

/-! ## Sequences -/

section Sequences

variable {α : Type} {separator : Token} {item : Reader α} {input rest : List Token} {a : α}

theorem reads_separated_of_stop (h : Reads item input a rest)
    (hs : ∀ tail, rest ≠ separator :: tail) : Reads (separated separator item) input [a] rest := by
  obtain ⟨hlt, h⟩ := h
  refine ⟨hlt, ?_⟩
  rw [separated, h]
  cases rest with
  | nil => rfl
  | cons token tail =>
    have hne : token ≠ separator := fun e => hs tail (e ▸ rfl)
    simp [bind, Except.bind, hne, pure, Except.pure]

theorem reads_separated_of_separator {tail : List Token} {as : List α}
    (h : Reads item input a (separator :: tail))
    (hs : Reads (separated separator item) tail as rest) :
    Reads (separated separator item) input (a :: as) rest := by
  obtain ⟨hlt, h⟩ := h
  obtain ⟨hlt', hs⟩ := hs
  refine ⟨?_, ?_⟩
  · simp only [List.length_cons] at hlt
    omega
  · rw [separated, h]
    simp [bind, Except.bind, hs, pure, Except.pure]

/-- What a sequence begins with, and where it goes on. -/
theorem reads_separated_cases {as : List α} (h : Reads (separated separator item) input as rest) :
    ∃ a mid, Reads item input a mid ∧
      (as = [a] ∧ mid = rest ∨ ∃ tail more, mid = separator :: tail ∧ as = a :: more ∧
        tail.length < input.length ∧ Reads (separated separator item) tail more rest) := by
  obtain ⟨hlt, h⟩ := h
  rw [separated] at h
  cases hi : item input with
  | error fault => simp [hi, bind, Except.bind] at h
  | ok first =>
    obtain ⟨a, mid, hmid⟩ := first
    refine ⟨a, mid, ⟨hmid, hi⟩, ?_⟩
    simp only [hi, bind, Except.bind] at h
    cases mid with
    | nil =>
      simp only [pure, Except.pure, Except.ok.injEq, Taken.mk.injEq] at h
      exact .inl ⟨h.1.symm, h.2⟩
    | cons token tail =>
      simp only [List.length_cons] at hmid
      by_cases ht : token = separator
      · simp only [ht, if_true] at h
        cases hm : separated separator item tail with
        | error fault => simp [hm] at h
        | ok more =>
          obtain ⟨more, rest', hmore⟩ := more
          simp only [hm, pure, Except.pure, Except.ok.injEq, Taken.mk.injEq] at h
          obtain ⟨rfl, rfl⟩ := h
          exact .inr ⟨tail, more, ht ▸ rfl, rfl, by omega, hmore, hm⟩
      · simp only [ht, if_false, pure, Except.pure, Except.ok.injEq, Taken.mk.injEq] at h
        exact .inl ⟨h.1.symm, h.2⟩

end Sequences

theorem Sound.separated {α : Type} {separator : Token} {item : Reader α}
    {related : List Token → α → Prop} (h : Sound item related) :
    Sound (separated separator item) (Sequence separator related) := by
  intro input
  -- the second item is read from a shorter input
  induction hn : input.length using Nat.strongRecOn generalizing input with
  | ind n ih =>
    intro as rest hr
    obtain ⟨a, mid, hi, ⟨rfl, rfl⟩ | ⟨tail, more, rfl, rfl, hlt, hm⟩⟩ := reads_separated_cases hr
    · obtain ⟨tokens, rfl, ha⟩ := h _ _ _ hi
      exact ⟨tokens, rfl, .one ha⟩
    · obtain ⟨tokens, rfl, ha⟩ := h _ _ _ hi
      obtain ⟨others, rfl, has⟩ := ih tail.length (hn ▸ hlt) tail rfl more rest hm
      exact ⟨tokens ++ separator :: others, by simp, .more ha has⟩

theorem Complete.separated {α : Type} {separator : Token} {item : Reader α}
    {related : List Token → α → Prop} {stops : List Token → Prop} (h : Complete item related stops)
    (hs : ∀ tail, stops (separator :: tail)) :
    Complete (separated separator item) (Sequence separator related)
      fun rest => stops rest ∧ ∀ tail, rest ≠ separator :: tail := by
  intro tokens as rest ha hrest
  induction ha with
  | one ha => exact reads_separated_of_stop (h _ _ _ ha hrest.1) hrest.2
  | more ha _ ih =>
    rw [List.append_assoc, List.cons_append]
    exact reads_separated_of_separator (h _ _ _ ha (hs _)) ih

theorem Sequence.ne_nil {α : Type} {separator : Token} {item : List Token → α → Prop}
    {tokens : List Token} {as : List α} (h : Sequence separator item tokens as) : as ≠ [] := by
  cases h <;> simp

/-! ## Runs -/

theorem reads_run_iff {separator : Token} {op : Junction} {item : Reader LicenseTree}
    {input rest : List Token} {t : LicenseTree} :
    Reads (run separator op item) input t rest ↔
      ∃ ts, Reads (separated separator item) input ts rest ∧ t = collapse op ts := by
  unfold Reads run
  cases h : separated separator item input with
  | error fault => simp [bind, Except.bind]
  | ok taken =>
    obtain ⟨ts, rest', hlt⟩ := taken
    simp only [bind, Except.bind, pure, Except.pure, Except.ok.injEq, Taken.mk.injEq]
    constructor
    · rintro ⟨_, rfl, rfl⟩
      exact ⟨ts, ⟨hlt, rfl, rfl⟩, rfl⟩
    · rintro ⟨_, ⟨_, rfl, rfl⟩, rfl⟩
      exact ⟨hlt, rfl, rfl⟩

/-- A run of operands is what `collapse` makes of their sequence. -/
theorem run_iff_sequence {separator : Token} {op : Junction}
    {operand : List Token → LicenseTree → Prop} {tokens : List Token} {t : LicenseTree} :
    Run separator op operand tokens t ↔
      ∃ ts, Sequence separator operand tokens ts ∧ t = collapse op ts := by
  constructor
  · rintro (h | h)
    · exact ⟨_, .one h, rfl⟩
    · exact ⟨_, h, rfl⟩
  · rintro ⟨ts, h, rfl⟩
    match ts, h with
    | [_], .one h => exact .one h
    | _ :: _ :: _, h => exact .several h

theorem Sound.run {separator : Token} {op : Junction} {item : Reader LicenseTree}
    {operand : List Token → LicenseTree → Prop} (h : Sound item operand) :
    Sound (run separator op item) (Run separator op operand) := by
  intro input t rest hr
  obtain ⟨ts, hs, rfl⟩ := reads_run_iff.1 hr
  obtain ⟨tokens, rfl, hts⟩ := h.separated _ _ _ hs
  exact ⟨tokens, rfl, run_iff_sequence.2 ⟨ts, hts, rfl⟩⟩

theorem Complete.run {separator : Token} {op : Junction} {item : Reader LicenseTree}
    {operand : List Token → LicenseTree → Prop} {stops : List Token → Prop}
    (h : Complete item operand stops) (hs : ∀ tail, stops (separator :: tail)) :
    Complete (run separator op item) (Run separator op operand)
      fun rest => stops rest ∧ ∀ tail, rest ≠ separator :: tail := by
  intro tokens t rest ht hrest
  obtain ⟨ts, hts, rfl⟩ := run_iff_sequence.1 ht
  exact reads_run_iff.2 ⟨ts, h.separated hs _ _ _ hts hrest, rfl⟩

/-! ## Words -/

/-- The words in front are exhausted. -/
def NoWord (rest : List Token) : Prop := ∀ w tail, rest ≠ .word w :: tail

theorem join_merge (a b : String) (words : List String) :
    join " " ((a ++ " " ++ b) :: words) = join " " (a :: b :: words) := by
  cases words with
  | nil => simp [join, String.intercalate_cons_cons]
  | cons c words => simp [join, String.intercalate_cons_cons, String.append_assoc]

theorem joinWords_phrase (first : String) (words : List String) {rest : List Token}
    (h : NoWord rest) :
    joinWords first (phrase words ++ rest) = (join " " (first :: words), rest) := by
  induction words generalizing first with
  | nil =>
    cases rest with
    | nil => simp [phrase, joinWords, join]
    | cons token rest =>
      cases token with
      | word w => exact absurd rfl (h w rest)
      | _ => simp [phrase, joinWords, join]
  | cons word words ih =>
    show joinWords (first ++ " " ++ word) (phrase words ++ rest) = _
    rw [ih, join_merge]

/-- What is joined are the words up to the first token that is none. -/
theorem exists_of_joinWords (first : String) (input : List Token) :
    ∃ words rest, input = phrase words ++ rest ∧ NoWord rest ∧
      joinWords first input = (join " " (first :: words), rest) := by
  induction input generalizing first with
  | nil => exact ⟨[], [], rfl, by simp [NoWord], by simp [joinWords, join]⟩
  | cons token input ih =>
    cases token with
    | word w =>
      obtain ⟨words, rest, rfl, hrest, h⟩ := ih (first ++ " " ++ w)
      refine ⟨w :: words, rest, rfl, hrest, ?_⟩
      show joinWords (first ++ " " ++ w) (phrase words ++ rest) = _
      rw [h, join_merge]
    | _ => exact ⟨[], _, rfl, by simp [NoWord], by simp [joinWords, join]⟩

/-! ## Atoms -/

/-- Neither a word nor an exception follows, so an id ends here. -/
def EndsId (rest : List Token) : Prop := NoWord rest ∧ ∀ tail, rest ≠ .exception :: tail

/-- A parenthesis is closed here. -/
def Closes (rest : List Token) : Prop := ∃ tail, rest = .closing :: tail

theorem reads_atom_id {inside : Reader LicenseTree} {first text : String} {input rest : List Token}
    (hj : joinWords first input = (text, rest)) (h : EndsId rest) :
    Reads (atom inside) (.word first :: input) (.license (known text)) rest := by
  have hle : rest.length ≤ input.length := by
    have := length_joinWords_le first input
    rwa [hj] at this
  refine ⟨Nat.lt_succ_of_le hle, ?_⟩
  unfold atom
  simp only
  split
  · rename_i heq
    rw [hj] at heq
    exact absurd heq (h.2 _)
  · rename_i heq
    rw [hj] at heq
    exact absurd heq (h.2 _)
  · congr 2
    · rw [hj]
    · rw [hj]

theorem reads_atom_exception {inside : Reader LicenseTree} {first second text more : String}
    {input tail rest : List Token}
    (hj : joinWords first input = (text, .exception :: .word second :: tail))
    (hm : joinWords second tail = (more, rest)) :
    Reads (atom inside) (.word first :: input) (.license (known (text ++ " WITH " ++ more)))
      rest := by
  have hle : tail.length + 2 ≤ input.length := by
    have := length_joinWords_le first input
    rwa [hj] at this
  have hle' : rest.length ≤ tail.length := by
    have := length_joinWords_le second tail
    rwa [hm] at this
  refine ⟨by simp only [List.length_cons]; omega, ?_⟩
  unfold atom
  simp only
  split
  · rename_i heq
    rw [hj] at heq
    simp only [List.cons.injEq, Token.word.injEq, true_and] at heq
    obtain ⟨rfl, rfl⟩ := heq
    congr 2
    · rw [hj, hm]
    · rw [hm]
  · rename_i hne heq
    rw [hj] at heq
    cases heq
    exact absurd rfl (hne _ _)
  · rename_i hne _
    rw [hj] at hne
    exact (hne _ _ rfl).elim

/-- An atom in parentheses is what they make of the inside. -/
theorem reads_atom_opening {inside : Reader LicenseTree} {input rest : List Token} {t : LicenseTree}
    (h : Reads inside input t (.closing :: rest)) :
    Reads (atom inside) (.opening :: input) (parenthesize t) rest := by
  obtain ⟨hlt, h⟩ := h
  refine ⟨by simp only [List.length_cons] at hlt ⊢; omega, ?_⟩
  unfold atom
  simp [h, bind, Except.bind, pure, Except.pure]

theorem Complete.atom {inside : Reader LicenseTree} {related : List Token → LicenseTree → Prop}
    (h : Complete inside related Closes) :
    Complete (atom inside) (Atom related) EndsId := by
  intro tokens t rest ht hrest
  cases ht with
  | @id words hw =>
    obtain ⟨first, words, rfl⟩ := List.exists_cons_of_ne_nil hw
    exact reads_atom_id (joinWords_phrase first words hrest.1) hrest
  | @exception words more hw hm =>
    obtain ⟨first, words, rfl⟩ := List.exists_cons_of_ne_nil hw
    obtain ⟨second, more, rfl⟩ := List.exists_cons_of_ne_nil hm
    have hn : NoWord (.exception :: .word second :: (phrase more ++ rest)) := by simp [NoWord]
    rw [List.append_assoc]
    exact reads_atom_exception (joinWords_phrase first words hn)
      (joinWords_phrase second more hrest.1)
  | wrapped hi =>
    have := h _ _ (.closing :: rest) hi ⟨rest, rfl⟩
    simpa [parenthesize] using reads_atom_opening this
  | enclosed hi =>
    have := h _ _ (.closing :: rest) hi ⟨rest, rfl⟩
    simpa [parenthesize] using reads_atom_opening this

/-- What an atom begins with, and what follows. -/
theorem reads_atom_cases {inside : Reader LicenseTree} {input rest : List Token} {t : LicenseTree}
    (h : Reads (atom inside) input t rest) :
    (∃ words, words ≠ [] ∧ input = phrase words ++ rest ∧
      t = .license (known (join " " words))) ∨
    (∃ words more, words ≠ [] ∧ more ≠ [] ∧
      input = phrase words ++ .exception :: phrase more ++ rest ∧
      t = .license (known (join " " words ++ " WITH " ++ join " " more))) ∨
    ∃ input' t', Reads inside input' t' (.closing :: rest) ∧ input = .opening :: input' ∧
      t = parenthesize t' := by
  obtain ⟨hlt, h⟩ := h
  cases input with
  | nil => simp [atom] at h
  | cons token input =>
    cases token with
    | word first =>
      obtain ⟨words, mid, rfl, hmid, hj⟩ := exists_of_joinWords first input
      unfold atom at h
      simp only at h
      split at h
      · rename_i second tail heq
        rw [hj] at heq
        obtain rfl : mid = .exception :: .word second :: tail := heq
        obtain ⟨more, rest', rfl, _, hj'⟩ := exists_of_joinWords second tail
        simp only [hj, hj', Except.ok.injEq, Taken.mk.injEq] at h
        obtain ⟨rfl, rfl⟩ := h
        exact .inr (.inl ⟨first :: words, second :: more, by simp, by simp, by simp [phrase], rfl⟩)
      · cases h
      · simp only [hj, Except.ok.injEq, Taken.mk.injEq] at h
        obtain ⟨rfl, rfl⟩ := h
        exact .inl ⟨first :: words, by simp, rfl, rfl⟩
    | opening =>
      unfold atom at h
      cases hi : inside input with
      | error fault => simp [hi, bind, Except.bind] at h
      | ok inner =>
        obtain ⟨t', mid, hmid⟩ := inner
        simp only [hi, bind, Except.bind] at h
        split at h
        · simp only [pure, Except.pure, Except.ok.injEq, Taken.mk.injEq] at h
          obtain ⟨rfl, rfl⟩ := h
          exact .inr (.inr ⟨input, t', ⟨hmid, hi⟩, rfl, rfl⟩)
        · cases h
    | _ => simp [atom] at h

theorem Sound.atom {inside : Reader LicenseTree} {related : List Token → LicenseTree → Prop}
    (h : Sound inside related) : Sound (atom inside) (Atom related) := by
  intro input t rest hr
  obtain ⟨words, hw, rfl, rfl⟩ | ⟨words, more, hw, hm, rfl, rfl⟩ | ⟨input', t', hi, rfl, rfl⟩ :=
    reads_atom_cases hr
  · exact ⟨phrase words, rfl, .id hw⟩
  · exact ⟨phrase words ++ .exception :: phrase more, by simp, .exception hw hm⟩
  · obtain ⟨tokens, rfl, ht⟩ := h _ _ _ hi
    refine ⟨.opening :: (tokens ++ [.closing]), by simp, ?_⟩
    cases t' with
    | license l => exact .wrapped ht
    | statement children op => exact .enclosed ht

/-! ## Expressions -/

/-- After this an expression cannot go on. -/
def EndsExpression (rest : List Token) : Prop :=
  (EndsId rest ∧ ∀ tail, rest ≠ .and :: tail) ∧ ∀ tail, rest ≠ .or :: tail

theorem endsExpression_nil : EndsExpression [] := by
  simp [EndsExpression, EndsId, NoWord]

theorem Closes.endsExpression {rest : List Token} (h : Closes rest) : EndsExpression rest := by
  obtain ⟨tail, rfl⟩ := h
  simp [EndsExpression, EndsId, NoWord]

theorem Sound.alternatives {inside : Reader LicenseTree}
    {related : List Token → LicenseTree → Prop} (h : Sound inside related) :
    Sound (alternatives inside) (Alternatives related) :=
  h.atom.run.run

theorem Complete.alternatives {inside : Reader LicenseTree}
    {related : List Token → LicenseTree → Prop} (h : Complete inside related Closes) :
    Complete (alternatives inside) (Alternatives related) EndsExpression := by
  have hid (token : Token) (ht : token = .and ∨ token = .or) (tail : List Token) :
      EndsId (token :: tail) := by
    rcases ht with rfl | rfl <;> simp [EndsId, NoWord]
  exact (h.atom.run (hid .and (.inl rfl))).run fun tail => ⟨hid .or (.inr rfl) tail, by simp⟩

/-- What is read is derived. -/
theorem sound_expression (depth : Nat) : Sound (expression depth) (Derives depth) := by
  induction depth with
  | zero =>
    refine Sound.alternatives fun input t rest h => ?_
    obtain ⟨_, h⟩ := h
    cases h
  | succ depth ih => exact ih.alternatives

/-- What is derived is read, if the expression ends there. -/
theorem complete_expression (depth : Nat) :
    Complete (expression depth) (Derives depth) EndsExpression := by
  induction depth with
  | zero => exact Complete.alternatives fun _ _ _ h => h.elim
  | succ depth ih => exact (ih.mono fun _ h => h.endsExpression).alternatives

/-- All the tokens are read as a tree if they are none, or an expression that nests no deeper
than is allowed. -/
theorem ofTokens_eq_ok_iff {tokens : List Token} {t : LicenseTree} :
    ofTokens tokens = .ok t ↔ tokens = [] ∧ t = .empty ∨ Derives maxDepth tokens t := by
  constructor
  · intro h
    unfold ofTokens at h
    split at h
    · rename_i hnil
      cases h
      exact .inl ⟨List.isEmpty_iff.1 hnil, rfl⟩
    · cases he : expression maxDepth tokens with
      | error fault => simp [he, bind, Except.bind] at h
      | ok taken =>
        obtain ⟨t', rest, hlt⟩ := taken
        simp only [he, bind, Except.bind] at h
        cases rest with
        | cons token rest => simp at h
        | nil =>
          simp only [pure, Except.pure, Except.ok.injEq] at h
          subst h
          obtain ⟨taken, happ, hd⟩ := sound_expression maxDepth tokens t' [] ⟨hlt, he⟩
          rw [List.append_nil] at happ
          exact .inr (happ ▸ hd)
  · rintro (⟨rfl, rfl⟩ | h)
    · rfl
    · have hr := complete_expression maxDepth tokens t [] h endsExpression_nil
      rw [List.append_nil] at hr
      obtain ⟨hlt, he⟩ := hr
      have hne : tokens.isEmpty = false := by
        cases tokens with
        | nil => simp at hlt
        | cons token tokens => rfl
      unfold ofTokens
      rw [hne]
      simp [he, bind, Except.bind, pure, Except.pure]

end Clearinghouse.License
