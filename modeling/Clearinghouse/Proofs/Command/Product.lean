import Clearinghouse.Command.Product
import Mathlib.Data.List.Forall2

/-!
# What the commands produce

Warnings aside, a command under way goes through its steps one by one (`run_bind_eq_ok_iff`), so
artifacts are loaded if every input is read, and the sources are merged and curated
(`artifacts_eq_ok_iff`). Both commands go on from there: one exports the artifacts
(`merge_eq_ok`), the other one reports on them (`check_eq_ok`).
-/

namespace Clearinghouse

instance {ω : Type} : LawfulMonad (Logged ω) :=
  LawfulMonad.mk' _ (fun x => congrArg (Logged.mk x.value) (List.append_nil x.log))
    (fun _ _ => rfl) fun _ _ _ => congrArg (Logged.mk _) (List.append_assoc _ _ _)

namespace Product

/-! ## Steps -/

section

variable {α β : Type}

theorem run_bind_eq_ok_iff {x : Work α} {f : α → Work β} {b : β} :
    (x >>= f).run.value = .ok b ↔ ∃ a, x.run.value = .ok a ∧ (f a).run.value = .ok b := by
  have hbind : (x >>= f).run.value = (ExceptT.bindCont f x.run.value).value := rfl
  rw [hbind]
  cases x.run.value with
  | ok a => simp [ExceptT.bindCont, ExceptT.run]
  | error failure => simp [ExceptT.bindCont]

theorem run_pure_eq_ok_iff {a b : α} : (pure a : Work α).run.value = .ok b ↔ a = b :=
  ⟨fun h => Except.ok.inj h, congrArg Except.ok⟩

theorem run_lift_eq_ok_iff {x : Logged Warning α} {a : α} :
    (liftM x : Work α).run.value = .ok a ↔ x.value = a :=
  ⟨fun h => Except.ok.inj h, congrArg Except.ok⟩

theorem run_ofResult_eq_ok_iff {ε : Type} {failure : ε → Failure} {result : Except ε α} {a : α} :
    (ofResult failure result).run.value = .ok a ↔ result = .ok a := by
  show result.mapError failure = .ok a ↔ _
  cases result <;> simp [Except.mapError]

theorem run_adapt_eq_ok_iff {ε ε' : Type} {failure : ε → ε'}
    {x : ExceptT ε (Logged Warning) α} {a : α} :
    (x.adapt failure).run.value = .ok a ↔ x.run.value = .ok a := by
  have hadapt : (x.adapt failure).run.value = x.run.value.mapError failure := rfl
  rw [hadapt]
  cases x.run.value <;> simp [Except.mapError]

/-- A step for every element succeeds if each of them does. -/
theorem run_mapM_eq_ok_iff {f : α → Work β} {as : List α} {bs : List β} :
    (as.mapM f).run.value = .ok bs ↔
      List.Forall₂ (fun a b => (f a).run.value = .ok b) as bs := by
  induction as generalizing bs with
  | nil =>
    rw [List.mapM_nil, run_pure_eq_ok_iff, List.forall₂_nil_left_iff, eq_comm]
  | cons a as ih =>
    rw [List.mapM_cons, run_bind_eq_ok_iff, List.forall₂_cons_left_iff]
    simp only [run_bind_eq_ok_iff, run_pure_eq_ok_iff, ih]
    constructor
    · rintro ⟨b, hb, bs, hbs, rfl⟩
      exact ⟨b, bs, hb, hbs, rfl⟩
    · rintro ⟨b, bs, hb, hbs, rfl⟩
      exact ⟨b, hb, bs, hbs, rfl⟩

theorem exists_of_mem_right {R : α → β → Prop} {as : List α} {bs : List β}
    (h : List.Forall₂ R as bs) {b : β} (hb : b ∈ bs) : ∃ a ∈ as, R a b := by
  induction h with
  | nil => cases hb
  | @cons a b' as bs hab _ ih =>
    rcases List.mem_cons.1 hb with rfl | hb
    · exact ⟨a, List.mem_cons_self, hab⟩
    · obtain ⟨a', ha', hR⟩ := ih hb
      exact ⟨a', List.mem_cons_of_mem a ha', hR⟩

end

/-! ## Loading -/

/-- A file is read if its bytes are there and hold a table. -/
theorem importFile_eq_ok_iff {s : Surroundings} {f : TableFormat} {p : Path}
    {as : List Artifact} :
    (f.importFile s p).run.value = .ok as ↔
      ∃ bytes, s.read p = .ok bytes ∧
        (Table.artifactsOf f s.pathExists (f.baseDir.getD (TableFormat.directoryOf s p))
          (Table.scan f.delimiter bytes)).run.value = .ok as := by
  rw [TableFormat.importFile]
  cases s.read p with
  | ok bytes => simp only [run_adapt_eq_ok_iff, Except.ok.injEq, exists_eq_left']
  | error fault =>
    refine iff_of_false (fun h => ?_) (by simp)
    cases fault <;> cases h

theorem readSource_eq_ok_iff {s : Surroundings} {f : TableFormat} {p : Path} {as : List Artifact} :
    (readSource s f p).run.value = .ok as ↔
      ∃ bytes, s.read p = .ok bytes ∧
        (Table.artifactsOf f s.pathExists (f.baseDir.getD (TableFormat.directoryOf s p))
          (Table.scan f.delimiter bytes)).run.value = .ok as := by
  rw [readSource, run_adapt_eq_ok_iff, importFile_eq_ok_iff]

/-- Artifacts are loaded if every input is read and what they are merged to can be curated. -/
theorem artifacts_eq_ok_iff {s : Surroundings} {c : Config} {inputs : List Path}
    {as : List Artifact} :
    (artifacts s c inputs).run.value = .ok as ↔
      ∃ format, TableFormat.ofConfig c = .ok format ∧
        ∃ sources, List.Forall₂ (fun p source => (readSource s format p).run.value = .ok source)
            inputs sources ∧
          ∃ touched, CurationStep.curate c
            (mergeSources sources c.merge.policy).value.artifacts = .ok (as, touched) := by
  unfold artifacts
  simp only [run_bind_eq_ok_iff, run_ofResult_eq_ok_iff, run_mapM_eq_ok_iff, run_lift_eq_ok_iff,
    run_pure_eq_ok_iff, exists_eq_left']
  refine exists_congr fun format => and_congr_right fun _ => exists_congr fun sources =>
    and_congr_right fun _ => ?_
  constructor
  · rintro ⟨⟨_, touched⟩, h, rfl⟩
    exact ⟨touched, h⟩
  · rintro ⟨touched, h⟩
    exact ⟨(as, touched), h, rfl⟩

/-! ## Going on -/

/-- What a check gives out of a report. -/
def ofReport (format : ReportFormat) (time : String) (r : Report) : Product :=
  match format with
  | .summary => ⟨r.summary, r.exitCode⟩
  | .json => ⟨(r.toJson time).pretty, r.exitCode⟩

theorem exitCode_ofReport (format : ReportFormat) (time : String) (r : Report) :
    (ofReport format time r).exitCode = r.exitCode := by
  cases format <;> rfl

/-- A check reports on loaded artifacts. Loading does not look at the policy. -/
theorem check_eq_ok {s : Surroundings} {c : Config} {inputs : List Path} {as : List Artifact}
    (h : (artifacts s c inputs).run.value = .ok as) (p : PolicyConfig) (format : ReportFormat)
    (time : String) :
    (check s { c with policy := p } format time inputs).run.value =
      .ok (ofReport format time (Report.check p.rules as)) := by
  have hartifacts : (artifacts s { c with policy := p } inputs).run.value = .ok as := h
  unfold check
  rw [run_bind_eq_ok_iff]
  refine ⟨as, hartifacts, ?_⟩
  rw [run_bind_eq_ok_iff]
  refine ⟨(), rfl, ?_⟩
  cases format <;> rfl

/-- A merge gives out the bytes of a table if they are a text. -/
theorem merge_eq_ok {s : Surroundings} {c : Config} {inputs : List Path} {as : List Artifact}
    {format : TableFormat} {content : String} (h : (artifacts s c inputs).run.value = .ok as)
    (hformat : TableFormat.ofConfig c = .ok format)
    (hcontent : Utf8.decode? (format.exportBytes s as) = some content) :
    (merge s c inputs).run.value = .ok ⟨content, 0⟩ := by
  unfold merge
  rw [run_bind_eq_ok_iff]
  refine ⟨as, h, ?_⟩
  rw [run_bind_eq_ok_iff]
  refine ⟨format, run_ofResult_eq_ok_iff.2 hformat, ?_⟩
  simp only [hcontent]
  rfl

end Product

end Clearinghouse
