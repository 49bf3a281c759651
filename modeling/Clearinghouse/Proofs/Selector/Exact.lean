import Clearinghouse.Proofs.Table.Cells
import Clearinghouse.Selector.Coordinate

/-!
# Selectors of one coordinate

The selector that is made from a coordinate compares the ecosystem and the other fields. It does
not look at the spelling of an ecosystem that is not known by name, though the spelling is part
of the identity. So it takes the coordinates that are the same but for the spelling, and these are
one coordinate exactly if the ecosystem is a known one other than the generic
(`takes_exact_iff_beq`).
-/

namespace Clearinghouse

namespace Coordinate

/-- Only the generic ecosystem has spellings. -/
theorem Made.rawType_eq_none {c : Coordinate} (hc : c.Made) (h : c.packageType ≠ .generic) :
    c.rawType = none := by
  rcases hc.cases with hnone | ⟨-, -, hgeneric, -⟩
  · exact hnone
  · exact absurd hgeneric h

/-- A generic coordinate has a namesake with another spelling. -/
theorem exists_namesake {c : Coordinate} (h : c.packageType = .generic) :
    ∃ d : Coordinate, d.Made ∧ (CoordinateSelector.exact c).takes d = true ∧ ¬ (c == d) = true := by
  have hdiffer {d : Coordinate} (hraw : c.rawType = none ↔ ¬ d.rawType = none) :
      ¬ (c == d) = true := by
    intro heq
    have hkey := congrArg (·.2.1) (beq_iff_key_eq.1 heq)
    have hnone := congrArg (· = none) hkey
    simp only [key, Option.map_eq_none_iff, eq_iff_iff] at hnone
    tauto
  by_cases hraw : c.rawType = none
  · have hconan : of "conan" c.ns c.name c.version =
        ⟨.generic, some "conan", c.ns, c.name, c.version⟩ := by
      have hunknown : PackageType.ofText? "conan" = none := by decide +kernel
      have htrimmed : Text.trimmed? "conan" = some "conan" := by decide +kernel
      rw [of, hunknown, htrimmed]
    refine ⟨_, ⟨"conan", c.ns, c.name, c.version, rfl⟩, ?_, hdiffer ?_⟩ <;> rw [hconan]
    · exact CoordinateSelector.takes_exact_iff.2 ⟨h, rfl, rfl, rfl⟩
    · simp [hraw]
  · have hgeneric : of "generic" c.ns c.name c.version =
        ofKnown .generic c.ns c.name c.version :=
      of_of_eq_some _ _ _ (PackageType.ofText?_name .generic)
    refine ⟨_, ⟨"generic", c.ns, c.name, c.version, rfl⟩, ?_, hdiffer ?_⟩ <;> rw [hgeneric]
    · exact CoordinateSelector.takes_exact_iff.2 ⟨h, rfl, rfl, rfl⟩
    · simp [hraw, ofKnown]

end Coordinate

namespace CoordinateSelector

/-- The selector made from a coordinate takes what is the same coordinate when it is spelled
alike. It takes nothing but the coordinate itself if and only if the ecosystem has no
spellings. -/
theorem takes_exact_iff_beq {c : Coordinate} (hc : c.Made) :
    (∀ d : Coordinate, (exact c).takes d = true ↔ (c == { d with rawType := c.rawType }) = true) ∧
      ((∀ d : Coordinate, d.Made → ((exact c).takes d = true ↔ (c == d) = true)) ↔
        c.packageType ≠ .generic) := by
  have hrespelled (d : Coordinate) :
      (exact c).takes d = true ↔ (c == { d with rawType := c.rawType }) = true := by
    rw [takes_exact_iff, Coordinate.beq_iff_key_eq]
    simp [Coordinate.key]
  refine ⟨hrespelled, fun honly hgeneric => ?_, fun hknown d hd => ?_⟩
  · obtain ⟨d, hd, htakes, hne⟩ := Coordinate.exists_namesake hgeneric
    exact hne ((honly d hd).1 htakes)
  · rw [takes_exact_iff, Coordinate.beq_iff_key_eq]
    constructor
    · rintro ⟨htype, hns, hname, hversion⟩
      have hraw : c.rawType = d.rawType :=
        (hc.rawType_eq_none hknown).trans (hd.rawType_eq_none (htype ▸ hknown)).symm
      rw [Coordinate.key, Coordinate.key, htype, hraw, hns, hname, hversion]
    · intro hkey
      simp only [Coordinate.key, Prod.mk.injEq] at hkey
      exact ⟨hkey.1, hkey.2.2⟩

end CoordinateSelector

namespace Samples

/-- A library from an ecosystem that is not known by name. -/
def zlib (ecosystem : String) : Coordinate := .of ecosystem "" "zlib" "1.3"

end Samples

open Samples

/-- What the selector made from a library of a known ecosystem takes. -/
theorem takes_exact_iff_beq_zlib :
    (zlib "nuget").Made ∧
      (∀ d : Coordinate, (CoordinateSelector.exact (zlib "nuget")).takes d = true ↔
        (zlib "nuget" == { d with rawType := (zlib "nuget").rawType }) = true) ∧
      ((∀ d : Coordinate, d.Made →
          ((CoordinateSelector.exact (zlib "nuget")).takes d = true ↔ (zlib "nuget" == d) = true)) ↔
        (zlib "nuget").packageType ≠ .generic) :=
  have hmade : (zlib "nuget").Made := ⟨"nuget", "", "zlib", "1.3", rfl⟩
  ⟨hmade, CoordinateSelector.takes_exact_iff_beq hmade⟩

/-- The selector made from a library takes its namesake in another unknown ecosystem. -/
theorem takes_exact_zlib_namesake :
    (CoordinateSelector.exact (zlib "conan")).takes (zlib "swift") = true ∧
      (zlib "conan" == zlib "swift") = false := by
  decide +kernel

end Clearinghouse
