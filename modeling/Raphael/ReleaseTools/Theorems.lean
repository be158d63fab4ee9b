import Raphael.ReleaseTools
import Raphael.Regex.Theorems
import Raphael.Recovery.TrustZone

namespace Raphael.ReleaseTools

open Raphael.Recovery Raphael.Regex

-- How the recovery reads one line of the updater script: the argument list of
-- its verify_trustzone call, and whether the line lets the package install.
structure Edify where
  verifyArguments : String → Option (List Bytes)
  installs : String → (String → PartitionFile) → Prop

-- The elements of the version list, separated by '|'.
def elements (pieces : List Bytes) : List Bytes := (group1 pieces).splitOn 124

def Plain (version : Bytes) : Prop := ∀ c ∈ version, c ≠ 34 ∧ c ≠ 92

-- What the generated script has to be for the android-info it was made from:
-- unchanged without a version list or with the wildcard in it, else with one
-- assertion that asks for exactly the listed versions.
def ScriptAgrees (edify : Edify) (androidInfo : Bytes) (before after : List String) : Prop :=
  match search versionPattern androidInfo with
  | none => after = before
  | some pieces =>
      if [42] ∈ elements pieces then after = before
      else ∃ cmd, after = before ++ [cmd] ∧ edify.verifyArguments cmd = some (elements pieces) ∧
        ((∀ version ∈ elements pieces, Plain version) → ∀ device name,
          (edify.installs cmd device ↔
            verifyTrustZoneFn device name (some (elements pieces)) = some (.stringValue "1")))

-- A bytes group never splits at a str separator, so every match raises.
theorem addTrustZoneAssertion_raises {info : OtaInfo} {androidInfo : Bytes} {pieces : List Bytes}
    (zip : Zip) (hread : info.inputZip "OTA/android-info.txt" = some androidInfo)
    (hmatch : search versionPattern androidInfo = some pieces) :
    addTrustZoneAssertion info zip =
      .error (.typeError "a bytes-like object is required, not 'str'") := by
  have hr : info.inputZip.read "OTA/android-info.txt" = .ok androidInfo := by
    simp only [Zip.read, hread]
  unfold addTrustZoneAssertion
  rw [hr]
  simp only [bind, Except.bind, hmatch, PyVal.split]

theorem addTrustZoneAssertion_no_match {info : OtaInfo} {androidInfo : Bytes} (zip : Zip)
    (hread : info.inputZip "OTA/android-info.txt" = some androidInfo)
    (hnone : search versionPattern androidInfo = none) :
    addTrustZoneAssertion info zip = .ok info := by
  have hr : info.inputZip.read "OTA/android-info.txt" = .ok androidInfo := by
    simp only [Zip.read, hread]
  unfold addTrustZoneAssertion
  rw [hr]
  simp only [bind, Except.bind, hnone]

-- The generator does what the verifier needs exactly for the android-info
-- files in which no version requirement occurs.
theorem addTrustZoneAssertion_agrees_iff (edify : Edify) (info : OtaInfo) (zip : Zip)
    (androidInfo : Bytes) (hread : info.inputZip "OTA/android-info.txt" = some androidInfo) :
    (∃ result, addTrustZoneAssertion info zip = .ok result ∧
      ScriptAgrees edify androidInfo info.script result.script) ↔
    ∀ pieces, Spells versionPattern pieces → ¬pieces.flatten <:+: androidInfo := by
  rw [← search_eq_none_iff]
  cases hm : search versionPattern androidInfo with
  | none =>
      refine ⟨fun _ => rfl, fun _ => ?_⟩
      exact ⟨info, addTrustZoneAssertion_no_match zip hread hm, by simp only [ScriptAgrees, hm]⟩
  | some pieces =>
      constructor
      · rintro ⟨result, he, _⟩
        rw [addTrustZoneAssertion_raises zip hread hm] at he
        cases he
      · intro h
        cases h

def infoOf (androidInfo : Bytes) : OtaInfo where
  inputZip _ := some androidInfo
  targetZip _ := none
  script := []

-- A reading for scripts that call no verify_trustzone.
def noAssertion : Edify where
  verifyArguments _ := none
  installs _ _ := True

theorem addTrustZoneAssertion_agrees_iff_board :
    (∃ result, addTrustZoneAssertion (infoOf (ascii "require board=raphael\n"))
        (fun _ => none) = .ok result ∧
      ScriptAgrees noAssertion (ascii "require board=raphael\n") [] result.script) ↔
    ∀ pieces, Spells versionPattern pieces →
      ¬pieces.flatten <:+: ascii "require board=raphael\n" :=
  addTrustZoneAssertion_agrees_iff noAssertion (infoOf (ascii "require board=raphael\n"))
    (fun _ => none) (ascii "require board=raphael\n") rfl

theorem addTrustZoneAssertion_raises_xf :
    ¬∃ edify : Edify, ∃ result,
      addTrustZoneAssertion (infoOf (ascii "require version-trustzone=TZ.XF|TZ.XG"))
        (fun _ => none) = .ok result ∧
      ScriptAgrees edify (ascii "require version-trustzone=TZ.XF|TZ.XG") [] result.script := by
  rintro ⟨edify, result, he, _⟩
  have hraise : addTrustZoneAssertion (infoOf (ascii "require version-trustzone=TZ.XF|TZ.XG"))
      (fun _ => none) = .error (.typeError "a bytes-like object is required, not 'str'") := rfl
  rw [hraise] at he
  cases he

end Raphael.ReleaseTools
