import Mathlib.Logic.Function.Basic
import Raphael.ReleaseTools.Theorems

namespace Raphael.ReleaseTools

open Raphael.Recovery (Bytes ascii)
open Raphael.Regex

-- The build's info object with the package that it writes.
structure PackageInfo extends OtaInfo where
  outputZip : List (String × Bytes)

namespace PackageInfo

def appendExtra (info : PackageInfo) (extra : String) : PackageInfo :=
  { info with script := info.script ++ [extra] }

def zipWriteStr (info : PackageInfo) (name : String) (data : Bytes) : PackageInfo :=
  { info with outputZip := info.outputZip ++ [(name, data)] }

end PackageInfo

def extractLine (basename dest : String) : String :=
  "package_extract_file(\"" ++ basename ++ "\", \"" ++ dest ++ "\");"

def addImage (info : PackageInfo) (basename dest : String) : PackageInfo :=
  match info.inputZip ("IMAGES/" ++ basename) with
  | none => info
  | some data => (info.zipWriteStr basename data).appendExtra (extractLine basename dest)

-- The line of script.Print comes from the build's generator.
def otaInstallEnd (printLine : String → String) (info : PackageInfo) : PackageInfo :=
  let info := info.appendExtra (printLine "Patching dtbo and vbmeta images...")
  let info := addImage info "dtbo.img" "/dev/block/bootdevice/by-name/dtbo"
  addImage info "vbmeta.img" "/dev/block/bootdevice/by-name/vbmeta"

def fullOTAInstallEnd (printLine : String → String) (info : PackageInfo) : PackageInfo :=
  otaInstallEnd printLine info

def incrementalOTAInstallEnd (printLine : String → String) (info : PackageInfo) : PackageInfo :=
  otaInstallEnd printLine info

-- What the build makes of the two hooks of a full package.
def fullOTA (printLine : String → String) (info : PackageInfo) : Except PyError PackageInfo := do
  let asserted ← fullOTAAssertions info.toOtaInfo
  .ok (fullOTAInstallEnd printLine { info with toOtaInfo := asserted })

section Install

abbrev Device := String → Bytes

-- How the recovery executes one line of a package on the partitions.
abbrev Exec := List (String × Bytes) → String → Device → Option Device

def runLines (exec : Exec) (package : List (String × Bytes)) (lines : List String)
    (device : Device) : Option Device :=
  lines.foldlM (fun device line => exec package line device) device

def Quotable (text : String) : Prop := '"' ∉ text.toList

instance (text : String) : Decidable (Quotable text) := inferInstanceAs (Decidable (¬_ ∈ _))

-- The first entry of a name is the one that is extracted.
structure Lawful (exec : Exec) (printLine : String → String) : Prop where
  prints : ∀ package message device, Quotable message →
    exec package (printLine message) device = some device
  extracts : ∀ package basename dest data device, Quotable basename → Quotable dest →
    package.lookup basename = some data →
      exec package (extractLine basename dest) device = some (Function.update device dest data)

def flashed (zip : Zip) (basename dest : String) (device : Device) : Device :=
  match zip ("IMAGES/" ++ basename) with
  | some data => Function.update device dest data
  | none => device

variable {exec : Exec} {printLine : String → String} {info : PackageInfo}

theorem addImage_inputZip (info : PackageInfo) (basename dest : String) :
    (addImage info basename dest).inputZip = info.inputZip := by
  unfold addImage
  split <;> rfl

-- What one image adds to the package, and what becomes of it.
theorem addImage_installs (hlawful : Lawful exec printLine) (info : PackageInfo)
    {basename dest : String} (hbasename : Quotable basename) (hdest : Quotable dest)
    (hfresh : info.outputZip.lookup basename = none) :
    ∃ entries lines, (addImage info basename dest).outputZip = info.outputZip ++ entries ∧
      (addImage info basename dest).script = info.script ++ lines ∧
      (∀ entry ∈ entries, entry.1 = basename) ∧
      ∀ more device, runLines exec (info.outputZip ++ entries ++ more) lines device =
        some (flashed info.inputZip basename dest device) := by
  unfold addImage flashed
  cases hdata : info.inputZip ("IMAGES/" ++ basename) with
  | none => exact ⟨[], [], by simp, by simp, by simp, fun _ _ => rfl⟩
  | some data =>
      refine ⟨[(basename, data)], [extractLine basename dest], rfl, rfl, by simp, ?_⟩
      intro more device
      have hentry : (info.outputZip ++ [(basename, data)] ++ more).lookup basename = some data := by
        simp [List.lookup_append, hfresh]
      have hexec := hlawful.extracts _ _ _ _ device hbasename hdest hentry
      rw [runLines, List.foldlM_cons, hexec]
      rfl

theorem runLines_append (package : List (String × Bytes)) (first second : List String)
    (device : Device) : runLines exec package (first ++ second) device =
      (runLines exec package first device).bind (runLines exec package second) :=
  List.foldlM_append

theorem lookup_fresh {entries : List (String × Bytes)} {name other : String}
    (hentries : ∀ entry ∈ entries, entry.1 = other) (hne : name ≠ other) :
    entries.lookup name = none := by
  rw [List.lookup_eq_none_iff]
  intro entry hentry
  simpa [hentries entry hentry] using hne

def dtboPath : String := "/dev/block/bootdevice/by-name/dtbo"
def vbmetaPath : String := "/dev/block/bootdevice/by-name/vbmeta"

theorem otaInstallEnd_installs (hlawful : Lawful exec printLine) (info : PackageInfo)
    (hdtbo : info.outputZip.lookup "dtbo.img" = none)
    (hvbmeta : info.outputZip.lookup "vbmeta.img" = none) :
    ∃ lines, (otaInstallEnd printLine info).script = info.script ++ lines ∧
      ∀ more device, runLines exec ((otaInstallEnd printLine info).outputZip ++ more) lines device =
        some (flashed info.inputZip "vbmeta.img" vbmetaPath
          (flashed info.inputZip "dtbo.img" dtboPath device)) := by
  let message := printLine "Patching dtbo and vbmeta images..."
  obtain ⟨entries, lines, hzip, hscript, hentries, hrun⟩ :=
    @addImage_installs exec printLine hlawful (info.appendExtra message) "dtbo.img" dtboPath
      (by decide +kernel) (by decide +kernel) hdtbo
  have hfresh : (addImage (info.appendExtra message) "dtbo.img" dtboPath).outputZip.lookup
      "vbmeta.img" = none := by
    rw [hzip, List.lookup_append, lookup_fresh hentries (by decide)]
    simpa [PackageInfo.appendExtra] using hvbmeta
  obtain ⟨entries', lines', hzip', hscript', -, hrun'⟩ :=
    @addImage_installs exec printLine hlawful _ "vbmeta.img" vbmetaPath (by decide +kernel)
      (by decide +kernel) hfresh
  rw [addImage_inputZip] at hrun'
  refine ⟨message :: (lines ++ lines'), ?_, ?_⟩
  · refine hscript'.trans ?_
    rw [hscript]
    simp [PackageInfo.appendExtra]
  · intro more device
    have hfinal : (otaInstallEnd printLine info).outputZip ++ more =
        (info.appendExtra message).outputZip ++ entries ++ (entries' ++ more) := by
      refine (congrArg (· ++ more) hzip').trans ?_
      rw [hzip, List.append_assoc]
    have hprint : runLines exec ((otaInstallEnd printLine info).outputZip ++ more)
        (message :: (lines ++ lines')) device =
          runLines exec ((otaInstallEnd printLine info).outputZip ++ more)
            (lines ++ lines') device := by
      rw [runLines, List.foldlM_cons, hlawful.prints _ _ _ (by decide +kernel)]
      rfl
    rw [hprint, hfinal, runLines_append, hrun, Option.bind_some, ← hzip, ← List.append_assoc]
    exact hrun' more _

-- A full package comes about unless a TrustZone version is required, and then
-- its own images are what the partitions hold after it has been installed.
theorem full_package_installs (hlawful : Lawful exec printLine) (info : PackageInfo)
    {androidInfo : Bytes} (hread : info.inputZip "OTA/android-info.txt" = some androidInfo)
    (hdtbo : info.outputZip.lookup "dtbo.img" = none)
    (hvbmeta : info.outputZip.lookup "vbmeta.img" = none) :
    (∃ package lines, fullOTA printLine info = .ok package ∧
      package.script = info.script ++ lines ∧
      ∀ more device, runLines exec (package.outputZip ++ more) lines device =
        some (flashed info.inputZip "vbmeta.img" vbmetaPath
          (flashed info.inputZip "dtbo.img" dtboPath device))) ↔
    ∀ pieces, Spells versionPattern pieces → ¬pieces.flatten <:+: androidInfo := by
  rw [← search_eq_none_iff]
  constructor
  · rintro ⟨package, lines, hok, -, -⟩
    cases hm : search versionPattern androidInfo with
    | none => rfl
    | some pieces =>
        have hraise := addTrustZoneAssertion_raises info.inputZip hread hm
        rw [fullOTA, fullOTAAssertions, hraise] at hok
        cases hok
  · intro hnone
    have hassert := addTrustZoneAssertion_no_match info.inputZip hread hnone
    obtain ⟨lines, hscript, hrun⟩ := otaInstallEnd_installs hlawful info hdtbo hvbmeta
    refine ⟨otaInstallEnd printLine info, lines, ?_, hscript, hrun⟩
    rw [fullOTA, fullOTAAssertions, hassert]
    rfl

-- A recovery that knows the two kinds of lines.
def readLine : Exec := fun package line device =>
  let chars := line.toList
  if chars.take 9 = "ui_print(".toList then some device
  else
    let rest := chars.drop "package_extract_file(\"".toList.length
    let basename := rest.takeWhile (· ≠ '"')
    let rest := (rest.drop basename.length).drop 4
    let dest := rest.takeWhile (· ≠ '"')
    (package.lookup (String.ofList basename)).map fun data =>
      Function.update device (String.ofList dest) data

def uiPrint (message : String) : String := "ui_print(\"" ++ message ++ "\");"

theorem takeWhile_quoted {text : String} (htext : Quotable text) (rest : List Char) :
    (text.toList ++ '"' :: rest).takeWhile (· ≠ '"') = text.toList := by
  have hall : ∀ c ∈ text.toList, decide (c ≠ '"') = true := by
    intro c hc
    exact decide_eq_true fun heq => htext (heq ▸ hc)
  rw [List.takeWhile_append_of_pos hall]
  simp

theorem readLine_lawful : Lawful readLine uiPrint where
  prints := by
    intro package message device _
    simp [readLine, uiPrint, String.toList_append]
  extracts := by
    intro package basename dest data device hbasename hdest hdata
    have hline : (extractLine basename dest).toList = "package_extract_file(\"".toList ++
        (basename.toList ++ '"' :: (", \"".toList ++ (dest.toList ++ '"' :: ");".toList))) := by
      have hmiddle : "\", \"".toList = '"' :: ", \"".toList := by decide +kernel
      have hend : "\");".toList = '"' :: ");".toList := by decide +kernel
      unfold extractLine
      rw [String.toList_append, String.toList_append, String.toList_append, String.toList_append,
        hmiddle, hend]
      rw [List.append_assoc, List.append_assoc, List.append_assoc, List.cons_append]
    have htake : (extractLine basename dest).toList.take 9 ≠ "ui_print(".toList := by
      have hfirst : "package_extract_file(\"".toList =
          'p' :: "ackage_extract_file(\"".toList := by decide +kernel
      have hprint : "ui_print(".toList = 'u' :: "i_print(".toList := by decide +kernel
      rw [hline, hfirst, hprint, List.cons_append, List.take_succ_cons]
      simp
    have hrest : (extractLine basename dest).toList.drop "package_extract_file(\"".toList.length =
        basename.toList ++ '"' :: (", \"".toList ++ (dest.toList ++ '"' :: ");".toList)) := by
      rw [hline, List.drop_left]
    have hdrop : ((basename.toList ++ '"' :: (", \"".toList ++
        (dest.toList ++ '"' :: ");".toList))).drop basename.toList.length).drop 4 =
          dest.toList ++ '"' :: ");".toList := by
      have hmiddle : ", \"".toList = [',', ' ', '"'] := by decide +kernel
      rw [List.drop_left, hmiddle]
      rfl
    simp only [readLine, if_neg htake, hrest, takeWhile_quoted hbasename, hdrop,
      takeWhile_quoted hdest, String.ofList_toList, hdata, Option.map_some]

def dtboOnly : PackageInfo where
  inputZip name :=
    if name = "OTA/android-info.txt" then some (ascii "require board=raphael\n")
    else if name = "IMAGES/dtbo.img" then some [1, 2, 3]
    else none
  targetZip _ := none
  script := []
  outputZip := []

theorem full_package_installs_dtboOnly : ∃ package lines,
    fullOTA uiPrint dtboOnly = .ok package ∧ ∀ device, ∃ installed,
      runLines readLine package.outputZip lines device = some installed ∧
        installed dtboPath = [1, 2, 3] ∧ installed vbmetaPath = device vbmetaPath := by
  have hnone : search versionPattern (ascii "require board=raphael\n") = none := by
    decide +kernel
  have hspells := (search_eq_none_iff _ _).mp hnone
  obtain ⟨package, lines, hok, -, hrun⟩ :=
    (full_package_installs readLine_lawful dtboOnly rfl rfl rfl).mpr hspells
  refine ⟨package, lines, hok, ?_⟩
  intro device
  have hdevice := hrun [] device
  rw [List.append_nil] at hdevice
  refine ⟨_, hdevice, ?_, ?_⟩
  · simp [flashed, dtboOnly]
  · have hne : vbmetaPath ≠ dtboPath := by decide +kernel
    simp [flashed, dtboOnly, Function.update_of_ne hne]

end Install

end Raphael.ReleaseTools
