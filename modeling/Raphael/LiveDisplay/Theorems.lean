import Raphael.LiveDisplay

namespace Raphael.LiveDisplay

open Lights (isSpace stoi stoiDigits stoiSigned)
open Trace (Along)

theorem isDigit_of_isSpace {c : Char} (h : isSpace c = true) : c.isDigit = false := by
  simp only [isSpace, decide_eq_true_eq] at h
  apply Bool.eq_false_iff.mpr
  intro hdigit
  simp only [Char.isDigit, Bool.and_eq_true, decide_eq_true_eq] at hdigit
  obtain rfl | ⟨-, hle⟩ := h
  · exact absurd hdigit.1 (by decide)
  · exact absurd (UInt32.le_trans hdigit.1 hle) (by decide)

theorem takeWhile_append_of_neg {p : Char → Bool} {c : Char} (h : p c = false)
    (text : List Char) : (text ++ [c]).takeWhile p = text.takeWhile p := by
  induction text with
  | nil => simp [h]
  | cons a text ih => simp only [List.cons_append, List.takeWhile_cons, ih]

-- Blanks at the end are not part of the number.
theorem stoiDigits_append (text : List Char) {c : Char} (h : isSpace c = true) :
    stoiDigits (text ++ [c]) = stoiDigits text := by
  rw [stoiDigits, takeWhile_append_of_neg (isDigit_of_isSpace h), stoiDigits]

theorem stoiSigned_of_ne {a : Char} (hminus : a ≠ '-') (hplus : a ≠ '+') (text : List Char) :
    stoiSigned (a :: text) = (stoiDigits (a :: text)).map Int.ofNat := by
  unfold stoiSigned
  split
  · rename_i heq
    exact absurd (List.cons.inj heq).1 hminus
  · rename_i heq
    exact absurd (List.cons.inj heq).1 hplus
  · rfl

theorem stoiSigned_append (text : List Char) {c : Char} (h : isSpace c = true) :
    stoiSigned (text ++ [c]) = stoiSigned text := by
  cases text with
  | nil =>
      have hminus : c ≠ '-' := by rintro rfl; exact absurd h (by decide)
      have hplus : c ≠ '+' := by rintro rfl; exact absurd h (by decide)
      rw [List.nil_append, stoiSigned_of_ne hminus hplus]
      exact congrArg (Option.map Int.ofNat) (stoiDigits_append [] h)
  | cons a text =>
      by_cases hminus : a = '-'
      · subst hminus
        simp only [List.cons_append, stoiSigned, stoiDigits_append text h]
      · by_cases hplus : a = '+'
        · subst hplus
          exact congrArg (Option.map Int.ofNat) (stoiDigits_append text h)
        · rw [List.cons_append, stoiSigned_of_ne hminus hplus, stoiSigned_of_ne hminus hplus]
          exact congrArg (Option.map Int.ofNat) (stoiDigits_append (a :: text) h)

theorem stoiSigned_rdropWhile (text : List Char) :
    stoiSigned ((text.rdropWhile isSpace).dropWhile isSpace) =
      stoiSigned (text.dropWhile isSpace) := by
  induction text using List.reverseRecOn with
  | nil => rfl
  | append_singleton text c ih =>
      by_cases hspace : isSpace c = true
      · rw [List.rdropWhile_concat_pos _ _ _ hspace, ih, List.dropWhile_append]
        split
        · rename_i hempty
          rw [List.isEmpty_iff.mp hempty, List.dropWhile_cons_of_pos hspace, List.dropWhile_nil]
        · rw [stoiSigned_append _ hspace]
      · rw [List.rdropWhile_concat_neg _ _ _ hspace]

theorem stoi_trim (text : String) : stoi (trim text) = stoi text := by
  rw [stoi, trim, String.toList_ofList, stoiSigned_rdropWhile, List.dropWhile_idempotent, stoi]

-- The node holds the number that stands for the value.
def Holds (node : String) (enabled : Bool) : Prop := stoi node = some (if enabled then 1 else 0)

instance (node : String) (enabled : Bool) : Decidable (Holds node enabled) :=
  inferInstanceAs (Decidable (stoi node = some (if enabled then 1 else 0)))

def switch (enabled : Bool) : String := if enabled then "1" else "0"

theorem holds_switch (enabled : Bool) : Holds (switch enabled) enabled := by
  cases enabled <;> decide

section Truth

variable (toggle : Toggle)

-- What each call promises.
def TellsTruth (s : State) : Call → Prop
  | .isEnabled access =>
      ∃ result, toggle.isEnabled access s.node = some result ∧
        (access.succeeds = true → ∀ enabled, s.reported = some enabled → result = enabled)
  | .setEnabled enabled access =>
      (toggle.setEnabled enabled access s.node).1 = true →
        Holds (toggle.setEnabled enabled access s.node).2 enabled

def Truthful (node : String) (calls : List Call) : Prop :=
  Along (step toggle) (TellsTruth toggle) ⟨node, none⟩ calls

def Reported (s : State) : Prop := ∀ enabled, s.reported = some enabled → Holds s.node enabled

variable {toggle}

theorem reported_step {s next : State} {call : Call} (htruth : TellsTruth toggle s call)
    (hstep : step toggle s call = some next) : Reported next := by
  cases call with
  | isEnabled access =>
      obtain ⟨_, -, rfl⟩ := Option.map_eq_some_iff.mp hstep
      intro enabled h
      cases h
  | setEnabled enabled access =>
      obtain rfl := Option.some.inj hstep
      intro reported h
      obtain ⟨hresult, hreported⟩ := Option.ite_none_right_eq_some.mp h
      obtain rfl := Option.some.inj hreported
      exact htruth hresult

-- A toggle tells the truth as long as a condition on its calls says so.
theorem truthful_iff {guard : State → Call → Prop}
    (hiff : ∀ s call, Reported s → (TellsTruth toggle s call ↔ guard s call)) (node : String)
    (calls : List Call) :
    Truthful toggle node calls ↔ Along (step toggle) guard ⟨node, none⟩ calls :=
  Along.iff_of_invariant (step toggle) Reported
    (fun _ _ _ _ htruth hstep => reported_step htruth hstep) hiff (fun _ h => nomatch h)

end Truth

namespace AntiFlicker

theorem setEnabled_of_not_opens (enabled : Bool) {access : Access} (node : String)
    (hopens : access.opens = false) : setEnabled enabled access node = (false, node) := by
  simp [setEnabled, OFStream.open, OFStream.put, OFStream.close, hopens]

theorem setEnabled_of_opens (enabled : Bool) {access : Access} (node : String)
    (hopens : access.opens = true) :
    setEnabled enabled access node =
      (true, if access.transfers then switch enabled else node) := by
  simp [setEnabled, OFStream.open, OFStream.put, OFStream.close, hopens, switch]

theorem isEnabled_of_holds {access : Access} {node : String} {enabled : Bool}
    (hsucceeds : access.succeeds = true) (h : Holds node enabled) :
    isEnabled access node = enabled := by
  rw [isEnabled, extractInt, if_pos hsucceeds, h]
  cases enabled <;> rfl

-- An unnoticed failure does no harm when the node already holds the value.
def Harmless (s : State) : Call → Prop
  | .isEnabled _ => True
  | .setEnabled enabled access =>
      access.opens = true → access.transfers = false → Holds s.node enabled

theorem tellsTruth_iff (s : State) (call : Call) (hreported : Reported s) :
    TellsTruth antiFlicker s call ↔ Harmless s call := by
  cases call with
  | isEnabled access =>
      refine iff_of_true ⟨isEnabled access s.node, rfl, fun hsucceeds enabled h => ?_⟩ trivial
      exact isEnabled_of_holds hsucceeds (hreported enabled h)
  | setEnabled enabled access =>
      simp only [TellsTruth, Harmless, antiFlicker]
      cases hopens : access.opens with
      | false => simp [setEnabled_of_not_opens enabled s.node hopens]
      | true =>
          rw [setEnabled_of_opens enabled s.node hopens]
          cases access.transfers with
          | false => simp
          | true => simp [holds_switch]

end AntiFlicker

namespace SunlightEnhancement

theorem isEnabled_of_succeeds {access : Access} (node : String)
    (hsucceeds : access.succeeds = true) :
    isEnabled access node = (stoi node).map fun value => decide (value = 1) := by
  rw [isEnabled, readFileToString, if_pos hsucceeds]
  exact congrArg (Option.map fun value => decide (value = 1)) (stoi_trim node)

theorem isEnabled_of_fails {access : Access} (node : String) (hfails : access.succeeds = false) :
    isEnabled access node = some false := by
  simp [isEnabled, readFileToString, hfails]

theorem setEnabled_holds {enabled : Bool} {access : Access} {node : String}
    (h : (setEnabled enabled access node).1 = true) :
    Holds (setEnabled enabled access node).2 enabled := by
  unfold setEnabled writeStringToFile at h ⊢
  split at h
  · rename_i hsucceeds
    rw [if_pos hsucceeds]
    exact holds_switch enabled
  · cases h

-- The text that is read starts with a number.
def Readable (s : State) : Call → Prop
  | .isEnabled access => access.succeeds = true → stoi s.node ≠ none
  | .setEnabled _ _ => True

theorem tellsTruth_iff (s : State) (call : Call) (hreported : Reported s) :
    TellsTruth sunlightEnhancement s call ↔ Readable s call := by
  cases call with
  | setEnabled enabled access => exact iff_of_true setEnabled_holds trivial
  | isEnabled access =>
      simp only [TellsTruth, Readable, sunlightEnhancement]
      cases hsucceeds : access.succeeds with
      | false => simp [isEnabled_of_fails s.node hsucceeds]
      | true =>
          rw [isEnabled_of_succeeds s.node hsucceeds]
          cases hvalue : stoi s.node with
          | none => simp
          | some value =>
              refine iff_of_true ⟨decide (value = 1), rfl, fun _ enabled h => ?_⟩ (by simp)
              obtain rfl := Option.some.inj (hvalue.symm.trans (hreported enabled h))
              cases enabled <;> rfl

end SunlightEnhancement

-- AntiFlicker lies about a write that fails when the stream is closed, and
-- SunlightEnhancement throws on a text without a number.
theorem toggles_truthful_iff (node : String) (calls : List Call) :
    (Truthful antiFlicker node calls ↔
      Along (step antiFlicker) AntiFlicker.Harmless ⟨node, none⟩ calls) ∧
    (Truthful sunlightEnhancement node calls ↔
      Along (step sunlightEnhancement) SunlightEnhancement.Readable ⟨node, none⟩ calls) :=
  ⟨truthful_iff AntiFlicker.tellsTruth_iff node calls,
    truthful_iff SunlightEnhancement.tellsTruth_iff node calls⟩

theorem toggles_truthful_false :
    ¬∀ toggle ∈ [antiFlicker, sunlightEnhancement], ∀ node calls, Truthful toggle node calls := by
  intro h
  have hlie := h antiFlicker List.mem_cons_self "0" [.setEnabled true ⟨true, false⟩]
  exact absurd (hlie.1 rfl) (by decide)

end Raphael.LiveDisplay
