import Raphael.Fingerprint.Notify

namespace Raphael.Fingerprint

def DocumentedError (error : Int32) : Prop :=
  error ∈ ([1, 2, 3, 4, 5, 6, 7] : List Int32) ∨ FINGERPRINT_ERROR_VENDOR_BASE ≤ error

def DocumentedAcquired (info : Int32) : Prop :=
  info ∈ ([0, 1, 2, 3, 4, 5] : List Int32) ∨ FINGERPRINT_ACQUIRED_VENDOR_BASE ≤ info

-- The differences of two messages that a client has to be able to see.
def Distinct (first second : FingerprintMsg) : Prop :=
  first.type ≠ second.type ∨
    match first, second with
    | .error a, .error b => DocumentedError a ∧ DocumentedError b ∧ a ≠ b
    | .acquired a, .acquired b => DocumentedAcquired a ∧ DocumentedAcquired b ∧ a ≠ b
    | .templateEnrolling a, .templateEnrolling b =>
        a.finger ≠ b.finger ∨ a.samplesRemaining ≠ b.samplesRemaining
    | .templateRemoved a, .templateRemoved b | .templateEnumerating a, .templateEnumerating b =>
        a.finger ≠ b.finger ∨ a.remainingTemplates ≠ b.remainingTemplates
    | .authenticated a, .authenticated b =>
        a.finger ≠ b.finger ∨ (a.finger.fid ≠ 0 ∧ b.finger.fid ≠ 0 ∧ a.hat ≠ b.hat)
    | _, _ => False

-- A good acquisition and the first vendor code look the same.
def Collide (first second : FingerprintMsg) : Prop :=
  (first = .acquired 0 ∧ second = .acquired FINGERPRINT_ACQUIRED_VENDOR_BASE) ∨
    (first = .acquired FINGERPRINT_ACQUIRED_VENDOR_BASE ∧ second = .acquired 0)

section Filter

variable {α : Type} {known : List (Int32 × α)} {vendorBase : Int32} {vendor unknown : α}

theorem vendorFilter_known {code : Int32} {result : α} (h : known.lookup code = some result) :
    vendorFilter known vendorBase vendor unknown code = (result, 0) := by
  rw [vendorFilter, h]

theorem vendorFilter_vendor {code : Int32} (hkeys : ∀ entry ∈ known, entry.1 < vendorBase)
    (hbase : vendorBase ≤ code) :
    vendorFilter known vendorBase vendor unknown code = (vendor, code - vendorBase) := by
  have hnone : known.lookup code = none := by
    rw [List.lookup_eq_none_iff]
    intro entry hm
    rw [bne_iff_ne]
    rintro rfl
    exact Int32.lt_irrefl (Int32.lt_of_lt_of_le (hkeys entry hm) hbase)
  rw [vendorFilter, hnone]
  exact if_pos hbase

-- Codes of the table are told apart when its results are, vendor codes by
-- their offset. What is left is the base against a known vendor result.
theorem vendorFilter_inj (hkeys : ∀ entry ∈ known, entry.1 < vendorBase)
    (hresults : ∀ a b result, known.lookup a = some result → known.lookup b = some result → a = b)
    {a b : Int32} (ha : (∃ result, known.lookup a = some result) ∨ vendorBase ≤ a)
    (hb : (∃ result, known.lookup b = some result) ∨ vendorBase ≤ b)
    (h : vendorFilter known vendorBase vendor unknown a =
      vendorFilter known vendorBase vendor unknown b) :
    a = b ∨ (known.lookup a = some vendor ∧ b = vendorBase) ∨
      (a = vendorBase ∧ known.lookup b = some vendor) := by
  have hzero : ∀ code : Int32, 0 = code - vendorBase → code = vendorBase := by
    intro code hcode
    rw [Int32.eq_sub_iff_add_eq, Int32.zero_add] at hcode
    exact hcode.symm
  obtain ⟨ra, hra⟩ | hba := ha
  · rw [vendorFilter_known hra] at h
    obtain ⟨rb, hrb⟩ | hbb := hb
    · rw [vendorFilter_known hrb] at h
      obtain ⟨rfl, -⟩ := Prod.mk.inj h
      exact .inl (hresults a b ra hra hrb)
    · rw [vendorFilter_vendor hkeys hbb] at h
      obtain ⟨rfl, hcode⟩ := Prod.mk.inj h
      exact .inr (.inl ⟨hra, hzero b hcode⟩)
  · rw [vendorFilter_vendor hkeys hba] at h
    obtain ⟨rb, hrb⟩ | hbb := hb
    · rw [vendorFilter_known hrb] at h
      obtain ⟨rfl, hcode⟩ := Prod.mk.inj h
      exact .inr (.inr ⟨hzero a hcode.symm, hrb⟩)
    · rw [vendorFilter_vendor hkeys hbb] at h
      exact .inl ((Int32.sub_left_inj vendorBase).mp (Prod.mk.inj h).2)

theorem mem_of_lookup {code : Int32} {result : α} (h : known.lookup code = some result) :
    (code, result) ∈ known := by
  obtain ⟨before, after, rfl, _⟩ := List.lookup_eq_some_iff.mp h
  exact List.mem_append_right _ List.mem_cons_self

theorem lookup_of_all {codes : List Int32}
    (h : codes.all (fun code => (known.lookup code).isSome) = true) :
    ∀ code ∈ codes, ∃ result, known.lookup code = some result :=
  fun code hm => Option.isSome_iff_exists.mp (List.all_eq_true.mp h code hm)

theorem lookup_inj (hunique : ∀ entry ∈ known, ∀ other ∈ known, entry.2 = other.2 →
      entry.1 = other.1) (a b : Int32) (result : α) (ha : known.lookup a = some result)
    (hb : known.lookup b = some result) : a = b := by
  exact hunique _ (mem_of_lookup ha) _ (mem_of_lookup hb) rfl

end Filter

theorem vendorErrorFilter_inj {a b : Int32} (ha : DocumentedError a) (hb : DocumentedError b)
    (h : vendorErrorFilter a = vendorErrorFilter b) : a = b := by
  have hkeys : ∀ entry ∈ knownErrors, entry.1 < FINGERPRINT_ERROR_VENDOR_BASE := by decide
  have hcodes : ∀ code ∈ ([1, 2, 3, 4, 5, 6, 7] : List Int32),
      ∃ result, knownErrors.lookup code = some result :=
    lookup_of_all (by decide)
  have hvendor : ∀ code, knownErrors.lookup code ≠ some .vendor := by
    intro code hlookup
    have hnot : ∀ entry ∈ knownErrors, entry.2 ≠ .vendor := by decide
    exact hnot _ (mem_of_lookup hlookup) rfl
  obtain rfl | ⟨hlookup, -⟩ | ⟨-, hlookup⟩ := vendorFilter_inj hkeys (lookup_inj (by decide))
    (ha.imp_left (hcodes a)) (hb.imp_left (hcodes b)) h
  · rfl
  · exact absurd hlookup (hvendor a)
  · exact absurd hlookup (hvendor b)

theorem vendorAcquiredFilter_inj {a b : Int32} (ha : DocumentedAcquired a)
    (hb : DocumentedAcquired b) (h : vendorAcquiredFilter a = vendorAcquiredFilter b) :
    a = b ∨ (a = 0 ∧ b = FINGERPRINT_ACQUIRED_VENDOR_BASE) ∨
      (a = FINGERPRINT_ACQUIRED_VENDOR_BASE ∧ b = 0) := by
  have hkeys : ∀ entry ∈ knownAcquired, entry.1 < FINGERPRINT_ACQUIRED_VENDOR_BASE := by decide
  have hcodes : ∀ code ∈ ([0, 1, 2, 3, 4, 5] : List Int32),
      ∃ result, knownAcquired.lookup code = some result :=
    lookup_of_all (by decide)
  have hunique : ∀ a b result, knownAcquired.lookup a = some result →
      knownAcquired.lookup b = some result → a = b := lookup_inj (by decide)
  have hgood : ∀ code, knownAcquired.lookup code = some .good → code = 0 :=
    fun code hlookup => hunique code 0 .good hlookup (by decide)
  obtain rfl | ⟨hlookup, hbase⟩ | ⟨hbase, hlookup⟩ := vendorFilter_inj hkeys hunique
    (ha.imp_left (hcodes a)) (hb.imp_left (hcodes b)) h
  · exact .inl rfl
  · exact .inr (.inl ⟨hgood a hlookup, hbase⟩)
  · exact .inr (.inr ⟨hbase, hgood b hlookup⟩)

section Notify

variable (devId : UInt64)

theorem invoked_single {msg : FingerprintMsg} (hdocumented : msg.type ∈ messageTypes) :
    ∃ callback, invoked devId msg = [callback] := by
  cases msg with
  | other type unknown => exact absurd hdocumented unknown
  | _ => exact ⟨_, rfl⟩

theorem invoked_collide {first second : FingerprintMsg} (h : Collide first second) :
    invoked devId first = invoked devId second ∧ Distinct first second := by
  rcases h with ⟨rfl, rfl⟩ | ⟨rfl, rfl⟩
  · exact ⟨rfl, .inr ⟨.inl (by decide), .inr (by decide), by decide⟩⟩
  · exact ⟨rfl, .inr ⟨.inr (by decide), .inl (by decide), by decide⟩⟩

theorem finger_eq {a b : FingerId} (hfid : a.fid = b.fid) (hgid : a.gid = b.gid) : a = b := by
  cases a
  cases b
  cases hfid
  cases hgid
  rfl

theorem not_differ {a b : FingerId} {count count' : UInt32} (hfid : a.fid = b.fid)
    (hgid : a.gid = b.gid) (hcount : count = count') : ¬(a ≠ b ∨ count ≠ count') :=
  not_or.mpr ⟨not_not_intro (finger_eq hfid hgid), not_not_intro hcount⟩

-- Equal invocations come from messages that agree in what is documented,
-- except for the one collision.
theorem invoked_eq {first second : FingerprintMsg} (hfirst : first.type ∈ messageTypes)
    (h : invoked devId first = invoked devId second) (hdistinct : Distinct first second) :
    Collide first second := by
  cases first with
  | error a =>
      cases second with
      | error b =>
          obtain ⟨ha, hb, hne⟩ := hdistinct.resolve_left (fun hne => hne rfl)
          simp only [invoked, List.cons.injEq, ClientCallback.onError.injEq] at h
          exact absurd (vendorErrorFilter_inj ha hb (Prod.ext h.1.2.1 h.1.2.2)) hne
      | _ => cases h
  | acquired a =>
      cases second with
      | acquired b =>
          obtain ⟨ha, hb, hne⟩ := hdistinct.resolve_left (fun hne => hne rfl)
          simp only [invoked, List.cons.injEq, ClientCallback.onAcquired.injEq] at h
          obtain rfl | ⟨rfl, rfl⟩ | ⟨rfl, rfl⟩ :=
            vendorAcquiredFilter_inj ha hb (Prod.ext h.1.2.1 h.1.2.2)
          · exact absurd rfl hne
          · exact .inl ⟨rfl, rfl⟩
          · exact .inr ⟨rfl, rfl⟩
      | _ => cases h
  | templateEnrolling a =>
      cases second with
      | templateEnrolling b =>
          have hne := hdistinct.resolve_left (fun hne => hne rfl)
          simp only [invoked, List.cons.injEq, ClientCallback.onEnrollResult.injEq] at h
          obtain ⟨⟨-, hfid, hgid, hremaining⟩, -⟩ := h
          exact absurd hne (not_differ hfid hgid hremaining)
      | _ => cases h
  | templateRemoved a =>
      cases second with
      | templateRemoved b =>
          have hne := hdistinct.resolve_left (fun hne => hne rfl)
          simp only [invoked, List.cons.injEq, ClientCallback.onRemoved.injEq] at h
          obtain ⟨⟨-, hfid, hgid, hremaining⟩, -⟩ := h
          exact absurd hne (not_differ hfid hgid hremaining)
      | _ => cases h
  | authenticated a =>
      cases second with
      | authenticated b =>
          have hne := hdistinct.resolve_left (fun hne => hne rfl)
          simp only [invoked, List.cons.injEq, ClientCallback.onAuthenticated.injEq] at h
          obtain ⟨⟨-, hfid, hgid, htoken⟩, -⟩ := h
          obtain hfinger | ⟨ha, hb, hhat⟩ := hne
          · exact absurd (finger_eq hfid hgid) hfinger
          · rw [Authenticated.token, if_pos ha, Authenticated.token, if_pos hb,
              Vector.toList_inj] at htoken
            exact absurd htoken hhat
      | _ => cases h
  | templateEnumerating a =>
      cases second with
      | templateEnumerating b =>
          have hne := hdistinct.resolve_left (fun hne => hne rfl)
          simp only [invoked, List.cons.injEq, ClientCallback.onEnumerate.injEq] at h
          obtain ⟨⟨-, hfid, hgid, hremaining⟩, -⟩ := h
          exact absurd hne (not_differ hfid hgid hremaining)
      | _ => cases h
  | other type unknown => exact absurd hfirst unknown

-- Each documented message leads to one callback, and distinct messages to
-- distinct ones, exactly when the pair does not collide.
theorem notify_faithful_iff (first second : FingerprintMsg) (hfirst : first.type ∈ messageTypes)
    (hsecond : second.type ∈ messageTypes) :
    ((∃ callback, notify true devId first = [callback]) ∧
      (∃ callback, notify true devId second = [callback]) ∧
      (Distinct first second → notify true devId first ≠ notify true devId second)) ↔
    ¬Collide first second := by
  have hnotify : ∀ msg, notify true devId msg = invoked devId msg := fun msg => if_pos rfl
  rw [hnotify, hnotify]
  constructor
  · rintro ⟨_, _, hfaithful⟩ hcollide
    obtain ⟨heq, hdistinct⟩ := invoked_collide devId hcollide
    exact hfaithful hdistinct heq
  · intro hcollide
    exact ⟨invoked_single devId hfirst, invoked_single devId hsecond,
      fun hdistinct heq => hcollide (invoked_eq devId hfirst heq hdistinct)⟩

end Notify

theorem notify_faithful_iff_errors :
    ((∃ callback, notify true 7 (.error 7) = [callback]) ∧
      (∃ callback, notify true 7 (.error 1007) = [callback]) ∧
      (Distinct (.error 7) (.error 1007) →
        notify true 7 (.error 7) ≠ notify true 7 (.error 1007))) ↔
    ¬Collide (.error 7) (.error 1007) :=
  notify_faithful_iff 7 (.error 7) (.error 1007) (by decide) (by decide)

theorem notify_good_vendor :
    ¬(Distinct (.acquired 0) (.acquired 1000) →
      notify true 7 (.acquired 0) ≠ notify true 7 (.acquired 1000)) :=
  fun h => h (invoked_collide 7 (.inl ⟨rfl, rfl⟩)).2 (invoked_collide 7 (.inl ⟨rfl, rfl⟩)).1

end Raphael.Fingerprint
