import HtmlComponent.Text.Casing

/-!
# What lower case leaves

The table of lower case, read backwards: which characters a given one can come from. No capital
letter of ASCII is left in a text in lower case, and nothing that lower case would change: to take
it twice is to take it once.
-/

namespace HtmlComponent.Text

theorem lowerCode_cases (n : Nat) :
    (lowerCode n = n ∧ ∀ run ∈ lowerRuns, run.covers n = false) ∨
    ∃ run ∈ lowerRuns, run.covers n = true ∧ lowerCode n = (n + run.shift).toNat := by
  unfold lowerCode
  cases hfind : lowerRuns.find? (·.covers n) with
  | none =>
    refine .inl ⟨rfl, fun run hrun => ?_⟩
    simpa using List.find?_eq_none.mp hfind run hrun
  | some run =>
    refine .inr ⟨run, List.mem_of_find?_eq_some hfind, ?_, rfl⟩
    simpa using List.find?_some hfind

theorem first_le_of_covers {run : CaseRun} {n : Nat} (h : run.covers n = true) : run.first ≤ n := by
  simp only [CaseRun.covers, Bool.and_eq_true, decide_eq_true_eq] at h
  exact h.1.1

theorem ninety_lt_first_add_shift {run : CaseRun} (h : run ∈ lowerRuns) :
    90 < (run.first : Int) + run.shift := by
  have htable : ∀ run ∈ lowerRuns, 90 < (run.first : Int) + run.shift := by decide +kernel
  exact htable run h

theorem lowerCode_not_capital (n : Nat) : lowerCode n < 65 ∨ 90 < lowerCode n := by
  rcases lowerCode_cases n with ⟨heq, hnone⟩ | ⟨run, hrun, hcovers, heq⟩
  · -- the capital letters are a run of the table, so they do not stay as they are
    have hcapitals : (⟨0x41, 0x5A, 1, 32⟩ : CaseRun) ∈ lowerRuns := List.mem_cons_self
    have hnot := hnone _ hcapitals
    simp only [CaseRun.covers, Nat.mod_one, beq_self_eq_true, Bool.and_true, Bool.and_eq_false_iff,
      decide_eq_false_iff_not, Nat.not_le] at hnot
    omega
  · -- every run leads to code points behind the capital letters
    have hfirst := first_le_of_covers hcovers
    have hlow := ninety_lt_first_add_shift hrun
    omega

/-! ## Capital letters -/

theorem isUpper_iff (c : Char) : c.isUpper = true ↔ 65 ≤ c.toNat ∧ c.toNat ≤ 90 := by
  change decide (65 ≤ c.val ∧ c.val ≤ 90) = true ↔ _
  rw [decide_eq_true_iff, UInt32.le_iff_toNat_le, UInt32.le_iff_toNat_le]
  exact Iff.rfl

theorem toNat_ofNat_cases (n : Nat) : (Char.ofNat n).toNat = n ∨ (Char.ofNat n).toNat = 0 := by
  by_cases hvalid : n.isValidChar
  · left
    rw [Char.ofNat, dif_pos hvalid]
    rfl
  · right
    rw [Char.ofNat, dif_neg hvalid]
    rfl

theorem isUpper_of_mem_lowerChar {c d : Char} (h : d ∈ lowerChar c) : d.isUpper = false := by
  unfold lowerChar at h
  split at h
  · -- the dotted capital I becomes two characters
    rw [List.mem_cons, List.mem_singleton] at h
    rcases h with rfl | rfl
    · decide
    · decide
  · rw [List.mem_singleton] at h
    subst h
    have hcode := lowerCode_not_capital c.toNat
    have hofNat := toNat_ofNat_cases (lowerCode c.toNat)
    rw [← Bool.not_eq_true, isUpper_iff]
    omega

theorem isUpper_of_mem_lowerFrom {before cs : List Char} {d : Char}
    (h : d ∈ lowerFrom before cs) : d.isUpper = false := by
  induction cs generalizing before with
  | nil => exact absurd h List.not_mem_nil
  | cons c cs ih =>
    rw [lowerFrom] at h
    rcases List.mem_append.mp h with h | h
    · split at h
      · -- both forms of the sigma are small
        rw [List.mem_singleton] at h
        subst h
        unfold lowerSigma
        split <;> decide
      · exact isUpper_of_mem_lowerChar h
    · exact ih h

theorem isUpper_of_mem_lower {s : String} {c : Char} (h : c ∈ (lower s).toList) :
    c.isUpper = false := by
  rw [lower, String.toList_ofList] at h
  exact isUpper_of_mem_lowerFrom h

/-! ## Characters before the small letters -/

theorem eq_of_mem_lowerChar {c d : Char} (hpos : 0 < d.toNat) (hlow : d.toNat ≤ 90)
    (h : d ∈ lowerChar c) : d = c := by
  unfold lowerChar at h
  split at h
  · rw [List.mem_cons, List.mem_singleton] at h
    rcases h with rfl | rfl
    · exact absurd hlow (by decide)
    · exact absurd hlow (by decide)
  · rw [List.mem_singleton] at h
    have hofNat := toNat_ofNat_cases (lowerCode c.toNat)
    rw [← h] at hofNat
    apply Char.toNat_inj.mp
    rcases lowerCode_cases c.toNat with ⟨heq, -⟩ | ⟨run, hrun, hcovers, heq⟩
    · omega
    · have hfirst := first_le_of_covers hcovers
      have hlow := ninety_lt_first_add_shift hrun
      omega

theorem mem_of_mem_lowerFrom {before cs : List Char} {d : Char} (hpos : 0 < d.toNat)
    (hlow : d.toNat ≤ 90) (h : d ∈ lowerFrom before cs) : d ∈ cs := by
  induction cs generalizing before with
  | nil => exact h
  | cons c cs ih =>
    rw [lowerFrom] at h
    rcases List.mem_append.mp h with h | h
    · split at h
      · -- both forms of the sigma come later
        rw [List.mem_singleton] at h
        rw [h, lowerSigma] at hlow
        split at hlow <;> exact absurd hlow (by decide)
      · rw [eq_of_mem_lowerChar hpos hlow h]
        exact List.mem_cons_self
    · exact List.mem_cons_of_mem _ (ih h)

/-- Lower case brings in no character of ASCII from before the small letters. -/
theorem mem_of_mem_lower {s : String} {d : Char} (hpos : 0 < d.toNat) (hlow : d.toNat ≤ 90)
    (h : d ∈ (lower s).toList) : d ∈ s.toList := by
  rw [lower, String.toList_ofList] at h
  exact mem_of_mem_lowerFrom hpos hlow h

/-! ## The letter g -/

theorem eq_of_lowerCode_eq {n : Nat} (h : lowerCode n = 103) : n = 103 ∨ n = 71 := by
  rcases lowerCode_cases n with ⟨heq, -⟩ | ⟨run, hrun, hcovers, heq⟩
  · omega
  · have htable : ∀ run ∈ lowerRuns, run.covers (103 - run.shift).toNat = true →
        (103 - run.shift).toNat = 71 := by decide +kernel
    have hn : n = (103 - run.shift).toNat := by omega
    right
    rw [hn] at hcovers ⊢
    exact htable run hrun hcovers

/-- Only the letter itself and its capital become a small g. -/
theorem lowerChar_append_eq_g {c : Char} {cs ds : List Char}
    (h : lowerChar c ++ cs = 'g' :: ds) : (c = 'g' ∨ c = 'G') ∧ cs = ds := by
  unfold lowerChar at h
  split at h
  · rw [List.cons_append, List.cons.injEq] at h
    exact absurd h.1 (by decide)
  · rw [List.singleton_append, List.cons.injEq] at h
    refine ⟨?_, h.2⟩
    have hcode : lowerCode c.toNat = 103 := by
      have hofNat := toNat_ofNat_cases (lowerCode c.toNat)
      rw [h.1] at hofNat
      have hg : 'g'.toNat = 103 := rfl
      omega
    rcases eq_of_lowerCode_eq hcode with hc | hc
    · exact .inl (Char.toNat_inj.mp hc)
    · exact .inr (Char.toNat_inj.mp hc)

/-! ## Lower case twice -/

theorem covers_iff {run : CaseRun} {n : Nat} : run.covers n = true ↔
    run.first ≤ n ∧ n ≤ run.last ∧ run.step ∣ n - run.first := by
  simp only [CaseRun.covers, Bool.and_eq_true, decide_eq_true_eq, beq_iff_eq, and_assoc,
    Nat.dvd_iff_mod_eq_zero]

/-- The code points that a run leads to, as a run that leaves them alone. -/
def CaseRun.image (run : CaseRun) : CaseRun :=
  ⟨(run.first + run.shift).toNat, (run.last + run.shift).toNat, run.step, 0⟩

/-- Whether the bounds and steps of two runs show that they have no code point in common: one ends
before the other starts, or the steps of the first all fall between those of the second. -/
def CaseRun.apart (r s : CaseRun) : Bool :=
  Nat.blt r.last s.first || (Nat.blt s.last r.first ||
    (r.step % s.step == 0 || r.first == r.last) && (r.first - s.first) % s.step != 0)

theorem covers_image {run : CaseRun} {n : Nat} (hpos : 0 ≤ (run.first : Int) + run.shift)
    (h : run.covers n = true) : run.image.covers (n + run.shift).toNat = true := by
  rw [covers_iff] at h ⊢
  have hstep : (n + run.shift).toNat - run.image.first = n - run.first := by
    show (n + run.shift).toNat - (run.first + run.shift).toNat = n - run.first
    omega
  refine ⟨?_, ?_, hstep ▸ h.2.2⟩
  · show (run.first + run.shift).toNat ≤ (n + run.shift).toNat
    omega
  · show (n + run.shift).toNat ≤ (run.last + run.shift).toNat
    omega

theorem covers_eq_false_of_apart {r s : CaseRun} {n : Nat} (h : r.apart s = true)
    (hr : r.covers n = true) : s.covers n = false := by
  rw [← Bool.not_eq_true, covers_iff]
  rw [covers_iff] at hr
  rintro ⟨hfirst, hlast, hstep⟩
  simp only [CaseRun.apart, Bool.or_eq_true, Bool.and_eq_true, Nat.blt_eq, beq_iff_eq, bne_iff_ne]
    at h
  rcases h with h | h | ⟨hsteps, hbetween⟩
  · omega
  · omega
  · -- both runs step to `n`, so the second would step to the start of the first as well
    apply hbetween
    apply Nat.mod_eq_zero_of_dvd
    have hgap : r.first - s.first = (n - s.first) - (n - r.first) := by omega
    rw [hgap]
    apply Nat.dvd_sub hstep
    rcases hsteps with hsteps | hsingle
    · exact Nat.dvd_trans (Nat.dvd_of_mod_eq_zero hsteps) hr.2.2
    · have hzero : n - r.first = 0 := by omega
      rw [hzero]
      exact Nat.dvd_zero _

/-- What the table leads to, it does not lead any further. -/
theorem covers_lowerCode (n : Nat) {run : CaseRun} (hrun : run ∈ lowerRuns) :
    run.covers (lowerCode n) = false := by
  rcases lowerCode_cases n with ⟨heq, hnone⟩ | ⟨given, hgiven, hcovers, heq⟩
  · rw [heq]
    exact hnone run hrun
  · have htable : (lowerRuns.all fun r => lowerRuns.all r.image.apart) = true := by decide +kernel
    simp only [List.all_eq_true] at htable
    have hlow := ninety_lt_first_add_shift hgiven
    rw [heq]
    exact covers_eq_false_of_apart (htable given hgiven run hrun) (covers_image (by omega) hcovers)

/-- Whether a character is its own lower case. -/
def isLowered (c : Char) : Bool :=
  c != '\u0130' && lowerRuns.all fun run => !run.covers c.toNat

theorem lowerChar_of_isLowered {c : Char} (h : isLowered c = true) : lowerChar c = [c] := by
  simp only [isLowered, Bool.and_eq_true, bne_iff_ne, ne_eq, List.all_eq_true,
    Bool.not_eq_true'] at h
  rw [lowerChar, if_neg (by simpa using h.1)]
  rcases lowerCode_cases c.toNat with ⟨heq, -⟩ | ⟨run, hrun, hcovers, -⟩
  · rw [heq, Char.ofNat_toNat]
  · rw [h.2 run hrun] at hcovers
    cases hcovers

theorem isLowered_of_mem_lowerChar {c d : Char} (h : d ∈ lowerChar c) : isLowered d = true := by
  unfold lowerChar at h
  split at h
  · rw [List.mem_cons, List.mem_singleton] at h
    rcases h with rfl | rfl
    · decide +kernel
    · decide +kernel
  · rename_i hdotted
    rw [List.mem_singleton] at h
    rcases toNat_ofNat_cases (lowerCode c.toNat) with hd | hd
    · rw [← h] at hd
      simp only [isLowered, Bool.and_eq_true, bne_iff_ne, List.all_eq_true, Bool.not_eq_true', hd]
      refine ⟨?_, fun run hrun => covers_lowerCode c.toNat hrun⟩
      rintro rfl
      -- no run covers the dotted capital I, so that no run leads to it is a fact of its own
      have hcode : lowerCode c.toNat = 0x130 := hd.symm
      rcases lowerCode_cases c.toNat with ⟨heq, -⟩ | ⟨run, hrun, hcovers, heq⟩
      · have hc : c = '\u0130' := Char.toNat_inj.mp (heq.symm.trans hcode)
        exact hdotted (beq_iff_eq.mpr hc)
      · have htable : ∀ run ∈ lowerRuns, run.image.covers 0x130 = false := by decide +kernel
        have hlow := ninety_lt_first_add_shift hrun
        have himage := covers_image (by omega) hcovers
        rw [← heq, hcode, htable run hrun] at himage
        cases himage
    · -- no such code point
      have hzero : d = '\x00' := by
        rw [h]
        exact Char.toNat_inj.mp hd
      rw [hzero]
      decide +kernel

theorem isLowered_of_mem_lowerFrom {before cs : List Char} {d : Char}
    (h : d ∈ lowerFrom before cs) : isLowered d = true := by
  induction cs generalizing before with
  | nil => exact absurd h List.not_mem_nil
  | cons c cs ih =>
    rw [lowerFrom] at h
    rcases List.mem_append.mp h with h | h
    · split at h
      · rw [List.mem_singleton] at h
        rw [h, lowerSigma]
        split <;> decide +kernel
      · exact isLowered_of_mem_lowerChar h
    · exact ih h

/-- A capital sigma is not lowered, so none is left whose place in the word could matter. -/
theorem lowerFrom_of_isLowered (before : List Char) {cs : List Char}
    (h : ∀ c ∈ cs, isLowered c = true) : lowerFrom before cs = cs := by
  induction cs generalizing before with
  | nil => rfl
  | cons c cs ih =>
    rw [List.forall_mem_cons] at h
    have hsigma : c ≠ 'Σ' := by
      rintro rfl
      exact absurd h.1 (by decide +kernel)
    rw [lowerFrom, if_neg (by simpa using hsigma), lowerChar_of_isLowered h.1, ih _ h.2]
    rfl

theorem lower_lower (s : String) : lower (lower s) = lower s := by
  rw [lower, lower, String.toList_ofList,
    lowerFrom_of_isLowered [] fun _ hc => isLowered_of_mem_lowerFrom hc]

end HtmlComponent.Text
