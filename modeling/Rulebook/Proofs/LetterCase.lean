import Rulebook.Pattern

/-!
# Ranges of ASCII without regard to case

When case is disregarded, a range of code points may hold characters from far away: the Kelvin sign is a
`k`, the long s and the dotless i are an `s` and an `i`, and so is the dotted capital I.  These are the only
ones that count as the same letter as one of ASCII.  So a range without these three letters, and without
capital ones, holds what a lower-case letter of ASCII puts there and nothing else
(`CharItem.holds_range_anyCase`).
-/

set_option autoImplicit false

namespace Rulebook

namespace Text

variable {m n : Nat}

/-- A code point of ASCII, no capital letter, that no character outside ASCII is a variant of. -/
structure CaseInAscii (m : Nat) : Prop where
  ascii : m < 0x80
  notCapital : ¬ (0x41 ≤ m ∧ m ≤ 0x5a)
  notShared : m ≠ 0x69 ∧ m ≠ 0x6b ∧ m ≠ 0x73

/-- A run of capital letters is that of ASCII, or it lies behind ASCII and so do its lower-case letters,
but for the dotted capital I and the Kelvin sign. -/
theorem caseRuns_cases : ∀ r ∈ caseRuns, (r.first = 0x41 ∧ r.last = 0x5a) ∨
    0x80 ≤ r.first ∧ (0x80 ≤ r.first + r.shift ∨
      r.last = r.first ∧ (r.first + r.shift = 0x69 ∨ r.first + r.shift = 0x6b)) := by
  decide +kernel

theorem CaseRun.holds_bounds {r : CaseRun} (h : r.holds n = true) : r.first ≤ n ∧ n ≤ r.last := by
  simp only [CaseRun.holds, Bool.and_eq_true, decide_eq_true_eq] at h
  exact h.1

theorem CaseInAscii.not_mem_upperCodes (hm : CaseInAscii m) (l : Nat) : m ∉ upperCodes l := by
  intro h
  obtain ⟨r, hr, h⟩ := List.mem_filterMap.mp h
  obtain ⟨hholds, hm'⟩ := Option.ite_none_right_eq_some.mp h
  obtain rfl := Option.some.inj hm'
  have hbounds := CaseRun.holds_bounds hholds
  have := hm.ascii
  have := hm.notCapital
  have := caseRuns_cases r hr
  omega

theorem CaseInAscii.lowerCode_eq_iff (hm : CaseInAscii m) :
    lowerCode n = m ↔ asciiLowerCode n = m := by
  by_cases hn : n < 0x80
  · rw [lowerCode, if_pos hn, asciiLowerCode]
  · have hascii := hm.ascii
    rw [lowerCode, if_neg hn, asciiLowerCode, if_neg (by omega)]
    split
    · rename_i r hfind
      have hholds : r.holds n = true := by simpa using List.find?_some hfind
      have hbounds := CaseRun.holds_bounds hholds
      have := caseRuns_cases r (List.mem_of_find?_eq_some hfind)
      have := hm.notShared
      simp only [Int.ofNat_eq_natCast]
      omega
    · rfl

/-- Of the lower-case letters of ASCII only `i` and `s` have kin. -/
theorem kinsfolk_ascii : ∀ ks ∈ kinsfolk, ∀ k ∈ ks, k < 0x80 → k = 0x69 ∨ k = 0x73 := by
  decide

theorem CaseInAscii.mem_lowerKin_iff (hm : CaseInAscii m) : m ∈ lowerKin n ↔ n = m := by
  rw [lowerKin]
  split
  · rename_i ks hfind
    have hnot : m ∉ ks := by
      intro h
      have := kinsfolk_ascii ks (List.mem_of_find?_eq_some hfind) m h hm.ascii
      have := hm.notShared
      omega
    have hn : n ∈ ks := by simpa using List.find?_some hfind
    exact iff_of_false hnot fun h ↦ hnot (h ▸ hn)
  · rw [List.mem_singleton, eq_comm]

/-- **What has its case in ASCII** is a variant of the characters that have it for lower-case letter within
ASCII. -/
theorem CaseInAscii.mem_caseVariants_iff (hm : CaseInAscii m) :
    m ∈ caseVariants n ↔ asciiLowerCode n = m := by
  simp only [caseVariants, List.mem_flatMap, List.mem_cons, hm.not_mem_upperCodes, or_false,
    exists_eq_right', hm.mem_lowerKin_iff, hm.lowerCode_eq_iff]

end Text

namespace CharItem

variable {low high : Nat} {c : Char}

theorem holds_range_exact :
    (range low high).holds .exact c = true ↔ low ≤ c.toNat ∧ c.toNat ≤ high := by
  simp [holds, CaseRule.variants]

/-- **A range whose case is in ASCII** holds the characters of ASCII whose lower-case letter lies in it. -/
theorem holds_range_anyCase (h : ∀ m, low ≤ m → m ≤ high → Text.CaseInAscii m) :
    (range low high).holds .anyCase c = true ↔
      low ≤ Text.asciiLowerCode c.toNat ∧ Text.asciiLowerCode c.toNat ≤ high := by
  simp only [holds, CaseRule.variants, List.any_eq_true, Bool.and_eq_true, decide_eq_true_eq]
  constructor
  · rintro ⟨m, hm, hlow, hhigh⟩
    rw [(h m hlow hhigh).mem_caseVariants_iff.mp hm]
    exact ⟨hlow, hhigh⟩
  · rintro ⟨hlow, hhigh⟩
    exact ⟨_, (h _ hlow hhigh).mem_caseVariants_iff.mpr rfl, hlow, hhigh⟩

/-- Digits and signs are the same in any case. -/
theorem holds_range_anyCase_of_lt (hhigh : high < 0x41) :
    (range low high).holds .anyCase c = true ↔ low ≤ c.toNat ∧ c.toNat ≤ high := by
  rw [holds_range_anyCase fun m _ hm ↦ ⟨by omega, by omega, by omega⟩, Text.asciiLowerCode]
  split <;> omega

/-- The letters before `i` are, besides those of their range, the capital ones. -/
theorem holds_range_anyCase_of_letters (hlow : 0x61 ≤ low) (hhigh : high < 0x69) :
    (range low high).holds .anyCase c = true ↔ (low ≤ c.toNat ∧ c.toNat ≤ high) ∨
      (low ≤ c.toNat + 0x20 ∧ c.toNat + 0x20 ≤ high) := by
  rw [holds_range_anyCase fun m _ _ ↦ ⟨by omega, by omega, by omega⟩, Text.asciiLowerCode]
  split <;> omega

end CharItem
end Rulebook
