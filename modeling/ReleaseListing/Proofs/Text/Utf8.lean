import Mathlib.Tactic.SplitIfs
import ReleaseListing.Text.Utf8

/-!
# Bytes that are written are read

What encodes characters is read as these characters (`decode?_encode`): one character is read off
the bytes that encode it, whatever follows (`pieces_encodeChar`).
-/

namespace ReleaseListing.Text.Utf8

variable {n need acc : Nat} {lo hi : UInt8} {bs : List UInt8}

/-! ## Bytes as numbers -/

theorem toNat_ofNat (hn : n < 256) : (UInt8.ofNat n).toNat = n := by
  simp only [UInt8.toNat_ofNat']
  omega

theorem first_ofNat (hn : n < 256) : first (UInt8.ofNat n) =
    if n < 0x80 then ([some (Char.ofNat n)], .start)
    else if n < 0xC2 then ([none], .start)
    else if n < 0xE0 then ([], .within 1 0x80 0xBF (n % 0x20))
    else if n = 0xE0 then ([], .within 2 0xA0 0xBF (n % 0x10))
    else if n = 0xED then ([], .within 2 0x80 0x9F (n % 0x10))
    else if n < 0xF0 then ([], .within 2 0x80 0xBF (n % 0x10))
    else if n = 0xF0 then ([], .within 3 0x90 0xBF (n % 0x08))
    else if n < 0xF4 then ([], .within 3 0x80 0xBF (n % 0x08))
    else if n = 0xF4 then ([], .within 3 0x80 0x8F (n % 0x08))
    else ([none], .start) := by
  unfold first
  simp only [UInt8.lt_iff_toNat_lt, beq_iff_eq, ← UInt8.toNat_inj, toNat_ofNat hn]
  rfl

/-- A byte that was due. -/
theorem pieces_due (hn : n < 256) (hlo : lo.toNat ≤ n) (hhi : n ≤ hi.toNat) :
    pieces (.within need lo hi acc) (UInt8.ofNat n :: bs) =
      if need ≤ 1 then some (Char.ofNat (acc * 0x40 + n % 0x40)) :: pieces .start bs
      else pieces (.within (need - 1) 0x80 0xBF (acc * 0x40 + n % 0x40)) bs := by
  have hdue : (lo ≤ UInt8.ofNat n && UInt8.ofNat n ≤ hi) = true := by
    simp only [Bool.and_eq_true, decide_eq_true_eq, UInt8.le_iff_toNat_le, toNat_ofNat hn]
    exact ⟨hlo, hhi⟩
  rw [pieces, if_pos hdue, toNat_ofNat hn]

theorem pieces_first {rest : State} (h : first (UInt8.ofNat n) = ([], rest)) :
    pieces .start (UInt8.ofNat n :: bs) = pieces rest bs := by
  rw [pieces, h]
  rfl

/-- The first of three bytes: the next one is neither the start of a shorter encoding nor of a
surrogate. -/
theorem first_three {k : Nat} (hk : k < 16) : ∃ lo hi,
    first (UInt8.ofNat (k + 224)) = ([], .within 2 lo hi k) ∧
      lo.toNat = (if k = 0 then 0xA0 else 0x80) ∧ hi.toNat = (if k = 13 then 0x9F else 0xBF) := by
  have hmod : (k + 224) % 0x10 = k := by omega
  rw [first_ofNat (by omega), if_neg (by omega), if_neg (by omega), if_neg (by omega), hmod]
  by_cases h₀ : k = 0
  · exact ⟨0xA0, 0xBF, by rw [if_pos (by omega)], by rw [if_pos h₀]; rfl,
      by rw [if_neg (by omega)]; rfl⟩
  by_cases h₁₃ : k = 13
  · exact ⟨0x80, 0x9F, by rw [if_neg (by omega), if_pos (by omega)], by rw [if_neg h₀]; rfl,
      by rw [if_pos h₁₃]; rfl⟩
  · exact ⟨0x80, 0xBF, by rw [if_neg (by omega), if_neg (by omega), if_pos (by omega)],
      by rw [if_neg h₀]; rfl, by rw [if_neg h₁₃]; rfl⟩

/-- The first of four bytes: the next one is neither the start of a shorter encoding nor of what is
no character. -/
theorem first_four {k : Nat} (hk : k < 5) : ∃ lo hi,
    first (UInt8.ofNat (k + 240)) = ([], .within 3 lo hi k) ∧
      lo.toNat = (if k = 0 then 0x90 else 0x80) ∧ hi.toNat = (if k = 4 then 0x8F else 0xBF) := by
  have hmod : (k + 240) % 0x08 = k := by omega
  rw [first_ofNat (by omega), if_neg (by omega), if_neg (by omega), if_neg (by omega),
    if_neg (by omega), if_neg (by omega), if_neg (by omega), hmod]
  by_cases h₀ : k = 0
  · exact ⟨0x90, 0xBF, by rw [if_pos (by omega)], by rw [if_pos h₀]; rfl,
      by rw [if_neg (by omega)]; rfl⟩
  by_cases h₄ : k = 4
  · exact ⟨0x80, 0x8F, by rw [if_neg (by omega), if_neg (by omega), if_pos (by omega)],
      by rw [if_neg h₀]; rfl, by rw [if_pos h₄]; rfl⟩
  · exact ⟨0x80, 0xBF, by rw [if_neg (by omega), if_pos (by omega)], by rw [if_neg h₀]; rfl,
      by rw [if_neg h₄]; rfl⟩

/-! ## Characters -/

/-- The bytes of a character are read as it, whatever follows. -/
theorem pieces_encodeChar (c : Char) (bs : List UInt8) :
    pieces .start (String.utf8EncodeChar c ++ bs) = some c :: pieces .start bs := by
  have hvalid : c.val.toNat < 0xD800 ∨ (0xDFFF < c.val.toNat ∧ c.val.toNat < 0x110000) := c.valid
  have hc : Char.ofNat c.val.toNat = c := Char.ofNat_toNat c
  unfold String.utf8EncodeChar
  generalize c.val.toNat = v at hvalid hc
  dsimp only
  have htail : ∀ {k : Nat}, (0x80 : UInt8).toNat ≤ k % 64 + 128 ∧
      k % 64 + 128 ≤ (0xBF : UInt8).toNat := by
    intro k
    show 128 ≤ _ ∧ _ ≤ 191
    omega
  split_ifs with h₁ h₂ h₃
  · have hfirst : first (UInt8.ofNat v) = ([some c], .start) := by
      rw [first_ofNat (by omega), if_pos (by omega), hc]
    rw [List.cons_append, List.nil_append, pieces, hfirst]
    rfl
  · have hfirst : first (UInt8.ofNat (v / 64 % 32 + 192)) = ([], .within 1 0x80 0xBF (v / 64)) := by
      rw [first_ofNat (by omega), if_neg (by omega), if_neg (by omega), if_pos (by omega)]
      congr 2
      omega
    rw [List.cons_append, pieces_first hfirst, List.cons_append,
      pieces_due (by omega) htail.1 htail.2, if_pos (by decide)]
    rw [← hc]
    congr 3
    omega
  · obtain ⟨lo, hi, hfirst, hlo, hhi⟩ := first_three (k := v / 4096 % 16) (by omega)
    rw [List.cons_append, pieces_first hfirst, List.cons_append,
      pieces_due (by omega) (by rw [hlo]; split_ifs <;> omega) (by rw [hhi]; split_ifs <;> omega),
      if_neg (by decide), List.cons_append, pieces_due (by omega) htail.1 htail.2,
      if_pos (by decide), ← hc]
    congr 3
    omega
  · obtain ⟨lo, hi, hfirst, hlo, hhi⟩ := first_four (k := v / 262144 % 8) (by omega)
    rw [List.cons_append, pieces_first hfirst, List.cons_append,
      pieces_due (by omega) (by rw [hlo]; split_ifs <;> omega) (by rw [hhi]; split_ifs <;> omega),
      if_neg (by decide), List.cons_append, pieces_due (by omega) htail.1 htail.2,
      if_neg (by decide), List.cons_append, pieces_due (by omega) htail.1 htail.2,
      if_pos (by decide), ← hc]
    congr 3
    omega

theorem pieces_encode (cs : List Char) : pieces .start (encode cs) = cs.map some := by
  induction cs with
  | nil => rfl
  | cons c cs ih =>
    rw [encode, List.flatMap_cons, pieces_encodeChar]
    exact congrArg (some c :: ·) ih

/-- What encodes characters is read as these characters. -/
theorem decode?_encode (cs : List Char) : decode? (encode cs) = some cs := by
  rw [decode?, pieces_encode]
  induction cs with
  | nil => rfl
  | cons c cs ih => simp [ih]

end ReleaseListing.Text.Utf8
