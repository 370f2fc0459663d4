import ReactScaffold.Text.Utf8
import ReactScaffold.Text.LineEnding
import Mathlib

/-!
# Written text is read back

Octets that were written for characters are decoded as these characters. A text with no carriage
return keeps its line endings.
-/

namespace ReactScaffold.Text

namespace Utf8

theorem toNat_octet {n : Nat} (h : n < 256) : (UInt8.ofNat n).toNat = n :=
  UInt8.toNat_ofNat_of_lt h

theorem begin?_two {b : UInt8} (hlow : 0xC2 ≤ b.toNat) (hhigh : b.toNat ≤ 0xDF) :
    begin? b = some ⟨1, 0x80, 0xBF, b.toNat - 0xC0, [b]⟩ := by
  simp [begin?, hlow, hhigh]

/-- A first octet of three allows every second octet but those of shorter forms and of surrogate
halves. -/
theorem begin?_three {b : UInt8} (hlow : 0xE0 ≤ b.toNat) (hhigh : b.toNat ≤ 0xEF) :
    begin? b = some ⟨2, if b.toNat = 0xE0 then 0xA0 else 0x80,
      if b.toNat = 0xED then 0x9F else 0xBF, b.toNat - 0xE0, [b]⟩ := by
  have htwo : ¬ b.toNat ≤ 0xDF := by omega
  by_cases h0 : b.toNat = 0xE0
  · simp [begin?, h0]
  · by_cases hD : b.toNat = 0xED
    · simp [begin?, hD]
    · have hrange : 0xE1 ≤ b.toNat := by omega
      simp [begin?, htwo, h0, hD, hrange, hhigh]

/-- A first octet of four allows every second octet but those of shorter forms and of numbers that
are too large. -/
theorem begin?_four {b : UInt8} (hlow : 0xF0 ≤ b.toNat) (hhigh : b.toNat ≤ 0xF4) :
    begin? b = some ⟨3, if b.toNat = 0xF0 then 0x90 else 0x80,
      if b.toNat = 0xF4 then 0x8F else 0xBF, b.toNat - 0xF0, [b]⟩ := by
  have htwo : ¬ b.toNat ≤ 0xDF := by omega
  have hthree : ¬ b.toNat ≤ 0xEF := by omega
  by_cases h0 : b.toNat = 0xF0
  · simp [begin?, h0]
  · by_cases hF : b.toNat = 0xF4
    · simp [begin?, hF]
    · have hE : b.toNat ≠ 0xE0 := by omega
      have hD : b.toNat ≠ 0xED := by omega
      have hrange : 0xF1 ≤ b.toNat ∧ b.toNat ≤ 0xF3 := by omega
      simp [begin?, htwo, hthree, h0, hF, hE, hD, hrange]

theorem scan_begin {b : UInt8} {begun : Begun} (hb : begin? b = some begun)
    (hlow : 0x80 ≤ b.toNat) (rest : List UInt8) :
    scan none (b :: rest) = scan (some begun) rest := by
  have hfirst : first b = ([], some begun) := by
    rw [first, if_neg (by omega), hb]
  rw [scan, hfirst]
  rfl

/-- An octet in the range of a character begun continues it. -/
theorem scan_extend {owed low high bits : Nat} {octets : List UInt8} {b : UInt8}
    (howed : 1 < owed) (hlow : low ≤ b.toNat) (hhigh : b.toNat ≤ high) (rest : List UInt8) :
    scan (some ⟨owed, low, high, bits, octets⟩) (b :: rest) =
      scan (some ⟨owed - 1, 0x80, 0xBF, bits * 0x40 + (b.toNat - 0x80), b :: octets⟩) rest := by
  have hextend : extend ⟨owed, low, high, bits, octets⟩ b =
      ([], some ⟨owed - 1, 0x80, 0xBF, bits * 0x40 + (b.toNat - 0x80), b :: octets⟩) := by
    have : ¬ owed ≤ 1 := by omega
    simp [extend, hlow, hhigh, this]
  rw [scan, hextend]
  rfl

/-- The last octet of a character completes it. -/
theorem scan_complete {low high bits : Nat} {octets : List UInt8} {b : UInt8}
    (hlow : low ≤ b.toNat) (hhigh : b.toNat ≤ high) (rest : List UInt8) :
    scan (some ⟨1, low, high, bits, octets⟩) (b :: rest) =
      .char (Char.ofNat (bits * 0x40 + (b.toNat - 0x80))) :: scan none rest := by
  have hextend : extend ⟨1, low, high, bits, octets⟩ b =
      ([.char (Char.ofNat (bits * 0x40 + (b.toNat - 0x80)))], none) := by
    simp [extend, hlow, hhigh]
  rw [scan, hextend]
  rfl

theorem char_toNat_bounds (c : Char) :
    c.toNat < 0xD800 ∨ (0xDFFF < c.toNat ∧ c.toNat < 0x110000) := c.valid

section Numbers

variable {n : Nat} (rest : List UInt8)

theorem scan_one (h : n < 0x80) :
    scan none (UInt8.ofNat n :: rest) = .char (Char.ofNat n) :: scan none rest := by
  have hoctet := toNat_octet (n := n) (by omega)
  have hfirst : first (UInt8.ofNat n) = ([.char (Char.ofNat n)], none) := by
    rw [first, hoctet, if_pos h]
  rw [scan, hfirst]
  rfl

theorem scan_two (hlow : 0x80 ≤ n) (hhigh : n < 0x800) :
    scan none (UInt8.ofNat (0xC0 + n / 0x40) :: UInt8.ofNat (0x80 + n % 0x40) :: rest) =
      .char (Char.ofNat n) :: scan none rest := by
  have ha := toNat_octet (n := 0xC0 + n / 0x40) (by omega)
  have hb := toNat_octet (n := 0x80 + n % 0x40) (by omega)
  have hbegin := begin?_two (b := UInt8.ofNat (0xC0 + n / 0x40)) (by omega) (by omega)
  have hbits : ((0xC0 + n / 0x40) - 0xC0) * 0x40 + (0x80 + n % 0x40 - 0x80) = n := by omega
  rw [scan_begin hbegin (by omega), scan_complete (by omega) (by omega), ha, hb, hbits]

/-- The second of three octets is allowed unless the number is one of a surrogate half. -/
theorem scan_three (hlow : 0x800 ≤ n) (hhigh : n < 0x10000) (hhalf : n < 0xD800 ∨ 0xDFFF < n) :
    scan none (UInt8.ofNat (0xE0 + n / 0x1000) :: UInt8.ofNat (0x80 + n / 0x40 % 0x40) ::
      UInt8.ofNat (0x80 + n % 0x40) :: rest) = .char (Char.ofNat n) :: scan none rest := by
  have ha := toNat_octet (n := 0xE0 + n / 0x1000) (by omega)
  have hb := toNat_octet (n := 0x80 + n / 0x40 % 0x40) (by omega)
  have hc := toNat_octet (n := 0x80 + n % 0x40) (by omega)
  have hbegin := begin?_three (b := UInt8.ofNat (0xE0 + n / 0x1000)) (by omega) (by omega)
  have hbits : (((0xE0 + n / 0x1000) - 0xE0) * 0x40 + (0x80 + n / 0x40 % 0x40 - 0x80)) * 0x40 +
      (0x80 + n % 0x40 - 0x80) = n := by omega
  rw [scan_begin hbegin (by omega),
    scan_extend (by omega) (by split_ifs <;> omega) (by split_ifs <;> omega),
    scan_complete (by omega) (by omega), ha, hb, hc, hbits]

theorem scan_four (hlow : 0x10000 ≤ n) (hhigh : n < 0x110000) :
    scan none (UInt8.ofNat (0xF0 + n / 0x40000) :: UInt8.ofNat (0x80 + n / 0x1000 % 0x40) ::
      UInt8.ofNat (0x80 + n / 0x40 % 0x40) :: UInt8.ofNat (0x80 + n % 0x40) :: rest) =
      .char (Char.ofNat n) :: scan none rest := by
  have ha := toNat_octet (n := 0xF0 + n / 0x40000) (by omega)
  have hb := toNat_octet (n := 0x80 + n / 0x1000 % 0x40) (by omega)
  have hc := toNat_octet (n := 0x80 + n / 0x40 % 0x40) (by omega)
  have hd := toNat_octet (n := 0x80 + n % 0x40) (by omega)
  have hbegin := begin?_four (b := UInt8.ofNat (0xF0 + n / 0x40000)) (by omega) (by omega)
  have hbits : ((((0xF0 + n / 0x40000) - 0xF0) * 0x40 + (0x80 + n / 0x1000 % 0x40 - 0x80)) * 0x40
      + (0x80 + n / 0x40 % 0x40 - 0x80)) * 0x40 + (0x80 + n % 0x40 - 0x80) = n := by omega
  rw [scan_begin hbegin (by omega),
    scan_extend (by omega) (by split_ifs <;> omega) (by split_ifs <;> omega),
    scan_extend (by omega) (by omega) (by omega), scan_complete (by omega) (by omega), ha, hb, hc,
    hd, hbits]

end Numbers

theorem scan_encodeChar (c : Char) (rest : List UInt8) :
    scan none (encodeChar c ++ rest) = .char c :: scan none rest := by
  have hback : Char.ofNat c.toNat = c := Char.ofNat_toNat c
  have hvalid := char_toNat_bounds c
  unfold encodeChar
  dsimp only
  generalize c.toNat = n at hback hvalid ⊢
  subst hback
  split_ifs with h1 h2 h3
  · exact scan_one rest h1
  · exact scan_two rest (by omega) h2
  · exact scan_three rest (by omega) h3 (by omega)
  · exact scan_four rest (by omega) (by omega)

theorem scan_encode (cs : List Char) : scan none (encode cs) = cs.map .char := by
  induction cs with
  | nil => rfl
  | cons c cs ih =>
      have hencode : encode (c :: cs) = encodeChar c ++ encode cs := List.flatMap_cons
      rw [hencode, scan_encodeChar, ih, List.map_cons]

theorem strict_map_char (start : Nat) (cs : List Char) : strict start (cs.map .char) = .ok cs := by
  induction cs generalizing start with
  | nil => rfl
  | cons c cs ih =>
      rw [List.map_cons, strict, ih]
      rfl

/-- The octets of characters are decoded as these characters. -/
theorem decode_encode (cs : List Char) : decode (encode cs) = .ok cs := by
  rw [decode, scan_encode, strict_map_char]

theorem encodeWideFrom_ofChars (start : Nat) (cs : List Char) :
    encodeWideFrom start (WideText.ofChars cs) = .ok (encode cs) := by
  induction cs generalizing start with
  | nil => rfl
  | cons c cs ih =>
      show (encodeWideFrom (start + 1) (WideText.ofChars cs)).map (encodeChar c ++ ·) = _
      rw [ih]
      rfl

theorem encodeWideFrom_eq_ok {start : Nat} {t : WideText} {octets : List UInt8}
    (h : encodeWideFrom start t = .ok octets) :
    ∃ cs, t = WideText.ofChars cs ∧ octets = encode cs := by
  induction t generalizing start octets with
  | nil =>
      obtain rfl : [] = octets := Except.ok.inj h
      exact ⟨[], rfl, rfl⟩
  | cons p t ih =>
      cases p with
      | half n => cases h
      | scalar c =>
        rw [encodeWideFrom] at h
        cases hrest : encodeWideFrom (start + 1) t with
        | error e =>
            rw [hrest] at h
            cases h
        | ok rest =>
            obtain ⟨cs, rfl, rfl⟩ := ih hrest
            rw [hrest] at h
            obtain rfl := Except.ok.inj h
            exact ⟨c :: cs, rfl, rfl⟩

/-- Just the texts of characters have octets. -/
theorem encodeWide_eq_ok_iff {t : WideText} {octets : List UInt8} :
    encodeWide t = .ok octets ↔ ∃ cs, t = WideText.ofChars cs ∧ octets = encode cs := by
  constructor
  · exact encodeWideFrom_eq_ok
  · rintro ⟨cs, rfl, rfl⟩
    exact encodeWideFrom_ofChars 0 cs

theorem encodeWide_ofString (s : String) :
    encodeWide (WideText.ofString s) = .ok (encode s.toList) :=
  encodeWide_eq_ok_iff.2 ⟨_, rfl, rfl⟩

end Utf8

/-- Text without carriage returns keeps its line endings. -/
theorem normalizeLineEndings_of_notMem {cs : List Char} (h : '\r' ∉ cs) :
    normalizeLineEndings cs = cs := by
  induction cs with
  | nil => rfl
  | cons c cs ih =>
      have hc : c ≠ '\r' := fun he => h (by simp [he])
      have hcs : '\r' ∉ cs := fun hmem => h (List.mem_cons_of_mem c hmem)
      rw [normalizeLineEndings, if_neg hc, ih hcs]
      rintro rest rfl
      exact absurd rfl hc

end ReactScaffold.Text
