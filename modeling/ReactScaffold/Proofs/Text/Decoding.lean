import ReactScaffold.Proofs.Text.ReadBack
import ReactScaffold.Proofs.Text.Reader

/-!
# The octets that are text

Octets are decoded just when they are the octets of characters, and then these are the characters:
a character has one form, and no other octets have a form. The octets of a text are those by which
a string is stored.
-/

namespace ReactScaffold.Text.Utf8

/-- A number below the surrogate halves or between them and the end is that of a character. -/
theorem toNat_ofNat_of_valid {n : Nat} (h : n < 0xD800 ∨ (0xDFFF < n ∧ n < 0x110000)) :
    (Char.ofNat n).toNat = n := by
  have hvalid : n.isValidChar := h
  rw [Char.toNat_ofNat, if_pos hvalid]

/-- An octet that may follow the first one of a character. -/
def IsTail (b : UInt8) : Prop := 0x80 ≤ b.toNat ∧ b.toNat ≤ 0xBF

section Forms

variable {a b c d : UInt8}

theorem encodeChar_one (ha : a.toNat < 0x80) : encodeChar (Char.ofNat a.toNat) = [a] := by
  have hn := toNat_ofNat_of_valid (n := a.toNat) (by omega)
  unfold encodeChar
  rw [hn, if_pos ha, UInt8.ofNat_toNat]

theorem encodeChar_two (ha : 0xC2 ≤ a.toNat ∧ a.toNat ≤ 0xDF) (hb : IsTail b) :
    encodeChar (Char.ofNat ((a.toNat - 0xC0) * 0x40 + (b.toNat - 0x80))) = [a, b] := by
  unfold IsTail at hb
  generalize hsum : (a.toNat - 0xC0) * 0x40 + (b.toNat - 0x80) = n
  have hn := toNat_ofNat_of_valid (n := n) (by omega)
  have hfirst : 0xC0 + n / 0x40 = a.toNat := by omega
  have hlast : 0x80 + n % 0x40 = b.toNat := by omega
  unfold encodeChar
  rw [hn, if_neg (by omega), if_pos (by omega), hfirst, hlast]
  simp only [UInt8.ofNat_toNat]

theorem encodeChar_three (ha : 0xE0 ≤ a.toNat ∧ a.toNat ≤ 0xEF) (hb : IsTail b)
    (hlow : a.toNat = 0xE0 → 0xA0 ≤ b.toNat) (hhigh : a.toNat = 0xED → b.toNat ≤ 0x9F)
    (hc : IsTail c) :
    encodeChar (Char.ofNat (((a.toNat - 0xE0) * 0x40 + (b.toNat - 0x80)) * 0x40 +
      (c.toNat - 0x80))) = [a, b, c] := by
  unfold IsTail at hb hc
  generalize hsum : ((a.toNat - 0xE0) * 0x40 + (b.toNat - 0x80)) * 0x40 + (c.toNat - 0x80) = n
  have hn := toNat_ofNat_of_valid (n := n) (by omega)
  have hfirst : 0xE0 + n / 0x1000 = a.toNat := by omega
  have hsecond : 0x80 + n / 0x40 % 0x40 = b.toNat := by omega
  have hlast : 0x80 + n % 0x40 = c.toNat := by omega
  unfold encodeChar
  rw [hn, if_neg (by omega), if_neg (by omega), if_pos (by omega), hfirst, hsecond, hlast]
  simp only [UInt8.ofNat_toNat]

theorem encodeChar_four (ha : 0xF0 ≤ a.toNat ∧ a.toNat ≤ 0xF4) (hb : IsTail b)
    (hlow : a.toNat = 0xF0 → 0x90 ≤ b.toNat) (hhigh : a.toNat = 0xF4 → b.toNat ≤ 0x8F)
    (hc : IsTail c) (hd : IsTail d) :
    encodeChar (Char.ofNat ((((a.toNat - 0xF0) * 0x40 + (b.toNat - 0x80)) * 0x40 +
      (c.toNat - 0x80)) * 0x40 + (d.toNat - 0x80))) = [a, b, c, d] := by
  unfold IsTail at hb hc hd
  generalize hsum : (((a.toNat - 0xF0) * 0x40 + (b.toNat - 0x80)) * 0x40 +
    (c.toNat - 0x80)) * 0x40 + (d.toNat - 0x80) = n
  have hn := toNat_ofNat_of_valid (n := n) (by omega)
  have hfirst : 0xF0 + n / 0x40000 = a.toNat := by omega
  have hsecond : 0x80 + n / 0x1000 % 0x40 = b.toNat := by omega
  have hthird : 0x80 + n / 0x40 % 0x40 = c.toNat := by omega
  have hlast : 0x80 + n % 0x40 = d.toNat := by omega
  unfold encodeChar
  rw [hn, if_neg (by omega), if_neg (by omega), if_neg (by omega), hfirst, hsecond, hthird, hlast]
  simp only [UInt8.ofNat_toNat]

end Forms

/-- Pieces without a flaw are characters. -/
theorem eq_map_char_of_strict {start : Nat} {pieces : List Piece} {cs : List Char}
    (h : strict start pieces = .ok cs) : pieces = cs.map .char := by
  induction pieces generalizing start cs with
  | nil =>
    obtain rfl := Except.ok.inj h
    rfl
  | cons p pieces ih =>
    cases p with
    | flaw f octets => cases h
    | char c =>
      rw [strict] at h
      cases hrest : strict (start + (encodeChar c).length) pieces with
      | error e =>
        rw [hrest] at h
        cases h
      | ok ds =>
        rw [hrest] at h
        obtain rfl := Except.ok.inj h
        rw [ih hrest, List.map_cons]

theorem flaw_cons_ne_map_char {f : Flaw} {octets : List UInt8} {pieces : List Piece}
    {cs : List Char} : .flaw f octets :: pieces ≠ cs.map .char := by
  cases cs with
  | nil => exact List.cons_ne_nil _ _
  | cons c cs =>
    intro h
    cases (List.cons.inj h).1

/-- A character begun that comes to no flaw is continued by an octet in its range. -/
theorem exists_of_scan_begun {p : Begun} {octets : List UInt8} {cs : List Char}
    (h : scan (some p) octets = cs.map .char) :
    ∃ b rest, octets = b :: rest ∧ p.low ≤ b.toNat ∧ b.toNat ≤ p.high := by
  cases octets with
  | nil => exact absurd h flaw_cons_ne_map_char
  | cons b rest =>
    by_cases hrange : p.low ≤ b.toNat ∧ b.toNat ≤ p.high
    · exact ⟨b, rest, rfl, hrange⟩
    · have hextend : extend p b =
          (.flaw .invalidContinuation p.octets.reverse :: (first b).1, (first b).2) := by
        simp [extend, hrange]
      rw [scan, hextend] at h
      exact absurd h flaw_cons_ne_map_char

/-- A first octet without meaning is a flaw. -/
theorem scan_invalid {b : UInt8} (hb : 0x80 ≤ b.toNat) (h : b.toNat < 0xC2 ∨ 0xF4 < b.toNat)
    (rest : List UInt8) : scan none (b :: rest) = .flaw .invalidStart [b] :: scan none rest := by
  have hbegin : begin? b = none := by
    unfold begin?
    simp only [Bool.and_eq_true, decide_eq_true_eq]
    rw [if_neg (by omega), if_neg (by omega), if_neg (by omega), if_neg (by omega),
      if_neg (by omega), if_neg (by omega), if_neg (by omega)]
  have hfirst : first b = ([.flaw .invalidStart [b]], none) := by
    rw [first, if_neg (by omega), hbegin]
  rw [scan, hfirst]
  rfl

/-- The octets start with those of the character that is the first of the pieces. -/
def Starts (octets : List UInt8) (pieces : List Piece) : Prop :=
  ∃ c left, octets = encodeChar c ++ left ∧ pieces = .char c :: scan none left

section Starts

variable {b : UInt8} {rest : List UInt8} {cs : List Char}

theorem starts_one (hb : b.toNat < 0x80) (rest : List UInt8) :
    Starts (b :: rest) (scan none (b :: rest)) := by
  have hfirst : first b = ([.char (Char.ofNat b.toNat)], none) := by rw [first, if_pos hb]
  refine ⟨Char.ofNat b.toNat, rest, by rw [encodeChar_one hb]; rfl, ?_⟩
  rw [scan, hfirst]
  rfl

theorem starts_two (hb : 0xC2 ≤ b.toNat ∧ b.toNat ≤ 0xDF)
    (h : scan none (b :: rest) = cs.map .char) : Starts (b :: rest) (cs.map .char) := by
  rw [scan_begin (begin?_two hb.1 hb.2) (by omega)] at h
  obtain ⟨x, left, rfl, hx⟩ := exists_of_scan_begun h
  rw [scan_complete hx.1 hx.2] at h
  refine ⟨_, left, ?_, h.symm⟩
  rw [encodeChar_two hb hx]
  rfl

theorem starts_three (hb : 0xE0 ≤ b.toNat ∧ b.toNat ≤ 0xEF)
    (h : scan none (b :: rest) = cs.map .char) : Starts (b :: rest) (cs.map .char) := by
  rw [scan_begin (begin?_three hb.1 hb.2) (by omega)] at h
  obtain ⟨x, _, rfl, hlow, hhigh⟩ := exists_of_scan_begun h
  rw [scan_extend (by omega) hlow hhigh] at h
  obtain ⟨y, left, rfl, hy⟩ := exists_of_scan_begun h
  rw [scan_complete hy.1 hy.2] at h
  dsimp only at hlow hhigh
  have hx : IsTail x := ⟨by split_ifs at hlow <;> omega, by split_ifs at hhigh <;> omega⟩
  refine ⟨_, left, ?_, h.symm⟩
  rw [encodeChar_three hb hx (fun he => by simpa [he] using hlow)
    (fun he => by simpa [he] using hhigh) hy]
  rfl

theorem starts_four (hb : 0xF0 ≤ b.toNat ∧ b.toNat ≤ 0xF4)
    (h : scan none (b :: rest) = cs.map .char) : Starts (b :: rest) (cs.map .char) := by
  rw [scan_begin (begin?_four hb.1 hb.2) (by omega)] at h
  obtain ⟨x, _, rfl, hlow, hhigh⟩ := exists_of_scan_begun h
  rw [scan_extend (by omega) hlow hhigh] at h
  obtain ⟨y, _, rfl, hy⟩ := exists_of_scan_begun h
  rw [scan_extend (by omega) hy.1 hy.2] at h
  obtain ⟨z, left, rfl, hz⟩ := exists_of_scan_begun h
  rw [scan_complete hz.1 hz.2] at h
  dsimp only at hlow hhigh
  have hx : IsTail x := ⟨by split_ifs at hlow <;> omega, by split_ifs at hhigh <;> omega⟩
  refine ⟨_, left, ?_, h.symm⟩
  rw [encodeChar_four hb hx (fun he => by simpa [he] using hlow)
    (fun he => by simpa [he] using hhigh) hy hz]
  rfl

/-- Octets without a flaw start with the octets of their first character. -/
theorem starts_of_scan (h : scan none (b :: rest) = cs.map .char) :
    Starts (b :: rest) (cs.map .char) := by
  have hmeant : ¬ (0x80 ≤ b.toNat ∧ (b.toNat < 0xC2 ∨ 0xF4 < b.toNat)) := fun hb => by
    rw [scan_invalid hb.1 hb.2] at h
    exact flaw_cons_ne_map_char h
  rcases lt_or_ge b.toNat 0x80 with hone | hmore
  · rw [← h]
    exact starts_one hone rest
  rcases le_or_gt b.toNat 0xDF with htwo | hmore
  · exact starts_two ⟨by omega, htwo⟩ h
  rcases le_or_gt b.toNat 0xEF with hthree | hmore
  · exact starts_three ⟨by omega, hthree⟩ h
  · exact starts_four ⟨by omega, by omega⟩ h

end Starts

/-- Octets that are scanned as characters are their octets. -/
theorem eq_encode_of_scan {octets : List UInt8} {cs : List Char}
    (h : scan none octets = cs.map .char) : octets = encode cs := by
  induction cs generalizing octets with
  | nil =>
    cases octets with
    | nil => rfl
    | cons b rest =>
      obtain ⟨c, left, -, hmap⟩ := starts_of_scan h
      cases hmap
  | cons c cs ih =>
    cases octets with
    | nil => cases h
    | cons b rest =>
      obtain ⟨d, left, hoctets, hmap⟩ := starts_of_scan h
      obtain ⟨hd, hleft⟩ := List.cons.inj hmap
      obtain rfl := Piece.char.inj hd
      rw [hoctets, ih hleft.symm]
      rfl

/-- Octets are decoded just when they are the octets of the characters. -/
theorem decode_eq_ok_iff {octets : List UInt8} {cs : List Char} :
    decode octets = .ok cs ↔ octets = encode cs := by
  constructor
  · intro h
    exact eq_encode_of_scan (eq_map_char_of_strict h)
  · rintro rfl
    exact decode_encode cs

theorem encodeChar_eq (c : Char) : encodeChar c = String.utf8EncodeChar c := by
  have hvalid : c.toNat < 0x110000 := by
    rcases c.valid with h | h
    · exact Nat.lt_trans h (by decide)
    · exact h.2
  unfold encodeChar String.utf8EncodeChar
  rw [show c.val.toNat = c.toNat from rfl]
  dsimp only
  -- the same sums on both sides, where a remainder may be taken of what is small already
  split_ifs
  all_goals first
    | omega
    | simp (disch := omega) only [Nat.mod_eq_of_lt, Nat.add_comm]

/-- The octets of a string are those that it is stored by. -/
theorem encode_toList (s : String) : encode s.toList = s.toByteArray.data.toList := by
  rw [octets_eq, encode, funext encodeChar_eq]

end ReactScaffold.Text.Utf8
