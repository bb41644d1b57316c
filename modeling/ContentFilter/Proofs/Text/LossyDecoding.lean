import ContentFilter.Text.Utf8.Lemmas
/-!
Decoding by longest parts. A pending character stands for all characters whose encoding begins with
the bytes read so far; so a byte outside its bounds is one that no character goes on with, and what
is given up there is the longest beginning of a character that stands at this place. This is what
the replacement character is put for, so that the bytes alone say how they are decoded.
-/
namespace ContentFilter.Utf8

def BeginsChar (part : List UInt8) : Prop := ∃ c, part <+: String.utf8EncodeChar c

/-- At the start of `part ++ rest` stands no character, and `part` is the longest beginning of one
that stands there, or a single byte if there is none. -/
structure IsInvalidPart (part rest : List UInt8) : Prop where
  some_part : part ≠ []
  no_char : ∀ c, ¬ String.utf8EncodeChar c <+: part ++ rest
  begun : part.length = 1 ∨ BeginsChar part
  longest : ∀ longer, longer <+: part ++ rest → BeginsChar longer → longer.length ≤ part.length

/-- The text that some bytes stand for when each invalid part of them is replaced. -/
inductive Lossy : List UInt8 → Text → Prop
  | nil : Lossy [] []
  | char (c : Char) {rest : List UInt8} {text : Text} :
      Lossy rest text → Lossy (String.utf8EncodeChar c ++ rest) (c :: text)
  | replaced {part rest : List UInt8} {text : Text} :
      IsInvalidPart part rest → Lossy rest text → Lossy (part ++ rest) ('\uFFFD' :: text)

theorem encode_char_eq (c : Char) : String.utf8EncodeChar c = encodeChar c := by
  have valid : c.toNat < 0xD800 ∨ (0xDFFF < c.toNat ∧ c.toNat < 0x110000) := c.valid
  have digit (n : Nat) : UInt8.ofNat (n % 64 + 0x80) = continuation n := by
    rw [continuation, Nat.add_comm]
  unfold encodeChar String.utf8EncodeChar
  simp only [digit, show c.val.toNat = c.toNat from rfl]
  generalize c.toNat = n at valid
  by_cases one : n < 0x80
  · rw [if_pos one, if_pos (by omega)]
  rw [if_neg one, if_neg (by omega)]
  by_cases two : n < 0x800
  · rw [if_pos two, if_pos (by omega), show n / 64 % 32 + 192 = 0xC0 + n / 64 by omega]
  rw [if_neg two, if_neg (by omega)]
  by_cases three : n < 0x10000
  · rw [if_pos three, if_pos (by omega), show n / 4096 % 16 + 224 = 0xE0 + n / 4096 by omega]
  · rw [if_neg three, if_neg (by omega), show n / 262144 % 8 + 240 = 0xF0 + n / 262144 by omega]

theorem utf8_eq_encode (text : Text) : text.flatMap String.utf8EncodeChar = encode text := by
  rw [encode, funext encode_char_eq]

/-- The state after the bytes of `part`: the characters that begin with them are those that the
state covers, and after these bytes come the digits that are still to be read. -/
structure Pending.Follows (part : List UInt8) (p : Pending) : Prop where
  bounds : 0x80 ≤ p.low ∧ p.low ≤ p.high ∧ p.high ≤ 0xBF
  valid : ∀ n, p.Covers n → n.isValidChar
  covered : ∀ c, part <+: encodeChar c → p.Covers c.toNat
  goes_on : ∀ c, p.Covers c.toNat → encodeChar c = part ++ digits (p.later + 1) c.toNat

theorem byte_begins_iff (b : UInt8) (c : Char) :
    [b] <+: encodeChar c ↔ (lead c.toNat).1 = b.toNat := by
  have range := lead_range c
  rw [encode_char_digits, List.cons_prefix_cons, ← UInt8.toNat_inj, toNat_ofNat (by omega)]
  simp [eq_comm]

namespace Pending.Follows

variable {part : List UInt8} {p : Pending}

theorem of_led (b : UInt8) (led : p.LedBy b.toNat) : Follows [b] p where
  bounds := led_bounds b.toNat p led
  valid n covers := ((led_covers b.toNat p led n).1.mp covers).1
  covered c begun :=
    (led_covers b.toNat p led c.toNat).1.mpr ⟨c.valid, (byte_begins_iff b c).mp begun⟩
  goes_on c covers := by
    have ⟨first, more⟩ := led_covers b.toNat p led c.toNat
    rw [encode_char_digits, (first.mp covers).2, more covers, UInt8.ofNat_toNat,
      List.singleton_append]

theorem next_byte (follows : Follows part p) (b : UInt8) (c : Char) :
    part ++ [b] <+: encodeChar c ↔
      p.Covers c.toNat ∧ 0x80 + c.toNat / 64 ^ p.later % 64 = b.toNat := by
  rw [← continuation_eq_iff]
  constructor
  · intro begun
    have covers := follows.covered c ((List.prefix_append part [b]).trans begun)
    rw [follows.goes_on c covers, List.prefix_append_right_inj, digits, List.cons_prefix_cons]
      at begun
    exact ⟨covers, begun.1.symm⟩
  · intro both
    obtain ⟨covers, same⟩ := both
    rw [follows.goes_on c covers, List.prefix_append_right_inj, digits, List.cons_prefix_cons]
    exact ⟨same.symm, List.nil_prefix⟩

theorem refused (follows : Follows part p) (b : UInt8)
    (outside : ¬ (p.low ≤ b.toNat ∧ b.toNat ≤ p.high)) : ¬ BeginsChar (part ++ [b]) := by
  intro ⟨c, begun⟩
  rw [encode_char_eq, follows.next_byte] at begun
  obtain ⟨⟨_, low, high⟩, same⟩ := begun
  rw [same] at low high
  exact outside ⟨low, high⟩

theorem covers_next (follows : Follows part p) (b : UInt8) (n k : Nat)
    (low : p.low ≤ b.toNat) (high : b.toNat ≤ p.high) (later : p.later = k) :
    n / 64 ^ k = p.bits * 64 + (b.toNat - 0x80) ↔
      p.Covers n ∧ 0x80 + n / 64 ^ p.later % 64 = b.toNat := by
  have ⟨least, _, most⟩ := follows.bounds
  rw [Pending.Covers, later, Nat.pow_succ, ← Nat.div_div_eq_div_mul]
  omega

theorem next (follows : Follows part p) (b : UInt8) (k : Nat) (low : p.low ≤ b.toNat)
    (high : b.toNat ≤ p.high) (later : p.later = k + 1) :
    Follows (part ++ [b]) { bits := p.bits * 64 + (b.toNat - 0x80), later := k } := by
  have covers (n : Nat) : Pending.Covers { bits := p.bits * 64 + (b.toNat - 0x80), later := k } n ↔
      p.Covers n ∧ 0x80 + n / 64 ^ p.later % 64 = b.toNat := by
    rw [← follows.covers_next b n (k + 1) low high later, Pending.Covers]
    simp only [and_iff_left_iff_imp]
    omega
  refine ⟨?_, ?_, ?_, ?_⟩
  · exact ⟨Nat.le_refl 0x80, (by decide : 0x80 ≤ 0xBF), Nat.le_refl 0xBF⟩
  · intro n covered
    exact follows.valid n ((covers n).mp covered).1
  · intro c begun
    exact (covers c.toNat).mpr ((follows.next_byte b c).mp begun)
  · intro c covered
    obtain ⟨before, same⟩ := (covers c.toNat).mp covered
    rw [← continuation_eq_iff] at same
    rw [follows.goes_on c before, digits, same, later, List.append_assoc, List.singleton_append]

theorem last (follows : Follows part p) (b : UInt8) (low : p.low ≤ b.toNat)
    (high : b.toNat ≤ p.high) (later : p.later = 0) :
    encodeChar (Char.ofNat (p.bits * 64 + (b.toNat - 0x80))) = part ++ [b] := by
  have ⟨covers, same⟩ := (follows.covers_next b (p.bits * 64 + (b.toNat - 0x80)) 0 low high
    later).mp (Nat.div_one _)
  have number : (Char.ofNat (p.bits * 64 + (b.toNat - 0x80))).toNat =
      p.bits * 64 + (b.toNat - 0x80) := by
    rw [to_nat_of_valid _ (follows.valid _ covers)]
  rw [← number] at covers same
  rw [← continuation_eq_iff] at same
  rw [follows.goes_on _ covers, digits, same, later, digits]

theorem begins (follows : Follows part p) : ∃ c, encodeChar c = part ++ digits (p.later + 1) c.toNat := by
  have ⟨least, some_byte, most⟩ := follows.bounds
  have covers : p.Covers ((p.bits * 64 + (p.low - 0x80)) * 64 ^ p.later) := by
    have here : (p.bits * 64 + (p.low - 0x80)) * 64 ^ p.later / 64 ^ p.later =
        p.bits * 64 + (p.low - 0x80) := Nat.mul_div_cancel _ (Nat.pow_pos (by decide))
    rw [Pending.Covers, Nat.pow_succ, ← Nat.div_div_eq_div_mul, here]
    omega
  refine ⟨Char.ofNat ((p.bits * 64 + (p.low - 0x80)) * 64 ^ p.later), ?_⟩
  apply follows.goes_on
  rwa [to_nat_of_valid _ (follows.valid _ covers)]

end Pending.Follows

theorem BeginsChar.of_prefix {part whole : List UInt8} (begun : BeginsChar whole)
    (front : part <+: whole) : BeginsChar part := by
  obtain ⟨c, begun⟩ := begun
  exact ⟨c, front.trans begun⟩

theorem longest_of_next (part rest : List UInt8)
    (stops : ∀ b ∈ rest.head?, ¬ BeginsChar (part ++ [b])) (longer : List UInt8)
    (front : longer <+: part ++ rest) (begun : BeginsChar longer) :
    longer.length ≤ part.length := by
  apply Nat.le_of_not_lt
  intro beyond
  cases rest with
  | nil =>
      have bound := front.length_le
      rw [List.append_nil] at bound
      omega
  | cons b rest =>
      apply stops b rfl
      apply begun.of_prefix
      apply List.prefix_of_prefix_length_le _ front
      · rw [List.length_append, List.length_singleton]
        omega
      · exact ⟨rest, by simp⟩

theorem char_of_prefix (c d : Char) (front : encodeChar c <+: encodeChar d) : c = d := by
  obtain ⟨rest, whole⟩ := front
  have first := decodeFrom_encodeChar c rest
  rw [whole, ← List.append_nil (encodeChar d), decodeFrom_encodeChar, List.cons.injEq] at first
  exact (Option.some.inj first.1).symm

theorem invalid_of_pending {part : List UInt8} {p : Pending} (follows : p.Follows part)
    (some_part : part ≠ []) (rest : List UInt8)
    (stops : ∀ b ∈ rest.head?, ¬ BeginsChar (part ++ [b])) : IsInvalidPart part rest where
  some_part := some_part
  no_char c front := by
    obtain ⟨d, whole⟩ := follows.begins
    have short := longest_of_next part rest stops _ front ⟨c, List.prefix_rfl⟩
    have within := List.prefix_of_prefix_length_le front (List.prefix_append part rest) short
    -- the part is only the beginning of a character, and would hold a whole one
    have inside : encodeChar c <+: encodeChar d := by
      rw [← encode_char_eq c, whole]
      exact within.trans (List.prefix_append part _)
    obtain rfl := char_of_prefix c d inside
    rw [encode_char_eq, whole, List.length_append, digits, List.length_cons] at short
    omega
  begun := by
    obtain ⟨d, whole⟩ := follows.begins
    refine Or.inr ⟨d, ?_⟩
    rw [encode_char_eq, whole]
    exact List.prefix_append part _
  longest := longest_of_next part rest stops

def ComesFirst (bytes : List UInt8) (decoded : List (Option Char)) : Prop :=
  (∃ c rest, bytes = String.utf8EncodeChar c ++ rest ∧ decoded = some c :: decode rest) ∨
  ∃ part rest, bytes = part ++ rest ∧ IsInvalidPart part rest ∧ decoded = none :: decode rest

/-- Within a character either the character comes to its end or it is given up. The bytes read so
far grow with the state that follows them. -/
theorem comes_first_pending {part : List UInt8} {p : Pending} (follows : p.Follows part)
    (some_part : part ≠ []) (bytes : List UInt8) :
    ComesFirst (part ++ bytes) (decodeFrom (some p) bytes) := by
  induction bytes generalizing part p with
  | nil =>
      have invalid := invalid_of_pending follows some_part [] (by simp)
      exact Or.inr ⟨part, [], rfl, invalid, rfl⟩
  | cons b rest ih =>
      by_cases within : p.low ≤ b.toNat ∧ b.toNat ≤ p.high
      · obtain ⟨low, high⟩ := within
        cases later : p.later with
        | zero =>
            refine Or.inl ⟨_, rest, ?_, step_last low high later rest⟩
            rw [encode_char_eq, follows.last b low high later, List.append_cons]
        | succ k =>
            rw [step_more low high later, List.append_cons]
            exact ih (follows.next b k low high later) (by simp)
      · refine Or.inr ⟨part, b :: rest, rfl, ?_, ?_⟩
        · apply invalid_of_pending follows some_part
          intro other head
          obtain rfl := Option.some.inj head
          exact follows.refused b within
        · simp [decodeFrom, step, within, decode]

theorem begins_nothing (b : UInt8) (outside : 0x80 ≤ b.toNat ∧ b.toNat < 0xC2 ∨ 0xF5 ≤ b.toNat) :
    ¬ BeginsChar [b] := by
  intro ⟨c, begun⟩
  rw [encode_char_eq, byte_begins_iff] at begun
  have range := lead_range c
  omega

theorem invalid_single (b : UInt8) (rest : List UInt8) (nothing : ¬ BeginsChar [b]) :
    IsInvalidPart [b] rest where
  some_part := by simp
  no_char c front := by
    apply nothing
    refine ⟨c, ?_⟩
    rw [encode_char_eq, encode_char_digits] at front ⊢
    rw [List.singleton_append, List.cons_prefix_cons] at front
    rw [front.1, List.cons_prefix_cons]
    exact ⟨rfl, List.nil_prefix⟩
  begun := Or.inl rfl
  longest := by
    apply longest_of_next
    intro other _ begun
    exact nothing (begun.of_prefix (List.prefix_append [b] [other]))

theorem encode_small (b : UInt8) (small : b.toNat < 0x80) :
    encodeChar (Char.ofNat b.toNat) = [b] := by
  have number : (Char.ofNat b.toNat).toNat = b.toNat := to_nat_of_valid _ (Or.inl (by omega))
  rw [encodeChar, number]
  simp [small]

theorem comes_first (b : UInt8) (rest : List UInt8) :
    ComesFirst (b :: rest) (decode (b :: rest)) := by
  rcases begin_cases b.toNat with ⟨small, begun⟩ | ⟨outside, begun⟩ | ⟨p, led, begun⟩
  · refine Or.inl ⟨Char.ofNat b.toNat, rest, ?_, ?_⟩
    · rw [encode_char_eq, encode_small b small, List.singleton_append]
    · simp [decode, decodeFrom, step, begun]
  · refine Or.inr ⟨[b], rest, rfl, ?_, ?_⟩
    · exact invalid_single b rest (begins_nothing b outside)
    · simp [decode, decodeFrom, step, begun]
  · rw [decode, step_begin begun]
    exact comes_first_pending (Pending.Follows.of_led b led) (by simp) rest

theorem lossy_decode (bytes : List UInt8) : Lossy bytes (decodeLossy bytes) := by
  induction h : bytes.length using Nat.strongRecOn generalizing bytes with
  | ind n ih =>
      cases bytes with
      | nil => exact Lossy.nil
      | cons b bytes =>
          rw [decodeLossy]
          rcases comes_first b bytes with ⟨c, rest, whole, decoded⟩ |
            ⟨part, rest, whole, invalid, decoded⟩
          · have shorter : rest.length < n := by
              rw [← h, whole, List.length_append, encode_char_eq, encode_char_digits,
                List.length_cons]
              omega
            rw [decoded, whole]
            exact Lossy.char c (ih _ shorter rest rfl)
          · have shorter : rest.length < n := by
              have some_bytes := List.length_pos_iff.mpr invalid.some_part
              rw [← h, whole, List.length_append]
              omega
            rw [decoded, whole]
            exact Lossy.replaced invalid (ih _ shorter rest rfl)

theorem IsInvalidPart.unique {part rest other more : List UInt8} (first : IsInvalidPart part rest)
    (second : IsInvalidPart other more) (same : part ++ rest = other ++ more) :
    part = other ∧ rest = more := by
  have bound {a b c d : List UInt8} (one : IsInvalidPart a b) (two : IsInvalidPart c d)
      (same : a ++ b = c ++ d) : a.length ≤ c.length := by
    rcases one.begun with single | begun
    · have some_bytes := List.length_pos_iff.mpr two.some_part
      omega
    · exact two.longest a (same ▸ List.prefix_append a b) begun
  exact List.append_inj same (Nat.le_antisymm (bound first second same) (bound second first same.symm))

theorem decode_invalid {part rest : List UInt8} (invalid : IsInvalidPart part rest) :
    decode (part ++ rest) = none :: decode rest := by
  cases front : part with
  | nil => exact absurd front invalid.some_part
  | cons b tail =>
      rw [List.cons_append]
      rcases comes_first b (tail ++ rest) with ⟨c, more, whole, _⟩ | ⟨other, more, whole, found, decoded⟩
      · rw [← List.cons_append, ← front] at whole
        exact absurd (whole ▸ List.prefix_append _ more) (invalid.no_char c)
      · rw [decoded]
        rw [← List.cons_append, ← front] at whole
        rw [(invalid.unique found whole).2]

/-- The decoded text is the only one that the bytes stand for. -/
theorem lossy_iff (bytes : List UInt8) (text : Text) :
    Lossy bytes text ↔ decodeLossy bytes = text := by
  constructor
  · intro stands
    induction stands with
    | nil => rfl
    | char c _ ih =>
        rw [encode_char_eq, decodeLossy, decode, decodeFrom_encodeChar, List.map_cons, ← ih]
        rfl
    | replaced invalid _ ih =>
        rw [decodeLossy, decode_invalid invalid, List.map_cons, ← ih]
        rfl
  · intro same
    exact same ▸ lossy_decode bytes

end ContentFilter.Utf8
