import TabNotes.Proofs.Runs
import TabNotes.Text.Utf8

/-! # UTF-8 is read back

The bytes of a text are read as that text (`decode_encode`), and no other bytes are read as a text
(`decode_eq_ok_iff`).  One character is read from its bytes whatever follows them
(`decodeFirst_encodeChar`): the first byte asks for exactly the continuation bytes that come after
it, and no continuation byte begins a character, so that the bytes of a character stand in those of
a text only where the character stands in the text (`encode_eq_append_iff`). -/

namespace TabNotes.Text.Utf8

variable {n : Nat} {rest : List Nat}

/-- Characters are all numbers up to U+10FFFF but the surrogates. -/
theorem toNat_bounds (c : Char) : c.toNat < 0xD800 ∨ 0xE000 ≤ c.toNat ∧ c.toNat < 0x110000 := by
  have hvalid : Nat.isValidChar c.toNat := c.valid
  rcases hvalid with h | ⟨h, h'⟩
  · exact .inl h
  · exact .inr ⟨h, h'⟩

theorem encodeChar_of_ascii {c : Char} (h : c.toNat < 0x80) : encodeChar c = [c.toNat] := by
  rw [encodeChar]
  exact if_pos h

/-- A byte of ASCII stands for its character alone; all other bytes have the high bit. -/
theorem eq_or_high_of_mem_encodeChar {c : Char} {b : Nat} (h : b ∈ encodeChar c) :
    (c.toNat = b ∧ b < 0x80) ∨ (0x80 ≤ b ∧ b < 0x100) := by
  have hbounds := toNat_bounds c
  unfold encodeChar at h
  dsimp only at h
  split at h
  · rw [List.mem_singleton] at h
    omega
  · split at h
    · simp only [List.mem_cons, List.not_mem_nil, or_false] at h
      omega
    · split at h
      · simp only [List.mem_cons, List.not_mem_nil, or_false] at h
        omega
      · simp only [List.mem_cons, List.not_mem_nil, or_false] at h
        omega

theorem lt_of_mem_encodeChar {c : Char} {b : Nat} (h : b ∈ encodeChar c) : b < 0x100 := by
  rcases eq_or_high_of_mem_encodeChar h with ⟨-, hb⟩ | ⟨-, hb⟩
  · omega
  · exact hb

theorem eq_of_mem_encodeChar {c : Char} {b : Nat} (h : b ∈ encodeChar c) (hb : b < 0x80) :
    c.toNat = b := by
  rcases eq_or_high_of_mem_encodeChar h with ⟨heq, -⟩ | ⟨hhigh, -⟩
  · exact heq
  · omega

/-! ### One character -/

theorem takeContinuation_cons {missing good low high value b : Nat} (hlow : low ≤ b)
    (hhigh : b ≤ high) :
    takeContinuation (missing + 1) good low high value (b :: rest) =
      takeContinuation missing (good + 1) 0x80 0xBF (value * 0x40 + (b - 0x80)) rest := by
  rw [takeContinuation, if_pos ⟨hlow, hhigh⟩]

theorem decodeFirst_of_lead {b : Nat} {lead : Lead} {more : List Nat} (hb : 0x80 ≤ b)
    (hlead : Lead.of? b = some lead)
    (h : takeContinuation lead.missing 1 lead.low lead.high lead.value more = .ok (n, rest)) :
    decodeFirst b more = .ok (Char.ofNat n, lead.missing + 1, rest) := by
  rw [decodeFirst, if_neg (by omega), hlead]
  dsimp only
  rw [h]
  rfl

theorem decodeFirst_two (hlow : 0x80 ≤ n) (hhigh : n < 0x800) :
    decodeFirst (0xC0 + n / 0x40) ((0x80 + n % 0x40) :: rest) = .ok (Char.ofNat n, 2, rest) := by
  have hlead : Lead.of? (0xC0 + n / 0x40) = some ⟨1, 0x80, 0xBF, n / 0x40⟩ := by
    rw [Lead.of?, if_pos (by omega), Nat.add_sub_cancel_left]
  have htake : takeContinuation 1 1 0x80 0xBF (n / 0x40) ((0x80 + n % 0x40) :: rest) =
      .ok (n, rest) := by
    rw [takeContinuation_cons (by omega) (by omega), takeContinuation, Nat.add_sub_cancel_left,
      Nat.div_add_mod']
  exact decodeFirst_of_lead (by omega) hlead htake

/-- The second byte of three lies in the range that the first one allows: it is neither too small,
which a shorter form would be, nor that of a surrogate. -/
theorem lead_three (hlow : 0x800 ≤ n) (hhigh : n < 0x10000) (hvalid : n < 0xD800 ∨ 0xE000 ≤ n) :
    ∃ low high, Lead.of? (0xE0 + n / 0x1000) = some ⟨2, low, high, n / 0x1000⟩ ∧
      low ≤ 0x80 + n / 0x40 % 0x40 ∧ 0x80 + n / 0x40 % 0x40 ≤ high := by
  unfold Lead.of?
  rw [if_neg (by omega)]
  by_cases hfirst : n / 0x1000 = 0
  · rw [if_pos (by omega), hfirst]
    exact ⟨_, _, rfl, by omega, by omega⟩
  · rw [if_neg (by omega)]
    by_cases hsurrogate : n / 0x1000 = 0xD
    · rw [if_pos (by omega), Nat.add_sub_cancel_left]
      exact ⟨_, _, rfl, by omega, by omega⟩
    · rw [if_neg (by omega), if_pos (by omega), Nat.add_sub_cancel_left]
      exact ⟨_, _, rfl, by omega, by omega⟩

theorem decodeFirst_three (hlow : 0x800 ≤ n) (hhigh : n < 0x10000)
    (hvalid : n < 0xD800 ∨ 0xE000 ≤ n) :
    decodeFirst (0xE0 + n / 0x1000) ((0x80 + n / 0x40 % 0x40) :: (0x80 + n % 0x40) :: rest) =
      .ok (Char.ofNat n, 3, rest) := by
  obtain ⟨low, high, hlead, hge, hle⟩ := lead_three hlow hhigh hvalid
  have hvalue : (n / 0x1000 * 0x40 + n / 0x40 % 0x40) * 0x40 + n % 0x40 = n := by omega
  have htake : takeContinuation 2 1 low high (n / 0x1000)
      ((0x80 + n / 0x40 % 0x40) :: (0x80 + n % 0x40) :: rest) = .ok (n, rest) := by
    rw [takeContinuation_cons hge hle, takeContinuation_cons (by omega) (by omega),
      takeContinuation, Nat.add_sub_cancel_left, Nat.add_sub_cancel_left, hvalue]
  exact decodeFirst_of_lead (by omega) hlead htake

theorem lead_four (hlow : 0x10000 ≤ n) (hhigh : n < 0x110000) :
    ∃ low high, Lead.of? (0xF0 + n / 0x40000) = some ⟨3, low, high, n / 0x40000⟩ ∧
      low ≤ 0x80 + n / 0x1000 % 0x40 ∧ 0x80 + n / 0x1000 % 0x40 ≤ high := by
  unfold Lead.of?
  rw [if_neg (by omega), if_neg (by omega), if_neg (by omega), if_neg (by omega)]
  by_cases hfirst : n / 0x40000 = 0
  · rw [if_pos (by omega), hfirst]
    exact ⟨_, _, rfl, by omega, by omega⟩
  · rw [if_neg (by omega)]
    by_cases hlast : n / 0x40000 = 4
    · rw [if_neg (by omega), if_pos (by omega), hlast]
      exact ⟨_, _, rfl, by omega, by omega⟩
    · rw [if_pos (by omega), Nat.add_sub_cancel_left]
      exact ⟨_, _, rfl, by omega, by omega⟩

theorem decodeFirst_four (hlow : 0x10000 ≤ n) (hhigh : n < 0x110000) :
    decodeFirst (0xF0 + n / 0x40000)
        ((0x80 + n / 0x1000 % 0x40) :: (0x80 + n / 0x40 % 0x40) :: (0x80 + n % 0x40) :: rest) =
      .ok (Char.ofNat n, 4, rest) := by
  obtain ⟨low, high, hlead, hge, hle⟩ := lead_four hlow hhigh
  have hvalue : ((n / 0x40000 * 0x40 + n / 0x1000 % 0x40) * 0x40 + n / 0x40 % 0x40) * 0x40 +
      n % 0x40 = n := by omega
  have htake : takeContinuation 3 1 low high (n / 0x40000)
      ((0x80 + n / 0x1000 % 0x40) :: (0x80 + n / 0x40 % 0x40) :: (0x80 + n % 0x40) :: rest) =
        .ok (n, rest) := by
    rw [takeContinuation_cons hge hle, takeContinuation_cons (by omega) (by omega),
      takeContinuation_cons (by omega) (by omega), takeContinuation, Nat.add_sub_cancel_left,
      Nat.add_sub_cancel_left, Nat.add_sub_cancel_left, hvalue]
  exact decodeFirst_of_lead (by omega) hlead htake

/-- A character is read from its bytes, and what follows them is left. -/
theorem decodeFirst_encodeChar (c : Char) (rest : List Nat) :
    ∃ b more, encodeChar c = b :: more ∧
      decodeFirst b (more ++ rest) = .ok (c, more.length + 1, rest) := by
  have hbounds := toNat_bounds c
  have hc : Char.ofNat c.toNat = c := Char.ofNat_toNat c
  unfold encodeChar
  dsimp only
  split
  · rename_i hascii
    refine ⟨_, _, rfl, ?_⟩
    rw [decodeFirst, if_pos hascii, hc]
    rfl
  · split
    · refine ⟨_, _, rfl, ?_⟩
      have htwo := @decodeFirst_two c.toNat rest (by omega) (by omega)
      rwa [hc] at htwo
    · split
      · refine ⟨_, _, rfl, ?_⟩
        have hthree := @decodeFirst_three c.toNat rest (by omega) (by omega) (by omega)
        rwa [hc] at hthree
      · refine ⟨_, _, rfl, ?_⟩
        have hfour := @decodeFirst_four c.toNat rest (by omega) (by omega)
        rwa [hc] at hfour

/-! ### Texts -/

theorem decodeFrom_encode (cs : List Char) {fuel : Nat} (position : Nat)
    (hfuel : (encode cs).length ≤ fuel) : decodeFrom fuel position (encode cs) = .ok cs := by
  induction cs generalizing fuel position with
  | nil => cases fuel <;> rfl
  | cons c cs ih =>
      obtain ⟨b, more, hbytes, hfirst⟩ := decodeFirst_encodeChar c (encode cs)
      have hcons : encode (c :: cs) = b :: (more ++ encode cs) := by
        rw [encode, List.flatMap_cons, hbytes]
        rfl
      rw [hcons, List.length_cons, List.length_append] at hfuel
      cases fuel with
      | zero => omega
      | succ fuel =>
          rw [hcons, decodeFrom, hfirst]
          dsimp only
          rw [ih _ (by omega)]
          rfl

/-- Every text is read back from its bytes. -/
theorem decode_encode (cs : List Char) : decode (encode cs) = .ok cs :=
  decodeFrom_encode cs 0 (Nat.le_refl _)

/-! ### Only what was written -/

theorem encode_injective : Function.Injective encode := by
  intro cs ds h
  have hcs := decode_encode cs
  rw [h, decode_encode] at hcs
  exact (Except.ok.inj hcs).symm

section Sound

variable {b good low high value : Nat} {c : Char} {bytes : List Nat}

theorem encodeChar_ofNat (h : n.isValidChar) : encodeChar (Char.ofNat n) =
    if n < 0x80 then [n]
    else if n < 0x800 then [0xC0 + n / 0x40, 0x80 + n % 0x40]
    else if n < 0x10000 then [0xE0 + n / 0x1000, 0x80 + n / 0x40 % 0x40, 0x80 + n % 0x40]
    else [0xF0 + n / 0x40000, 0x80 + n / 0x1000 % 0x40, 0x80 + n / 0x40 % 0x40, 0x80 + n % 0x40] := by
  have htoNat : (Char.ofNat n).toNat = n := by
    rw [show Char.ofNat n = Char.ofNatAux n h from dif_pos h]
    rfl
  rw [encodeChar, htoNat]

theorem takeContinuation_succ_eq_ok {missing : Nat}
    (h : takeContinuation (missing + 1) good low high value bytes = .ok (n, rest)) :
    ∃ b more, bytes = b :: more ∧ low ≤ b ∧ b ≤ high ∧
      takeContinuation missing (good + 1) 0x80 0xBF (value * 0x40 + (b - 0x80)) more =
        .ok (n, rest) := by
  cases bytes with
  | nil => cases h
  | cons b more =>
      rw [takeContinuation] at h
      split at h
      · rename_i hrange
        exact ⟨b, more, rfl, hrange.1, hrange.2, h⟩
      · cases h

theorem takeContinuation_zero_eq_ok
    (h : takeContinuation 0 good low high value bytes = .ok (n, rest)) :
    n = value ∧ bytes = rest := by
  obtain ⟨rfl, rfl⟩ := Prod.mk.inj (Except.ok.inj h)
  exact ⟨rfl, rfl⟩

theorem eq_encodeChar_of_one (hb : 0xC2 ≤ b ∧ b < 0xE0) (hrange : 0x80 ≤ low ∧ high ≤ 0xBF)
    (h : takeContinuation 1 good low high (b - 0xC0) bytes = .ok (n, rest)) :
    b :: bytes = encodeChar (Char.ofNat n) ++ rest := by
  obtain ⟨b₁, more, rfl, hlow, hhigh, h⟩ := takeContinuation_succ_eq_ok h
  obtain ⟨hn, rfl⟩ := takeContinuation_zero_eq_ok h
  rw [encodeChar_ofNat (.inl (by omega)), if_neg (by omega), if_pos (by omega)]
  simp only [List.cons_append, List.nil_append, List.cons.injEq, and_true]
  omega

/-- The range of the second of three bytes leaves out shorter forms and surrogates. -/
theorem eq_encodeChar_of_two (hb : 0xE0 ≤ b ∧ b < 0xF0) (hrange : 0x80 ≤ low ∧ high ≤ 0xBF)
    (hshort : b = 0xE0 → 0xA0 ≤ low) (hsurrogate : b = 0xED → high ≤ 0x9F)
    (h : takeContinuation 2 good low high (b - 0xE0) bytes = .ok (n, rest)) :
    b :: bytes = encodeChar (Char.ofNat n) ++ rest := by
  obtain ⟨b₁, more, rfl, hlow, hhigh, h⟩ := takeContinuation_succ_eq_ok h
  obtain ⟨b₂, more, rfl, hlow₂, hhigh₂, h⟩ := takeContinuation_succ_eq_ok h
  obtain ⟨hn, rfl⟩ := takeContinuation_zero_eq_ok h
  have hvalid : n.isValidChar := by
    unfold Nat.isValidChar
    omega
  rw [encodeChar_ofNat hvalid, if_neg (by omega), if_neg (by omega), if_pos (by omega)]
  simp only [List.cons_append, List.nil_append, List.cons.injEq, and_true]
  omega

/-- The range of the second of four bytes leaves out shorter forms and what is no character. -/
theorem eq_encodeChar_of_three (hb : 0xF0 ≤ b ∧ b ≤ 0xF4) (hrange : 0x80 ≤ low ∧ high ≤ 0xBF)
    (hshort : b = 0xF0 → 0x90 ≤ low) (hlarge : b = 0xF4 → high ≤ 0x8F)
    (h : takeContinuation 3 good low high (b - 0xF0) bytes = .ok (n, rest)) :
    b :: bytes = encodeChar (Char.ofNat n) ++ rest := by
  obtain ⟨b₁, more, rfl, hlow, hhigh, h⟩ := takeContinuation_succ_eq_ok h
  obtain ⟨b₂, more, rfl, hlow₂, hhigh₂, h⟩ := takeContinuation_succ_eq_ok h
  obtain ⟨b₃, more, rfl, hlow₃, hhigh₃, h⟩ := takeContinuation_succ_eq_ok h
  obtain ⟨hn, rfl⟩ := takeContinuation_zero_eq_ok h
  have hvalid : n.isValidChar := by
    unfold Nat.isValidChar
    omega
  rw [encodeChar_ofNat hvalid, if_neg (by omega), if_neg (by omega), if_neg (by omega)]
  simp only [List.cons_append, List.nil_append, List.cons.injEq, and_true]
  omega

/-- What a first byte asks for, by the number of bytes that follow it. -/
theorem Lead.of?_cases {lead : Lead} (h : Lead.of? b = some lead) :
    (0x80 ≤ lead.low ∧ lead.high ≤ 0xBF) ∧
    (lead.missing = 1 ∧ (0xC2 ≤ b ∧ b < 0xE0) ∧ lead.value = b - 0xC0 ∨
      lead.missing = 2 ∧ (0xE0 ≤ b ∧ b < 0xF0) ∧ lead.value = b - 0xE0 ∧
        (b = 0xE0 → 0xA0 ≤ lead.low) ∧ (b = 0xED → lead.high ≤ 0x9F) ∨
      lead.missing = 3 ∧ (0xF0 ≤ b ∧ b ≤ 0xF4) ∧ lead.value = b - 0xF0 ∧
        (b = 0xF0 → 0x90 ≤ lead.low) ∧ (b = 0xF4 → lead.high ≤ 0x8F)) := by
  unfold Lead.of? at h
  repeat' split at h
  all_goals cases h
  all_goals
    dsimp only
    omega

theorem eq_encodeChar_of_decodeFirst {size : Nat}
    (h : decodeFirst b bytes = .ok (c, size, rest)) : b :: bytes = encodeChar c ++ rest := by
  unfold decodeFirst at h
  split at h
  · rename_i hascii
    obtain ⟨rfl, hsize⟩ := Prod.mk.inj (Except.ok.inj h)
    obtain ⟨-, rfl⟩ := Prod.mk.inj hsize
    rw [encodeChar_ofNat (.inl (by omega)), if_pos hascii]
    rfl
  · split at h
    · cases h
    · rename_i lead hlead
      cases htake : takeContinuation lead.missing 1 lead.low lead.high lead.value bytes with
      | error defect => simp [htake, Except.map] at h
      | ok read =>
          obtain ⟨n, left⟩ := read
          rw [htake] at h
          obtain ⟨rfl, hsize⟩ := Prod.mk.inj (Except.ok.inj h)
          obtain ⟨-, rfl⟩ := Prod.mk.inj hsize
          obtain ⟨hrange, ⟨hmissing, hb, hvalue⟩ | ⟨hmissing, hb, hvalue, hshort, hlarge⟩ |
            ⟨hmissing, hb, hvalue, hshort, hlarge⟩⟩ := Lead.of?_cases hlead
          · rw [hmissing, hvalue] at htake
            exact eq_encodeChar_of_one hb hrange htake
          · rw [hmissing, hvalue] at htake
            exact eq_encodeChar_of_two hb hrange hshort hlarge htake
          · rw [hmissing, hvalue] at htake
            exact eq_encodeChar_of_three hb hrange hshort hlarge htake

theorem length_encodeChar_pos (c : Char) : 0 < (encodeChar c).length := by
  obtain ⟨b, more, hbytes, -⟩ := decodeFirst_encodeChar c []
  rw [hbytes]
  exact Nat.succ_pos _

theorem encode_of_decodeFrom {fuel position : Nat} {cs : List Char} (hfuel : bytes.length ≤ fuel)
    (h : decodeFrom fuel position bytes = .ok cs) : encode cs = bytes := by
  induction fuel generalizing position bytes cs with
  | zero =>
      obtain rfl := List.length_eq_zero_iff.mp (Nat.le_zero.mp hfuel)
      cases h
      rfl
  | succ fuel ih =>
      cases bytes with
      | nil =>
          cases h
          rfl
      | cons b rest =>
          rw [decodeFrom] at h
          cases hfirst : decodeFirst b rest with
          | error defect => simp [hfirst] at h
          | ok read =>
              obtain ⟨c, size, left⟩ := read
              rw [hfirst] at h
              obtain ⟨cs, hcs, hmore⟩ := bind_eq_ok_iff.mp h
              cases hmore
              have hbytes := eq_encodeChar_of_decodeFirst hfirst
              have hlength := congrArg List.length hbytes
              have hpos := length_encodeChar_pos c
              rw [List.length_cons] at hfuel
              rw [List.length_cons, List.length_append] at hlength
              rw [hbytes, ← ih (by omega) hcs]
              rfl

/-- Bytes are read as a text exactly when they are its bytes. -/
theorem decode_eq_ok_iff {cs : List Char} : decode bytes = .ok cs ↔ encode cs = bytes := by
  constructor
  · exact encode_of_decodeFrom (Nat.le_refl _)
  · rintro rfl
    exact decode_encode cs

end Sound

/-! ### Where characters begin -/

section Boundaries

variable {b : Nat} {c d : Char} {cs : List Char} {left right more : List Nat}

/-- A byte that continues a character. -/
def IsContinuation (b : Nat) : Prop := 0x80 ≤ b ∧ b < 0xC0

/-- Only the first byte of a character does not continue one. -/
theorem encodeChar_eq_cons (c : Char) : ∃ b more, encodeChar c = b :: more ∧
    ¬ IsContinuation b ∧ ∀ d ∈ more, IsContinuation d := by
  have hbounds := toNat_bounds c
  unfold encodeChar IsContinuation
  dsimp only
  split
  · exact ⟨_, _, rfl, by omega, by simp⟩
  · split
    · refine ⟨_, _, rfl, by omega, ?_⟩
      simp only [List.forall_mem_cons, List.not_mem_nil, false_implies, implies_true, and_true]
      omega
    · split
      · refine ⟨_, _, rfl, by omega, ?_⟩
        simp only [List.forall_mem_cons, List.not_mem_nil, false_implies, implies_true, and_true]
        omega
      · refine ⟨_, _, rfl, by omega, ?_⟩
        simp only [List.forall_mem_cons, List.not_mem_nil, false_implies, implies_true, and_true]
        omega

theorem encode_cons (c : Char) (cs : List Char) : encode (c :: cs) = encodeChar c ++ encode cs :=
  List.flatMap_cons

theorem encode_append (cs ds : List Char) : encode (cs ++ ds) = encode cs ++ encode ds :=
  List.flatMap_append

/-- The bytes of a text can be cut before every byte that begins a character. -/
theorem exists_append_of_encode (h : encode cs = left ++ b :: right) (hb : ¬ IsContinuation b) :
    ∃ before after, cs = before ++ after ∧ encode before = left ∧ encode after = b :: right := by
  induction cs generalizing left with
  | nil => simp [encode] at h
  | cons c cs ih =>
      cases left with
      | nil => exact ⟨[], c :: cs, rfl, rfl, h⟩
      | cons first left =>
          obtain ⟨lead, more, hbytes, -, hmore⟩ := encodeChar_eq_cons c
          rw [encode_cons, hbytes, List.cons_append, List.cons_append, List.cons.injEq] at h
          obtain ⟨rfl, h⟩ := h
          rcases List.append_eq_append_iff.mp h with ⟨middle, rfl, hcs⟩ | ⟨middle, rfl, hright⟩
          · obtain ⟨before, after, rfl, hbefore, hafter⟩ := ih hcs
            refine ⟨c :: before, after, rfl, ?_, hafter⟩
            rw [encode_cons, hbytes, hbefore, List.cons_append]
          · cases middle with
            | nil =>
                refine ⟨[c], cs, rfl, ?_, hright.symm⟩
                rw [encode_cons, hbytes]
                simp [encode]
            | cons d middle =>
                obtain rfl : b = d := (List.cons.inj hright).1
                exact absurd (hmore b (by simp)) hb

/-- No character's bytes begin those of another one. -/
theorem encode_eq_encodeChar_append_iff :
    encode cs = encodeChar c ++ right ↔ ∃ after, cs = c :: after ∧ encode after = right := by
  constructor
  · intro h
    cases cs with
    | nil =>
        have hlength := congrArg List.length h
        have hpos := length_encodeChar_pos c
        simp [encode] at hlength
        omega
    | cons d cs =>
        obtain ⟨b, more, hbytes, hfirst⟩ := decodeFirst_encodeChar c right
        obtain ⟨b', more', hbytes', hfirst'⟩ := decodeFirst_encodeChar d (encode cs)
        rw [encode_cons, hbytes, hbytes', List.cons_append, List.cons_append, List.cons.injEq] at h
        obtain ⟨rfl, h⟩ := h
        rw [h, hfirst] at hfirst'
        simp only [Except.ok.injEq, Prod.mk.injEq] at hfirst'
        obtain ⟨rfl, -, rfl⟩ := hfirst'
        exact ⟨cs, rfl, rfl⟩
  · rintro ⟨after, rfl, rfl⟩
    exact encode_cons c after

/-- A character's bytes stand in those of a text only where the character stands in the text. -/
theorem encode_eq_append_iff :
    encode cs = left ++ (encodeChar c ++ right) ↔
      ∃ before after, cs = before ++ c :: after ∧ encode before = left ∧ encode after = right := by
  constructor
  · intro h
    obtain ⟨b, more, hbytes, hb, -⟩ := encodeChar_eq_cons c
    rw [hbytes, List.cons_append] at h
    obtain ⟨before, after, rfl, hbefore, hafter⟩ := exists_append_of_encode h hb
    rw [← List.cons_append, ← hbytes] at hafter
    obtain ⟨after, rfl, hright⟩ := encode_eq_encodeChar_append_iff.mp hafter
    exact ⟨before, after, rfl, hbefore, hright⟩
  · rintro ⟨before, after, rfl, rfl, rfl⟩
    rw [encode_append, encode_cons]

end Boundaries

end TabNotes.Text.Utf8
