/-
# SealedTransfer.Proofs.Text.Base64 — octets are read back from their symbols

A group of symbols spells its octets and nothing else, so both forms are read back group by group. In
neither form do two texts spell the same octets: what is read is what is written for them. The colon is no
symbol, which keeps the parts of a fingerprint apart.
-/
import SealedTransfer.Text.Base64

namespace SealedTransfer.Text.Base64

/-! ## Groups -/

section Groups

variable (a b c : UInt8)

theorem value?_symbol_high : value? (symbol (a.toNat / 4)) = some (a.toNat / 4) := by
  have := a.toNat_lt
  exact value?_symbol _ (by omega)

theorem value?_symbol_join :
    value? (symbol (a.toNat % 4 * 16 + b.toNat / 16)) = some (a.toNat % 4 * 16 + b.toNat / 16) := by
  have := b.toNat_lt
  exact value?_symbol _ (by omega)

theorem value?_symbol_join' :
    value? (symbol (b.toNat % 16 * 4 + c.toNat / 64)) = some (b.toNat % 16 * 4 + c.toNat / 64) := by
  have := c.toNat_lt
  exact value?_symbol _ (by omega)

/-- The first octet of a group, from its first two values. -/
theorem ofNat_first (low : Nat) (h : low < 16) :
    UInt8.ofNat (a.toNat / 4 * 4 + (a.toNat % 4 * 16 + low) / 16) = a := by
  have whole : a.toNat / 4 * 4 + (a.toNat % 4 * 16 + low) / 16 = a.toNat := by omega
  rw [whole, UInt8.ofNat_toNat]

/-- The second octet of a group, from its second and third value. -/
theorem ofNat_second (low : Nat) (h : low < 4) :
    UInt8.ofNat ((a.toNat % 4 * 16 + b.toNat / 16) % 16 * 16 + (b.toNat % 16 * 4 + low) / 4) = b := by
  have := b.toNat_lt
  have whole : (a.toNat % 4 * 16 + b.toNat / 16) % 16 * 16 + (b.toNat % 16 * 4 + low) / 4
      = b.toNat := by omega
  rw [whole, UInt8.ofNat_toNat]

/-- The third octet of a group, from its third and fourth value. -/
theorem ofNat_third :
    UInt8.ofNat ((b.toNat % 16 * 4 + c.toNat / 64) % 4 * 64 + c.toNat % 64) = c := by
  have := c.toNat_lt
  have whole : (b.toNat % 16 * 4 + c.toNat / 64) % 4 * 64 + c.toNat % 64 = c.toNat := by omega
  rw [whole, UInt8.ofNat_toNat]

/-- A full group spells its three octets. -/
theorem three?_symbols :
    three? (symbol (a.toNat / 4)) (symbol (a.toNat % 4 * 16 + b.toNat / 16))
      (symbol (b.toNat % 16 * 4 + c.toNat / 64)) (symbol (c.toNat % 64)) = some [a, b, c] := by
  have hb := b.toNat_lt
  have hc := c.toNat_lt
  have last : value? (symbol (c.toNat % 64)) = some (c.toNat % 64) :=
    value?_symbol _ (by omega)
  simp only [three?, value?_symbol_high, value?_symbol_join, value?_symbol_join', last,
    Option.bind_eq_bind, Option.bind_some, ofNat_first a _ (show b.toNat / 16 < 16 by omega),
    ofNat_second a b _ (show c.toNat / 64 < 4 by omega), ofNat_third]

/-- A group without its last symbol spells its two octets. -/
theorem two?_symbols :
    two? (symbol (a.toNat / 4)) (symbol (a.toNat % 4 * 16 + b.toNat / 16))
      (symbol (b.toNat % 16 * 4)) = some [a, b] := by
  have hb := b.toNat_lt
  have last : value? (symbol (b.toNat % 16 * 4)) = some (b.toNat % 16 * 4) :=
    value?_symbol _ (by omega)
  have second := ofNat_second a b 0 (by omega)
  rw [Nat.add_zero] at second
  simp only [two?, value?_symbol_high, value?_symbol_join, last, Option.bind_eq_bind,
    Option.bind_some, ofNat_first a _ (show b.toNat / 16 < 16 by omega), second]
  rw [if_pos (by omega)]

/-- A group of two symbols spells its octet. -/
theorem one?_symbols :
    one? (symbol (a.toNat / 4)) (symbol (a.toNat % 4 * 16)) = some [a] := by
  have last : value? (symbol (a.toNat % 4 * 16)) = some (a.toNat % 4 * 16) :=
    value?_symbol _ (by omega)
  have first := ofNat_first a 0 (by omega)
  rw [Nat.add_zero] at first
  simp only [one?, value?_symbol_high, last, Option.bind_eq_bind, Option.bind_some, first]
  rw [if_pos (by omega)]

end Groups

/-! ## The unpadded form -/

/-- **The unpadded form is read back.** -/
@[simp] theorem decodeUnpadded?_encodeUnpadded (bytes : Bytes) :
    decodeUnpadded? (encodeUnpadded bytes) = some bytes := by
  unfold encodeUnpadded
  induction bytes using encodeWith.induct with
  | case1 => rfl
  | case2 a =>
    rw [encodeWith, List.append_nil, decodeUnpadded?, one?_symbols]
  | case3 a b =>
    rw [encodeWith, List.append_nil, decodeUnpadded?, two?_symbols]
  | case4 a b c rest ih =>
    rw [encodeWith, decodeUnpadded?, three?_symbols, ih]
    rfl

/-! ## The padded form -/

/-- No symbol stands for padding. -/
theorem symbol_ne_pad : ∀ value, value < 64 → symbol value ≠ '=' := by
  decide

/-- A full group is read by itself, whatever follows it. -/
theorem decode?_group {a b c d : Char} (h : d ≠ '=') (rest : List Char) :
    decode? (a :: b :: c :: d :: rest) = (do
      let head ← three? a b c d
      let tail ← decode? rest
      some (head ++ tail)) := by
  rw [decode?]
  · rintro - rfl -
    exact h rfl
  · rintro rfl -
    exact h rfl

/-- A group without its last symbol is read together with its padding. -/
theorem decode?_padded {a b c : Char} (h : c ≠ '=') : decode? [a, b, c, '='] = two? a b c := by
  rw [decode?]
  exact h

/-- **The padded form is read back.** -/
@[simp] theorem decode?_encode (bytes : Bytes) : decode? (encode bytes) = some bytes := by
  unfold encode
  induction bytes using encodeWith.induct with
  | case1 => rfl
  | case2 a =>
    show decode? [_, _, '=', '='] = _
    rw [decode?, one?_symbols]
  | case3 a b =>
    show decode? [_, _, _, '='] = _
    rw [decode?_padded (symbol_ne_pad _ (by omega)), two?_symbols]
  | case4 a b c rest ih =>
    have last := symbol_ne_pad (c.toNat % 64) (by omega)
    rw [encodeWith, decode?_group last, three?_symbols, ih]
    rfl

/-! ## One form for each byte string -/

/-- A symbol is the one of its value. -/
theorem symbol_of_value? {c : Char} {value : Nat} (h : value? c = some value) :
    value < 64 ∧ c = symbol value := by
  have same (n : Nat) (code : c.toNat = n) : c = Char.ofNat n := by rw [← code, Char.ofNat_toNat]
  unfold value? at h
  dsimp only at h
  -- one case for each run of the alphabet
  split at h
  · cases h
    refine ⟨by omega, ?_⟩
    rw [symbol, if_pos (by omega)]
    exact same _ (by omega)
  split at h
  · cases h
    refine ⟨by omega, ?_⟩
    rw [symbol, if_neg (by omega), if_pos (by omega)]
    exact same _ (by omega)
  split at h
  · cases h
    refine ⟨by omega, ?_⟩
    rw [symbol, if_neg (by omega), if_neg (by omega), if_pos (by omega)]
    exact same _ (by omega)
  split at h
  · rename_i plus
    cases h
    exact ⟨by decide, same _ plus⟩
  split at h
  · rename_i slash
    cases h
    exact ⟨by decide, same _ slash⟩
  · cases h

section Groups

variable {a b c d : Char} {bytes : Bytes}

/-- The first octet of a group, as a number. -/
theorem toNat_first {x y : Nat} (hx : x < 64) (hy : y < 64) :
    (UInt8.ofNat (x * 4 + y / 16)).toNat = x * 4 + y / 16 :=
  UInt8.toNat_ofNat_of_lt' (show _ < 256 by omega)

/-- The second octet of a group, as a number. -/
theorem toNat_second {y z : Nat} (hz : z < 64) :
    (UInt8.ofNat (y % 16 * 16 + z / 4)).toNat = y % 16 * 16 + z / 4 :=
  UInt8.toNat_ofNat_of_lt' (show _ < 256 by omega)

/-- The third octet of a group, as a number. -/
theorem toNat_third {z w : Nat} (hw : w < 64) :
    (UInt8.ofNat (z % 4 * 64 + w)).toNat = z % 4 * 64 + w :=
  UInt8.toNat_ofNat_of_lt' (show _ < 256 by omega)

variable (fill : Nat → List Char)

/-- A group of two symbols is the one of its octet. -/
theorem encodeWith_of_one? (h : one? a b = some bytes) : encodeWith fill bytes = [a, b] ++ fill 2 := by
  simp only [one?, Option.bind_eq_bind, Option.bind_eq_some_iff] at h
  obtain ⟨x, hx, y, hy, h⟩ := h
  split at h
  · rename_i unused
    cases h
    obtain ⟨boundX, rfl⟩ := symbol_of_value? hx
    obtain ⟨boundY, rfl⟩ := symbol_of_value? hy
    have first : (x * 4 + y / 16) / 4 = x := by omega
    have second : (x * 4 + y / 16) % 4 * 16 = y := by omega
    simp only [encodeWith, toNat_first boundX boundY, first, second]
  · cases h

/-- A group of three symbols is the one of its two octets. -/
theorem encodeWith_of_two? (h : two? a b c = some bytes) :
    encodeWith fill bytes = [a, b, c] ++ fill 1 := by
  simp only [two?, Option.bind_eq_bind, Option.bind_eq_some_iff] at h
  obtain ⟨x, hx, y, hy, z, hz, h⟩ := h
  split at h
  · rename_i unused
    cases h
    obtain ⟨boundX, rfl⟩ := symbol_of_value? hx
    obtain ⟨boundY, rfl⟩ := symbol_of_value? hy
    obtain ⟨boundZ, rfl⟩ := symbol_of_value? hz
    have first : (x * 4 + y / 16) / 4 = x := by omega
    have second : (x * 4 + y / 16) % 4 * 16 + (y % 16 * 16 + z / 4) / 16 = y := by omega
    have third : (y % 16 * 16 + z / 4) % 16 * 4 = z := by omega
    simp only [encodeWith, toNat_first boundX boundY, toNat_second boundZ, first, second, third]
  · cases h

/-- A full group is the one of its three octets. -/
theorem encodeWith_of_three? {front rest : Bytes} (h : three? a b c d = some front) :
    encodeWith fill (front ++ rest) = a :: b :: c :: d :: encodeWith fill rest := by
  simp only [three?, Option.bind_eq_bind, Option.bind_eq_some_iff] at h
  obtain ⟨x, hx, y, hy, z, hz, w, hw, h⟩ := h
  cases h
  obtain ⟨boundX, rfl⟩ := symbol_of_value? hx
  obtain ⟨boundY, rfl⟩ := symbol_of_value? hy
  obtain ⟨boundZ, rfl⟩ := symbol_of_value? hz
  obtain ⟨boundW, rfl⟩ := symbol_of_value? hw
  have first : (x * 4 + y / 16) / 4 = x := by omega
  have second : (x * 4 + y / 16) % 4 * 16 + (y % 16 * 16 + z / 4) / 16 = y := by omega
  have third : (y % 16 * 16 + z / 4) % 16 * 4 + (z % 4 * 64 + w) / 64 = z := by omega
  have fourth : (z % 4 * 64 + w) % 64 = w := by omega
  simp only [List.cons_append, List.nil_append, encodeWith, toNat_first boundX boundY,
    toNat_second boundZ, toNat_third boundW, first, second, third, fourth]

end Groups

/-- What is read is the padded form of what it is read as. -/
theorem eq_encode_of_decode? {text : List Char} {bytes : Bytes} (h : decode? text = some bytes) :
    text = encode bytes := by
  unfold encode
  induction text using decode?.induct generalizing bytes with
  | case1 =>
    cases h
    rfl
  | case2 a b =>
    rw [encodeWith_of_one? _ h]
    rfl
  | case3 a b c other =>
    rw [decode?_padded other] at h
    rw [encodeWith_of_two? _ h]
    rfl
  | case4 a b c d rest noPadding noPadding' ih =>
    rw [decode?.eq_4 _ _ _ _ _ noPadding noPadding'] at h
    simp only [Option.bind_eq_bind, Option.bind_eq_some_iff] at h
    obtain ⟨front, group, tail, read, same⟩ := h
    cases same
    rw [encodeWith_of_three? _ group, ← ih read]
  | case5 text h₁ h₂ h₃ h₄ =>
    rw [decode?.eq_5 _ h₁ h₂ h₃ h₄] at h
    cases h

/-- **Reading accepts exactly the padded form** of a byte string. -/
theorem decode?_eq_some_iff {text : List Char} {bytes : Bytes} :
    decode? text = some bytes ↔ text = encode bytes := by
  constructor
  · exact eq_encode_of_decode?
  · rintro rfl
    exact decode?_encode bytes

/-- What is read is the unpadded form of what it is read as. -/
theorem eq_encodeUnpadded_of_decodeUnpadded? {text : List Char} {bytes : Bytes}
    (h : decodeUnpadded? text = some bytes) : text = encodeUnpadded bytes := by
  unfold encodeUnpadded
  induction text using decodeUnpadded?.induct generalizing bytes with
  | case1 =>
    cases h
    rfl
  | case2 a b =>
    rw [encodeWith_of_one? _ h]
    rfl
  | case3 a b c =>
    rw [encodeWith_of_two? _ h]
    rfl
  | case4 a b c d rest ih =>
    rw [decodeUnpadded?] at h
    simp only [Option.bind_eq_bind, Option.bind_eq_some_iff] at h
    obtain ⟨front, group, tail, read, same⟩ := h
    cases same
    rw [encodeWith_of_three? _ group, ← ih read]
  | case5 text h₁ h₂ h₃ h₄ =>
    rw [decodeUnpadded?.eq_5 _ h₁ h₂ h₃ h₄] at h
    cases h

/-- **Reading accepts exactly the unpadded form** of a byte string. -/
theorem decodeUnpadded?_eq_some_iff {text : List Char} {bytes : Bytes} :
    decodeUnpadded? text = some bytes ↔ text = encodeUnpadded bytes := by
  constructor
  · exact eq_encodeUnpadded_of_decodeUnpadded?
  · rintro rfl
    exact decodeUnpadded?_encodeUnpadded bytes

/-! ## Which characters stand in a form -/

/-- A form consists of symbols and of what it has in place of missing ones. -/
theorem mem_encodeWith {fill : Nat → List Char} {bytes : Bytes} {c : Char}
    (h : c ∈ encodeWith fill bytes) : (∃ value < 64, c = symbol value) ∨ ∃ count, c ∈ fill count := by
  induction bytes using encodeWith.induct with
  | case1 => simp [encodeWith] at h
  | case2 a =>
    have := a.toNat_lt
    simp only [encodeWith, List.mem_append, List.mem_cons, List.not_mem_nil, or_false] at h
    rcases h with (rfl | rfl) | filled
    · exact .inl ⟨_, by omega, rfl⟩
    · exact .inl ⟨_, by omega, rfl⟩
    · exact .inr ⟨_, filled⟩
  | case3 a b =>
    have := a.toNat_lt
    have := b.toNat_lt
    simp only [encodeWith, List.mem_append, List.mem_cons, List.not_mem_nil, or_false] at h
    rcases h with (rfl | rfl | rfl) | filled
    · exact .inl ⟨_, by omega, rfl⟩
    · exact .inl ⟨_, by omega, rfl⟩
    · exact .inl ⟨_, by omega, rfl⟩
    · exact .inr ⟨_, filled⟩
  | case4 a b c rest ih =>
    have := a.toNat_lt
    have := b.toNat_lt
    have := c.toNat_lt
    simp only [encodeWith, List.mem_cons] at h
    rcases h with rfl | rfl | rfl | rfl | later
    · exact .inl ⟨_, by omega, rfl⟩
    · exact .inl ⟨_, by omega, rfl⟩
    · exact .inl ⟨_, by omega, rfl⟩
    · exact .inl ⟨_, by omega, rfl⟩
    · exact ih later

/-- The unpadded form has no colon in it. -/
theorem colon_not_mem_encodeUnpadded (bytes : Bytes) : ':' ∉ encodeUnpadded bytes := by
  intro member
  obtain ⟨value, below, same⟩ | ⟨_, filled⟩ := mem_encodeWith member
  · have read := value?_symbol value below
    rw [← same] at read
    cases read
  · cases filled

/-- The padded form consists of groups of four characters, one for three octets or the last one or two. -/
theorem length_encode (bytes : Bytes) : (encode bytes).length = 4 * ((bytes.length + 2) / 3) := by
  unfold encode
  induction bytes using encodeWith.induct with
  | case1 => rfl
  | case2 a => simp [encodeWith]
  | case3 a b => simp [encodeWith]
  | case4 a b c rest ih =>
    simp only [encodeWith, List.length_cons, ih]
    omega

/-- The characters of the padded form: the symbols and the sign that fills up. -/
theorem mem_encode {bytes : Bytes} {c : Char} (h : c ∈ encode bytes) :
    c = '=' ∨ ∃ value < 64, c = symbol value := by
  rcases mem_encodeWith h with symbolic | ⟨_, filled⟩
  · exact .inr symbolic
  · exact .inl (List.eq_of_mem_replicate filled)

end SealedTransfer.Text.Base64
