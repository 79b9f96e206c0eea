import ResumableUpload.Text.Base64
/-!
# Base64 and its canonical texts

Reading is the inverse of writing: what is written is read again,
`Base64.decode_encode`, and what can be read has been written,
`Base64.eq_encode_of_decode`.  Which texts these are is said by
`Base64.IsCanonical` without reading or writing anything, group by group;
`Base64.isCanonical_iff` says that they are the texts that can be read.
-/

namespace ResumableUpload.Base64

/-! ## Characters -/

theorem value?_digit {value : Nat} (small : value < 64) :
    value? (digit value) = some value := by
  have all : ∀ value < 64, value? (digit value) = some value := by
    decide
  exact all value small

/-- A character of the alphabet is the one for its value. -/
theorem digit_of_value? {c : Char} {value : Nat}
    (known : value? c = some value) : digit value = c ∧ value < 64 := by
  rw [value?] at known
  simp only [Char.le_def, UInt32.le_iff_toNat_le] at known
  change (if 65 ≤ c.toNat ∧ c.toNat ≤ 90 then some (c.toNat - 65)
    else if 97 ≤ c.toNat ∧ c.toNat ≤ 122 then some (c.toNat - 97 + 26)
    else if 48 ≤ c.toNat ∧ c.toNat ≤ 57 then some (c.toNat - 48 + 52)
    else if c = '+' then some 62
    else if c = '/' then some 63
    else none) = some value at known
  split at known
  · rename_i upper
    cases known
    refine ⟨?_, by omega⟩
    rw [digit, if_pos (by omega), Nat.add_sub_cancel' upper.1,
      Char.ofNat_toNat]
  split at known
  · rename_i lower
    cases known
    refine ⟨?_, by omega⟩
    rw [digit, if_neg (by omega), if_pos (by omega), Nat.add_sub_cancel,
      Nat.add_sub_cancel' lower.1, Char.ofNat_toNat]
  split at known
  · rename_i number
    cases known
    refine ⟨?_, by omega⟩
    rw [digit, if_neg (by omega), if_neg (by omega), if_pos (by omega),
      Nat.add_sub_cancel, Nat.add_sub_cancel' number.1, Char.ofNat_toNat]
  split at known
  · rename_i plus
    cases known
    exact ⟨plus.symm, by decide⟩
  split at known
  · rename_i slash
    cases known
    exact ⟨slash.symm, by decide⟩
  · cases known

theorem digit_ne_pad {value : Nat} (small : value < 64) :
    digit value ≠ '=' := by
  intro pad
  have known := value?_digit small
  rw [pad] at known
  cases known

/-! ## Groups -/

/-- The bytes of a last group with one byte. -/
theorem lastOne_eq_some_iff {first second : Char} {bytes : Bytes} :
    lastOne first second = some bytes ↔
      ∃ p q, value? first = some p ∧ value? second = some q ∧ q % 16 = 0 ∧
        bytes = [UInt8.ofNat (p * 4 + q / 16)] := by
  simp only [lastOne, Option.bind_eq_bind, Option.bind_eq_some_iff,
    Option.ite_none_right_eq_some, Option.some.injEq]
  constructor
  · rintro ⟨p, one, q, two, spare, rfl⟩
    exact ⟨p, q, one, two, spare, rfl⟩
  · rintro ⟨p, q, one, two, spare, rfl⟩
    exact ⟨p, one, q, two, spare, rfl⟩

/-- The bytes of a last group with two bytes. -/
theorem lastTwo_eq_some_iff {first second third : Char} {bytes : Bytes} :
    lastTwo first second third = some bytes ↔
      ∃ p q r, value? first = some p ∧ value? second = some q ∧
        value? third = some r ∧ r % 4 = 0 ∧
        bytes = [UInt8.ofNat (p * 4 + q / 16),
          UInt8.ofNat (q % 16 * 16 + r / 4)] := by
  simp only [lastTwo, Option.bind_eq_bind, Option.bind_eq_some_iff,
    Option.ite_none_right_eq_some, Option.some.injEq]
  constructor
  · rintro ⟨p, one, q, two, r, three, spare, rfl⟩
    exact ⟨p, q, r, one, two, three, spare, rfl⟩
  · rintro ⟨p, q, r, one, two, three, spare, rfl⟩
    exact ⟨p, one, q, two, r, three, spare, rfl⟩

/-- The bytes of a full group. -/
theorem fullGroup_eq_some_iff {first second third fourth : Char}
    {bytes : Bytes} :
    fullGroup first second third fourth = some bytes ↔
      ∃ p q r s, value? first = some p ∧ value? second = some q ∧
        value? third = some r ∧ value? fourth = some s ∧
        bytes = [UInt8.ofNat (p * 4 + q / 16),
          UInt8.ofNat (q % 16 * 16 + r / 4), UInt8.ofNat (r % 4 * 64 + s)] := by
  simp only [fullGroup, Option.bind_eq_bind, Option.bind_eq_some_iff,
    Option.some.injEq]
  constructor
  · rintro ⟨p, one, q, two, r, three, s, four, rfl⟩
    exact ⟨p, q, r, s, one, two, three, four, rfl⟩
  · rintro ⟨p, q, r, s, one, two, three, four, rfl⟩
    exact ⟨p, one, q, two, r, three, s, four, rfl⟩

/-- One byte is read from what is written for it, and from nothing else. -/
theorem lastOne_eq_some_singleton_iff {first second : Char} {a : UInt8} :
    lastOne first second = some [a] ↔
      first = digit (a.toNat / 4) ∧ second = digit (a.toNat % 4 * 16) := by
  have byte := a.toNat_lt
  rw [lastOne_eq_some_iff]
  constructor
  · rintro ⟨p, q, one, two, spare, same⟩
    rcases digit_of_value? one with ⟨rfl, small⟩
    rcases digit_of_value? two with ⟨rfl, small'⟩
    have value := congrArg UInt8.toNat (List.singleton_inj.1 same)
    rw [UInt8.toNat_ofNat'] at value
    exact ⟨congrArg digit (by omega), congrArg digit (by omega)⟩
  · rintro ⟨rfl, rfl⟩
    refine ⟨_, _, value?_digit (by omega), value?_digit (by omega), by omega,
      ?_⟩
    have whole : a.toNat / 4 * 4 + a.toNat % 4 * 16 / 16 = a.toNat := by omega
    rw [whole, UInt8.ofNat_toNat]

/-- So are two bytes. -/
theorem lastTwo_eq_some_pair_iff {first second third : Char} {a b : UInt8} :
    lastTwo first second third = some [a, b] ↔
      first = digit (a.toNat / 4) ∧
        second = digit (a.toNat % 4 * 16 + b.toNat / 16) ∧
        third = digit (b.toNat % 16 * 4) := by
  have byte := a.toNat_lt
  have next := b.toNat_lt
  rw [lastTwo_eq_some_iff]
  constructor
  · rintro ⟨p, q, r, one, two, three, spare, same⟩
    rcases digit_of_value? one with ⟨rfl, small⟩
    rcases digit_of_value? two with ⟨rfl, small'⟩
    rcases digit_of_value? three with ⟨rfl, small''⟩
    rcases List.cons.inj same with ⟨value, same⟩
    have value := congrArg UInt8.toNat value
    have value' := congrArg UInt8.toNat (List.singleton_inj.1 same)
    rw [UInt8.toNat_ofNat'] at value value'
    exact ⟨congrArg digit (by omega), congrArg digit (by omega),
      congrArg digit (by omega)⟩
  · rintro ⟨rfl, rfl, rfl⟩
    refine ⟨_, _, _, value?_digit (by omega), value?_digit (by omega),
      value?_digit (by omega), by omega, ?_⟩
    have first : a.toNat / 4 * 4 + (a.toNat % 4 * 16 + b.toNat / 16) / 16
        = a.toNat := by omega
    have second : (a.toNat % 4 * 16 + b.toNat / 16) % 16 * 16
        + b.toNat % 16 * 4 / 4 = b.toNat := by omega
    rw [first, second, UInt8.ofNat_toNat, UInt8.ofNat_toNat]

/-- And so are three bytes. -/
theorem fullGroup_eq_some_triple_iff {first second third fourth : Char}
    {a b c : UInt8} :
    fullGroup first second third fourth = some [a, b, c] ↔
      first = digit (a.toNat / 4) ∧
        second = digit (a.toNat % 4 * 16 + b.toNat / 16) ∧
        third = digit (b.toNat % 16 * 4 + c.toNat / 64) ∧
        fourth = digit (c.toNat % 64) := by
  have byte := a.toNat_lt
  have next := b.toNat_lt
  have last := c.toNat_lt
  rw [fullGroup_eq_some_iff]
  constructor
  · rintro ⟨p, q, r, s, one, two, three, four, same⟩
    rcases digit_of_value? one with ⟨rfl, small⟩
    rcases digit_of_value? two with ⟨rfl, small'⟩
    rcases digit_of_value? three with ⟨rfl, small''⟩
    rcases digit_of_value? four with ⟨rfl, smallest⟩
    rcases List.cons.inj same with ⟨value, same⟩
    rcases List.cons.inj same with ⟨value', same⟩
    have value := congrArg UInt8.toNat value
    have value' := congrArg UInt8.toNat value'
    have value'' := congrArg UInt8.toNat (List.singleton_inj.1 same)
    rw [UInt8.toNat_ofNat'] at value value' value''
    exact ⟨congrArg digit (by omega), congrArg digit (by omega),
      congrArg digit (by omega), congrArg digit (by omega)⟩
  · rintro ⟨rfl, rfl, rfl, rfl⟩
    refine ⟨_, _, _, _, value?_digit (by omega), value?_digit (by omega),
      value?_digit (by omega), value?_digit (by omega), ?_⟩
    have first : a.toNat / 4 * 4 + (a.toNat % 4 * 16 + b.toNat / 16) / 16
        = a.toNat := by omega
    have second : (a.toNat % 4 * 16 + b.toNat / 16) % 16 * 16
        + (b.toNat % 16 * 4 + c.toNat / 64) / 4 = b.toNat := by omega
    have third : (b.toNat % 16 * 4 + c.toNat / 64) % 4 * 64 + c.toNat % 64
        = c.toNat := by omega
    rw [first, second, third, UInt8.ofNat_toNat, UInt8.ofNat_toNat,
      UInt8.ofNat_toNat]

/-! ## Texts -/

/-- What is read of a text that does not end with its first group. -/
theorem decode_group {a b c d : Char} {rest : List Char}
    (unpadded : d = '=' → rest = [] → False) :
    decode (a :: b :: c :: d :: rest)
      = (fullGroup a b c d).bind fun group =>
          (decode rest).map (group ++ ·) := by
  rw [decode]
  · cases fullGroup a b c d with
    | none => rfl
    | some group => cases decode rest <;> rfl
  · intro _ pad
    exact unpadded pad
  · exact unpadded

/-- What is read of a last group of three characters and a pad. -/
theorem decode_lastTwo {a b c : Char} (unpadded : c = '=' → False) :
    decode [a, b, c, '='] = lastTwo a b c := by
  rw [decode]
  exact unpadded

/-- What has been written is read back. -/
theorem decode_encode (bytes : Bytes) : decode (encode bytes) = some bytes := by
  induction bytes using encode.induct with
  | case1 => rfl
  | case2 a => exact lastOne_eq_some_singleton_iff.2 ⟨rfl, rfl⟩
  | case3 a b =>
      rw [encode, decode_lastTwo (digit_ne_pad (by omega))]
      exact lastTwo_eq_some_pair_iff.2 ⟨rfl, rfl, rfl⟩
  | case4 a b c rest hypothesis =>
      rw [encode, decode_group fun pad _ => digit_ne_pad (by omega) pad,
        hypothesis, fullGroup_eq_some_triple_iff.2 ⟨rfl, rfl, rfl, rfl⟩]
      rfl

/-- What can be read has been written. -/
theorem eq_encode_of_decode {chars : List Char} {bytes : Bytes}
    (reads : decode chars = some bytes) : chars = encode bytes := by
  induction chars using decode.induct generalizing bytes with
  | case1 =>
      cases reads
      rfl
  | case2 a b =>
      have group : lastOne a b = some bytes := reads
      rcases lastOne_eq_some_iff.1 group with ⟨p, q, -, -, -, rfl⟩
      rcases lastOne_eq_some_singleton_iff.1 group with ⟨rfl, rfl⟩
      rfl
  | case3 a b c unpadded =>
      rw [decode_lastTwo unpadded] at reads
      rcases lastTwo_eq_some_iff.1 reads with ⟨p, q, r, -, -, -, -, rfl⟩
      rcases lastTwo_eq_some_pair_iff.1 reads with ⟨rfl, rfl, rfl⟩
      rfl
  | case4 a b c d rest _ unpadded hypothesis =>
      rw [decode_group unpadded] at reads
      rcases Option.bind_eq_some_iff.1 reads with ⟨group, first, reads⟩
      rcases Option.map_eq_some_iff.1 reads with ⟨others, later, rfl⟩
      rcases fullGroup_eq_some_iff.1 first with ⟨p, q, r, s, -, -, -, -, rfl⟩
      rcases fullGroup_eq_some_triple_iff.1 first with ⟨rfl, rfl, rfl, rfl⟩
      rw [hypothesis later]
      rfl
  | case5 chars nonempty noOne noTwo noGroup =>
      rw [decode] at reads
      · cases reads
      · exact nonempty
      · exact noOne
      · exact noTwo
      · exact noGroup

/-! ## Canonical texts -/

/--
Whether a character belongs to the alphabet and its value is a multiple of
`unit`.
-/
def IsDigit (unit : Nat) (c : Char) : Prop :=
  ∃ value, value? c = some value ∧ value % unit = 0

/--
Texts of groups of four characters of the alphabet, of which the last one may
end in one or two pads that stand for no bits but zeros.
-/
inductive IsCanonical : List Char → Prop where
  | empty : IsCanonical []
  | one {a b : Char} (first : IsDigit 1 a) (second : IsDigit 16 b) :
      IsCanonical [a, b, '=', '=']
  | two {a b c : Char} (first : IsDigit 1 a) (second : IsDigit 1 b)
      (third : IsDigit 4 c) : IsCanonical [a, b, c, '=']
  | group {a b c d : Char} {rest : List Char} (first : IsDigit 1 a)
      (second : IsDigit 1 b) (third : IsDigit 1 c) (fourth : IsDigit 1 d)
      (later : IsCanonical rest) : IsCanonical (a :: b :: c :: d :: rest)

theorem isDigit_of_value? {c : Char} {value : Nat}
    (known : value? c = some value) : IsDigit 1 c :=
  ⟨value, known, Nat.mod_one value⟩

theorem isDigit_digit {value : Nat} (small : value < 64) :
    IsDigit 1 (digit value) :=
  isDigit_of_value? (value?_digit small)

theorem not_isDigit_pad (unit : Nat) : ¬IsDigit unit '=' := by
  rintro ⟨value, known, -⟩
  cases known

/-- What is written is canonical. -/
theorem isCanonical_encode (bytes : Bytes) : IsCanonical (encode bytes) := by
  induction bytes using encode.induct with
  | case1 => exact .empty
  | case2 a =>
      have byte := a.toNat_lt
      exact .one (isDigit_digit (by omega))
        ⟨_, value?_digit (by omega), by omega⟩
  | case3 a b =>
      have byte := a.toNat_lt
      have next := b.toNat_lt
      exact .two (isDigit_digit (by omega)) (isDigit_digit (by omega))
        ⟨_, value?_digit (by omega), by omega⟩
  | case4 a b c rest hypothesis =>
      have byte := a.toNat_lt
      have next := b.toNat_lt
      have last := c.toNat_lt
      exact .group (isDigit_digit (by omega)) (isDigit_digit (by omega))
        (isDigit_digit (by omega)) (isDigit_digit (by omega)) hypothesis

/-- What is canonical can be read. -/
theorem IsCanonical.exists_decode {chars : List Char}
    (canonical : IsCanonical chars) : ∃ bytes, decode chars = some bytes := by
  induction canonical with
  | empty => exact ⟨[], rfl⟩
  | one first second =>
      rcases first with ⟨p, one, -⟩
      rcases second with ⟨q, two, spare⟩
      exact ⟨_, lastOne_eq_some_iff.2 ⟨p, q, one, two, spare, rfl⟩⟩
  | @two a b c first second third =>
      have unpadded : c = '=' → False := by
        rintro rfl
        exact not_isDigit_pad 4 third
      rcases first with ⟨p, one, -⟩
      rcases second with ⟨q, two, -⟩
      rcases third with ⟨r, three, spare⟩
      exact ⟨_, (decode_lastTwo unpadded).trans
        (lastTwo_eq_some_iff.2 ⟨p, q, r, one, two, three, spare, rfl⟩)⟩
  | @group a b c d rest first second third fourth later hypothesis =>
      have unpadded : d = '=' → rest = [] → False := by
        rintro rfl
        exact absurd fourth (not_isDigit_pad 1)
      rcases first with ⟨p, one, -⟩
      rcases second with ⟨q, two, -⟩
      rcases third with ⟨r, three, -⟩
      rcases fourth with ⟨s, four, -⟩
      rcases hypothesis with ⟨others, reads⟩
      rw [decode_group unpadded, reads, fullGroup_eq_some_iff.2
        ⟨p, q, r, s, one, two, three, four, rfl⟩]
      exact ⟨_, rfl⟩

/-- The canonical texts are those that can be read. -/
theorem isCanonical_iff {chars : List Char} :
    IsCanonical chars ↔ ∃ bytes, decode chars = some bytes := by
  refine ⟨IsCanonical.exists_decode, ?_⟩
  rintro ⟨bytes, reads⟩
  rw [eq_encode_of_decode reads]
  exact isCanonical_encode bytes

/-! ## The characters of a text -/

/-- The characters of the alphabet and the pad. -/
theorem IsCanonical.isDigit_or_pad {chars : List Char}
    (canonical : IsCanonical chars) {c : Char} (present : c ∈ chars) :
    IsDigit 1 c ∨ c = '=' := by
  have whole {unit : Nat} {c : Char} : IsDigit unit c → IsDigit 1 c :=
    fun ⟨_, known, _⟩ => isDigit_of_value? known
  induction canonical with
  | empty => cases present
  | one first second =>
      simp only [List.mem_cons, List.not_mem_nil, or_false] at present
      rcases present with rfl | rfl | rfl | rfl
      · exact .inl first
      · exact .inl (whole second)
      · exact .inr rfl
      · exact .inr rfl
  | two first second third =>
      simp only [List.mem_cons, List.not_mem_nil, or_false] at present
      rcases present with rfl | rfl | rfl | rfl
      · exact .inl first
      · exact .inl second
      · exact .inl (whole third)
      · exact .inr rfl
  | group first second third fourth later hypothesis =>
      simp only [List.mem_cons] at present
      rcases present with rfl | rfl | rfl | rfl | present
      · exact .inl first
      · exact .inl second
      · exact .inl third
      · exact .inl fourth
      · exact hypothesis present

end ResumableUpload.Base64
