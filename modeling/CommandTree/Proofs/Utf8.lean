import CommandTree.Codec.Standard
import CommandTree.Proofs.Decoding
/-!
The decoder of UTF-8 reads exactly what encodes a text.

A code point has one form in UTF-8, of one byte to four. The decoder finds the character behind a form, whatever
follows, and what it takes for a character that is not complete can indeed be completed. There is one exception: behind
the byte ED the decoder waits for a third byte before it refuses the beginning of a surrogate.

* `Utf8.IsForm`: the form of a code point, which is that of `String.utf8EncodeChar` (`Utf8.isForm_encode`) and no
  other (`Utf8.IsForm.unique`);
* `Utf8.Meaning`: what a step of the decoder comes to, in terms of forms; with `Utf8.step_means` the decoder need not be
  looked into any more;
* `Utf8.reads_iff`: the bytes that are read are those of the characters, and an unfinished character behind them;
* `Utf8.ofText`: the bytes of a text;
* `Codec.decodeBuffered_utf8_iff` and `Codec.decodePulled_utf8_iff`: the same of whole inputs, in blocks of any lengths.
-/

namespace CommandTree

namespace Utf8

open CharDecoder

/-! ### The form of a code point -/

/-- The form of a code point in UTF-8: each byte behind the first carries six bits. -/
inductive IsForm : Nat → List UInt8 → Prop
  | one {n : Nat} {b : UInt8} (size : n < 0x80) (lead : b.toNat = n) : IsForm n [b]
  | two {n : Nat} {b b₁ : UInt8} (size : 0x80 ≤ n ∧ n < 0x800) (lead : b.toNat = 0xC0 + n / 0x40)
    (tail : b₁.toNat = 0x80 + n % 0x40) : IsForm n [b, b₁]
  -- up to sixteen bits, but no surrogates
  | three {n : Nat} {b b₁ b₂ : UInt8} (size : 0x800 ≤ n ∧ n < 0x10000) (scalar : n < 0xD800 ∨ 0xDFFF < n)
    (lead : b.toNat = 0xE0 + n / 0x1000) (second : b₁.toNat = 0x80 + n / 0x40 % 0x40)
    (tail : b₂.toNat = 0x80 + n % 0x40) : IsForm n [b, b₁, b₂]
  | four {n : Nat} {b b₁ b₂ b₃ : UInt8} (size : 0x10000 ≤ n ∧ n < 0x110000) (lead : b.toNat = 0xF0 + n / 0x40000)
    (second : b₁.toNat = 0x80 + n / 0x1000 % 0x40) (third : b₂.toNat = 0x80 + n / 0x40 % 0x40)
    (tail : b₃.toNat = 0x80 + n % 0x40) : IsForm n [b, b₁, b₂, b₃]

variable {b b₁ b₂ b₃ : UInt8} {bs rest : List UInt8} {n : Nat} {c : Char}

lemma toNat_ofNat (h : n < 256) : (UInt8.ofNat n).toNat = n := by
  simp [Nat.mod_eq_of_lt h]

/-- A character is encoded in the form of its code point. -/
lemma isForm_encode (c : Char) : IsForm c.toNat (String.utf8EncodeChar c) := by
  have valid : c.toNat.isValidChar := c.valid
  simp only [String.utf8EncodeChar, show c.val.toNat = c.toNat from rfl]
  generalize c.toNat = n at valid
  simp only [Nat.isValidChar] at valid
  split
  · exact .one (by omega) (toNat_ofNat (by omega))
  split
  · exact .two (by omega) (by rw [toNat_ofNat] <;> omega) (by rw [toNat_ofNat] <;> omega)
  split
  · exact .three (by omega) (by omega) (by rw [toNat_ofNat] <;> omega) (by rw [toNat_ofNat] <;> omega)
      (by rw [toNat_ofNat] <;> omega)
  · exact .four (by omega) (by rw [toNat_ofNat] <;> omega) (by rw [toNat_ofNat] <;> omega)
      (by rw [toNat_ofNat] <;> omega) (by rw [toNat_ofNat] <;> omega)

/-- A code point has one form. -/
lemma IsForm.unique {bs' : List UInt8} (h : IsForm n bs) (h' : IsForm n bs') : bs = bs' := by
  cases h <;> cases h' <;> try omega
  all_goals simp only [List.cons.injEq, and_true, ← UInt8.toNat_inj]
  all_goals omega

/-- The character of a code point is encoded in its form. -/
lemma IsForm.encode_charOf (h : IsForm n bs) : String.utf8EncodeChar (charOf n) = bs := by
  have valid : n.isValidChar := by
    simp only [Nat.isValidChar]
    cases h <;> omega
  have code : (charOf n).toNat = n := by
    rw [charOf, Char.ofNat, dif_pos valid]
    rfl
  have form := isForm_encode (charOf n)
  rw [code] at form
  exact form.unique h

/-! ### Bytes that end inside a character -/

/-- Bytes that are the beginning of a character and not all of it, or that would begin a surrogate. -/
def EndsInside (tail : List UInt8) : Prop :=
  (∃ c, tail <+: String.utf8EncodeChar c ∧ tail ≠ String.utf8EncodeChar c) ∨
    ∃ b, tail = [0xED, b] ∧ 0xA0 ≤ b ∧ b < 0xC0

lemma endsInside_nil : EndsInside [] := .inl ⟨'a', List.nil_prefix, by decide⟩

/-- A form that is cut short ends inside its character. -/
lemma IsForm.endsInside {front : List UInt8} (more : List UInt8) (cut : more ≠ []) (h : IsForm n (front ++ more)) :
    EndsInside front := by
  refine .inl ⟨charOf n, ⟨more, h.encode_charOf.symm⟩, fun same => cut ?_⟩
  rw [h.encode_charOf] at same
  exact List.self_eq_append_right.1 same

/-! ### The bytes of a character -/

lemma payload_lt (b : UInt8) : payload b < 0x40 := Nat.mod_lt _ (by decide)

lemma continues_iff : continues b = true ↔ b.toNat = 0x80 + payload b := by
  have := b.toNat_lt
  simp only [continues, payload, UInt8.lt_iff_toNat_lt, UInt8.le_iff_toNat_le, Bool.and_eq_true, decide_eq_true_eq,
    UInt8.reduceToNat]
  omega

lemma admitsSecond_iff : admitsSecond b b₁ = true ↔ b₁.toNat = 0x80 + payload b₁ ∧
    (b.toNat = 0xE0 → 0x20 ≤ payload b₁) ∧ (b.toNat = 0xED → payload b₁ < 0x20) ∧
    (b.toNat = 0xF0 → 0x10 ≤ payload b₁) ∧ (b.toNat = 0xF4 → payload b₁ < 0x10) := by
  simp only [admitsSecond, UInt8.lt_iff_toNat_lt, UInt8.reduceToNat, Bool.not_and, UInt8.le_iff_toNat_le,
    Bool.and_eq_true, continues_iff, Bool.or_eq_true, Bool.not_eq_eq_eq_not, Bool.not_true, beq_eq_false_iff_ne, ne_eq,
    ← UInt8.toNat_inj, decide_eq_false_iff_not, Nat.not_lt, Nat.not_le]
  omega

lemma beginsSurrogate_iff : beginsSurrogate b b₁ = true ↔
    b.toNat = 0xED ∧ b₁.toNat = 0x80 + payload b₁ ∧ 0x20 ≤ payload b₁ := by
  simp only [beginsSurrogate, UInt8.le_iff_toNat_le, UInt8.reduceToNat, Bool.and_eq_true, beq_iff_eq,
    ← UInt8.toNat_inj, decide_eq_true_eq, continues_iff]
  omega

/-! ### Steps by their first byte -/

lemma step_of_one (size : b.toNat < 0x80) : utf8Step b bs = .char (charOf b.toNat) bs := by
  simp only [utf8Step, UInt8.lt_iff_toNat_lt, UInt8.reduceToNat]
  rw [if_pos size]

lemma step_of_none (size : 0x80 ≤ b.toNat ∧ b.toNat < 0xC2 ∨ 0xF5 ≤ b.toNat) :
    utf8Step b bs = .invalid 1 .invalidStart := by
  simp only [utf8Step, UInt8.lt_iff_toNat_lt, UInt8.reduceToNat]
  rw [if_neg (by omega)]
  rcases size with size | size
  · rw [if_pos size.2]
  · rw [if_neg (by omega), if_neg (by omega), if_neg (by omega), if_neg (by omega)]

lemma step_of_two (size : 0xC2 ≤ b.toNat ∧ b.toNat < 0xE0) : utf8Step b bs = match bs with
    | [] => .incomplete 1 .unexpectedEnd
    | b₁ :: rest =>
      if continues b₁ then .char (charOf (b.toNat % 0x20 * 0x40 + payload b₁)) rest
      else .invalid 1 .invalidContinuation := by
  simp only [utf8Step, UInt8.lt_iff_toNat_lt, UInt8.reduceToNat]
  rw [if_neg (by omega), if_neg (by omega)]
  exact if_pos size.2

lemma step_of_three (size : 0xE0 ≤ b.toNat ∧ b.toNat < 0xF0) : utf8Step b bs = match bs with
    | [] => .incomplete 1 .unexpectedEnd
    | b₁ :: bs =>
      if beginsSurrogate b b₁ && bs.isEmpty then .incomplete 1 .invalidContinuation
      else if !admitsSecond b b₁ then .invalid 1 .invalidContinuation
      else match bs with
        | [] => .incomplete 2 .unexpectedEnd
        | b₂ :: rest =>
          if continues b₂ then .char (charOf ((b.toNat % 0x10 * 0x40 + payload b₁) * 0x40 + payload b₂)) rest
          else .invalid 2 .invalidContinuation := by
  simp only [utf8Step, UInt8.lt_iff_toNat_lt, UInt8.reduceToNat]
  rw [if_neg (by omega), if_neg (by omega), if_neg (by omega)]
  exact if_pos size.2

lemma step_of_four (size : 0xF0 ≤ b.toNat ∧ b.toNat < 0xF5) : utf8Step b bs = match bs with
    | [] => .incomplete 1 .unexpectedEnd
    | b₁ :: bs =>
      if !admitsSecond b b₁ then .invalid 1 .invalidContinuation
      else match bs with
        | [] => .incomplete 2 .unexpectedEnd
        | b₂ :: bs =>
          if !continues b₂ then .invalid 2 .invalidContinuation
          else match bs with
            | [] => .incomplete 3 .unexpectedEnd
            | b₃ :: rest =>
              if continues b₃ then
                .char (charOf (((b.toNat % 0x08 * 0x40 + payload b₁) * 0x40 + payload b₂) * 0x40 + payload b₃)) rest
              else .invalid 3 .invalidContinuation := by
  simp only [utf8Step, UInt8.lt_iff_toNat_lt, UInt8.reduceToNat]
  rw [if_neg (by omega), if_neg (by omega), if_neg (by omega), if_neg (by omega)]
  exact if_pos size.2

/-- A form is read as the character of its code point, whatever follows. -/
lemma IsForm.step (h : IsForm n (b :: bs)) (rest : List UInt8) : utf8Step b (bs ++ rest) = .char (charOf n) rest := by
  cases h with
  | one size lead => rw [step_of_one (by omega), lead, List.nil_append]
  | @two _ b₁ size lead tail =>
      have tail' : payload b₁ = n % 0x40 := by simp only [payload]; omega
      have goes_on : continues b₁ = true := continues_iff.2 (by omega)
      have code : b.toNat % 0x20 * 0x40 + n % 0x40 = n := by omega
      rw [step_of_two (by omega)]
      simp [goes_on, tail', code]
  | @three _ b₁ b₂ size scalar lead second tail =>
      have second' : payload b₁ = n / 0x40 % 0x40 := by simp only [payload]; omega
      have tail' : payload b₂ = n % 0x40 := by simp only [payload]; omega
      have admitted : admitsSecond b b₁ = true := admitsSecond_iff.2 (by omega)
      have goes_on : continues b₂ = true := continues_iff.2 (by omega)
      have code : (b.toNat % 0x10 * 0x40 + n / 0x40 % 0x40) * 0x40 + n % 0x40 = n := by omega
      rw [step_of_three (by omega)]
      simp [admitted, goes_on, second', tail', code]
  | @four _ b₁ b₂ b₃ size lead second third tail =>
      have second' : payload b₁ = n / 0x1000 % 0x40 := by simp only [payload]; omega
      have third' : payload b₂ = n / 0x40 % 0x40 := by simp only [payload]; omega
      have tail' : payload b₃ = n % 0x40 := by simp only [payload]; omega
      have admitted : admitsSecond b b₁ = true := admitsSecond_iff.2 (by omega)
      have goes_on₂ : continues b₂ = true := continues_iff.2 (by omega)
      have goes_on₃ : continues b₃ = true := continues_iff.2 (by omega)
      have code : ((b.toNat % 0x08 * 0x40 + n / 0x1000 % 0x40) * 0x40 + n / 0x40 % 0x40) * 0x40 + n % 0x40 = n := by
        omega
      rw [step_of_four (by omega)]
      simp [admitted, goes_on₂, goes_on₃, second', third', tail', code]

/-! ### What a step means -/

/-- What a step of the decoder comes to. -/
inductive Meaning (b : UInt8) : List UInt8 → CharStep → Prop
  | char {n : Nat} {tail : List UInt8} (form : IsForm n (b :: tail)) (rest : List UInt8) :
    Meaning b (tail ++ rest) (.char (charOf n) rest)
  | incomplete {bs : List UInt8} (inside : EndsInside (b :: bs)) (length : Nat) (problem : DecodeProblem) :
    Meaning b bs (.incomplete length problem)
  | invalid {bs : List UInt8} {length : Nat} {problem : DecodeProblem}
    (hopeless : ∀ more, utf8Step b (bs ++ more) = .invalid length problem) : Meaning b bs (.invalid length problem)

lemma means_of_two (size : 0xC2 ≤ b.toNat ∧ b.toNat < 0xE0) : Meaning b bs (utf8Step b bs) := by
  have pad : (0x80 : UInt8).toNat = 0x80 := rfl
  have steps {bs} := @step_of_two b bs size
  cases bs with
  | nil =>
      rw [steps]
      have form := @IsForm.two (b.toNat % 0x20 * 0x40) b 0x80 (by omega) (by omega) (by omega)
      exact .incomplete (form.endsInside [0x80] (List.cons_ne_nil _ _)) _ _
  | cons b₁ rest =>
      cases goes_on : continues b₁ with
      | false =>
          rw [steps]
          simp only [goes_on]
          exact .invalid fun more => by simp [steps, goes_on]
      | true =>
          rw [steps]
          simp only [goes_on, if_true]
          rw [continues_iff] at goes_on
          have := payload_lt b₁
          exact .char (.two (by omega) (by omega) (by omega)) rest

lemma means_of_three (size : 0xE0 ≤ b.toNat ∧ b.toNat < 0xF0) : Meaning b bs (utf8Step b bs) := by
  have pad : (0x80 : UInt8).toNat = 0x80 := rfl
  have steps {bs} := @step_of_three b bs size
  rcases bs with _ | ⟨b₁, bs⟩
  · -- the second byte must not make the form longer than it needs
    rw [steps]
    by_cases least : b.toNat = 0xE0
    · have second : (0xA0 : UInt8).toNat = 0xA0 := rfl
      have form := @IsForm.three 0x800 b 0xA0 0x80 (by omega) (by omega) (by omega) (by omega) (by omega)
      exact .incomplete (form.endsInside [0xA0, 0x80] (List.cons_ne_nil _ _)) _ _
    · have form := @IsForm.three (b.toNat % 0x10 * 0x1000) b 0x80 0x80 (by omega) (by omega) (by omega) (by omega)
        (by omega)
      exact .incomplete (form.endsInside [0x80, 0x80] (List.cons_ne_nil _ _)) _ _
  have := payload_lt b₁
  cases admitted : admitsSecond b b₁ with
  | false =>
      cases surrogate : beginsSurrogate b b₁ && bs.isEmpty with
      | true =>
          rw [steps]
          simp only [surrogate, if_true]
          rw [Bool.and_eq_true, List.isEmpty_iff] at surrogate
          obtain ⟨begins, rfl⟩ := surrogate
          simp only [beginsSurrogate, Bool.and_eq_true, beq_iff_eq, decide_eq_true_eq, continues] at begins
          obtain ⟨⟨rfl, low⟩, -, high⟩ := begins
          exact .incomplete (.inr ⟨b₁, rfl, low, high⟩) _ _
      | false =>
          have still (more : List UInt8) : (beginsSurrogate b b₁ && (bs ++ more).isEmpty) = false := by
            cases bs <;> simp_all
          rw [steps]
          simp only [surrogate, admitted]
          exact .invalid fun more => by simp [steps, still more, admitted]
  | true =>
      have scalar : beginsSurrogate b b₁ = false := by
        rw [admitsSecond_iff] at admitted
        rw [Bool.eq_false_iff, Ne, beginsSurrogate_iff]
        omega
      rcases bs with _ | ⟨b₂, rest⟩
      · rw [steps]
        simp only [scalar, admitted]
        rw [admitsSecond_iff] at admitted
        have form := @IsForm.three ((b.toNat % 0x10 * 0x40 + payload b₁) * 0x40) b b₁ 0x80 (by omega) (by omega)
          (by omega) (by omega) (by omega)
        exact .incomplete (form.endsInside [0x80] (List.cons_ne_nil _ _)) _ _
      · cases goes_on : continues b₂ with
        | false =>
            rw [steps]
            simp only [scalar, admitted, goes_on]
            exact .invalid fun more => by simp [steps, admitted, goes_on]
        | true =>
            rw [steps]
            simp only [scalar, admitted, goes_on]
            rw [admitsSecond_iff] at admitted
            rw [continues_iff] at goes_on
            have := payload_lt b₂
            exact .char (.three (by omega) (by omega) (by omega) (by omega) (by omega)) rest

lemma means_of_four (size : 0xF0 ≤ b.toNat ∧ b.toNat < 0xF5) : Meaning b bs (utf8Step b bs) := by
  have pad : (0x80 : UInt8).toNat = 0x80 := rfl
  have steps {bs} := @step_of_four b bs size
  rcases bs with _ | ⟨b₁, bs⟩
  · rw [steps]
    by_cases least : b.toNat = 0xF0
    · have second : (0x90 : UInt8).toNat = 0x90 := rfl
      have form := @IsForm.four 0x10000 b 0x90 0x80 0x80 (by omega) (by omega) (by omega) (by omega) (by omega)
      exact .incomplete (form.endsInside [0x90, 0x80, 0x80] (List.cons_ne_nil _ _)) _ _
    · have form := @IsForm.four (b.toNat % 0x08 * 0x40000) b 0x80 0x80 0x80 (by omega) (by omega) (by omega) (by omega)
        (by omega)
      exact .incomplete (form.endsInside [0x80, 0x80, 0x80] (List.cons_ne_nil _ _)) _ _
  have := payload_lt b₁
  cases admitted : admitsSecond b b₁ with
  | false =>
      rw [steps]
      simp only [admitted]
      exact .invalid fun more => by simp [steps, admitted]
  | true =>
      have second := admitsSecond_iff.1 admitted
      rcases bs with _ | ⟨b₂, bs⟩
      · rw [steps]
        simp only [admitted]
        have form := @IsForm.four ((b.toNat % 0x08 * 0x40 + payload b₁) * 0x1000) b b₁ 0x80 0x80 (by omega) (by omega)
          (by omega) (by omega) (by omega)
        exact .incomplete (form.endsInside [0x80, 0x80] (List.cons_ne_nil _ _)) _ _
      have := payload_lt b₂
      cases goes_on₂ : continues b₂ with
      | false =>
          rw [steps]
          simp only [admitted, goes_on₂]
          exact .invalid fun more => by simp [steps, admitted, goes_on₂]
      | true =>
          have third := continues_iff.1 goes_on₂
          rcases bs with _ | ⟨b₃, rest⟩
          · rw [steps]
            simp only [admitted, goes_on₂]
            have form := @IsForm.four (((b.toNat % 0x08 * 0x40 + payload b₁) * 0x40 + payload b₂) * 0x40) b b₁ b₂ 0x80
              (by omega) (by omega) (by omega) (by omega) (by omega)
            exact .incomplete (form.endsInside [0x80] (List.cons_ne_nil _ _)) _ _
          · cases goes_on₃ : continues b₃ with
            | false =>
                rw [steps]
                simp only [admitted, goes_on₂, goes_on₃]
                exact .invalid fun more => by simp [steps, admitted, goes_on₂, goes_on₃]
            | true =>
                rw [steps]
                simp only [admitted, goes_on₂, goes_on₃]
                rw [continues_iff] at goes_on₃
                have := payload_lt b₃
                exact .char (.four (by omega) (by omega) (by omega) (by omega) (by omega)) rest

/-- **A step of the decoder** finds a form, or the front of a character, or what begins no character. -/
theorem step_means (b : UInt8) (bs : List UInt8) : Meaning b bs (utf8Step b bs) := by
  by_cases one : b.toNat < 0x80
  · rw [step_of_one one]
    exact @Meaning.char b b.toNat [] (.one one rfl) bs
  by_cases two : 0xC2 ≤ b.toNat ∧ b.toNat < 0xE0
  · exact means_of_two two
  by_cases three : 0xE0 ≤ b.toNat ∧ b.toNat < 0xF0
  · exact means_of_three three
  by_cases four : 0xF0 ≤ b.toNat ∧ b.toNat < 0xF5
  · exact means_of_four four
  have none_ : 0x80 ≤ b.toNat ∧ b.toNat < 0xC2 ∨ 0xF5 ≤ b.toNat := by omega
  rw [step_of_none none_]
  exact .invalid fun more => step_of_none none_

/-! ### What is read -/

/-- What follows a character or an error in UTF-8 has no part in it. -/
lemma stable : utf8.Stable where
  char {b bs c rest} h more := by
    have means := step_means b bs
    rw [show utf8Step b bs = _ from h] at means
    cases means with
    | char form =>
        rw [List.append_assoc]
        exact form.step _
  invalid {b bs length problem} h more := by
    have means := step_means b bs
    rw [show utf8Step b bs = _ from h] at means
    cases means with
    | invalid hopeless => exact hopeless more

/-- The encoding of a character is read as the character, whatever follows. -/
lemma step_encode (encoded : String.utf8EncodeChar c = b :: bs) (rest : List UInt8) :
    utf8.step b (bs ++ rest) = .char c rest := by
  have form := isForm_encode c
  rw [encoded] at form
  have first := form.step rest
  rwa [charOf, Char.ofNat_toNat] at first

/-- A character is encoded in one byte at least. -/
lemma exists_encode (c : Char) : ∃ b bs, String.utf8EncodeChar c = b :: bs := by
  have form := isForm_encode c
  cases encoded : String.utf8EncodeChar c with
  | nil => rw [encoded] at form; cases form
  | cons b bs => exact ⟨b, bs, rfl⟩

/-- What ends inside a character is left. -/
lemma EndsInside.reads {tail : List UInt8} (h : EndsInside tail) : utf8.Reads tail [] tail := by
  rcases h with ⟨c, ⟨more, whole⟩, cut⟩ | ⟨b, rfl, low, high⟩
  · cases tail with
    | nil => exact .nil
    | cons b bs =>
        have read : utf8.step b (bs ++ more) = .char c [] := by
          have read := step_encode whole.symm []
          rwa [List.append_nil] at read
        cases first : utf8.step b bs with
        | incomplete length problem => exact .inside first
        | invalid length problem => cases read.symm.trans (stable.invalid first more)
        | char d rest =>
            have same := read.symm.trans (stable.char first more)
            simp only [CharStep.char.injEq, List.nil_eq, List.append_eq_nil_iff] at same
            rw [same.2.2, List.append_nil] at whole
            exact absurd whole cut
  · have first : utf8.step 0xED [b] = .incomplete 1 .invalidContinuation := by
      change utf8Step 0xED [b] = _
      have begins : beginsSurrogate 0xED b = true := by
        have low' : (0x80 : UInt8) ≤ b := UInt8.le_trans (by decide) low
        simp [beginsSurrogate, continues, low, low', high]
      rw [step_of_three (by decide)]
      simp [begins]
    exact .inside first

/-- **The decoder of UTF-8 reads** the encoded characters, and leaves what ends inside a character. -/
theorem reads_iff {bytes left : List UInt8} {cs : List Char} :
    utf8.Reads bytes cs left ↔ bytes = cs.flatMap String.utf8EncodeChar ++ left ∧ EndsInside left := by
  constructor
  · intro reads
    induction reads with
    | nil => exact ⟨rfl, endsInside_nil⟩
    | @char b bs rest left c cs first _ ih =>
        have means := step_means b bs
        rw [show utf8Step b bs = _ from first] at means
        cases means with
        | char form =>
            obtain ⟨rfl, inside⟩ := ih
            rw [List.flatMap_cons, form.encode_charOf, List.append_assoc]
            exact ⟨rfl, inside⟩
    | @inside b bs length problem first =>
        have means := step_means b bs
        rw [show utf8Step b bs = _ from first] at means
        cases means with
        | incomplete inside => exact ⟨rfl, inside⟩
  · rintro ⟨rfl, inside⟩
    induction cs with
    | nil => exact inside.reads
    | cons c cs ih =>
        obtain ⟨b, bs, encoded⟩ := exists_encode c
        rw [List.flatMap_cons, List.append_assoc, encoded]
        exact .char (step_encode encoded _) ih

/-! ### The bytes of a text -/

/-- The bytes of a text. -/
def ofText (text : String) : List UInt8 := text.toUTF8.data.toList

lemma ofText_ofList (cs : List Char) : ofText (String.ofList cs) = cs.flatMap String.utf8EncodeChar := by
  rw [ofText, String.toUTF8, String.toByteArray_ofList, List.utf8Encode, List.toList_data_toByteArray]

lemma ofText_eq (text : String) : ofText text = text.toList.flatMap String.utf8EncodeChar := by
  rw [← ofText_ofList, String.ofList_toList]

/-- A text with the front of a character behind it is no text. -/
lemma ofText_append_ne {tail : List UInt8} (inside : EndsInside tail) (cut : tail ≠ []) (text other : String) :
    ofText text ++ tail ≠ ofText other := by
  intro same
  have reads : utf8.Reads (ofText text ++ tail) text.toList tail := reads_iff.2 ⟨by rw [ofText_eq], inside⟩
  have reads' : utf8.Reads (ofText other) other.toList [] :=
    reads_iff.2 ⟨by rw [ofText_eq, List.append_nil], endsInside_nil⟩
  rw [same] at reads
  exact cut (reads.unique reads').2

end Utf8

/-! ### Whole inputs -/

namespace Codec

open CharDecoder Utf8

variable {s : ByteStream} {cs : List Char}

/-- **A stream in UTF-8 that is read in blocks** decodes if it is the encoding of its characters. -/
theorem decodeBuffered_utf8_iff :
    Encoding.utf8.codec.decodeBuffered s = (cs, none) ↔ s.Holds (cs.flatMap String.utf8EncodeChar) := by
  refine (Utf8.stable.decodeBlocks_iff s.failure s.blocks).trans ?_
  simp [ByteStream.Holds, Utf8.reads_iff, withHeld, endsInside_nil]

/-- **A stream in UTF-8 of which no more is read than characters take** decodes if it is the encoding of its characters and
the front of another one. -/
theorem decodePulled_utf8_iff : Encoding.utf8.codec.decodePulled s = (cs, none) ↔
    ∃ tail, s.Holds (cs.flatMap String.utf8EncodeChar ++ tail) ∧ EndsInside tail := by
  refine (Utf8.stable.decodeSteps_iff s.failure s.blocks .nil).trans ?_
  simp only [List.nil_append, Utf8.reads_iff, ByteStream.Holds, ← exists_and_left, and_assoc]

end Codec

end CommandTree
