import FileMode.Proofs.Language

/-! What a message tells. A quoted text is read back character by character, so that no two texts
are quoted alike, and the message of a rejection tells its cause and the rejected text. -/

namespace FileMode

namespace Quoted

def hexDigitValue (c : Char) : ℕ :=
  if c.isDigit then c.toNat - '0'.toNat else 10 + c.toNat - 'a'.toNat

def hexValue (digits : List Char) : ℕ := digits.foldl (fun n c => n * 16 + hexDigitValue c) 0

def readCode (width : ℕ) (cs : List Char) : Char × List Char :=
  (Char.ofNat (hexValue (cs.take width)), cs.drop width)

def readEscape (c : Char) (cs : List Char) : Char × List Char :=
  if c = 'x' then readCode 2 cs
  else if c = 'u' then readCode 4 cs
  else if c = 'U' then readCode 8 cs
  else if c = 'n' then ('\n', cs)
  else if c = 'r' then ('\r', cs)
  else if c = 't' then ('\t', cs)
  else (c, cs)

def readChar : List Char → Option (Char × List Char)
  | [] => none
  | c :: cs => if c = '\\' then cs.head?.map (readEscape · cs.tail) else some (c, cs)

lemma length_hexDigits (width n : ℕ) : (hexDigits width n).length = width := by
  induction width generalizing n with
  | zero => rfl
  | succ w ih => simp [hexDigits, ih]

lemma hexDigitValue_digitChar {d : ℕ} (hd : d < 16) : hexDigitValue (Nat.digitChar d) = d := by
  have hall : ∀ d : Fin 16, hexDigitValue (Nat.digitChar d) = d := by decide
  exact hall ⟨d, hd⟩

lemma hexValue_hexDigits (width n : ℕ) : hexValue (hexDigits width n) = n % 16 ^ width := by
  induction width generalizing n with
  | zero => simp [hexDigits, hexValue, Nat.mod_one]
  | succ width ih =>
    have hlast := hexDigitValue_digitChar (Nat.mod_lt n (by decide : 0 < 16))
    have hfront := ih (n / 16)
    rw [hexValue] at hfront
    rw [hexDigits, hexValue, List.foldl_append, hfront, List.foldl_cons, List.foldl_nil, hlast,
      Nat.pow_succ', Nat.mod_mul]
    omega

lemma readCode_hexDigits (width : ℕ) {c : Char} (hc : c.toNat < 16 ^ width) (rest : List Char) :
    readCode width (hexDigits width c.toNat ++ rest) = (c, rest) := by
  have hlength := length_hexDigits width c.toNat
  rw [readCode, List.take_left' hlength, List.drop_left' hlength, hexValue_hexDigits,
    Nat.mod_eq_of_lt hc, Char.ofNat_toNat]

lemma readChar_codeEscape (c : Char) (rest : List Char) :
    readChar (codeEscape c.toNat ++ rest) = some (c, rest) := by
  rw [codeEscape]
  split
  · next hc => exact congrArg some (readCode_hexDigits 2 hc rest)
  split
  · next hc => exact congrArg some (readCode_hexDigits 4 hc rest)
  · have hc : c.toNat < 16 ^ 8 := UInt32.toNat_lt c.val
    exact congrArg some (readCode_hexDigits 8 hc rest)

/-- Only these two are ever used; a delimiter such as `n` would be lost among the escapes. -/
def IsDelimiter (q : Char) : Prop := q = '\x27' ∨ q = '\x22'

lemma isDelimiter_delimiter (cs : List Char) : IsDelimiter (delimiter cs) := by
  rw [delimiter]
  split
  · exact .inr rfl
  · exact .inl rfl

variable {q : Char}

lemma readChar_encodeChar (hq : IsDelimiter q) (c : Char) (rest : List Char) :
    readChar (encodeChar q c ++ rest) = some (c, rest) := by
  rw [encodeChar]
  split
  · next hc =>
    rcases hc with rfl | rfl
    · rfl
    · rcases hq with rfl | rfl <;> rfl
  next hescaped =>
  split
  · next hc => rw [hc]; rfl
  split
  · next hc => rw [hc]; rfl
  split
  · next hc => rw [hc]; rfl
  split
  · exact if_neg fun hc => hescaped (.inl hc)
  · exact readChar_codeEscape c rest

lemma encodeChars_injective (hq : IsDelimiter q) {cs ds : List Char}
    (h : cs.flatMap (encodeChar q) = ds.flatMap (encodeChar q)) : cs = ds := by
  induction cs generalizing ds with
  | nil =>
    cases ds with
    | nil => rfl
    | cons d ds =>
      have hread := readChar_encodeChar hq d (ds.flatMap (encodeChar q))
      rw [← List.flatMap_cons, ← h] at hread
      cases hread
  | cons c cs ih =>
    have hread := readChar_encodeChar hq c (cs.flatMap (encodeChar q))
    rw [← List.flatMap_cons, h] at hread
    cases ds with
    | nil => cases hread
    | cons d ds =>
      rw [List.flatMap_cons, readChar_encodeChar hq] at hread
      obtain ⟨rfl, htail⟩ := Prod.mk.inj (Option.some.inj hread)
      rw [ih htail.symm]

lemma encode_injective {cs ds : List Char} (h : encode cs = encode ds) : cs = ds := by
  rw [encode, encode] at h
  obtain ⟨hq, hrest⟩ := List.cons.inj h
  rw [← hq] at hrest
  exact encodeChars_injective (isDelimiter_delimiter cs) (List.append_cancel_right hrest)

lemma quote_injective {s t : String} (h : quote s = quote t) : s = t :=
  String.toList_injective (encode_injective (String.ofList_injective h))

end Quoted

namespace Rejection

lemma eq_of_message_begins {r r' : Rejection} (h : r.message.toList <+: r'.message.toList) :
    r = r' := by
  revert h
  cases r <;> cases r' <;> decide

lemma message_begins (r : Rejection) (text : String) :
    r.message.toList <+: (r.messageFor text).toList := by
  rw [messageFor, String.append_assoc, String.toList_append]
  exact List.prefix_append _ _

lemma messageFor_ne_empty (r : Rejection) (text : String) : r.messageFor text ≠ "" := by
  intro hempty
  have h := r.message_begins text
  rw [hempty] at h
  cases r <;> exact absurd (List.prefix_nil.mp h) (by decide)

lemma messageFor_injective {r r' : Rejection} {text text' : String}
    (h : r.messageFor text = r'.messageFor text') : r = r' ∧ text = text' := by
  have hr : r = r' := by
    have hprefix := r.message_begins text
    rw [h] at hprefix
    rcases List.prefix_or_prefix_of_prefix hprefix (r'.message_begins text') with hle | hle
    · exact eq_of_message_begins hle
    · exact (eq_of_message_begins hle).symm
  subst hr
  exact ⟨rfl, Quoted.quote_injective ((String.append_right_inj _).mp h)⟩

end Rejection

namespace SystemError

lemma base_eq_of_message_eq (e e' : SystemError) (hcode : e.code = e'.code)
    (hcall : e.call = e'.call) (h : e.message = e'.message) : e.base = e'.base := by
  rw [message, message, hcode, hcall] at h
  exact (String.append_right_inj _).mp ((String.append_left_inj _).mp
    ((String.append_left_inj _).mp ((String.append_left_inj _).mp h)))

lemma base_invalid (call : Call) {detail : String} (hdetail : detail ≠ "") :
    (invalid call detail).base = detail := by
  simp [invalid, base, hdetail]

end SystemError

lemma Call.changeBy_text_eq_error_iff (call : Call) (o : Options) (s : String) (m : Mode)
    (e : Failure) :
    call.changeBy o (.text s) m = .error e ↔
      ∃ cause, m.change o s = .error cause ∧
        e = .system (.invalid call (cause.messageFor s)) := by
  rw [changeBy, change]
  cases m.change o s <;> simp [Except.mapError, eq_comm]

lemma SystemError.invalid_message_injective (call : Call) {r r' : Rejection} {s s' : String}
    (h : (invalid call (r.messageFor s)).message = (invalid call (r'.messageFor s')).message) :
    r = r' ∧ s = s' := by
  have hbase := base_eq_of_message_eq (invalid call (r.messageFor s))
    (invalid call (r'.messageFor s')) rfl rfl h
  rw [base_invalid call (r.messageFor_ne_empty s), base_invalid call (r'.messageFor_ne_empty s')]
    at hbase
  exact Rejection.messageFor_injective hbase

theorem message_identifies :
    (∀ (r r' : Rejection) (s s' : String),
      (Failure.rejected r s).message = (Failure.rejected r' s').message → r = r' ∧ s = s') ∧
    ∀ (call : Call) (current current' : ℤ) (o o' : Options) (s s' : String) (e e' : Failure),
      call.changeBy o (.text s) (Mode.ofInt current) = .error e →
      call.changeBy o' (.text s') (Mode.ofInt current') = .error e' →
      e.message = e'.message →
      s = s' ∧ ∃ cause, (Mode.ofInt current).change o s = .error cause ∧
        (Mode.ofInt current').change o' s' = .error cause := by
  refine ⟨fun r r' s s' h => Rejection.messageFor_injective h, ?_⟩
  intro call current current' o o' s s' e e' he he' hmessage
  obtain ⟨cause, hcause, rfl⟩ := (call.changeBy_text_eq_error_iff o s _ e).mp he
  obtain ⟨cause', hcause', rfl⟩ := (call.changeBy_text_eq_error_iff o' s' _ e').mp he'
  obtain ⟨rfl, rfl⟩ := SystemError.invalid_message_injective call hmessage
  exact ⟨rfl, cause, hcause, hcause'⟩

theorem message_identifies_quoted :
    (Failure.rejected .badSlots "\x27\x22\\").message ≠
        (Failure.rejected .badOctal "\x27\x22\\").message ∧
      ∃ cause, (Mode.ofInt 0).change {} "\x27\x22\\" = .error cause ∧
        (Mode.ofInt (-1)).change ⟨true⟩ "\x27\x22\\" = .error cause := by
  refine ⟨fun h => absurd (message_identifies.1 _ _ _ _ h).1 (by decide), ?_⟩
  exact (message_identifies.2 ⟨"chmod", some "f"⟩ 0 (-1) {} ⟨true⟩ _ _ _ _
    ((Call.changeBy_text_eq_error_iff _ _ _ _ _).mpr ⟨.badOperator, rfl, rfl⟩)
    ((Call.changeBy_text_eq_error_iff _ _ _ _ _).mpr ⟨.badOperator, rfl, rfl⟩) rfl).2

end FileMode
