/-
Written strings are read back. An escaped character is scanned as one piece and stands for the bytes
of the character, so a literal gives back its string, whatever characters are in it.
-/
import AdaGlue.Json.Decode
import AdaGlue.Json.Value

namespace AdaGlue

/-! ## Bytes of texts -/

namespace Text

theorem bytes_eq_flatMap (s : String) : bytes s = s.toList.flatMap String.utf8EncodeChar := by
  unfold bytes
  rw [String.toUTF8, ← String.utf8Encode_toList, List.utf8Encode]
  simp

@[simp]
theorem bytes_append (s t : String) : bytes (s ++ t) = bytes s ++ bytes t := by
  simp [bytes_eq_flatMap]

theorem bytes_join (l : List String) : bytes (String.join l) = l.flatMap bytes := by
  induction l with
  | nil => rfl
  | cons s l ih => rw [String.join_cons, bytes_append, ih, List.flatMap_cons]

/-- The bytes of a text are valid and give it back. -/
theorem fromUTF8?_bytes (s : String) : String.fromUTF8? ⟨(bytes s).toArray⟩ = some s := by
  have harray : (⟨(bytes s).toArray⟩ : ByteArray) = s.toByteArray := by simp [bytes]
  rw [harray, String.fromUTF8?, dif_pos s.isValidUTF8]
  rfl

theorem utf8EncodeChar_of_le {c : Char} (hc : c.toNat ≤ 0x7f) :
    String.utf8EncodeChar c = [UInt8.ofNat c.toNat] := by
  unfold String.utf8EncodeChar
  exact if_pos hc

/-- A character beyond ASCII has no ASCII byte. -/
theorem le_of_mem_utf8EncodeChar {c : Char} (hc : 0x7f < c.toNat) {b : UInt8}
    (hb : b ∈ String.utf8EncodeChar c) : 0x80 ≤ b.toNat := by
  have hlead : ∀ x k m : Nat, 0 < k → 0x80 ≤ m → k + m ≤ 256 →
      0x80 ≤ (UInt8.ofNat (x % k + m)).toNat := by
    intro x k m hk hm hkm
    have hlt := Nat.mod_lt x hk
    rw [UInt8.toNat_ofNat', Nat.mod_eq_of_lt (by omega)]
    omega
  have hlarge : ¬ c.val.toNat ≤ 0x7f := Nat.not_le.2 hc
  unfold String.utf8EncodeChar at hb
  dsimp only at hb
  rw [if_neg hlarge] at hb
  -- two, three or four bytes, each of them a remainder above a mark that is not ASCII
  split at hb
  · rcases hb with _ | ⟨_, _ | ⟨_, ⟨⟩⟩⟩ <;> exact hlead _ _ _ (by omega) (by omega) (by omega)
  split at hb
  · rcases hb with _ | ⟨_, _ | ⟨_, _ | ⟨_, ⟨⟩⟩⟩⟩ <;>
      exact hlead _ _ _ (by omega) (by omega) (by omega)
  · rcases hb with _ | ⟨_, _ | ⟨_, _ | ⟨_, _ | ⟨_, ⟨⟩⟩⟩⟩⟩ <;>
      exact hlead _ _ _ (by omega) (by omega) (by omega)

end Text

namespace Json

/-! ## Pieces of a text -/

/-- The byte stands for itself between quotes. -/
structure Plain (b : UInt8) : Prop where
  quote : b ≠ byteOf '"'
  backslash : b ≠ byteOf '\\'
  control : ¬ b < 0x20

/-- What is written for some bytes of a text: an escape by a letter, one by the code of a character,
or the bytes themselves. -/
inductive Piece : List UInt8 → List UInt8 → Prop
  | short {e : UInt8} (he : isShortEscape e) : Piece [byteOf '\\', e] [shortEscape e]
  | code {h0 h1 h2 h3 : UInt8} (hhex : [h0, h1, h2, h3].all isHexDigit)
      (hlow : hexCode h0 h1 h2 h3 < 0xd800) :
      Piece [byteOf '\\', byteOf 'u', h0, h1, h2, h3] (utf8 (hexCode h0 h1 h2 h3))
  | plain {bs : List UInt8} (hbs : ∀ b ∈ bs, Plain b) : Piece bs bs

/-- A character that is not escaped has only bytes that stand for themselves. -/
theorem plain_of_mem_utf8EncodeChar {c : Char} (hquote : c ≠ '"') (hback : c ≠ '\\')
    (hcontrol : ¬ c.toNat < 32) {b : UInt8} (hb : b ∈ String.utf8EncodeChar c) : Plain b := by
  by_cases hascii : c.toNat ≤ 0x7f
  · rw [Text.utf8EncodeChar_of_le hascii, List.mem_singleton] at hb
    have hnat : b.toNat = c.toNat := by
      rw [hb, UInt8.toNat_ofNat', Nat.mod_eq_of_lt (by omega)]
    have hne : ∀ d : Char, c ≠ d → (byteOf d).toNat = d.toNat → b ≠ byteOf d := by
      intro d hcd hd hbd
      refine hcd (Char.toNat_inj.1 ?_)
      rw [← hnat, hbd, hd]
    refine ⟨hne _ hquote (by decide), hne _ hback (by decide), ?_⟩
    rw [UInt8.lt_iff_toNat_lt, hnat]
    exact hcontrol
  · have hhigh := Text.le_of_mem_utf8EncodeChar (Nat.not_le.1 hascii) hb
    have hne : ∀ d : UInt8, d.toNat < 0x80 → b ≠ d := by
      rintro d hd rfl
      omega
    refine ⟨hne _ (by decide), hne _ (by decide), ?_⟩
    rw [UInt8.lt_iff_toNat_lt]
    show ¬ b.toNat < 32
    omega

/-- A control character is written as its code. -/
theorem piece_control : ∀ n : Fin 32,
    Piece (Text.bytes ("\\u00" ++ hexByte n)) (String.utf8EncodeChar (Char.ofNat n)) := by
  have hcode : ∀ n : Fin 32, ∃ h2 h3,
      Text.bytes ("\\u00" ++ hexByte n) = [byteOf '\\', byteOf 'u', 0x30, 0x30, h2, h3] ∧
      [0x30, 0x30, h2, h3].all isHexDigit ∧ hexCode 0x30 0x30 h2 h3 = n := by
    intro n
    refine ⟨byteOf (Nat.digitChar (n / 16)), byteOf (Nat.digitChar (n % 16)), ?_⟩
    revert n
    decide
  intro n
  obtain ⟨h2, h3, hbytes, hhex, hvalue⟩ := hcode n
  rw [hbytes, ← hvalue]
  exact .code hhex (by omega)

/-- Each character is written as one piece. -/
theorem piece_escapeChar (c : Char) :
    Piece (Text.bytes (escapeChar c)) (String.utf8EncodeChar c) := by
  unfold escapeChar
  split
  · subst c; exact .short (e := byteOf '"') (by decide)
  split
  · subst c; exact .short (e := byteOf '\\') (by decide)
  split
  · subst c; exact .short (e := byteOf 'b') (by decide)
  split
  · subst c; exact .short (e := byteOf 'f') (by decide)
  split
  · subst c; exact .short (e := byteOf 'n') (by decide)
  split
  · subst c; exact .short (e := byteOf 'r') (by decide)
  split
  · subst c; exact .short (e := byteOf 't') (by decide)
  split
  · next hcontrol => simpa using piece_control ⟨c.toNat, hcontrol⟩
  · next hquote hback _ _ _ _ _ hcontrol =>
    have hself : Text.bytes c.toString = String.utf8EncodeChar c := by
      simp [Text.bytes_eq_flatMap]
    rw [hself]
    exact .plain fun b hb => plain_of_mem_utf8EncodeChar hquote hback hcontrol hb

/-! ## Scanning -/

theorem RawText.cons_cons (as bs : List UInt8) (x : RawText × List UInt8) :
    RawText.cons as (RawText.cons bs x) = RawText.cons (as ++ bs) x := by
  simp [RawText.cons]

theorem ne_u_of_isShortEscape {e : UInt8} (he : isShortEscape e) : e ≠ byteOf 'u' := by
  rintro rfl
  exact absurd he (by decide)

/-- A piece is scanned as it stands. -/
theorem Piece.scanText {w m : List UInt8} (h : Piece w m) (r : List UInt8) :
    Json.scanText (w ++ r) = RawText.cons w (Json.scanText r) := by
  have hquote : byteOf '\\' ≠ byteOf '"' := by decide
  cases h with
  | short he =>
    rw [List.cons_append, Json.scanText.eq_def]
    dsimp only
    rw [if_neg hquote, if_pos rfl]
    dsimp only [List.cons_append, List.nil_append]
    rw [if_neg (ne_u_of_isShortEscape he), if_pos he]
  | code hhex _ =>
    rw [List.cons_append, Json.scanText.eq_def]
    dsimp only
    rw [if_neg hquote, if_pos rfl]
    dsimp only [List.cons_append, List.nil_append]
    rw [if_pos rfl, if_pos hhex]
  | plain hbs =>
    induction w with
    | nil => rfl
    | cons b w ih =>
      obtain ⟨hquote, hback, hcontrol⟩ := hbs b List.mem_cons_self
      have hrest := ih fun x hx => hbs x (List.mem_cons_of_mem _ hx)
      rw [List.cons_append, Json.scanText.eq_def]
      dsimp only
      rw [if_neg hquote, if_neg hback, if_neg hcontrol, hrest, RawText.cons_cons,
        List.singleton_append]

/-- A piece stands for its bytes. -/
theorem Piece.unescape {w m : List UInt8} (h : Piece w m) (stop : Option Fault) (r : List UInt8) :
    Json.unescape stop (w ++ r) = (m ++ ·) <$> Json.unescape stop r := by
  cases h with
  | short he =>
    rw [List.cons_append, Json.unescape.eq_def]
    dsimp only
    rw [if_pos rfl]
    dsimp only [List.cons_append, List.nil_append]
    rw [if_neg (ne_u_of_isShortEscape he)]
    rfl
  | code _ hlow =>
    -- a code below the surrogates stands for a character by itself
    have hsurrogate : ∀ n < 0xd800, isLowSurrogate n = false ∧ isHighSurrogate n = false := by
      intro n hn
      simp only [isLowSurrogate, isHighSurrogate, Bool.and_eq_false_iff, decide_eq_false_iff_not]
      omega
    rw [List.cons_append, Json.unescape.eq_def]
    dsimp only
    rw [if_pos rfl]
    dsimp only [List.cons_append, List.nil_append]
    rw [if_pos rfl, (hsurrogate _ hlow).1, (hsurrogate _ hlow).2]
    rfl
  | plain hbs =>
    induction w with
    | nil => simp
    | cons b w ih =>
      obtain ⟨-, hback, -⟩ := hbs b List.mem_cons_self
      have hrest := ih fun x hx => hbs x (List.mem_cons_of_mem _ hx)
      rw [List.cons_append, Json.unescape.eq_def]
      dsimp only
      rw [if_neg hback, hrest]
      cases Json.unescape stop r <;> rfl

/-- The text between the quotes of a literal. -/
def rawOf (s : String) : RawText :=
  ⟨Text.bytes (escape s), none⟩

theorem bytes_escape (s : String) :
    Text.bytes (escape s) = s.toList.flatMap fun c => Text.bytes (escapeChar c) := by
  rw [escape, Text.bytes_join, List.flatMap_map]

/-- A literal is scanned to its end. -/
theorem scanText_escape (s : String) (rest : List UInt8) :
    scanText (Text.bytes (escape s) ++ byteOf '"' :: rest) = (rawOf s, rest) := by
  rw [rawOf, bytes_escape]
  induction s.toList with
  | nil =>
    rw [List.flatMap_nil, List.nil_append, scanText.eq_def]
    rfl
  | cons c cs ih =>
    rw [List.flatMap_cons, List.append_assoc, (piece_escapeChar c).scanText, ih]
    rfl

theorem unescape_escape (s : String) :
    unescape none (Text.bytes (escape s)) = .ok (Text.bytes s) := by
  rw [bytes_escape, Text.bytes_eq_flatMap]
  induction s.toList with
  | nil => rfl
  | cons c cs ih =>
    rw [List.flatMap_cons, (piece_escapeChar c).unescape, ih]
    rfl

/-- A literal gives back its string. -/
@[simp]
theorem decode_rawOf (s : String) : (rawOf s).decode = .ok s := by
  unfold RawText.decode rawOf
  rw [unescape_escape]
  simp only [bind, Except.bind, Text.fromUTF8?_bytes]
  rfl

end Json

end AdaGlue
