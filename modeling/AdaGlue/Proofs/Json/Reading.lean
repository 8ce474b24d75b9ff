/-
Written values are read back. A value has one sequence of tokens, which both its written forms are
scanned to; and reading these tokens gives the tree of the value, with nothing left over.
-/
import AdaGlue.Proofs.Json.Texts

namespace AdaGlue.Json

/-! ## Trees and tokens of a value -/

/-- The numeral of a number that is written in digits alone. -/
def numeralOf (n : Nat) : Numeral :=
  ⟨false, (Nat.toDigits 10 n).map fun c => c.toNat - 0x30, none, none, none⟩

mutual

/-- The tree of a value that could be read to its end. -/
def tree : Json → Tree
  | .null => .null
  | .bool b => .bool b
  | .number n => .numeral (numeralOf n)
  | .string s => .text (rawOf s)
  | .array items => .array (treeItems items) none
  | .object members => .object (treeMembers members) none

def treeItems : List Json → List Tree
  | [] => []
  | j :: r => tree j :: treeItems r

def treeMembers : List (String × Json) → List (RawText × Tree)
  | [] => []
  | (k, j) :: r => (rawOf k, tree j) :: treeMembers r

end

mutual

/-- The tokens of a value. -/
def spelled : Json → List Token
  | .null => [.null]
  | .bool b => [.bool b]
  | .number n => [.numeral (numeralOf n)]
  | .string s => [.text (rawOf s)]
  | .array items => .openArray :: (spelledItems items ++ [.closeArray])
  | .object members => .openObject :: (spelledMembers members ++ [.closeObject])

def spelledItems : List Json → List Token
  | [] => []
  | [j] => spelled j
  | j :: r => spelled j ++ .comma :: spelledItems r

def spelledMembers : List (String × Json) → List Token
  | [] => []
  | [(k, j)] => .text (rawOf k) :: .colon :: spelled j
  | (k, j) :: r => .text (rawOf k) :: .colon :: (spelled j ++ .comma :: spelledMembers r)

end

/-! ## From tokens to the tree -/

section

open Reading

/-- No value starts with the end of an array, so the first item of one is read like any other. -/
theorem foldl_spelledItems_firstItem (j : Json) (r : List Json) (frames : List Frame) :
    (spelledItems (j :: r)).foldl step (.firstItem frames) =
      (spelledItems (j :: r)).foldl step (.value (.items [] :: frames)) := by
  cases r <;> cases j <;> simp only [spelledItems, spelled] <;> rfl

mutual

/-- Reading the tokens of a value puts its tree where a value is due. -/
theorem foldl_spelled (frames : List Frame) :
    ∀ j : Json, (spelled j).foldl step (.value frames) = plug (tree j) frames
  | .null => by simp only [spelled, tree]; rfl
  | .bool _ => by simp only [spelled, tree]; rfl
  | .number _ => by simp only [spelled, tree]; rfl
  | .string _ => by simp only [spelled, tree]; rfl
  | .array [] => by simp only [spelled, spelledItems, tree, treeItems]; rfl
  | .array (j :: r) => by
    rw [spelled, List.foldl_cons, List.foldl_append]
    -- the bracket opens no frame yet: the first item does
    show [Token.closeArray].foldl step ((spelledItems (j :: r)).foldl step (.firstItem frames)) = _
    rw [foldl_spelledItems_firstItem, foldl_spelledItems [] frames (j :: r) (by simp)]
    simp [step, tree]
  | .object [] => by simp only [spelled, spelledMembers, tree, treeMembers]; rfl
  | .object ((k, j) :: r) => by
    -- a key is taken alike behind the brace and behind a comma
    have hfirst : (spelledMembers ((k, j) :: r)).foldl step (.firstKey frames) =
        (spelledMembers ((k, j) :: r)).foldl step (.nextKey [] frames) := by
      cases r <;> simp only [spelledMembers] <;> rfl
    rw [spelled, List.foldl_cons, List.foldl_append]
    show [Token.closeObject].foldl step
      ((spelledMembers ((k, j) :: r)).foldl step (.firstKey frames)) = _
    rw [hfirst, foldl_spelledMembers [] frames ((k, j) :: r) (by simp)]
    simp [step, tree]

theorem foldl_spelledItems (done : List Tree) (frames : List Frame) :
    ∀ items : List Json, items ≠ [] →
      (spelledItems items).foldl step (.value (.items done :: frames)) =
        .afterItem ((treeItems items).reverse ++ done) frames
  | [], hne => absurd rfl hne
  | [j], _ => by
    rw [spelledItems, foldl_spelled _ j]
    simp [treeItems, plug]
  | j :: i :: r, _ => by
    rw [spelledItems, List.foldl_append, foldl_spelled _ j, List.foldl_cons]
    · show (spelledItems (i :: r)).foldl step (.value (.items (tree j :: done) :: frames)) = _
      rw [foldl_spelledItems _ _ (i :: r) (by simp)]
      simp [treeItems]
    · simp

theorem foldl_spelledMembers (done : List (RawText × Tree)) (frames : List Frame) :
    ∀ members : List (String × Json), members ≠ [] →
      (spelledMembers members).foldl step (.nextKey done frames) =
        .afterMember ((treeMembers members).reverse ++ done) frames
  | [], hne => absurd rfl hne
  | [(k, j)], _ => by
    rw [spelledMembers, List.foldl_cons, List.foldl_cons]
    show (spelled j).foldl step (.value (.member done (rawOf k) :: frames)) = _
    rw [foldl_spelled _ j]
    simp [treeMembers, plug]
  | (k, j) :: m :: r, _ => by
    rw [spelledMembers, List.foldl_cons, List.foldl_cons, List.foldl_append]
    · show (Token.comma :: spelledMembers (m :: r)).foldl step
        ((spelled j).foldl step (.value (.member done (rawOf k) :: frames))) = _
      rw [foldl_spelled _ j, List.foldl_cons]
      show (spelledMembers (m :: r)).foldl step (.nextKey ((rawOf k, tree j) :: done) frames) = _
      rw [foldl_spelledMembers _ _ (m :: r) (by simp)]
      simp [treeMembers]
    · simp

end

end

/-! ## From the text to tokens -/

theorem tokens_space {b : UInt8} (hb : isSpace b) (r : List UInt8) :
    tokens (b :: r) = tokens r := by
  rw [tokens, if_pos hb]

theorem tokens_of_scanToken {b : UInt8} {r rest : List UInt8} {t : Token}
    (hb : isSpace b = false) (h : scanToken b r = (t, some rest)) :
    tokens (b :: r) = t :: tokens rest := by
  rw [tokens, hb]
  split
  · contradiction
  · split
    · next hnone => rw [h] at hnone; cases hnone
    · next hsome => rw [h] at hsome; cases hsome; rfl

/-- A mark is a token of its own, whatever follows. -/
theorem tokens_mark {b : UInt8} {t : Token} (hmark : mark? b = some t) (r : List UInt8) :
    tokens (b :: r) = t :: tokens r := by
  have hspace : isSpace b = false := by
    refine Bool.eq_false_iff.2 fun hspace => ?_
    simp only [isSpace, Bool.or_eq_true, decide_eq_true_eq] at hspace
    rcases hspace with ((rfl | rfl) | rfl) | rfl <;> cases hmark
  refine tokens_of_scanToken hspace ?_
  unfold scanToken
  rw [hmark]

theorem tokens_markText {w : String} {b : UInt8} {t : Token} (hw : Text.bytes w = [b])
    (hmark : mark? b = some t) (r : List UInt8) :
    tokens (Text.bytes w ++ r) = t :: tokens r := by
  rw [hw, List.singleton_append, tokens_mark hmark]

theorem tokens_literal (s : String) (rest : List UInt8) :
    tokens (Text.bytes (literal s) ++ rest) = .text (rawOf s) :: tokens rest := by
  have hbytes : Text.bytes (literal s) ++ rest =
      byteOf '"' :: (Text.bytes (escape s) ++ byteOf '"' :: rest) := by
    simp only [literal, Text.bytes_append, List.append_assoc]
    rfl
  rw [hbytes]
  refine tokens_of_scanToken (by decide) ?_
  show textToken _ = _
  rw [textToken, scanText_escape]
  rfl

theorem scanWord_append (w rest : List UInt8) : scanWord w (w ++ rest) = (none, rest) := by
  induction w with
  | nil => rfl
  | cons b w ih => rw [List.cons_append, scanWord, if_pos rfl, ih]

theorem wordToken_append (w : String) (t : Token) (rest : List UInt8) :
    wordToken w t (Text.bytes w ++ rest) = (t, some rest) := by
  unfold wordToken
  rw [scanWord_append]

theorem tokens_null (rest : List UInt8) :
    tokens (Text.bytes "null" ++ rest) = .null :: tokens rest :=
  tokens_of_scanToken (b := byteOf 'n') (by decide) (wordToken_append "ull" .null rest)

theorem tokens_bool (b : Bool) (rest : List UInt8) :
    tokens (Text.bytes (if b then "true" else "false") ++ rest) = .bool b :: tokens rest := by
  cases b with
  | true =>
    exact tokens_of_scanToken (b := byteOf 't') (by decide)
      (wordToken_append "rue" (.bool true) rest)
  | false =>
    exact tokens_of_scanToken (b := byteOf 'f') (by decide)
      (wordToken_append "alse" (.bool false) rest)

/-! ### Numbers -/

/-- No numeral goes on here. -/
def endsNumeral : List UInt8 → Bool
  | [] => true
  | b :: _ => !(isDigit b || b = byteOf '.' || b = byteOf 'e' || b = byteOf 'E')

theorem toNat_of_mem_toDigits {n : Nat} {c : Char} (hc : c ∈ Nat.toDigits 10 n) :
    0x30 ≤ c.toNat ∧ c.toNat ≤ 0x39 := by
  have hdigit : c.isDigit := Nat.isDigit_of_mem_toDigits (by omega) (by omega) hc
  simpa [Char.isDigit, UInt32.le_iff_toNat_le] using hdigit

/-- The digits of a number are written by one byte each. -/
theorem bytes_toString (n : Nat) :
    Text.bytes (toString n) = (Nat.toDigits 10 n).map fun c => UInt8.ofNat c.toNat := by
  have hchar : ∀ c ∈ Nat.toDigits 10 n, String.utf8EncodeChar c = [UInt8.ofNat c.toNat] := by
    intro c hc
    have hrange := toNat_of_mem_toDigits hc
    exact Text.utf8EncodeChar_of_le (by omega)
  rw [Text.bytes_eq_flatMap, Nat.toString_eq_repr, Nat.toList_repr, List.map_eq_flatMap,
    List.flatMap_def, List.map_congr_left hchar, ← List.flatMap_def]

theorem takeDigits_append {ds rest : List UInt8} (hds : ∀ b ∈ ds, isDigit b)
    (hrest : endsNumeral rest) :
    takeDigits (ds ++ rest) = (ds.map fun b => b.toNat - 0x30, rest) := by
  have hstop : rest.takeWhile isDigit = [] ∧ rest.dropWhile isDigit = rest := by
    cases rest with
    | nil => exact ⟨rfl, rfl⟩
    | cons b r =>
      have hb : isDigit b = false := by
        simp only [endsNumeral, Bool.not_eq_true', Bool.or_eq_false_iff] at hrest
        exact hrest.1.1.1
      simp [hb]
  unfold takeDigits
  rw [List.takeWhile_append_of_pos hds, List.dropWhile_append_of_pos hds, hstop.1, hstop.2,
    List.append_nil]

/-- The digits of a number start with a zero only if that is all. -/
theorem head?_toDigits {n : Nat} (hn : 0 < n) : (Nat.toDigits 10 n).head? ≠ some '0' := by
  induction n using Nat.strongRecOn with
  | _ n ih =>
    by_cases hlt : n < 10
    · have hdigit : ∀ m : Fin 10, 0 < m.val → Nat.digitChar m ≠ '0' := by decide
      rw [Nat.toDigits_of_lt_base hlt]
      simpa using hdigit ⟨n, hlt⟩ hn
    · have hfront := ih (n / 10) (by omega) (by omega)
      obtain ⟨c, r, hdigits⟩ :=
        List.exists_cons_of_ne_nil (Nat.toDigits_ne_nil (n := n / 10) (b := 10))
      rw [Nat.toDigits_of_base_le (by omega) (by omega), hdigits]
      rwa [hdigits] at hfront

/-- What cannot go on a numeral is left alone behind its digits. -/
theorem scanFraction_of_endsNumeral (n : Numeral) {rest : List UInt8} (hrest : endsNumeral rest) :
    scanFraction n rest = (n, rest) := by
  cases rest with
  | nil => rfl
  | cons b r =>
    simp only [endsNumeral, Bool.not_eq_true', Bool.or_eq_false_iff,
      decide_eq_false_iff_not] at hrest
    obtain ⟨⟨⟨-, hpoint⟩, he⟩, hE⟩ := hrest
    simp [scanFraction, scanExponent, hpoint, he, hE]

theorem isDigit_of_mem_bytes_toString {n : Nat} {b : UInt8} (hb : b ∈ Text.bytes (toString n)) :
    isDigit b := by
  rw [bytes_toString] at hb
  obtain ⟨c, hc, rfl⟩ := List.mem_map.1 hb
  have hrange := toNat_of_mem_toDigits hc
  have hvalue : (UInt8.ofNat c.toNat).toNat = c.toNat := by
    rw [UInt8.toNat_ofNat', Nat.mod_eq_of_lt (by omega)]
  simp only [isDigit, UInt8.le_iff_toNat_le, hvalue, Bool.and_eq_true, decide_eq_true_eq]
  exact hrange

/-- All of a number's digits are taken, and nothing else. -/
theorem takeDigits_toString (n : Nat) {rest : List UInt8} (hrest : endsNumeral rest) :
    takeDigits (Text.bytes (toString n) ++ rest) = ((numeralOf n).whole, rest) := by
  rw [takeDigits_append (fun b hb => isDigit_of_mem_bytes_toString hb) hrest, bytes_toString,
    List.map_map, numeralOf]
  simp only [Prod.mk.injEq, and_true]
  refine List.map_congr_left fun c hc => ?_
  have hrange := toNat_of_mem_toDigits hc
  rw [Function.comp_apply, UInt8.toNat_ofNat', Nat.mod_eq_of_lt (by omega)]

/-- A number is scanned to its end. -/
theorem scanNumeral_toString (n : Nat) {rest : List UInt8} (hrest : endsNumeral rest) :
    scanNumeral false (Text.bytes (toString n) ++ rest) = (numeralOf n, rest) := by
  unfold scanNumeral
  rw [takeDigits_toString n hrest]
  dsimp only
  split
  · next hnone => simp [numeralOf, Nat.toDigits_ne_nil] at hnone
  · next x r hzero =>
    -- two digits or more, so the first one is no zero
    obtain ⟨c, cs, hcs⟩ := List.exists_cons_of_ne_nil (Nat.toDigits_ne_nil (n := n) (b := 10))
    have hc := toNat_of_mem_toDigits (n := n) (c := c) (by rw [hcs]; exact List.mem_cons_self)
    simp only [numeralOf, hcs, List.map_cons, List.cons.injEq] at hzero
    obtain rfl : c = '0' := Char.toNat_inj.1 (by simp; omega)
    have hpos : 0 < n := by
      refine Nat.pos_of_ne_zero fun hn => ?_
      rw [hn, Nat.toDigits_zero] at hcs
      cases hcs
      simp at hzero
    exact absurd (by rw [hcs]; rfl) (head?_toDigits hpos)
  · exact scanFraction_of_endsNumeral _ hrest

theorem ne_of_isDigit {b d : UInt8} (hb : isDigit b) (hd : isDigit d = false) : b ≠ d := by
  rintro rfl
  rw [hb] at hd
  cases hd

theorem isSpace_of_isDigit {b : UInt8} (hb : isDigit b) : isSpace b = false := by
  have hne : ∀ d, isDigit d = false → b ≠ d := fun d => ne_of_isDigit hb
  simp [isSpace, hne 0x20 (by decide), hne 0x0a (by decide), hne 0x09 (by decide),
    hne 0x0d (by decide)]

theorem scanToken_of_isDigit {b : UInt8} (hb : isDigit b) (r : List UInt8) :
    scanToken b r = numeralToken false (b :: r) := by
  have hne : ∀ d, isDigit d = false → b ≠ d := fun d => ne_of_isDigit hb
  have hmark : mark? b = none := by
    rw [mark?, if_neg (hne _ (by decide)), if_neg (hne _ (by decide)), if_neg (hne _ (by decide)),
      if_neg (hne _ (by decide)), if_neg (hne _ (by decide)), if_neg (hne _ (by decide))]
  unfold scanToken
  rw [hmark]
  dsimp only
  rw [if_neg (hne _ (by decide)), if_neg (hne _ (by decide)), if_pos hb]

theorem tokens_number (n : Nat) {rest : List UInt8} (hrest : endsNumeral rest) :
    tokens (Text.bytes (toString n) ++ rest) = .numeral (numeralOf n) :: tokens rest := by
  have hscan := scanNumeral_toString n hrest
  have hne : Text.bytes (toString n) ≠ [] := by
    rw [bytes_toString]
    simp [Nat.toDigits_ne_nil]
  obtain ⟨b, r, hbytes⟩ := List.exists_cons_of_ne_nil hne
  have hb : isDigit b :=
    isDigit_of_mem_bytes_toString (n := n) (by rw [hbytes]; exact List.mem_cons_self)
  rw [hbytes] at hscan ⊢
  refine tokens_of_scanToken (isSpace_of_isDigit hb) ?_
  rw [scanToken_of_isDigit hb]
  show numeralToken false (b :: r ++ rest) = _
  rw [numeralToken, hscan]
  rfl

/-! ### Both written forms -/

mutual

/-- The form on one line is scanned to the tokens of the value. -/
theorem tokens_compact {rest : List UInt8} (hrest : endsNumeral rest) :
    ∀ j : Json, tokens (Text.bytes (compact j) ++ rest) = spelled j ++ tokens rest
  | .null => by rw [compact, tokens_null, spelled]; rfl
  | .bool b => by rw [compact, tokens_bool, spelled]; rfl
  | .number n => by rw [compact, tokens_number n hrest, spelled]; rfl
  | .string s => by rw [compact, tokens_literal, spelled]; rfl
  | .array items => by
    rw [compact, spelled, Text.bytes_append, Text.bytes_append, List.append_assoc,
      List.append_assoc, tokens_markText (t := .openArray) rfl rfl, tokens_compactItems rfl items,
      tokens_markText (t := .closeArray) rfl rfl]
    simp
  | .object members => by
    rw [compact, spelled, Text.bytes_append, Text.bytes_append, List.append_assoc,
      List.append_assoc, tokens_markText (t := .openObject) rfl rfl,
      tokens_compactMembers rfl members, tokens_markText (t := .closeObject) rfl rfl]
    simp

theorem tokens_compactItems {rest : List UInt8} (hrest : endsNumeral rest) :
    ∀ items : List Json,
      tokens (Text.bytes (compactItems items) ++ rest) = spelledItems items ++ tokens rest
  | [] => by rw [compactItems, spelledItems]; rfl
  | [j] => by rw [compactItems, spelledItems, tokens_compact hrest j]
  | j :: i :: r => by
    -- a comma follows the first item, and no numeral goes on with one
    rw [compactItems, spelledItems, Text.bytes_append, Text.bytes_append, List.append_assoc,
      List.append_assoc, tokens_compact rfl j, tokens_markText (t := .comma) rfl rfl,
      tokens_compactItems hrest (i :: r)]
    · simp
    · simp
    · simp

theorem tokens_compactMembers {rest : List UInt8} (hrest : endsNumeral rest) :
    ∀ members : List (String × Json),
      tokens (Text.bytes (compactMembers members) ++ rest) = spelledMembers members ++ tokens rest
  | [] => by rw [compactMembers, spelledMembers]; rfl
  | [(k, j)] => by
    rw [compactMembers, spelledMembers, Text.bytes_append, Text.bytes_append, List.append_assoc,
      List.append_assoc, tokens_literal, tokens_markText (t := .colon) rfl rfl,
      tokens_compact hrest j]
    simp
  | (k, j) :: m :: r => by
    rw [compactMembers, spelledMembers]
    · simp only [Text.bytes_append, List.append_assoc]
      rw [tokens_literal, tokens_markText (t := .colon) rfl rfl, tokens_compact rfl j,
        tokens_markText (t := .comma) rfl rfl, tokens_compactMembers hrest (m :: r)]
      simp
    · simp
    · simp

end

theorem tokens_newline (r : List UInt8) : tokens (Text.bytes "\n" ++ r) = tokens r :=
  tokens_space (b := 0x0a) (by decide) r

theorem tokens_blank (r : List UInt8) : tokens (Text.bytes " " ++ r) = tokens r :=
  tokens_space (b := 0x20) (by decide) r

theorem tokens_margin (depth : Nat) (r : List UInt8) :
    tokens (Text.bytes (margin depth) ++ r) = tokens r := by
  induction depth with
  | zero => rfl
  | succ depth ih =>
    have hmargin : margin (depth + 1) = " " ++ " " ++ margin depth := by
      rw [margin, List.replicate_succ, String.join_cons]
      rfl
    rw [hmargin]
    simp only [Text.bytes_append, List.append_assoc]
    rw [tokens_blank, tokens_blank, ih]

mutual

/-- The form over several lines is scanned to the same tokens. -/
theorem tokens_prettyAt (depth : Nat) {rest : List UInt8} (hrest : endsNumeral rest) :
    ∀ j : Json, tokens (Text.bytes (prettyAt depth j) ++ rest) = spelled j ++ tokens rest
  | .null => by rw [prettyAt, tokens_null, spelled]; rfl
  | .bool b => by rw [prettyAt, tokens_bool, spelled]; rfl
  | .number n => by rw [prettyAt, tokens_number n hrest, spelled]; rfl
  | .string s => by rw [prettyAt, tokens_literal, spelled]; rfl
  | .array [] => by
    rw [prettyAt, spelled, spelledItems]
    show tokens (byteOf '[' :: byteOf ']' :: rest) = _
    rw [tokens_mark (t := .openArray) rfl, tokens_mark (t := .closeArray) rfl]
    rfl
  | .array (j :: r) => by
    rw [prettyAt, spelled, show "[\n" = "[" ++ "\n" from rfl]
    simp only [Text.bytes_append, List.append_assoc]
    rw [tokens_markText (t := .openArray) rfl rfl, tokens_newline,
      tokens_prettyItems (depth + 1) rfl (j :: r), tokens_newline, tokens_margin,
      tokens_markText (t := .closeArray) rfl rfl]
    simp
  | .object [] => by
    rw [prettyAt, spelled, spelledMembers]
    show tokens (0x7b :: 0x7d :: rest) = _
    rw [tokens_mark (t := .openObject) rfl, tokens_mark (t := .closeObject) rfl]
    rfl
  | .object (m :: r) => by
    rw [prettyAt, spelled, show "\x7b\n" = "\x7b" ++ "\n" from rfl]
    simp only [Text.bytes_append, List.append_assoc]
    rw [tokens_markText (t := .openObject) rfl rfl, tokens_newline,
      tokens_prettyMembers (depth + 1) rfl (m :: r), tokens_newline, tokens_margin,
      tokens_markText (t := .closeObject) rfl rfl]
    simp

theorem tokens_prettyItems (depth : Nat) {rest : List UInt8} (hrest : endsNumeral rest) :
    ∀ items : List Json,
      tokens (Text.bytes (prettyItems depth items) ++ rest) = spelledItems items ++ tokens rest
  | [] => by rw [prettyItems, spelledItems]; rfl
  | [j] => by
    rw [prettyItems, spelledItems, Text.bytes_append, List.append_assoc, tokens_margin,
      tokens_prettyAt depth hrest j]
  | j :: i :: r => by
    rw [prettyItems, spelledItems, show ",\n" = "," ++ "\n" from rfl]
    · simp only [Text.bytes_append, List.append_assoc]
      rw [tokens_margin, tokens_prettyAt depth rfl j, tokens_markText (t := .comma) rfl rfl,
        tokens_newline, tokens_prettyItems depth hrest (i :: r)]
      simp
    · simp
    · simp

theorem tokens_prettyMembers (depth : Nat) {rest : List UInt8} (hrest : endsNumeral rest) :
    ∀ members : List (String × Json),
      tokens (Text.bytes (prettyMembers depth members) ++ rest) =
        spelledMembers members ++ tokens rest
  | [] => by rw [prettyMembers, spelledMembers]; rfl
  | [(k, j)] => by
    rw [prettyMembers, spelledMembers, show ": " = ":" ++ " " from rfl]
    simp only [Text.bytes_append, List.append_assoc]
    rw [tokens_margin, tokens_literal, tokens_markText (t := .colon) rfl rfl, tokens_blank,
      tokens_prettyAt depth hrest j]
    simp
  | (k, j) :: m :: r => by
    rw [prettyMembers, spelledMembers, show ": " = ":" ++ " " from rfl,
      show ",\n" = "," ++ "\n" from rfl]
    · simp only [Text.bytes_append, List.append_assoc]
      rw [tokens_margin, tokens_literal, tokens_markText (t := .colon) rfl rfl, tokens_blank,
        tokens_prettyAt depth rfl j, tokens_markText (t := .comma) rfl rfl, tokens_newline,
        tokens_prettyMembers depth hrest (m :: r)]
      simp
    · simp
    · simp

end

/-! ## Whole texts -/

/-- A text with the tokens of a value holds the value, and nothing else. -/
theorem Document.read_of_tokens {bytes : List UInt8} {j : Json} (h : tokens bytes = spelled j) :
    Document.read bytes = ⟨tree j, false⟩ := by
  unfold Document.read
  rw [h, foldl_spelled]
  rfl

/-- The form on one line holds the value. -/
theorem Document.read_compact (j : Json) :
    Document.read (Text.bytes j.compact) = ⟨tree j, false⟩ := by
  have hend : endsNumeral [] = true := rfl
  refine read_of_tokens ?_
  simpa [tokens] using tokens_compact hend j

/-- So does the whole line. -/
theorem Document.read_compact_line (j : Json) :
    Document.read (Text.bytes (j.compact ++ "\n")) = ⟨tree j, false⟩ := by
  have hend : endsNumeral (Text.bytes "\n") = true := rfl
  have hline : tokens (Text.bytes "\n") = [] := by
    simpa [tokens] using tokens_newline []
  refine read_of_tokens ?_
  rw [Text.bytes_append, tokens_compact hend j, hline, List.append_nil]

/-- The form over several lines holds the value. -/
theorem Document.read_pretty (j : Json) :
    Document.read (Text.bytes j.pretty) = ⟨tree j, false⟩ := by
  have hend : endsNumeral [] = true := rfl
  refine read_of_tokens ?_
  simpa [tokens, pretty] using tokens_prettyAt 0 hend j

end AdaGlue.Json
