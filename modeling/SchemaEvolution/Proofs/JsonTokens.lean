import SchemaEvolution.Json.Token

/-!
# The tokens of what is written

A value whose numbers are all whole is written, on one line or over many, as a text that has the
tokens of the value (`Json.tokens`) and nothing else: `JsonToken.tokens_compactChars`,
`JsonToken.tokens_prettyChars`. The layouts differ in blanks alone.

Texts are taken apart from the front. `JsonToken.Spells` says what the tokens of a text are, token
by token and blank by blank, so that what is written first stands before any text whose tokens are
known. Only a number depends on what stands behind it: that must end it (`JsonToken.Ends`).
-/

namespace SchemaEvolution

/-! ## Whole values -/

/-- A number is whole if it is no double. -/
def JsonNumber.IsWhole : JsonNumber → Prop
  | .whole _ _ => True
  | .double _ => False

instance : DecidablePred JsonNumber.IsWhole
  | .whole _ _ => .isTrue trivial
  | .double _ => .isFalse id

namespace Json

mutual

/-- All numbers of a value are whole. -/
def Whole : Json → Prop
  | .null | .bool _ | .text _ => True
  | .number n => n.IsWhole
  | .list items => ItemsWhole items
  | .object members => MembersWhole members

/-- All numbers of the items are whole. -/
def ItemsWhole : List Json → Prop
  | [] => True
  | item :: rest => item.Whole ∧ ItemsWhole rest

/-- All numbers of the values of members are whole. -/
def MembersWhole : List (String × Json) → Prop
  | [] => True
  | (_, value) :: rest => value.Whole ∧ MembersWhole rest

end

mutual

instance decidableWhole : (j : Json) → Decidable j.Whole
  | .null | .bool _ | .text _ => .isTrue trivial
  | .number n => inferInstanceAs (Decidable n.IsWhole)
  | .list items => decidableItemsWhole items
  | .object members => decidableMembersWhole members

instance decidableItemsWhole : (items : List Json) → Decidable (ItemsWhole items)
  | [] => .isTrue trivial
  | item :: rest =>
    have := decidableWhole item
    have := decidableItemsWhole rest
    inferInstanceAs (Decidable (item.Whole ∧ ItemsWhole rest))

instance decidableMembersWhole :
    (members : List (String × Json)) → Decidable (MembersWhole members)
  | [] => .isTrue trivial
  | (_, value) :: rest =>
    have := decidableWhole value
    have := decidableMembersWhole rest
    inferInstanceAs (Decidable (value.Whole ∧ MembersWhole rest))

end

mutual

/-- The tokens of a value. -/
def tokens : Json → List JsonToken
  | .null => [.null]
  | .bool b => [.bool b]
  | .number n => [.number (some n)]
  | .text s => [.text (some s)]
  | .list items => .openList :: (itemTokens items ++ [.closeList])
  | .object members => .openObject :: (memberTokens members ++ [.closeObject])

/-- The tokens of items with commas between them. -/
def itemTokens : List Json → List JsonToken
  | [] => []
  | [item] => item.tokens
  | item :: rest => item.tokens ++ .comma :: itemTokens rest

/-- The tokens of members with commas between them. -/
def memberTokens : List (String × Json) → List JsonToken
  | [] => []
  | [(name, value)] => .text (some name) :: .colon :: value.tokens
  | (name, value) :: rest =>
    .text (some name) :: .colon :: (value.tokens ++ .comma :: memberTokens rest)

end

theorem itemTokens_cons (item next : Json) (rest : List Json) :
    itemTokens (item :: next :: rest) = item.tokens ++ .comma :: itemTokens (next :: rest) :=
  rfl

theorem memberTokens_cons (name : String) (value : Json) (next : String × Json)
    (rest : List (String × Json)) :
    memberTokens ((name, value) :: next :: rest) =
      .text (some name) :: .colon :: (value.tokens ++ .comma :: memberTokens (next :: rest)) :=
  rfl

end Json

namespace JsonToken

/-! ## Texts and tokens -/

/-- The tokens of a text, from its front. -/
inductive Spells : List Char → List JsonToken → Prop where
  | nil : Spells [] []
  | blank {c : Char} {cs : List Char} {ts : List JsonToken} (isBlank : isBlank c = true)
    (behind : Spells cs ts) : Spells (c :: cs) ts
  | token {c : Char} {cs rest : List Char} {t : JsonToken} {ts : List JsonToken}
    (notBlank : isBlank c = false) (next : next? (c :: cs) = some (t, rest))
    (shorter : rest.length ≤ cs.length) (behind : Spells rest ts) : Spells (c :: cs) (t :: ts)

theorem Spells.tokensWithin {cs : List Char} {ts : List JsonToken} (h : Spells cs ts) {fuel : Nat}
    (enough : cs.length ≤ fuel) : tokensWithin fuel cs = ts := by
  induction h generalizing fuel with
  | nil => cases fuel <;> rfl
  | blank isBlank _ ih =>
    cases fuel with
    | zero => exact absurd enough (Nat.not_succ_le_zero _)
    | succ fuel =>
      rw [JsonToken.tokensWithin, if_pos isBlank]
      exact ih (Nat.le_of_succ_le_succ enough)
  | token notBlank next shorter _ ih =>
    cases fuel with
    | zero => exact absurd enough (Nat.not_succ_le_zero _)
    | succ fuel =>
      rw [JsonToken.tokensWithin, notBlank, if_neg Bool.false_ne_true, next]
      exact congrArg _ (ih (Nat.le_trans shorter (Nat.le_of_succ_le_succ enough)))

theorem Spells.tokens {cs : List Char} {ts : List JsonToken} (h : Spells cs ts) :
    tokens cs = ts :=
  h.tokensWithin (Nat.le_refl _)

/-- Blanks before a text do not matter. -/
theorem Spells.blanks {cs : List Char} {ts : List JsonToken} (h : Spells cs ts) {bs : List Char}
    (blank : ∀ c ∈ bs, isBlank c = true) : Spells (bs ++ cs) ts := by
  induction bs with
  | nil => exact h
  | cons b rest ih =>
    exact .blank (blank b List.mem_cons_self) (ih fun c hc => blank c (List.mem_cons_of_mem _ hc))

/-- A token of one character. -/
theorem Spells.single {c : Char} {cs : List Char} {t : JsonToken} {ts : List JsonToken}
    (h : Spells cs ts) (notBlank : isBlank c = false) (next : next? (c :: cs) = some (t, cs)) :
    Spells (c :: cs) (t :: ts) :=
  .token notBlank next (Nat.le_refl _) h

/-- Nothing stands here that could go on with a number: the text ends, or a blank, a comma or a
bracket comes. -/
def Ends : List Char → Prop
  | [] => True
  | c :: _ => c.isDigit = false ∧ c ≠ '.' ∧ c ≠ 'e' ∧ c ≠ 'E'

/-! ## Numbers -/

theorem exists_digit (n : Nat) : ∃ d ds, decimalDigits n = d :: ds ∧ d.isDigit = true := by
  cases hdigits : decimalDigits n with
  | nil => exact absurd hdigits Nat.toDigits_ne_nil
  | cons d ds =>
    have first : d ∈ decimalDigits n := hdigits ▸ List.mem_cons_self
    exact ⟨d, ds, rfl, Nat.isDigit_of_mem_toDigits (by decide) (by decide) first⟩

/-- The digits of a number start with a zero for zero alone. -/
theorem head?_toDigits {n : Nat} (h : n ≠ 0) : (Nat.toDigits 10 n).head? ≠ some '0' := by
  induction n using Nat.base_induction 10 (by decide) with
  | single m hm =>
    rw [Nat.toDigits_of_lt_base hm]
    have digit : ∀ m < 10, m ≠ 0 → m.digitChar ≠ '0' := by decide
    exact fun same => digit m hm h (Option.some.inj same)
  | digit m k hk hm ih =>
    rw [← Nat.toDigits_append_toDigits (by decide) hm hk]
    cases hdigits : Nat.toDigits 10 m with
    | nil => exact absurd hdigits Nat.toDigits_ne_nil
    | cons d ds =>
      rw [hdigits] at ih
      exact ih (Nat.ne_of_gt hm)

theorem natOfDigits_toDigits (n : Nat) : natOfDigits (Nat.toDigits 10 n) = n :=
  Nat.ofDigitChars_ten_toDigits

theorem spanDigits_append {digits rest : List Char} (h : ∀ c ∈ digits, c.isDigit = true)
    (ends : Ends rest) : spanDigits (digits ++ rest) = (digits, rest) := by
  have stop : rest.takeWhile Char.isDigit = [] ∧ rest.dropWhile Char.isDigit = rest := by
    cases rest with
    | nil => exact ⟨rfl, rfl⟩
    | cons c cs =>
      rw [List.takeWhile_cons_of_neg (Bool.eq_false_iff.mp ends.1),
        List.dropWhile_cons_of_neg (Bool.eq_false_iff.mp ends.1)]
      exact ⟨rfl, rfl⟩
  rw [spanDigits, List.takeWhile_append_of_pos h, List.dropWhile_append_of_pos h, stop.1, stop.2,
    List.append_nil]

theorem wholePart?_digits (n : Nat) {rest : List Char} (ends : Ends rest) :
    wholePart? (decimalDigits n ++ rest) = some (decimalDigits n, rest) := by
  unfold decimalDigits
  have digits {c : Char} (hc : c ∈ Nat.toDigits 10 n) : c.isDigit = true :=
    Nat.isDigit_of_mem_toDigits (by decide) (by decide) hc
  obtain rfl | hn := Nat.eq_zero_or_pos n
  · cases rest with
    | nil => rfl
    | cons c cs =>
      change (if c.isDigit then _ else _) = _
      rw [ends.1]
      rfl
  · have start := head?_toDigits (Nat.ne_of_gt hn)
    cases hdigits : Nat.toDigits 10 n with
    | nil => exact absurd hdigits Nat.toDigits_ne_nil
    | cons d ds =>
      rw [hdigits] at start digits
      have span := spanDigits_append (fun c hc => digits hc) ends
      rw [List.cons_append] at span ⊢
      unfold wholePart?
      split
      next heq =>
        obtain ⟨rfl, -⟩ := List.cons.inj heq
        exact absurd rfl start
      next =>
        rw [span]
        rfl

theorem fraction?_of_ends {rest : List Char} (ends : Ends rest) :
    fraction? rest = some (none, rest) := by
  unfold fraction?
  split
  next => exact absurd rfl ends.2.1
  next => rfl

theorem exponent?_of_ends {rest : List Char} (ends : Ends rest) :
    exponent? rest = some (none, rest) := by
  cases rest with
  | nil => rfl
  | cons c cs => exact if_neg fun h => h.elim ends.2.2.1 ends.2.2.2

/-- Digits alone, with a sign or without, denote a whole number. -/
theorem numberOf_digits {negative : Bool} {n : Nat} {value : Int}
    (fits : -9223372036854775808 ≤ value ∧ value < 18446744073709551616)
    (eq : value = if negative then -(n : Int) else n) (notZero : negative = true → n ≠ 0) :
    numberOf negative (decimalDigits n) none none = some (.whole value fits) := by
  have whole : whole? negative n = some (.whole value fits) := by
    subst eq
    rw [whole?, if_neg fun h => notZero h.1 h.2]
    exact dif_pos fits
  rw [numberOf, decimalDigits, natOfDigits_toDigits, whole]
  rfl

/-- A number that has neither point nor exponent. -/
theorem scanNumber?_of_digits {negative : Bool} {body rest whole : List Char}
    (unsigned : body.head? ≠ some '-') (hwhole : wholePart? body = some (whole, rest))
    (ends : Ends rest) :
    scanNumber? (if negative then '-' :: body else body) =
      some (.number (numberOf negative whole none none), rest) := by
  unfold scanNumber?
  split
  next negative' body' sign =>
    have same : negative' = negative ∧ body' = body := by
      cases negative with
      | true =>
        cases sign
        exact ⟨rfl, rfl⟩
      | false =>
        split at sign
        next heq =>
          rw [if_neg Bool.false_ne_true] at heq
          exact absurd (by rw [heq]; rfl) unsigned
        next =>
          cases sign
          exact ⟨rfl, rfl⟩
    obtain ⟨rfl, rfl⟩ := same
    rw [hwhole]
    dsimp only
    rw [fraction?_of_ends ends]
    dsimp only
    rw [exponent?_of_ends ends]

/-- The text of a whole number is read as that number. -/
theorem scanNumber?_wholeText {value : Int}
    (fits : -9223372036854775808 ≤ value ∧ value < 18446744073709551616) {rest : List Char}
    (ends : Ends rest) :
    scanNumber? (JsonNumber.wholeText value ++ rest) =
      some (.number (some (.whole value fits)), rest) := by
  have digits := wholePart?_digits value.natAbs ends
  have text : JsonNumber.wholeText value ++ rest =
      if decide (value < 0) then '-' :: (decimalDigits value.natAbs ++ rest)
      else decimalDigits value.natAbs ++ rest := by
    rw [JsonNumber.wholeText, apply_ite (· ++ rest)]
    simp only [decide_eq_true_eq, List.cons_append]
  have unsigned : (decimalDigits value.natAbs ++ rest).head? ≠ some '-' := by
    obtain ⟨d, ds, hdigits, hd⟩ := exists_digit value.natAbs
    rw [hdigits]
    rintro ⟨⟩
    exact absurd hd (by decide)
  rw [text, scanNumber?_of_digits unsigned digits ends, numberOf_digits fits]
  · simp only [decide_eq_true_eq]
    split <;> omega
  · simp only [decide_eq_true_eq]
    omega

theorem exists_wholeText (value : Int) : ∃ c cs, JsonNumber.wholeText value = c :: cs ∧
    (c = '-' ∨ c.isDigit = true) := by
  obtain ⟨d, ds, hdigits, hd⟩ := exists_digit value.natAbs
  unfold JsonNumber.wholeText
  split
  · exact ⟨_, _, rfl, .inl rfl⟩
  · exact ⟨d, ds, hdigits, .inr hd⟩

/-- What starts like a number is read as one. -/
theorem next?_number {c : Char} (h : c = '-' ∨ c.isDigit = true) (cs : List Char) :
    next? (c :: cs) = scanNumber? (c :: cs) ∧ isBlank c = false := by
  have differs {k : Char} (hk : k ≠ '-' ∧ k.isDigit = false) : c ≠ k := by
    rintro rfl
    exact h.elim hk.1 fun digit => Bool.false_ne_true (hk.2 ▸ digit)
  constructor
  · unfold next?
    split
    all_goals first
      | rfl
      | next heq => exact absurd (List.cons.inj heq).1 (differs (by decide))
  · simp only [isBlank, decide_eq_false (differs (k := ' ') (by decide)),
      decide_eq_false (differs (k := '\t') (by decide)),
      decide_eq_false (differs (k := '\n') (by decide)),
      decide_eq_false (differs (k := '\r') (by decide)), Bool.or_self]

theorem Spells.number {n : JsonNumber} (whole : n.IsWhole) {cs : List Char} {ts : List JsonToken}
    (h : Spells cs ts) (ends : Ends cs) : Spells (n.text ++ cs) (.number (some n) :: ts) := by
  cases n with
  | double x => exact whole.elim
  | whole value fits =>
    have scanned := scanNumber?_wholeText fits ends
    obtain ⟨c, text, htext, hc⟩ := exists_wholeText value
    change Spells (JsonNumber.wholeText value ++ cs) _
    rw [htext] at scanned ⊢
    obtain ⟨next, notBlank⟩ := next?_number hc (text ++ cs)
    exact .token notBlank (next.trans scanned) (List.length_append ▸ Nat.le_add_left _ _) h

/-! ## Strings -/

/-- What stands for a character in a string is a piece of its own, which denotes that character. -/
def StandsFor (text : List Char) (c : Char) : Prop :=
  ∃ piece, (∀ cs, scanString? (text ++ cs) =
      (scanString? cs).map fun (pieces, rest) => (piece :: pieces, rest)) ∧
    ∀ pieces, content? (piece :: pieces) = (content? pieces).map (c :: ·)

theorem standsFor_simple {e c : Char} (h : simpleEscape? e = some c) : StandsFor ['\\', e] c := by
  refine ⟨.char c, fun cs => ?_, fun _ => rfl⟩
  change scanString? ('\\' :: e :: cs) = _
  rw [scanString?, h]
  · cases scanString? cs <;> rfl
  · rintro a b c d rest rfl
    cases h

theorem standsFor_unit {c : Char} (h : c.val < 0x20) :
    StandsFor ['\\', 'u', '0', '0', hexDigit (c.toNat / 16), hexDigit (c.toNat % 16)] c := by
  have digits : ∀ n < 0x20,
      hexValue4? '0' '0' (hexDigit (n / 16)) (hexDigit (n % 16)) = some n := by
    decide
  have unit : ∀ n < 0x20, isHighSurrogate n = false ∧ isLowSurrogate n = false := by decide
  obtain ⟨high, low⟩ := unit c.toNat h
  refine ⟨.unit c.toNat, fun cs => ?_, fun pieces => ?_⟩
  · change scanString? ('\\' :: 'u' :: '0' :: '0' :: _ :: _ :: cs) = _
    rw [scanString?, digits c.toNat h]
    cases scanString? cs <;> rfl
  · rcases pieces with _ | ⟨_ | v, rest⟩ <;>
      simp only [content?, high, low, Char.ofNat_toNat, Bool.or_self, Bool.false_eq_true, if_false]

theorem standsFor_plain {c : Char} (quote : c ≠ '"') (backslash : c ≠ '\\')
    (h : ¬ c.val < 0x20) : StandsFor [c] c := by
  refine ⟨.char c, fun cs => ?_, fun _ => rfl⟩
  change scanString? (c :: cs) = _
  rw [scanString?, if_neg (not_or.mpr ⟨h, backslash⟩)]
  · cases scanString? cs <;> rfl
  · exact quote
  · rintro a b c d rest rfl
    exact absurd rfl backslash
  · rintro e rest rfl
    exact absurd rfl backslash

theorem standsFor_escapeChar (c : Char) : StandsFor (escapeChar c) c := by
  unfold escapeChar
  iterate 7
    split
    next h =>
      subst h
      exact standsFor_simple rfl
  split
  next control => exact standsFor_unit control
  next plain => exact standsFor_plain ‹¬ c = '"'› ‹¬ c = '\\'› plain

/-- What stands between quotation marks has the characters of the text for its content. -/
theorem exists_pieces (text cs : List Char) :
    ∃ pieces, scanString? (text.flatMap escapeChar ++ '"' :: cs) = some (pieces, cs) ∧
      content? pieces = some text := by
  induction text with
  | nil => exact ⟨[], rfl, rfl⟩
  | cons c rest ih =>
    obtain ⟨pieces, scanned, content⟩ := ih
    obtain ⟨piece, scan, denotes⟩ := standsFor_escapeChar c
    refine ⟨piece :: pieces, ?_, ?_⟩
    · rw [List.flatMap_cons, List.append_assoc, scan, scanned]
      rfl
    · rw [denotes, content]
      rfl

theorem Spells.quoted (s : String) {cs : List Char} {ts : List JsonToken} (h : Spells cs ts) :
    Spells (quotedText s ++ cs) (.text (some s) :: ts) := by
  obtain ⟨pieces, scanned, content⟩ := exists_pieces s.toList cs
  rw [quotedText, List.cons_append, List.append_assoc, List.singleton_append]
  refine .token (by decide) ?_ ?_ h
  · change (scanString? _).map _ = _
    rw [scanned, Option.map_some]
    dsimp only
    rw [content, Option.map_some, String.ofList_toList]
  · rw [List.length_append, List.length_cons]
    omega

/-! ## Values -/

theorem Spells.null {cs : List Char} {ts : List JsonToken} (h : Spells cs ts) :
    Spells ("null".toList ++ cs) (.null :: ts) :=
  .token (by decide) rfl (Nat.le_add_right _ 3) h

theorem Spells.bool (b : Bool) {cs : List Char} {ts : List JsonToken} (h : Spells cs ts) :
    Spells ((Json.bool b).compactChars ++ cs) (.bool b :: ts) := by
  cases b with
  | true => exact .token (by decide) rfl (Nat.le_add_right _ 3) h
  | false => exact .token (by decide) rfl (Nat.le_add_right _ 4) h

theorem Spells.openList {cs : List Char} {ts : List JsonToken} (h : Spells cs ts) :
    Spells ('[' :: cs) (.openList :: ts) :=
  h.single (by decide) rfl

theorem Spells.closeList {cs : List Char} {ts : List JsonToken} (h : Spells cs ts) :
    Spells (']' :: cs) (.closeList :: ts) :=
  h.single (by decide) rfl

theorem Spells.openObject {cs : List Char} {ts : List JsonToken} (h : Spells cs ts) :
    Spells ('\x7b' :: cs) (.openObject :: ts) :=
  h.single (by decide) rfl

theorem Spells.closeObject {cs : List Char} {ts : List JsonToken} (h : Spells cs ts) :
    Spells ('\x7d' :: cs) (.closeObject :: ts) :=
  h.single (by decide) rfl

theorem Spells.comma {cs : List Char} {ts : List JsonToken} (h : Spells cs ts) :
    Spells (',' :: cs) (.comma :: ts) :=
  h.single (by decide) rfl

theorem Spells.colon {cs : List Char} {ts : List JsonToken} (h : Spells cs ts) :
    Spells (':' :: cs) (.colon :: ts) :=
  h.single (by decide) rfl

theorem ends_cons {c : Char} (h : c = ',' ∨ c = ']' ∨ c = '\x7d' ∨ c = '\n') (cs : List Char) :
    Ends (c :: cs) := by
  obtain rfl | rfl | rfl | rfl := h <;> exact ⟨by decide, by decide, by decide, by decide⟩

mutual

/-- The compact text of a value has the tokens of the value. -/
theorem spells_compactChars : ∀ (j : Json), j.Whole → ∀ {cs : List Char} {ts : List JsonToken},
    Spells cs ts → Ends cs → Spells (j.compactChars ++ cs) (j.tokens ++ ts)
  | .null, _, _, _, h, _ => h.null
  | .bool b, _, _, _, h, _ => h.bool b
  | .number _, whole, _, _, h, ends => h.number whole ends
  | .text s, _, _, _, h, _ => h.quoted s
  | .list items, whole, cs, ts, h, _ => by
    rw [Json.compactChars, Json.tokens, List.cons_append, List.cons_append, List.append_assoc,
      List.append_assoc]
    exact (spells_compactItems items whole h.closeList (ends_cons (by simp) cs)).openList
  | .object members, whole, cs, ts, h, _ => by
    rw [Json.compactChars, Json.tokens, List.cons_append, List.cons_append, List.append_assoc,
      List.append_assoc]
    exact (spells_compactMembers members whole h.closeObject (ends_cons (by simp) cs)).openObject

theorem spells_compactItems : ∀ (items : List Json), Json.ItemsWhole items →
    ∀ {cs : List Char} {ts : List JsonToken}, Spells cs ts → Ends cs →
      Spells (Json.compactItems items ++ cs) (Json.itemTokens items ++ ts)
  | [], _, _, _, h, _ => h
  | [item], whole, _, _, h, ends => spells_compactChars item whole.1 h ends
  | item :: next :: rest, whole, cs, ts, h, ends => by
    have behind := spells_compactItems (next :: rest) whole.2 h ends
    rw [Json.compactItems, Json.itemTokens_cons, List.append_assoc, List.append_assoc,
      List.cons_append, List.cons_append]
    · exact spells_compactChars item whole.1 behind.comma (ends_cons (by simp) _)
    · exact List.cons_ne_nil _ _

theorem spells_compactMembers : ∀ (members : List (String × Json)), Json.MembersWhole members →
    ∀ {cs : List Char} {ts : List JsonToken}, Spells cs ts → Ends cs →
      Spells (Json.compactMembers members ++ cs) (Json.memberTokens members ++ ts)
  | [], _, _, _, h, _ => h
  | [(name, value)], whole, cs, ts, h, ends => by
    have behind := spells_compactChars value whole.1 h ends
    rw [Json.compactMembers, Json.memberTokens, List.append_assoc, List.cons_append]
    exact behind.colon.quoted name
  | (name, value) :: next :: rest, whole, cs, ts, h, ends => by
    have others := spells_compactMembers (next :: rest) whole.2 h ends
    have behind := spells_compactChars value whole.1 others.comma (ends_cons (by simp) _)
    rw [Json.compactMembers, Json.memberTokens_cons, List.append_assoc, List.cons_append,
      List.append_assoc, List.cons_append, List.cons_append, List.cons_append, List.append_assoc,
      List.cons_append]
    · exact behind.colon.quoted name
    · exact List.cons_ne_nil _ _

end

theorem Spells.newLine (level : Nat) {cs : List Char} {ts : List JsonToken} (h : Spells cs ts) :
    Spells (Json.newLine level ++ cs) ts := by
  refine h.blanks fun c hc => ?_
  obtain rfl | hspace := List.mem_cons.mp hc
  · rfl
  · rw [List.eq_of_mem_replicate hspace]
    rfl

theorem ends_newLine (level : Nat) (cs : List Char) : Ends (Json.newLine level ++ cs) :=
  ends_cons (by simp) _

mutual

/-- The text of a value that is laid out over lines has the tokens of the value. -/
theorem spells_prettyChars : ∀ (level : Nat) (j : Json), j.Whole →
    ∀ {cs : List Char} {ts : List JsonToken}, Spells cs ts → Ends cs →
      Spells (j.prettyChars level ++ cs) (j.tokens ++ ts)
  | _, .null, _, _, _, h, _ => h.null
  | _, .bool true, _, _, _, h, _ => h.bool true
  | _, .bool false, _, _, _, h, _ => h.bool false
  | _, .number _, whole, _, _, h, ends => h.number whole ends
  | _, .text s, _, _, _, h, _ => h.quoted s
  | _, .list [], _, _, _, h, _ => h.closeList.openList
  | level, .list (item :: rest), whole, cs, ts, h, _ => by
    have items := spells_prettyItems (level + 1) (item :: rest) whole (h.closeList.newLine level)
      (ends_newLine level _)
    rw [Json.prettyChars, Json.tokens, List.cons_append, List.cons_append, List.append_assoc,
      List.append_assoc, List.append_assoc]
    exact items.openList
  | _, .object [], _, _, _, h, _ => h.closeObject.openObject
  | level, .object (member :: rest), whole, cs, ts, h, _ => by
    have members := spells_prettyMembers (level + 1) (member :: rest) whole
      (h.closeObject.newLine level) (ends_newLine level _)
    rw [Json.prettyChars, Json.tokens, List.cons_append, List.cons_append, List.append_assoc,
      List.append_assoc, List.append_assoc]
    exact members.openObject

theorem spells_prettyItems : ∀ (level : Nat) (items : List Json), Json.ItemsWhole items →
    ∀ {cs : List Char} {ts : List JsonToken}, Spells cs ts → Ends cs →
      Spells (Json.prettyItems level items ++ cs) (Json.itemTokens items ++ ts)
  | _, [], _, _, _, h, _ => h
  | level, [item], whole, cs, ts, h, ends => by
    rw [Json.prettyItems, Json.itemTokens, List.append_assoc]
    exact (spells_prettyChars level item whole.1 h ends).newLine level
  | level, item :: next :: rest, whole, cs, ts, h, ends => by
    have others := spells_prettyItems level (next :: rest) whole.2 h ends
    have behind := spells_prettyChars level item whole.1 others.comma (ends_cons (by simp) _)
    rw [Json.prettyItems, Json.itemTokens_cons, List.append_assoc, List.append_assoc,
      List.append_assoc, List.cons_append, List.cons_append]
    · exact behind.newLine level
    · exact List.cons_ne_nil _ _

theorem spells_prettyMembers : ∀ (level : Nat) (members : List (String × Json)),
    Json.MembersWhole members → ∀ {cs : List Char} {ts : List JsonToken}, Spells cs ts → Ends cs →
      Spells (Json.prettyMembers level members ++ cs) (Json.memberTokens members ++ ts)
  | _, [], _, _, _, h, _ => h
  | level, [(name, value)], whole, cs, ts, h, ends => by
    have behind := spells_prettyChars level value whole.1 h ends
    rw [Json.prettyMembers, Json.memberTokens, List.append_assoc, List.append_assoc]
    exact ((behind.blank (c := ' ') rfl).colon.quoted name).newLine level
  | level, (name, value) :: next :: rest, whole, cs, ts, h, ends => by
    have others := spells_prettyMembers level (next :: rest) whole.2 h ends
    have behind := spells_prettyChars level value whole.1 others.comma (ends_cons (by simp) _)
    rw [Json.prettyMembers, Json.memberTokens_cons, List.append_assoc, List.append_assoc,
      List.cons_append, List.cons_append, List.append_assoc, List.cons_append, List.cons_append,
      List.cons_append, List.append_assoc, List.cons_append]
    · exact ((behind.blank (c := ' ') rfl).colon.quoted name).newLine level
    · exact List.cons_ne_nil _ _

end

theorem ends_blanks {blanks : List Char} (blank : ∀ c ∈ blanks, isBlank c = true) :
    Ends blanks := by
  cases blanks with
  | nil => trivial
  | cons c cs =>
    have hc := blank c List.mem_cons_self
    simp only [isBlank, Bool.or_eq_true, decide_eq_true_eq] at hc
    obtain ((rfl | rfl) | rfl) | rfl := hc <;>
      exact ⟨by decide, by decide, by decide, by decide⟩

theorem spells_blanks {blanks : List Char} (blank : ∀ c ∈ blanks, isBlank c = true) :
    Spells blanks [] := by
  have spelled := Spells.nil.blanks blank
  rwa [List.append_nil] at spelled

/-- **The compact text of a whole value has the tokens of the value and no others**, whatever blanks
stand behind it. -/
theorem tokens_compactChars {j : Json} (whole : j.Whole) (blanks : List Char)
    (blank : ∀ c ∈ blanks, isBlank c = true) : tokens (j.compactChars ++ blanks) = j.tokens := by
  have spelled := spells_compactChars j whole (spells_blanks blank) (ends_blanks blank)
  rw [spelled.tokens, List.append_nil]

/-- **So has the text that is laid out over lines.** -/
theorem tokens_prettyChars {j : Json} (whole : j.Whole) (level : Nat) (blanks : List Char)
    (blank : ∀ c ∈ blanks, isBlank c = true) :
    tokens (j.prettyChars level ++ blanks) = j.tokens := by
  have spelled := spells_prettyChars level j whole (spells_blanks blank) (ends_blanks blank)
  rw [spelled.tokens, List.append_nil]

end JsonToken

end SchemaEvolution
