import Mathlib
import SchemaEvolution.Ddl.Basic
import SchemaEvolution.Proofs.JsonReading

/-!
# Names and texts read back

A statement is read token by token, and what stands between two quotes is up to the reader: it goes
on to the quote that ends the token, and knows some quotes for parts of the token by a mark. The
readers here are those of the two dialects.

PostgreSQL knows a quote inside a token by its being doubled (`Sql.untilQuote?`). Names and texts
are written accordingly, and no name that would be folded, or taken for a key word, is written
bare. So every name, every text and every document is read back, and what stands behind it is left
as it is (`Sql.tokens_read_back`).

Spanner takes a backslash between backticks for a mark that makes the next character a part of the
name (`Sql.untilBacktick?`). Backticks get one where names are written, but backslashes, which are
marks too, do not. So a name is read back exactly if it has no backslash
(`Sql.backticked_read_back_iff`).
-/

namespace SchemaEvolution

namespace Sql

/-- Puts a character before what was read of a token. -/
def keep (c : Char) (r : List Char × List Char) : List Char × List Char :=
  (c :: r.1, r.2)

theorem map_keep_eq_some {c : Char} {r : Option (List Char × List Char)} {out left : List Char} :
    r.map (keep c) = some (out, left) ↔ ∃ out', r = some (out', left) ∧ out = c :: out' := by
  constructor
  · intro h
    obtain ⟨⟨out', behind⟩, read, heq⟩ := Option.map_eq_some_iff.mp h
    cases heq
    exact ⟨out', read, rfl⟩
  · rintro ⟨out', rfl, rfl⟩
    rfl

/-! ## Doubled quotes -/

section

variable {quote c : Char} {cs s rest : List Char}

/-- Reads a token up to the quote that ends it, and gives what stands behind it as well. Two quotes
next to each other are one quote of the token. -/
def untilQuote? (quote : Char) : List Char → Option (List Char × List Char)
  | [] => none
  | [c] => if c = quote then some ([], []) else none
  | c :: c' :: rest =>
    if c ≠ quote then (untilQuote? quote (c' :: rest)).map (keep c)
    else if c' = quote then (untilQuote? quote rest).map (keep quote)
    else some ([], c' :: rest)

/-- A text with its quotes doubled. -/
def doubled (quote : Char) (s : List Char) : List Char :=
  s.flatMap fun c => if c = quote then [quote, quote] else [c]

theorem untilQuote?_quote (behind : rest.head? ≠ some quote) :
    untilQuote? quote (quote :: rest) = some ([], rest) := by
  cases rest with
  | nil => exact if_pos rfl
  | cons c rest =>
    have other : c ≠ quote := fun h => behind (congrArg some h)
    rw [untilQuote?, if_neg (not_not.mpr rfl), if_neg other]

theorem untilQuote?_doubled_quote :
    untilQuote? quote (quote :: quote :: rest) = (untilQuote? quote rest).map (keep quote) := by
  rw [untilQuote?, if_neg (not_not.mpr rfl), if_pos rfl]

theorem untilQuote?_other (other : c ≠ quote) :
    untilQuote? quote (c :: cs) = (untilQuote? quote cs).map (keep c) := by
  cases cs with
  | nil => exact if_neg other
  | cons c' cs => rw [untilQuote?, if_pos other]

/-- **A text with doubled quotes is read back**, whatever stands behind the quote that ends it. -/
theorem untilQuote?_doubled (behind : rest.head? ≠ some quote) :
    untilQuote? quote (doubled quote s ++ quote :: rest) = some (s, rest) := by
  induction s with
  | nil => exact untilQuote?_quote behind
  | cons c s ih =>
    rw [doubled, List.flatMap_cons, ← doubled, List.append_assoc]
    by_cases same : c = quote
    · subst same
      rw [if_pos rfl, List.cons_append, List.singleton_append, untilQuote?_doubled_quote, ih]
      rfl
    · rw [if_neg same, List.singleton_append, untilQuote?_other same, ih]
      rfl

end

theorem toList_quoted (s : String) :
    (quoted s).toList = '\x27' :: (doubled '\x27' s.toList ++ ['\x27']) :=
  String.toList_ofList

theorem toList_delimited_postgres (name : String) :
    (delimited .postgres name).toList = '"' :: (doubled '"' name.toList ++ ['"']) :=
  String.toList_ofList

/-! ## Tokens of PostgreSQL -/

/-- The tokens that names and texts are. -/
inductive Token where
  | name (name : String)
  | keyWord (word : String)
  | text (text : String)
deriving DecidableEq

/-- The token that a word is: a key word, in letters of either case, or a name, which is read in
small letters. -/
def Token.ofWord (word : List Char) : Token :=
  if String.ofList (word.map Char.toUpper) ∈ postgresReserved then .keyWord (String.ofList word)
  else .name (String.ofList (word.map Char.toLower))

/-- Reads the first token of a text, if that is a word or stands in quotes. `inWord` says which
characters go on with a word. -/
def token? (inWord : Char → Bool) : List Char → Option (Token × List Char)
  | [] => none
  | c :: rest =>
    if c = '"' then (untilQuote? '"' rest).map fun r => (.name (String.ofList r.1), r.2)
    else if c = '\x27' then
      (untilQuote? '\x27' rest).map fun r => (.text (String.ofList r.1), r.2)
    else if isIdentifierStart c then
      some (.ofWord (c :: rest.takeWhile inWord), rest.dropWhile inWord)
    else none

section

variable {inWord : Char → Bool} {name : String} {rest : List Char}

theorem token?_quoted (s : String) (behind : rest.head? ≠ some '\x27') :
    token? inWord ((quoted s).toList ++ rest) = some (.text s, rest) := by
  rw [toList_quoted, List.cons_append, token?, if_neg (by decide), if_pos rfl, List.append_assoc,
    List.singleton_append, untilQuote?_doubled behind, Option.map_some, String.ofList_toList]

theorem token?_delimited (name : String) (behind : rest.head? ≠ some '"') :
    token? inWord ((delimited .postgres name).toList ++ rest) = some (.name name, rest) := by
  rw [toList_delimited_postgres, List.cons_append, token?, if_pos rfl, List.append_assoc,
    List.singleton_append, untilQuote?_doubled behind, Option.map_some, String.ofList_toList]

/-- A word ends where the first character stands that does not go on with it. -/
theorem span_word {word : List Char} (inside : ∀ c ∈ word, inWord c = true)
    (behind : ∀ c ∈ rest.head?, inWord c = false) :
    (word ++ rest).takeWhile inWord = word ∧ (word ++ rest).dropWhile inWord = rest := by
  rw [List.takeWhile_append_of_pos inside, List.dropWhile_append_of_pos inside]
  cases rest with
  | nil => exact ⟨List.append_nil _, rfl⟩
  | cons c rest =>
    have stop : ¬ inWord c = true := Bool.eq_false_iff.mp (behind c rfl)
    rw [List.takeWhile_cons_of_neg stop, List.dropWhile_cons_of_neg stop]
    exact ⟨List.append_nil _, rfl⟩

/-- What is written without delimiters is no key word, and a name as it stands. -/
theorem ofWord_of_bare (bare : needsDelimiters .postgres name = false) :
    Token.ofWord name.toList = .name name := by
  simp only [needsDelimiters, Bool.or_eq_false_iff, List.any_eq_false] at bare
  obtain ⟨⟨-, small⟩, free⟩ := bare
  have unreserved : String.ofList (name.toList.map Char.toUpper) ∉ postgresReserved := by
    rw [← String.toList_map, String.ofList_toList]
    exact fun reserved => Bool.eq_false_iff.mp free (List.contains_iff_mem.mpr reserved)
  have folded : name.toList.map Char.toLower = name.toList :=
    (List.map_congr_left fun c hc => Char.toLower_eq_of_not_isUpper (small c hc)).trans
      (List.map_id _)
  rw [Token.ofWord, if_neg unreserved, folded, String.ofList_toList]

/-- What is written without delimiters begins and goes on as words do. -/
theorem exists_of_isPlain (plain : isPlain name = true) :
    ∃ c rest, name.toList = c :: rest ∧ isIdentifierStart c = true ∧
      ∀ c ∈ rest, isIdentifierPart c = true := by
  unfold isPlain at plain
  cases hname : name.toList with
  | nil =>
    rw [hname] at plain
    cases plain
  | cons c rest =>
    rw [hname] at plain
    obtain ⟨first, others⟩ := Bool.and_eq_true_iff.mp plain
    exact ⟨c, rest, rfl, first, List.all_eq_true.mp others⟩

theorem token?_bare (bare : needsDelimiters .postgres name = false)
    (words : ∀ c, isIdentifierPart c = true → inWord c = true)
    (behind : ∀ c ∈ rest.head?, inWord c = false) :
    token? inWord (name.toList ++ rest) = some (.name name, rest) := by
  have word := ofWord_of_bare bare
  simp only [needsDelimiters, Bool.or_eq_false_iff, Bool.not_eq_false'] at bare
  obtain ⟨c, cs, hname, first, others⟩ := exists_of_isPlain bare.1.1
  obtain ⟨whole, left⟩ := span_word (fun c hc => words c (others c hc)) behind
  have unquoted : c ≠ '"' ∧ c ≠ '\x27' := by
    constructor <;> rintro rfl <;> exact absurd first (by decide)
  rw [hname] at word
  rw [hname, List.cons_append, token?, if_neg unquoted.1, if_neg unquoted.2, if_pos first, whole,
    left, word]

end

end Sql

/-! ## Documents in texts -/

/-- The JSON value that a text is the text of, if it is one, and if no more than so many lists and
objects lie within one another in it. -/
def Json.ofText? (levels : Nat) (text : String) : Option Json :=
  match JsonNode.ofText text with
  | (node, ended) => if ended ∧ node.depth ≤ levels then node.value? else none

theorem Json.ofText?_compact {j : Json} {levels : Nat} (whole : j.Whole)
    (shallow : j.depth ≤ levels) : Json.ofText? levels j.compact = some j := by
  rw [ofText?, JsonNode.ofText_compact whole]
  exact (if_pos ⟨rfl, shallow⟩).trans (JsonNode.value?_ofJson j)

namespace Sql

/-- **What is quoted for PostgreSQL cannot get out of its quotes.** A name, with or without
delimiters, is read as one token, which is that name, and what stands behind it is left as it is; so
is a text in quotes. Of words it is known only that letters, digits and underscores go on with them.
The text of a list or an object is one token before its type, and a reader of JSON that goes deep
enough finds that value in it. The reader of documents does so as well, unless the value stands for
an embedded text. -/
theorem tokens_read_back (inWord : Char → Bool)
    (words : ∀ c, isIdentifierPart c = true → inWord c = true) :
    (∀ name rest, (∀ c ∈ rest.head?, inWord c = false ∧ c ≠ '"') →
      token? inWord ((identifier .postgres name).toList ++ rest) = some (.name name, rest)) ∧
    (∀ s rest, rest.head? ≠ some '\x27' →
      token? inWord ((quoted s).toList ++ rest) = some (.text s, rest)) ∧
    ∀ v : JsonData, (∃ items, v.val = .list items) ∨ (∃ members, v.val = .object members) →
      v.val.Whole → ∃ s,
        (∀ rest, token? inWord ((literal .postgres v.val).toList ++ rest) =
          some (.text s, "::jsonb".toList ++ rest)) ∧
        (∀ levels, v.val.depth ≤ levels → Json.ofText? levels s = some v.val) ∧
        (v.val.depth ≤ JsonAccess.maxLevels → v.val.Restorable →
          JsonReader.data.readText s = .ok v) := by
  refine ⟨fun name rest behind => ?_, fun s rest behind => token?_quoted s behind, ?_⟩
  · unfold identifier
    split
    · exact token?_delimited name fun h => (behind _ h).2 rfl
    · rename_i bare
      exact token?_bare (Bool.eq_false_iff.mpr bare) words fun c hc => (behind c hc).1
  · intro v document whole
    have text : literal .postgres v.val = quoted v.val.compact ++ "::jsonb" := by
      obtain ⟨items, h⟩ | ⟨members, h⟩ := document <;> rw [h] <;> rfl
    refine ⟨v.val.compact, fun rest => ?_, fun levels => Json.ofText?_compact whole,
      fun shallow plain => ((JsonReader.restores_data plain).readText shallow).2⟩
    rw [text, String.toList_append, List.append_assoc]
    exact token?_quoted _ (by simp)

end Sql

namespace Shop

/-- What goes on with a word in PostgreSQL: dollar signs and characters beyond ASCII as well. -/
def inWord (c : Char) : Bool :=
  Sql.isIdentifierPart c || c == '$' || '\x7f' < c

/-- A key word, a name with a capital letter and a quote, a text with a backslash before its quote,
and a list of a text with a quote are read back. -/
theorem tokens_read_back_order :
    let note : JsonData := .of (.list [.text "it's"])
    (∀ c, Sql.isIdentifierPart c = true → inWord c = true) ∧
    Sql.token? inWord ((Sql.identifier .postgres "order").toList ++ [' ']) =
      some (.name "order", [' ']) ∧
    Sql.token? inWord ((Sql.identifier .postgres "Id\"").toList ++ [',']) =
      some (.name "Id\"", [',']) ∧
    Sql.token? inWord ((Sql.quoted "\\'").toList ++ [';']) = some (.text "\\'", [';']) ∧
    note.val.Whole ∧ ∃ s, Json.ofText? 127 s = some note.val ∧
      JsonReader.data.readText s = .ok note ∧
      Sql.token? inWord (Sql.literal .postgres note.val).toList =
        some (.text s, "::jsonb".toList) := by
  intro note
  have words : ∀ c, Sql.isIdentifierPart c = true → inWord c = true := fun c h => by
    rw [inWord, h, Bool.true_or, Bool.true_or]
  have whole : note.val.Whole := by decide
  obtain ⟨names, texts, documents⟩ := Sql.tokens_read_back inWord words
  obtain ⟨s, token, value, read⟩ := documents note (.inl ⟨_, rfl⟩) whole
  have first := token []
  rw [List.append_nil, List.append_nil] at first
  have blank : inWord ' ' = false ∧ ' ' ≠ '"' := by decide
  have comma : inWord ',' = false ∧ ',' ≠ '"' := by decide
  refine ⟨words, names "order" [' '] ?_, names "Id\"" [','] ?_, texts "\\'" [';'] (by decide),
    whole, s, value 127 (by decide), read (by decide) (by decide), first⟩
  · rintro _ ⟨⟩
    exact blank
  · rintro _ ⟨⟩
    exact comma

end Shop

namespace Sql

/-! ## Backticks of Spanner -/

section

variable {c : Char} {s out rest left : List Char}

/-- Reads a name up to the backtick that ends it, and gives what stands behind it as well. A
backslash makes the next character a part of the name. -/
def untilBacktick? : List Char → Option (List Char × List Char)
  | [] => none
  | ['\\'] => none
  | '\\' :: c :: rest => (untilBacktick? rest).map (keep c)
  | c :: rest => if c = '\x60' then some ([], rest) else (untilBacktick? rest).map (keep c)

/-- A name with a backslash before each of its backticks. -/
def marked (s : List Char) : List Char :=
  s.flatMap fun c => if c = '\x60' then ['\\', '\x60'] else [c]

/-- Reads a name between backticks, if a text begins with one. -/
def backticked? : List Char → Option (String × List Char)
  | '\x60' :: rest => (untilBacktick? rest).map fun r => (String.ofList r.1, r.2)
  | _ => none

theorem toList_delimited_spanner (name : String) :
    (delimited .spanner name).toList = '\x60' :: (marked name.toList ++ ['\x60']) :=
  String.toList_ofList

theorem untilBacktick?_backslash :
    untilBacktick? ('\\' :: c :: rest) = (untilBacktick? rest).map (keep c) := by
  rw [untilBacktick?]

theorem untilBacktick?_other (other : c ≠ '\\') (inside : c ≠ '\x60') :
    untilBacktick? (c :: rest) = (untilBacktick? rest).map (keep c) := by
  rw [untilBacktick?, if_neg inside]
  · exact fun h _ => other h
  · exact fun _ _ h _ => other h

theorem marked_backtick : marked ('\x60' :: s) = '\\' :: '\x60' :: marked s := rfl

theorem marked_other (inside : c ≠ '\x60') : marked (c :: s) = c :: marked s := by
  rw [marked, List.flatMap_cons, if_neg inside]
  rfl

/-- A character that is no backslash is read back, be it a backtick or not. -/
theorem untilBacktick?_marked_cons (other : c ≠ '\\') (behind : List Char) :
    untilBacktick? (marked (c :: s) ++ behind) =
      (untilBacktick? (marked s ++ behind)).map (keep c) := by
  by_cases inside : c = '\x60'
  · subst inside
    rw [marked_backtick, List.cons_append, List.cons_append, untilBacktick?_backslash]
  · rw [marked_other inside, List.cons_append, untilBacktick?_other other inside]

/-- A backslash is lost on the character behind it, and takes away the mark of a backtick. -/
theorem untilBacktick?_marked_backslash (c : Char) (s behind : List Char) :
    untilBacktick? (marked ('\\' :: c :: s) ++ behind) =
      if c = '\x60' then some (['\\'], marked s ++ behind)
      else (untilBacktick? (marked s ++ behind)).map (keep c) := by
  split
  · rename_i inside
    subst inside
    rfl
  · rename_i inside
    rw [marked_other (by decide), marked_other inside, List.cons_append, List.cons_append,
      untilBacktick?_backslash]

/-- Without backslashes, a name is read back. -/
theorem untilBacktick?_marked (plain : '\\' ∉ s) :
    untilBacktick? (marked s ++ '\x60' :: rest) = some (s, rest) := by
  induction s with
  | nil => rfl
  | cons c s ih =>
    rw [List.mem_cons, not_or] at plain
    rw [untilBacktick?_marked_cons (Ne.symm plain.1), ih plain.2]
    rfl

/-- What stands behind a name is less than what it was read from. -/
theorem length_lt_of_untilBacktick? {cs : List Char} (h : untilBacktick? cs = some (out, left)) :
    left.length < cs.length := by
  induction cs using untilBacktick?.induct generalizing out with
  | case1 => cases h
  | case2 => cases h
  | case3 c rest ih =>
    obtain ⟨_, read, -⟩ := map_keep_eq_some.mp h
    exact Nat.lt_trans (ih read) (Nat.lt_succ_of_lt (Nat.lt_succ_self _))
  | case4 rest =>
    cases h
    exact Nat.lt_succ_self _
  | case5 c rest alone escape inside ih =>
    rw [untilBacktick?.eq_4 c rest alone escape, if_neg inside] at h
    obtain ⟨_, read, -⟩ := map_keep_eq_some.mp h
    exact Nat.lt_succ_of_lt (ih read)

/-- Where a name is read up to its own end, no character came to it, and with a backslash in it at
least one went. -/
theorem length_le_of_untilBacktick?_marked {s out : List Char}
    (h : untilBacktick? (marked s ++ '\x60' :: rest) = some (out, rest)) :
    out.length ≤ s.length ∧ ('\\' ∈ s → out.length < s.length) := by
  cases s with
  | nil =>
    cases h
    exact ⟨Nat.le_refl _, nofun⟩
  | cons c s =>
    by_cases backslash : c = '\\'
    · subst backslash
      suffices out.length < s.length + 1 from ⟨Nat.le_of_lt this, fun _ => this⟩
      cases s with
      | nil =>
        -- the backtick that was to end the name is read as a part of it
        obtain ⟨_, read, -⟩ := map_keep_eq_some.mp h
        exact absurd (length_lt_of_untilBacktick? read) (Nat.lt_irrefl _)
      | cons d s =>
        rw [untilBacktick?_marked_backslash] at h
        split at h
        · obtain ⟨rfl, -⟩ := Prod.mk.inj (Option.some.inj h)
          exact Nat.succ_lt_succ (Nat.succ_pos _)
        · obtain ⟨_, read, rfl⟩ := map_keep_eq_some.mp h
          have le := (length_le_of_untilBacktick?_marked read).1
          exact Nat.succ_lt_succ (Nat.lt_succ_of_le le)
    · rw [untilBacktick?_marked_cons backslash] at h
      obtain ⟨_, read, rfl⟩ := map_keep_eq_some.mp h
      obtain ⟨le, lt⟩ := length_le_of_untilBacktick?_marked read
      refine ⟨Nat.succ_le_succ le, fun there => Nat.succ_lt_succ (lt ?_)⟩
      exact (List.mem_cons.mp there).resolve_left (Ne.symm backslash)

end

/-- **A name between backticks is read back exactly if it has no backslash**, whatever stands behind
it. -/
theorem backticked_read_back_iff (name : String) (rest : List Char)
    (enclosed : needsDelimiters .spanner name = true) :
    backticked? ((identifier .spanner name).toList ++ rest) = some (name, rest) ↔
      '\\' ∉ name.toList := by
  rw [identifier, if_pos enclosed, toList_delimited_spanner, List.cons_append, List.append_assoc,
    List.singleton_append, backticked?]
  constructor
  · intro h there
    obtain ⟨⟨out, left⟩, read, heq⟩ := Option.map_eq_some_iff.mp h
    obtain ⟨rfl, rfl⟩ := Prod.mk.inj heq
    rw [String.toList_ofList] at read there
    exact Nat.lt_irrefl _ ((length_le_of_untilBacktick?_marked read).2 there)
  · intro plain
    rw [untilBacktick?_marked plain, Option.map_some, String.ofList_toList]

end Sql

namespace Shop

/-- A name with a backtick and a blank is read back before a bracket. -/
theorem backticked_read_back_order :
    Sql.needsDelimiters .spanner "the `last` order" = true ∧
      Sql.backticked? ((Sql.identifier .spanner "the `last` order").toList ++ [')']) =
        some ("the `last` order", [')']) := by
  have enclosed : Sql.needsDelimiters .spanner "the `last` order" = true := by decide
  exact ⟨enclosed, (Sql.backticked_read_back_iff _ _ enclosed).mpr (by decide)⟩

/-- Of names with backslashes, one is read as another name, one ends before its end, and one does
not end with it: the name behind it is read as its end. -/
theorem backticked_not_read_back :
    (Sql.needsDelimiters .spanner "a\\b" = true ∧
      Sql.backticked? (Sql.identifier .spanner "a\\b").toList = some ("ab", [])) ∧
    (Sql.needsDelimiters .spanner "a\\`b" = true ∧
      Sql.backticked? (Sql.identifier .spanner "a\\`b").toList = some ("a\\", ['b', '\x60'])) ∧
    Sql.needsDelimiters .spanner "a\\" = true ∧
      Sql.backticked? (Sql.identifier .spanner "a\\").toList = none ∧
      Sql.backticked? ((Sql.identifier .spanner "a\\").toList ++ ", `c`".toList) =
        some ("a`, ", ['c', '\x60']) := by
  decide

end Shop

end SchemaEvolution
