import ComponentCompiler.Proofs.Quoting
import ComponentCompiler.Proofs.Reading
import Mathlib

/-!
# Literals and keys as tokens

A quoted text and a property key are one token each, wherever they stand and whatever follows them.
A text that is kept because it begins and ends with a quote is one string only if nothing inside
closes it: `Contents` says what may stand between two quotes, and `isOneString_iff` that the scanner
takes just such texts for one string.
-/

namespace ComponentCompiler.Script

/-! ## One token -/

/-- In front of `r`, the text `x` is read as one token of class `k`, in any context and
at any offset. -/
def OneToken (k : Kind) (x r : Bytes) : Prop :=
  ∀ ctx n, scanFrom ctx n (x ++ r) = ⟨k, n, x⟩ :: scanFrom (ctx.advance ⟨k, n, x⟩) (n + x.length) r

theorem oneToken_of_lexeme {k : Kind} {b : UInt8} {tl r : Bytes}
    (h : ∀ ctx, lexeme ctx b (tl ++ r) = (k, tl.length)) : OneToken k (b :: tl) r := by
  intro ctx n
  rw [List.cons_append, scanFrom_cons (h ctx), List.take_left, List.drop_left, List.length_cons]

theorem OneToken.scan_eq {k : Kind} {x : Bytes} (h : OneToken k x []) : scan x = [⟨k, 0, x⟩] := by
  have hscan := h {} 0
  rwa [List.append_nil, scanFrom] at hscan

/-- A closed string ends at its closing quote. -/
theorem oneToken_of_closed {q : UInt8} (hq : q = Ascii.quote ∨ q = Ascii.apostrophe) {tl : Bytes}
    (h : stringClosed q tl) (r : Bytes) : OneToken .string (q :: tl) r := by
  have hline : q ≠ Ascii.newline := by rcases hq with rfl | rfl <;> decide
  refine oneToken_of_lexeme fun ctx => ?_
  rw [lexeme_of_quote hq, stringRest_of_closed hline h]

/-- A name ends where the bytes of names do. -/
theorem oneToken_of_isName {x r : Bytes} (h : isName x)
    (hr : ∀ b, r.head? = some b → isIdentByte b = false) :
    OneToken .ident x r := by
  have hrest : r.takeWhile isIdentByte = [] := by
    cases r with
    | nil => rfl
    | cons b r => exact List.takeWhile_cons_of_neg (by simp [hr b rfl])
  cases x with
  | nil => cases h
  | cons b tl =>
      simp only [isName, Bool.and_eq_true, Bool.not_eq_true', List.all_eq_true] at h
      obtain ⟨⟨hb, hdigit⟩, htl⟩ := h
      refine oneToken_of_lexeme fun ctx => ?_
      rw [lexeme_of_ident hb hdigit, List.takeWhile_append_of_pos htl, hrest, List.append_nil]

theorem oneToken_quote (s r : Bytes) : OneToken .string (quote s) r := by
  obtain ⟨tl, htl, hclosed⟩ := exists_quote_eq s
  rw [htl]
  exact oneToken_of_closed (.inl rfl) hclosed r

/-- The class of the token that a property key is. -/
def keyKind (key : Bytes) : Kind := if isIdentifier key then .ident else .string

theorem oneToken_propertyKey (key : Bytes) {r : Bytes}
    (hr : ∀ b, r.head? = some b → isIdentByte b = false) :
    OneToken (keyKind key) (propertyKey key) r := by
  unfold keyKind propertyKey
  split
  · rename_i hkey
    exact oneToken_of_isName (isName_of_isIdentifier hkey) hr
  · exact oneToken_quote key r

/-- Quoted texts and property keys are single tokens. A quoted text is a string, and a key is an
identifier or else a string. Both end before whatever follows, which for a key must not begin with a
byte of identifiers. -/
theorem literal_single_token (s key : Bytes) :
    scan (quote s) = [⟨.string, 0, quote s⟩] ∧
    scan (propertyKey key) = [⟨if isIdentifier key then .ident else .string, 0, propertyKey key⟩] ∧
    (∀ r, OneToken .string (quote s) r) ∧
    ∀ r, (∀ b, r.head? = some b → isIdentByte b = false) →
      OneToken (if isIdentifier key then .ident else .string) (propertyKey key) r :=
  ⟨(oneToken_quote s []).scan_eq, (oneToken_propertyKey key (by simp)).scan_eq, oneToken_quote s,
    fun _ hr => oneToken_propertyKey key hr⟩

/-- A quote, a stray byte and a backslash between quotes, a key with letters and a digit of more
than one byte, and a key that has to be quoted. -/
theorem literal_single_token_stray :
    quote [Ascii.quote, 0xe2, Ascii.backslash] = Bytes.lit "\"\\\"\ufffd\\\\\"" ∧
    scan (Bytes.lit "\"\\\"\ufffd\\\\\"") = [⟨.string, 0, Bytes.lit "\"\\\"\ufffd\\\\\""⟩] ∧
    OneToken .ident (Bytes.lit "gr\u00f6\u00dfe\u0663") (Bytes.lit ": 1") ∧
    OneToken .string (Bytes.lit "\"data-id\"") (Bytes.lit "x") := by
  have hquote : quote [Ascii.quote, 0xe2, Ascii.backslash] = Bytes.lit "\"\\\"\ufffd\\\\\"" := by
    decide +kernel
  have hident : isIdentifier (Bytes.lit "gr\u00f6\u00dfe\u0663") = true := by decide +kernel
  have hdata : quote (Bytes.lit "data-id") = Bytes.lit "\"data-id\"" := by decide +kernel
  obtain ⟨hscan, _, _, hname⟩ :=
    literal_single_token [Ascii.quote, 0xe2, Ascii.backslash] (Bytes.lit "gr\u00f6\u00dfe\u0663")
  obtain ⟨_, _, hstring, _⟩ := literal_single_token (Bytes.lit "data-id") []
  have hcolon : ∀ b, (Bytes.lit ": 1").head? = some b → isIdentByte b = false := by
    intro b hb
    obtain rfl : Ascii.colon = b := Option.some.inj hb
    decide
  have hkey := hname (Bytes.lit ": 1") hcolon
  rw [propertyKey, hident] at hkey
  rw [hquote] at hscan
  rw [hdata] at hstring
  exact ⟨hquote, hscan, hkey, hstring (Bytes.lit "x")⟩

/-! ## What may stand between quotes -/

/-- What stands between the quotes `q` of a string: bytes that are no such quote, no backslash and
no line break, and escapes, which are a backslash and any byte. -/
inductive Contents (q : UInt8) : Bytes → Prop
  | nil : Contents q []
  | plain {b : UInt8} {s : Bytes} (hslash : b ≠ Ascii.backslash) (hquote : b ≠ q)
    (hline : b ≠ Ascii.newline)
      (h : Contents q s) : Contents q (b :: s)
  | escape (b : UInt8) {s : Bytes} (h : Contents q s) : Contents q (Ascii.backslash :: b :: s)

/-- A text that stands between one pair of double or single quotes. -/
def IsDelimited (x : Bytes) : Prop :=
  ∃ q body, (q = Ascii.quote ∨ q = Ascii.apostrophe) ∧ Contents q body ∧ x = q :: (body ++ [q])

/-- The number of backslashes at the end of a text. -/
def finalSlashes (s : Bytes) : Nat := (s.reverse.takeWhile (· == Ascii.backslash)).length

/-- A text that ends with the quote that it begins with, which no backslash escapes: of those in
front of it, each is escaped itself or escapes another one. -/
def EndsUnescaped (x : Bytes) : Prop := ∃ q body, x = q :: (body ++ [q]) ∧ Even (finalSlashes body)

/-- A text that the scanner takes for one string with a closing quote. -/
def IsOneString (x : Bytes) : Prop := scan x = [⟨.string, 0, x⟩] ∧ EndsUnescaped x

theorem finalSlashes_le (s : Bytes) : finalSlashes s ≤ s.length := by
  have hle := (List.takeWhile_prefix (· == Ascii.backslash) (l := s.reverse)).length_le
  rwa [List.length_reverse] at hle

theorem finalSlashes_cons (b : UInt8) (s : Bytes) :
    finalSlashes (b :: s) =
      if finalSlashes s = s.length then s.length + (if b = Ascii.backslash then 1 else 0)
      else finalSlashes s := by
  unfold finalSlashes
  rw [List.reverse_cons, List.takeWhile_append, List.length_reverse]
  split
  · by_cases hb : b = Ascii.backslash <;> simp [hb]
  · rfl

theorem finalSlashes_plain {b : UInt8} (hb : b ≠ Ascii.backslash) (s : Bytes) :
    finalSlashes (b :: s) = finalSlashes s := by
  rw [finalSlashes_cons, if_neg hb]
  split
  · omega
  · rfl

/-- An escape changes the number of backslashes at the end by two, if at all. -/
theorem even_finalSlashes_escape (b : UInt8) (s : Bytes) :
    Even (finalSlashes (Ascii.backslash :: b :: s)) ↔ Even (finalSlashes s) := by
  have hle := finalSlashes_le s
  rw [finalSlashes_cons, finalSlashes_cons b s, if_pos rfl, List.length_cons, Nat.even_iff,
    Nat.even_iff]
  by_cases hall : finalSlashes s = s.length
  · by_cases hb : b = Ascii.backslash
    · simp only [hall, hb, if_true]
      omega
    · simp [hall, hb]
  · rw [if_neg hall, if_neg (by omega)]

theorem Contents.even_finalSlashes {q : UInt8} {body : Bytes} (h : Contents q body) :
    Even (finalSlashes body) := by
  induction h with
  | nil => exact ⟨0, rfl⟩
  | plain hslash _ _ _ ih => rwa [finalSlashes_plain hslash]
  | escape b _ ih => rwa [even_finalSlashes_escape]

theorem Contents.stringClosed {q : UInt8} (hq : q ≠ Ascii.backslash) {body : Bytes}
    (h : Contents q body) :
    stringClosed q (body ++ [q]) := by
  induction h with
  | nil => simp [Script.stringClosed, hq]
  | plain hslash hquote hline _ ih =>
      rwa [List.cons_append, stringClosed_cons, if_neg hslash, if_neg hquote, if_neg hline]
  | escape b _ ih => rwa [List.cons_append, List.cons_append, stringClosed_cons, if_pos rfl]

theorem exists_contents_of_closed {q : UInt8} {tl : Bytes} (h : stringClosed q tl) :
    ∃ body, Contents q body ∧ tl = body ++ [q] := by
  induction tl using shorter_induction with
  | nil => cases h
  | cons c tl ih =>
      rw [stringClosed_cons] at h
      by_cases hslash : c = Ascii.backslash
      · rw [if_pos hslash] at h
        cases tl with
        | nil => cases h
        | cons d tl =>
            obtain ⟨body, hbody, rfl⟩ := ih tl (by simp) h
            exact ⟨_, .escape d hbody, by rw [hslash]; rfl⟩
      · rw [if_neg hslash] at h
        by_cases hquote : c = q
        · rw [if_pos hquote] at h
          exact ⟨[], .nil, by rw [hquote, List.isEmpty_iff.mp h]; rfl⟩
        · rw [if_neg hquote] at h
          by_cases hline : c = Ascii.newline
          · rw [if_pos hline] at h
            cases h
          · rw [if_neg hline] at h
            obtain ⟨body, hbody, rfl⟩ := ih tl (Nat.le_refl _) h
            exact ⟨_, .plain hslash hquote hline hbody, rfl⟩

/-- A string that reaches up to its last byte, an unescaped quote, holds no quote and no line break
before it. -/
theorem contents_of_stringRest {q : UInt8} (hq : q ≠ Ascii.newline) {body : Bytes}
    (h : stringRest q (body ++ [q]) = body.length + 1) (heven : Even (finalSlashes body)) :
    Contents q body := by
  induction body using shorter_induction with
  | nil => exact .nil
  | cons c body ih =>
      rw [List.cons_append, stringRest_cons hq, List.length_cons] at h
      by_cases hslash : c = Ascii.backslash
      · subst hslash
        rw [if_pos rfl] at h
        cases body with
        | nil => exact absurd heven (by decide)
        | cons d body =>
            rw [even_finalSlashes_escape] at heven
            simp only [List.cons_append, List.take_succ_cons, List.take_zero, List.drop_succ_cons,
              List.drop_zero, List.length_cons, List.length_nil] at h
            exact .escape d (ih body (by simp) (by omega) heven)
      · rw [if_neg hslash] at h
        rw [finalSlashes_plain hslash] at heven
        by_cases hquote : c = q
        · rw [if_pos hquote] at h
          omega
        · rw [if_neg hquote] at h
          by_cases hline : c = Ascii.newline
          · rw [if_pos hline] at h
            omega
          · rw [if_neg hline] at h
            exact .plain hslash hquote hline (ih body (Nat.le_refl _) (by omega) heven)

theorem isDelimited_quote (s : Bytes) : IsDelimited (quote s) := by
  obtain ⟨tl, htl, hclosed⟩ := exists_quote_eq s
  obtain ⟨body, hbody, rfl⟩ := exists_contents_of_closed hclosed
  exact ⟨_, body, .inl rfl, hbody, htl⟩

/-- The scanner takes a text for one closed string just in case one pair of quotes delimits it. -/
theorem isOneString_iff (x : Bytes) : IsOneString x ↔ IsDelimited x := by
  constructor
  · rintro ⟨hscan, q, body, rfl, heven⟩
    obtain ⟨k, m, hlex⟩ : ∃ k m, lexeme {} q (body ++ [q]) = (k, m) := ⟨_, _, rfl⟩
    rw [scan, scanFrom_cons hlex] at hscan
    obtain ⟨htoken, _⟩ := List.cons.inj hscan
    obtain ⟨rfl, _, htext⟩ := Token.mk.inj htoken
    have hq := quote_of_lexeme hlex
    have hline : q ≠ Ascii.newline := by rcases hq with rfl | rfl <;> decide
    have hm : stringRest q (body ++ [q]) = m := by
      rw [lexeme_of_quote hq] at hlex
      exact (Prod.mk.inj hlex).2
    have hlength : body.length + 1 ≤ m := by
      have htake := congrArg List.length (List.cons.inj htext).2
      rw [List.length_take, List.length_append, List.length_singleton] at htake
      omega
    have hle := stringRest_le hline (body ++ [q])
    rw [List.length_append, List.length_singleton] at hle
    exact ⟨q, body, hq, contents_of_stringRest hline (by omega) heven, rfl⟩
  · rintro ⟨q, body, hq, hbody, rfl⟩
    have hslash : q ≠ Ascii.backslash := by rcases hq with rfl | rfl <;> decide
    exact ⟨(oneToken_of_closed hq (hbody.stringClosed hslash) []).scan_eq, q, body, rfl,
      hbody.even_finalSlashes⟩

/-- What becomes of plain text. It is one string with an unescaped closing quote exactly if it does
not begin and end with a quote, or else is delimited by that one pair: then nothing inside is an
unescaped quote of that kind or an unescaped line break, and no backslash escapes the last quote.
Any other text is kept although it is no literal. -/
theorem quoteText_isOneString_iff (s : Bytes) :
    IsOneString (quoteText s) ↔ (isQuoted s → IsDelimited s) := by
  rw [isOneString_iff]
  unfold quoteText
  split
  · rename_i hquoted
    simp [hquoted]
  · rename_i hquoted
    simp [hquoted, isDelimited_quote]

/-- Two strings with a word between them are kept, and are three tokens. -/
theorem quoteText_keeps_two_strings :
    (Bytes.lit "\"a\"or\"b\"").head? ≠ some Ascii.backquote ∧
    quoteText (Bytes.lit "\"a\"or\"b\"") = Bytes.lit "\"a\"or\"b\"" ∧
    scan (quoteText (Bytes.lit "\"a\"or\"b\"")) =
      [⟨.string, 0, Bytes.lit "\"a\""⟩, ⟨.ident, 3, Bytes.lit "or"⟩,
        ⟨.string, 5, Bytes.lit "\"b\""⟩] ∧
    ¬IsOneString (quoteText (Bytes.lit "\"a\"or\"b\"")) := by
  have hscan : scan (quoteText (Bytes.lit "\"a\"or\"b\"")) =
      [⟨.string, 0, Bytes.lit "\"a\""⟩, ⟨.ident, 3, Bytes.lit "or"⟩,
        ⟨.string, 5, Bytes.lit "\"b\""⟩] := by
    decide +kernel
  refine ⟨by decide, by decide +kernel, hscan, fun h => ?_⟩
  have hone := congrArg List.length (hscan.symm.trans h.1)
  exact absurd hone (by decide)

end ComponentCompiler.Script
