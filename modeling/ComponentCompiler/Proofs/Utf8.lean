import ComponentCompiler.Text.Blank
import Mathlib

/-!
# Reading text that was written

Writing runes and reading them back is not always the identity: stray bytes may come together to a
well-formed sequence. It is the identity on scalar values, and on any stretch of the runes of a byte
string. Hence trimming a text twice is the same as trimming it once.
-/

namespace ComponentCompiler.Utf8

/-! ## The first rune -/

/-- A number of fewer than eight bits as a byte. -/
theorem toNat_ofNat {n : Nat} (h : n < 256) : (UInt8.ofNat n).toNat = n := by
  rw [UInt8.toNat_ofNat', Nat.mod_eq_of_lt h]

theorem shortest_eq {a : UInt8} {least n : Nat} {c : Char} (hn : n = c.toNat) (hleast : least ≤ n) :
    shortest a least n = .scalar c := by
  subst hn
  rw [shortest, if_pos ⟨hleast, c.valid⟩, Char.ofNat_toNat]

section

variable {c : Char} {a b₁ b₂ b₃ : UInt8}

theorem front_two (ha : 192 ≤ a.toNat ∧ a.toNat < 224) (h₁ : isTail b₁)
    (hc : a.toNat % 32 * 64 + tailBits b₁ = c.toNat) (hleast : 128 ≤ c.toNat) (rest : Bytes) :
    front a (b₁ :: rest) = .scalar c := by
  unfold front
  simp only [UInt8.lt_iff_toNat_lt, UInt8.reduceToNat]
  rw [if_neg (by omega), if_neg (by omega), if_pos (by omega)]
  simp only [h₁, if_true]
  exact shortest_eq hc (by omega)

theorem front_three (ha : 224 ≤ a.toNat ∧ a.toNat < 240) (h₁ : isTail b₁) (h₂ : isTail b₂)
    (hc : a.toNat % 16 * 4096 + tailBits b₁ * 64 + tailBits b₂ = c.toNat) (hleast : 2048 ≤ c.toNat)
    (rest : Bytes) : front a (b₁ :: b₂ :: rest) = .scalar c := by
  unfold front
  simp only [UInt8.lt_iff_toNat_lt, UInt8.reduceToNat]
  rw [if_neg (by omega), if_neg (by omega), if_neg (by omega), if_pos (by omega)]
  simp only [h₁, h₂, Bool.and_true, if_true]
  exact shortest_eq hc (by omega)

theorem front_four (ha : 240 ≤ a.toNat ∧ a.toNat < 248) (h₁ : isTail b₁) (h₂ : isTail b₂)
    (h₃ : isTail b₃)
    (hc : a.toNat % 8 * 262144 + tailBits b₁ * 4096 + tailBits b₂ * 64 + tailBits b₃ = c.toNat)
    (hleast : 65536 ≤ c.toNat) (rest : Bytes) : front a (b₁ :: b₂ :: b₃ :: rest) = .scalar c := by
  unfold front
  simp only [UInt8.lt_iff_toNat_lt, UInt8.reduceToNat]
  rw [if_neg (by omega), if_neg (by omega), if_neg (by omega), if_neg (by omega), if_pos (by omega)]
  simp only [h₁, h₂, h₃, Bool.and_true, if_true]
  exact shortest_eq hc (by omega)

end

/-- A continuing byte made of six bits. -/
theorem tail_ofNat (n : Nat) :
    isTail (UInt8.ofNat (n % 64 + 128)) = true ∧
      tailBits (UInt8.ofNat (n % 64 + 128)) = n % 64 := by
  have hlt : n % 64 < 64 := Nat.mod_lt n (by omega)
  rw [isTail_iff, tailBits, toNat_ofNat (by omega)]
  omega

/-- A scalar value is read from its own bytes. -/
theorem front_eq_scalar {c : Char} {a : UInt8} {tl : Bytes}
    (h : String.utf8EncodeChar c = a :: tl) (rest : Bytes) : front a (tl ++ rest) = .scalar c := by
  have hbytes := bytes_scalar (show c.toNat.isValidChar from c.valid)
  rw [Char.ofNat_toNat, show (Rune.scalar c).bytes = a :: tl from h] at hbytes
  have hmax : c.toNat < 1114112 := by
    rcases c.valid with hlt | ⟨_, hlt⟩
    · exact Nat.lt_trans hlt (by omega)
    · exact hlt
  obtain ⟨h₀, e₀⟩ := tail_ofNat c.toNat
  obtain ⟨h₁, e₁⟩ := tail_ofNat (c.toNat / 64)
  obtain ⟨h₂, e₂⟩ := tail_ofNat (c.toNat / 4096)
  split at hbytes
  · obtain ⟨rfl, rfl⟩ := List.cons.inj hbytes
    unfold front
    simp only [UInt8.lt_iff_toNat_lt, UInt8.reduceToNat]
    rw [toNat_ofNat (by omega), if_pos (by omega), Char.ofNat_toNat]
  split at hbytes
  · obtain ⟨rfl, rfl⟩ := List.cons.inj hbytes
    have ha := toNat_ofNat (show c.toNat / 64 % 32 + 192 < 256 by omega)
    refine front_two ?_ h₀ ?_ (by omega) rest
    · rw [ha]; omega
    · rw [ha, e₀]; omega
  split at hbytes
  · obtain ⟨rfl, rfl⟩ := List.cons.inj hbytes
    have ha := toNat_ofNat (show c.toNat / 4096 % 16 + 224 < 256 by omega)
    refine front_three ?_ h₁ h₀ ?_ (by omega) rest
    · rw [ha]; omega
    · rw [ha, e₀, e₁]; omega
  · obtain ⟨rfl, rfl⟩ := List.cons.inj hbytes
    have ha := toNat_ofNat (show c.toNat / 262144 % 8 + 240 < 256 by omega)
    refine front_four ?_ h₂ h₁ h₀ ?_ (by omega) rest
    · rw [ha]; omega
    · rw [ha, e₀, e₁, e₂]; omega

/-- A scalar value is read from its bytes only. -/
theorem eq_append_of_front {a : UInt8} {rest : Bytes} {c : Char} (h : front a rest = .scalar c) :
    ∃ tl rest', rest = tl ++ rest' ∧ String.utf8EncodeChar c = a :: tl := by
  obtain ⟨k, hk⟩ := bytes_front a rest
  rw [h] at hk
  exact ⟨rest.take k, rest.drop k, (List.take_append_drop k rest).symm, hk⟩

theorem eq_of_front_stray {a b : UInt8} {rest : Bytes} (h : front a rest = .stray b) : b = a := by
  obtain ⟨k, hk⟩ := bytes_front a rest
  rw [h] at hk
  exact (List.cons.inj hk).1

/-- Bytes behind a stray byte may be dropped: it stays stray. -/
theorem front_stray_of_append {a : UInt8} {rest more : Bytes}
    (h : front a (rest ++ more) = .stray a) : front a rest = .stray a := by
  cases hf : front a rest with
  | stray b => rw [eq_of_front_stray hf]
  | scalar c =>
      obtain ⟨tl, rest', rfl, hc⟩ := eq_append_of_front hf
      rw [List.append_assoc, front_eq_scalar hc] at h
      cases h

/-! ## All runes -/

@[simp] theorem decode_nil : decode [] = [] := by rw [decode]

theorem decode_scalar {c : Char} {a : UInt8} {tl : Bytes} (h : String.utf8EncodeChar c = a :: tl)
    (rest : Bytes) : decode (a :: (tl ++ rest)) = .scalar c :: decode rest := by
  have hwidth : width (.scalar c) - 1 = tl.length := by
    rw [width, show (Rune.scalar c).bytes = a :: tl from h, List.length_cons, Nat.add_sub_cancel]
  rw [decode]
  simp only [front_eq_scalar h, hwidth, List.drop_left]

theorem decode_stray {a : UInt8} {rest : Bytes} (h : front a rest = .stray a) :
    decode (a :: rest) = .stray a :: decode rest := by
  rw [decode]
  simp only [h]
  rfl

/-- A byte string begins with the bytes of a scalar value, or with a stray byte. -/
theorem decode_cases (a : UInt8) (rest : Bytes) :
    (∃ c tl rest', rest = tl ++ rest' ∧ String.utf8EncodeChar c = a :: tl) ∨
      front a rest = .stray a := by
  cases h : front a rest with
  | scalar c =>
      obtain ⟨tl, rest', hrest, hc⟩ := eq_append_of_front h
      exact .inl ⟨c, tl, rest', hrest, hc⟩
  | stray b => exact .inr (by rw [eq_of_front_stray h])

theorem decode_encodeChars (cs : List Char) : decode (encodeChars cs) = cs.map .scalar := by
  induction cs with
  | nil => exact decode_nil
  | cons c cs ih =>
      rw [encodeChars, List.flatMap_cons, List.map_cons, ← ih]
      cases h : String.utf8EncodeChar c with
      | nil => exact absurd h (String.utf8EncodeChar_ne_nil)
      | cons a tl => exact decode_scalar h _

/-- Writing characters and reading them back changes nothing. -/
@[simp] theorem chars_encodeChars (cs : List Char) : chars (encodeChars cs) = cs := by
  rw [chars, decode_encodeChars, List.map_map]
  exact List.map_id cs

/-! ## Stretches of the runes of a text -/

@[simp] theorem encode_cons (r : Rune) (rs : List Rune) :
    encode (r :: rs) = r.bytes ++ encode rs := rfl

@[simp] theorem encode_append (rs ss : List Rune) : encode (rs ++ ss) = encode rs ++ encode ss :=
  List.flatMap_append

theorem decode_encode_of_prefix {rs : List Rune} {s : Bytes} (h : rs <+: decode s) :
    decode (encode rs) = rs := by
  induction rs generalizing s with
  | nil => exact decode_nil
  | cons r rs ih =>
      cases s with
      | nil => simp at h
      | cons a rest =>
          rcases decode_cases a rest with ⟨c, tl, rest', rfl, hc⟩ | hstray
          · rw [decode_scalar hc, List.cons_prefix_cons] at h
            obtain ⟨rfl, hrs⟩ := h
            rw [encode_cons, show (Rune.scalar c).bytes = a :: tl from hc, List.cons_append,
              decode_scalar hc, ih hrs]
          · rw [decode_stray hstray, List.cons_prefix_cons] at h
            obtain ⟨rfl, more, hmore⟩ := h
            -- what is cut off behind the stray byte cannot make it well-formed
            have hrest : rest = encode rs ++ encode more := by
              rw [← encode_append, hmore, encode_decode]
            rw [hrest] at hstray
            rw [encode_cons, show (Rune.stray a).bytes = [a] from rfl, List.singleton_append,
              decode_stray (front_stray_of_append hstray), ih ⟨more, hmore⟩]

theorem exists_decode_of_suffix {rs : List Rune} {s : Bytes} (h : rs <:+ decode s) :
    ∃ s', decode s' = rs := by
  generalize hs : decode s = all at h
  induction all generalizing s with
  | nil => exact ⟨[], by rw [decode_nil, List.suffix_nil.mp h]⟩
  | cons r all ih =>
      rcases List.suffix_cons_iff.mp h with rfl | h
      · exact ⟨s, hs⟩
      · cases s with
        | nil => simp at hs
        | cons a rest =>
            rcases decode_cases a rest with ⟨c, tl, rest', rfl, hc⟩ | hstray
            · rw [decode_scalar hc] at hs
              exact ih (List.cons.inj hs).2 h
            · rw [decode_stray hstray] at hs
              exact ih (List.cons.inj hs).2 h

/-- A stretch of the runes of a text is read back from its bytes. -/
theorem decode_encode_of_infix {rs : List Rune} {s : Bytes} (h : rs <:+: decode s) :
    decode (encode rs) = rs := by
  obtain ⟨ss, hrs, hss⟩ := List.infix_iff_prefix_suffix.mp h
  obtain ⟨s', rfl⟩ := exists_decode_of_suffix hss
  exact decode_encode_of_prefix hrs

end ComponentCompiler.Utf8

namespace ComponentCompiler.Text

theorem trimRunes_eq (rs : List Rune) :
    trimRunes rs = (rs.dropWhile isBlankRune).rdropWhile isBlankRune := rfl

theorem trimRunes_infix (rs : List Rune) : trimRunes rs <:+: rs :=
  ( List.rdropWhile_prefix _ _).isInfix.trans (List.dropWhile_suffix _).isInfix

theorem trimRunes_trimRunes (rs : List Rune) : trimRunes (trimRunes rs) = trimRunes rs := by
  have hhead : (trimRunes rs).dropWhile isBlankRune = trimRunes rs := by
    cases htrim : trimRunes rs with
    | nil => rfl
    | cons r tl =>
        have hprefix : trimRunes rs <+: rs.dropWhile isBlankRune := List.rdropWhile_prefix _ _
        obtain ⟨more, hmore⟩ := htrim ▸ hprefix
        have hr : isBlankRune r = false := by
          simpa [← hmore] using List.head?_dropWhile_not isBlankRune rs
        rw [List.dropWhile_cons_of_neg (by simp [hr])]
  rw [trimRunes_eq (trimRunes rs), hhead, trimRunes_eq, List.rdropWhile_idempotent]

theorem decode_trim (s : Bytes) : Utf8.decode (trim s) = trimRunes (Utf8.decode s) :=
  Utf8.decode_encode_of_infix ( trimRunes_infix _)

/-- Trimming twice is trimming once. -/
@[simp] theorem trim_trim (s : Bytes) : trim (trim s) = trim s := by
  conv => lhs; rw [trim, decode_trim, trimRunes_trimRunes]
  rfl

/-- The character that a trimmed text starts with is the first one in the text that is
not white space. -/
theorem dropWhile_decode_of_head?_trim {s : Bytes} {b : UInt8} {c : Char}
    (hc : String.utf8EncodeChar c = [b]) (h : (trim s).head? = some b) :
    ∃ more, (Utf8.decode s).dropWhile isBlankRune = .scalar c :: more := by
  obtain ⟨tl, htl⟩ := List.head?_eq_some_iff.mp h
  have hdecode := decode_trim s
  have hscalar : Utf8.decode (b :: tl) = .scalar c :: Utf8.decode tl := Utf8.decode_scalar hc tl
  rw [htl, hscalar] at hdecode
  have htrimmed : trimRunes (Utf8.decode s) <+: (Utf8.decode s).dropWhile isBlankRune :=
    List.rdropWhile_prefix _ _
  rw [← hdecode] at htrimmed
  obtain ⟨more, hmore⟩ := htrimmed
  exact ⟨Utf8.decode tl ++ more, by rw [← hmore, List.cons_append]⟩

end ComponentCompiler.Text
